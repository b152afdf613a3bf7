import ShowRemote.CommandLine.Arguments
import ShowRemote.CommandLine.Dialogue
import ShowRemote.CommandLine.Help
import ShowRemote.CommandLine.Report
import ShowRemote.Settings.Basic

/-!
A run of the program. Every action asks the player, prints what it confirmed, and reports the last
failure; the run is in vain when the player was not heard at all.
-/

set_option autoImplicit false

namespace ShowRemote.CommandLine

open Show (Intent ShowOption StatusView TransportFault)

/-- How a run ends: an exit code, and notices for the operator. -/
structure Ending where
  exit : Nat
  notices : List Notice
  deriving DecidableEq, Repr

namespace Ending

def success : Nat := 0
def failure : Nat := 1
def misuse : Nat := 2
def crash : Nat := 101

end Ending

structure Player where
  base : Url
  /-- The time that a request is given, in milliseconds. -/
  timeout : Nat
  endpoints : Endpoints
  deriving DecidableEq, Repr

namespace Player

def ask (p : Player) (message : Message) : Dialogue (Except TransportFault Json) :=
  match Http.Outgoing.prepare p.base message with
  | .error fault => .done (.error fault)
  | .ok o => .send o p.timeout fun e => .done (o.settle e)

def refresh (p : Player) (s : Session) : Dialogue Session := do
  let s := s.issueRefresh
  let reply ← p.ask (.get p.endpoints.status)
  pure (s.settleRefresh s.refreshIssued reply).session

def loadDirectory (p : Player) (s : Session) : Dialogue Session := do
  let s := s.issueDirectory
  let reply ← p.ask (.get p.endpoints.directory)
  pure (s.settleDirectory s.directoryIssued reply).session

/-- Post the command of an intent, and ask for the status whatever becomes of it. -/
def command (p : Player) (s : Session) (intent : Intent) : Dialogue Session := do
  match ← p.ask (.post p.endpoints.command intent.command.toJson) with
  | .ok _ => p.refresh s
  | .error fault => p.refresh (s.settleFailure (.command intent.name) fault.failure).session

def confirmAndCommand (p : Player) (intent : Session → Intent) : Dialogue Session := do
  let s ← p.refresh .fresh
  p.command s (intent s)

/-- Poll the status so many times, and print each view that differs from the last one printed. -/
def watch (p : Player) (intervalMs : Nat) : Nat → Session → Option StatusView → Dialogue Session
  | 0, s, _ => .done s
  | polls + 1, s, printed => do
    let s ← p.refresh s
    let again (printed : Option StatusView) : Dialogue Session :=
      match polls with
      | 0 => .done s
      | _ => .pause intervalMs fun _ => p.watch intervalMs polls s printed
    if s.status.isSome ∧ printed ≠ some s.view then
      .print (s.view.display ++ "\n\n") (again (some s.view))
    else again printed

end Player

def conclude (s : Session) : Ending :=
  let warnings := s.lastError.toList.map Notice.warning
  match unanswered? s.heard (s.lastError.map ErrorRecord.failure) with
  | none => ⟨Ending.success, warnings⟩
  | some chain => ⟨Ending.failure, warnings ++ [.error chain]⟩

def showAndConclude (s : Session) : Dialogue Ending :=
  if s.status.isSome then .print (s.view.display ++ "\n") (.done (conclude s))
  else .done (conclude s)

/-- More polls than any clock will see. -/
def endless : Nat := Nat.pow 2 64

/-- Polls of a watch: at least one, and without a count no end. -/
def pollCount (count : Option Nat) : Nat :=
  max (count.getD endless) 1

/-- An action with a player. A watch without a period cannot be started. -/
def perform (p : Player) (settings : Settings) : Action → Dialogue Ending
  | .status => do showAndConclude (← p.refresh .fresh)
  | .directory => do
    let s ← p.loadDirectory .fresh
    .print (String.join (s.options.map fun o => o.label ++ "\n")) (.done (conclude s))
  | .playback action => do
    showAndConclude (← p.confirmAndCommand fun _ => .playback action)
  | .select id => do showAndConclude (← p.confirmAndCommand fun _ => .selectShow id)
  | .loop => do showAndConclude (← p.confirmAndCommand fun s => .toggleLoop s.loopNext)
  | .watch intervalMs count => do
    let period := intervalMs.getD settings.pollInterval
    if period = 0 then pure ⟨Ending.crash, []⟩
    else showAndConclude (← p.watch period (pollCount count) .fresh none)

/-- The settings of a run: flags over all other layers. -/
def settingsOf (i : Invocation) (files : Settings.FileReader) (env : Settings.Environment) :
    Except SettingsFault Settings :=
  (Settings.load i.config files env).map fun s =>
    { s with
      baseUrl := i.baseUrl.getD s.baseUrl
      timeoutSecs := i.timeoutSecs.getD s.timeoutSecs }

def invoke (i : Invocation) (settings : Settings) : Dialogue Ending :=
  match Http.readBase settings.baseUrl with
  | .error fault =>
    pure ⟨Ending.failure,
      [.error ["cannot use base url '" ++ settings.baseUrl ++ "'", fault.message]]⟩
  | .ok base => perform ⟨base, settings.timeout, settings.endpoints⟩ settings i.action

/-- A run of the program from its arguments, the files it can read and its environment. -/
def run (arguments : List String) (files : Settings.FileReader) (env : Settings.Environment) :
    Dialogue Ending :=
  match parse arguments with
  | .fault => pure ⟨Ending.misuse, []⟩
  | .help sub => .print (helpText sub) (pure ⟨Ending.success, []⟩)
  | .helpOnHelp => .print helpOnHelpText (pure ⟨Ending.success, []⟩)
  | .run i =>
    match settingsOf i files env with
    | .error fault => pure ⟨Ending.failure, [.error fault.chain]⟩
    | .ok settings => invoke i settings

end ShowRemote.CommandLine
