import ShowRemote.Show.Command
import ShowRemote.Text.Pieces

/-!
The arguments of the command line. Options may stand before and after the subcommand, each at most
once on either side; what stands after it counts. Reading goes from left to right and ends at the
first fault or request for help.
-/

set_option autoImplicit false

namespace ShowRemote.CommandLine

open Show (PlaybackAction ShowId)

inductive Subcommand where
  | status
  | directory
  | playback (action : PlaybackAction)
  | select
  | loop
  | watch
  deriving DecidableEq, Repr

namespace Subcommand

def name : Subcommand → String
  | .status => "status"
  | .directory => "directory"
  | .playback action => action.text
  | .select => "select"
  | .loop => "loop"
  | .watch => "watch"

def all : List Subcommand :=
  [.status, .directory, .playback .start, .playback .stop, .playback .resume, .select, .loop,
    .watch]

def named? (name : String) : Option Subcommand :=
  all.find? fun s => s.name = name

end Subcommand

inductive Action where
  | status
  | directory
  | playback (action : PlaybackAction)
  | select (id : ShowId)
  | loop
  | watch (intervalMs count : Option Nat)
  deriving DecidableEq, Repr

structure Invocation where
  baseUrl : Option String
  timeoutSecs : Option Nat
  config : Option String
  action : Action
  deriving DecidableEq, Repr

structure Given where
  baseUrl : Option String
  timeoutSecs : Option Nat
  config : Option String
  intervalMs : Option Nat
  count : Option Nat
  operand : Option String
  deriving DecidableEq, Repr

namespace Given

def nothing : Given := ⟨none, none, none, none, none, none⟩

end Given

inductive Reading where
  | fault
  | help
  | finished (given : Given)
  | subcommand (given : Given) (subcommand : Subcommand) (rest : List String)
  /-- Help about the subcommands named by the rest of the arguments. -/
  | helpOn (rest : List String)
  deriving DecidableEq, Repr

/-- What the arguments come to. No subcommand with help means help on the program. -/
inductive Parsed where
  | fault
  | help (subcommand : Option Subcommand)
  | helpOnHelp
  | run (invocation : Invocation)
  deriving DecidableEq, Repr

def natural? (value : String) : Option Nat :=
  (Text.readNatural64 value.toList).toOption

/-- Set a place that is not yet set. -/
def setOnce {α : Type} (held new : Option α) : Option (Option α) :=
  match held, new with
  | none, some a => some (some a)
  | _, _ => none

/-- Take in an option at one side of a subcommand. A path must not be empty. -/
def Given.setOption (g : Given) (sub : Option Subcommand) (name value : String) : Option Given :=
  match name with
  | "base-url" => (setOnce g.baseUrl (some value)).map fun v => { g with baseUrl := v }
  | "timeout-secs" =>
    (setOnce g.timeoutSecs (natural? value)).map fun v => { g with timeoutSecs := v }
  | "config" =>
    (setOnce g.config (if value = "" then none else some value)).map fun v =>
      { g with config := v }
  | "interval-ms" =>
    if sub = some .watch then
      (setOnce g.intervalMs (natural? value)).map fun v => { g with intervalMs := v }
    else none
  | "count" =>
    if sub = some .watch then
      (setOnce g.count (natural? value)).map fun v => { g with count := v }
    else none
  | _ => none

def Given.setOperand (g : Given) (sub : Option Subcommand) (value : String) : Option Given :=
  if sub = some .select then
    (setOnce g.operand (some value)).map fun v => { g with operand := v }
  else none

/-- The name of a long option, and its value if that is joined to it. -/
def longOption? (argument : String) : Option (String × Option String) :=
  match argument.toList with
  | '-' :: '-' :: rest =>
    match Text.splitFirst? '=' rest with
    | some (name, value) => some (String.ofList name, some (String.ofList value))
    | none => some (String.ofList rest, none)
  | _ => none

/-- Whether an argument starts like an option. A hyphen alone does not. -/
def isOptionLike (argument : String) : Bool :=
  match argument.toList with
  | '-' :: _ :: _ => true
  | _ => false

def isShortHelp (argument : String) : Bool :=
  match argument.toList with
  | '-' :: 'h' :: _ => true
  | _ => false

def readOperands (sub : Option Subcommand) (g : Given) : List String → Reading
  | [] => .finished g
  | a :: rest =>
    match g.setOperand sub a with
    | some g => readOperands sub g rest
    | none => .fault

def readArguments (sub : Option Subcommand) (g : Given) : List String → Reading
  | [] => .finished g
  | a :: rest =>
    if a = "--" then readOperands sub g rest
    else
      match longOption? a with
      | some ("help", none) => .help
      | some (name, some value) =>
        match g.setOption sub name value with
        | some g => readArguments sub g rest
        | none => .fault
      | some (name, none) =>
        match rest with
        | [] => .fault
        | value :: rest =>
          if isOptionLike value then .fault
          else
            match g.setOption sub name value with
            | some g => readArguments sub g rest
            | none => .fault
      | none =>
        if isShortHelp a then .help
        else if isOptionLike a then .fault
        else
          match sub with
          | some _ =>
            match g.setOperand sub a with
            | some g => readArguments sub g rest
            | none => .fault
          | none =>
            match Subcommand.named? a with
            | some s => .subcommand g s rest
            | none => if a = "help" then .helpOn rest else .fault

/-- The action of a subcommand. A selection needs its operand. -/
def action? (sub : Subcommand) (g : Given) : Option Action :=
  match sub with
  | .status => some .status
  | .directory => some .directory
  | .playback action => some (.playback action)
  | .select => g.operand.map fun id => .select ⟨id⟩
  | .loop => some .loop
  | .watch => some (.watch g.intervalMs g.count)

def combine (before : Given) (sub : Subcommand) (after : Given) : Parsed :=
  match action? sub after with
  | none => .fault
  | some action =>
    .run
      { baseUrl := after.baseUrl.or before.baseUrl
        timeoutSecs := after.timeoutSecs.or before.timeoutSecs
        config := after.config.or before.config
        action := action }

def helpTopic : List String → Parsed
  | [] => .help none
  | [name] =>
    match Subcommand.named? name with
    | some s => .help (some s)
    | none => if name = "help" then .helpOnHelp else .fault
  | _ => .fault

def parse (arguments : List String) : Parsed :=
  match readArguments none .nothing arguments with
  | .fault => .fault
  | .finished _ => .fault
  | .help => .help none
  | .helpOn rest => helpTopic rest
  | .subcommand before sub rest =>
    match readArguments (some sub) .nothing rest with
    | .finished after => combine before sub after
    | .help => .help (some sub)
    | _ => .fault

end ShowRemote.CommandLine
