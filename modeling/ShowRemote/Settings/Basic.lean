import ShowRemote.Session.Desk
import ShowRemote.Settings.File
import ShowRemote.Settings.Table

/-!
The settings of a client. They are put together in layers, each one over those before it: fixed
defaults, a file, and the environment.
-/

set_option autoImplicit false

namespace ShowRemote

structure Settings where
  baseUrl : String
  timeoutSecs : Nat
  pollIntervalMs : Nat
  endpoints : Endpoints
  deriving DecidableEq, Repr

inductive SettingsFault where
  | unreadable (path : String) (fault : Settings.FileFault)
  | malformed (path : String)
  | notANumber (path key value : String) (fault : Text.NumeralFault)
  deriving DecidableEq, Repr

namespace SettingsFault

def chain : SettingsFault → List String
  | .unreadable path fault => ["failed to read config file '" ++ path ++ "'", fault.message]
  | .malformed path => ["failed to parse config file '" ++ path ++ "'"]
  | .notANumber path key value fault =>
    ["failed to parse config file '" ++ path ++ "'",
      key ++ " must be an integer, got '" ++ value ++ "'", fault.message]

end SettingsFault

namespace Settings

def standard : Settings :=
  { baseUrl := "http://127.0.0.1/json"
    timeoutSecs := 5
    pollIntervalMs := 1000
    endpoints := .standard }

/-- The shortest time that a request is given, in seconds. -/
def leastTimeout : Nat := 1

/-- The shortest time between two polls, in milliseconds. -/
def leastPollInterval : Nat := 50

/-- The time that a request is given, in milliseconds. -/
def timeout (s : Settings) : Nat :=
  max s.timeoutSecs leastTimeout * 1000

/-- The time between two polls, in milliseconds. -/
def pollInterval (s : Settings) : Nat :=
  max s.pollIntervalMs leastPollInterval

theorem leastPollInterval_le_pollInterval (s : Settings) : leastPollInterval ≤ s.pollInterval :=
  Nat.le_max_right ..

/-- The file that is read when none is named. It may be absent. -/
def standardFile : String := "showctl.toml"

def textOf (table : Table) (key : String) : Option String :=
  (table.lookup key).map Entry.content

def numberOf (path : String) (table : Table) (key : String) (otherwise : Nat) :
    Except SettingsFault Nat :=
  match textOf table key with
  | none => .ok otherwise
  | some value =>
    match Text.readNatural64 value.toList with
    | .ok n => .ok n
    | .error fault => .error (.notANumber path key value fault)

def withTable (s : Settings) (path : String) (table : Table) : Except SettingsFault Settings := do
  let timeoutSecs ← numberOf path table "timeout_secs" s.timeoutSecs
  let pollIntervalMs ← numberOf path table "poll_interval_ms" s.pollIntervalMs
  .ok
    { baseUrl := (textOf table "base_url").getD s.baseUrl
      timeoutSecs := timeoutSecs
      pollIntervalMs := pollIntervalMs
      endpoints :=
        { status := (textOf table "status_path").getD s.endpoints.status
          directory := (textOf table "directory_path").getD s.endpoints.directory
          command := (textOf table "command_path").getD s.endpoints.command } }

/-- Lay a file over the settings. Only a file that was not named may be absent. -/
def withFile (s : Settings) (named : Option String) (files : FileReader) :
    Except SettingsFault Settings :=
  let path := named.getD standardFile
  match files path with
  | .error .notFound =>
    if named.isNone then .ok s else .error (.unreadable path .notFound)
  | .error fault => .error (.unreadable path fault)
  | .ok content =>
    match Text.decodeText? content with
    | none => .error (.unreadable path .notText)
    | some text =>
      match Table.parse? text with
      | none => .error (.malformed path)
      | some table => s.withTable path table

abbrev Environment : Type :=
  String → Option String

/-- The number that a variable holds; any other content does not count. -/
def numberIn (env : Environment) (name : String) : Option Nat :=
  (env name).bind fun value => (Text.readNatural64 value.toList).toOption

def withEnvironment (s : Settings) (env : Environment) : Settings :=
  { baseUrl := ((env "APP__BASE_URL").or (env "SHOWCTL_BASE_URL")).getD s.baseUrl
    timeoutSecs := (numberIn env "APP__TIMEOUT_SECS").getD s.timeoutSecs
    pollIntervalMs := (numberIn env "APP__POLL_INTERVAL_MS").getD s.pollIntervalMs
    endpoints := { s.endpoints with
      command := (env "APP__COMMAND_PATH").getD s.endpoints.command } }

def load (named : Option String) (files : FileReader) (env : Environment) :
    Except SettingsFault Settings :=
  (standard.withFile named files).map fun s => s.withEnvironment env

end Settings
end ShowRemote
