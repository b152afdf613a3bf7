import ShowRemote.CommandLine.Arguments

/-!
Help texts: what the program or one of its subcommands does, how it is used, and its options.
-/

set_option autoImplicit false

namespace ShowRemote.CommandLine

structure HelpEntry where
  term : String
  meaning : String

def columns (entries : List HelpEntry) : List String :=
  let width := entries.foldl (fun w e => max w e.term.length) 0
  entries.map fun e =>
    "  " ++ e.term ++ String.ofList (List.replicate (width - e.term.length) ' ') ++ "  "
      ++ e.meaning

def Subcommand.meaning : Subcommand → String
  | .status => "Print the current player status"
  | .directory => "List the shows available on the player"
  | .select => "Select a show without changing playback"
  | .loop => "Toggle looping of the current show"
  | .watch => "Poll the status and print it whenever it changes"
  | .playback _ => ""

def helpEntry : HelpEntry :=
  ⟨"help", "Print this message or the help of the given subcommand(s)"⟩

def baseUrlEntry : HelpEntry :=
  ⟨"    --base-url <BASE_URL>", "Base resource of the player, e.g. http://192.168.2.10/json"⟩

def timeoutSecsEntry : HelpEntry :=
  ⟨"    --timeout-secs <TIMEOUT_SECS>", ""⟩

def configEntry : HelpEntry :=
  ⟨"    --config <CONFIG>", ""⟩

def helpFlagEntry : HelpEntry :=
  ⟨"-h, --help", "Print help"⟩

def commonEntries : List HelpEntry :=
  [baseUrlEntry, timeoutSecsEntry, configEntry, helpFlagEntry]

/-- The options of a subcommand. Its own ones are told in turn with the common ones. -/
def Subcommand.optionEntries : Subcommand → List HelpEntry
  | .watch =>
    [baseUrlEntry, ⟨"    --interval-ms <INTERVAL_MS>", ""⟩, ⟨"    --count <COUNT>", ""⟩,
      timeoutSecsEntry, configEntry, helpFlagEntry]
  | _ => commonEntries

def joinLines (lines : List String) : String :=
  String.join (lines.map fun line => line ++ "\n")

def programHelp : List String :=
  ["Operate a remote show player", "", "Usage: showctl [OPTIONS] <COMMAND>", "", "Commands:"]
    ++ columns ((Subcommand.all.map fun s => ⟨s.name, s.meaning⟩) ++ [helpEntry])
    ++ ["", "Options:"] ++ columns commonEntries

def Subcommand.help (s : Subcommand) : List String :=
  (if s.meaning = "" then [] else [s.meaning, ""])
    ++ ["Usage: showctl " ++ s.name ++ " [OPTIONS]" ++ (if s = .select then " <SHOW>" else ""), ""]
    ++ (if s = .select then ["Arguments:", "  <SHOW>  ", ""] else [])
    ++ ["Options:"] ++ columns s.optionEntries

def helpText : Option Subcommand → String
  | none => joinLines programHelp
  | some s => joinLines s.help

def helpOnHelpText : String :=
  joinLines
    [helpEntry.meaning, "", "Usage: showctl help [COMMAND]...", "", "Arguments:",
      "  [COMMAND]...  Print help for the subcommand(s)"]

end ShowRemote.CommandLine
