import ShowRemote.Json.Printer
import ShowRemote.Show.Number

/-!
Commands to the player and the intents of an operator that they carry. A command has one compact
JSON text; fields that are not set do not appear in it.
-/

set_option autoImplicit false

namespace ShowRemote.Show

/-- Whether a show is to be repeated, as the player spells it. -/
inductive LoopFlag where
  | off
  | on
  deriving DecidableEq, Repr

namespace LoopFlag

def ofBool (looping : Bool) : LoopFlag :=
  if looping then .on else .off

def toggled : LoopFlag → LoopFlag
  | .off => .on
  | .on => .off

def text : LoopFlag → String
  | .off => "0"
  | .on => "1"

/-- Every flag under its text. -/
def names : List (String × LoopFlag) :=
  [.off, .on].map fun flag => (flag.text, flag)

end LoopFlag

inductive PlaybackAction where
  | start
  | stop
  | resume
  deriving DecidableEq, Repr

namespace PlaybackAction

def text : PlaybackAction → String
  | .start => "start"
  | .stop => "stop"
  | .resume => "resume"

/-- Every action under its text. -/
def names : List (String × PlaybackAction) :=
  [.start, .stop, .resume].map fun action => (action.text, action)

end PlaybackAction

/-- What is posted to the player. An empty selection leaves the selected show as it is. -/
structure Command where
  selection : String
  action : Option PlaybackAction
  loopFlag : Option LoopFlag
  deriving DecidableEq, Repr

namespace Command

def toJson (c : Command) : Json :=
  .object
    ([("show", .string c.selection)]
      ++ (c.action.map fun a => ("status", .string a.text)).toList
      ++ (c.loopFlag.map fun l => ("loop", .string l.text)).toList)

def write (c : Command) : List Char :=
  "\x7b\"show\":".toList ++ Json.quote c.selection
    ++ (match c.action with
      | some a => ",\"status\":".toList ++ Json.quote a.text
      | none => [])
    ++ (match c.loopFlag with
      | some l => ",\"loop\":".toList ++ Json.quote l.text
      | none => [])
    ++ ['}']

end Command

inductive Intent where
  | playback (action : PlaybackAction)
  | selectShow (id : ShowId)
  | toggleLoop (next : LoopFlag)
  deriving DecidableEq, Repr

namespace Intent

def name : Intent → String
  | .playback action => action.text
  | .selectShow _ => "select_show"
  | .toggleLoop _ => "toggle_loop"

def command : Intent → Command
  | .playback action => ⟨"", some action, none⟩
  | .selectShow id => ⟨id.text, none, none⟩
  | .toggleLoop next => ⟨"", none, some next⟩

end Intent
end ShowRemote.Show
