import ShowRemote.Show.Directory
import ShowRemote.Show.Status

/-!
The status and the directory as an operator sees them: three rows and a button, and a list of
options.
-/

set_option autoImplicit false

namespace ShowRemote.Show

/-- The button offers what the player is not doing. -/
inductive LoopButton where
  | looping
  | noLoop
  deriving DecidableEq, Repr

namespace LoopButton

def ofLooping (looping : Bool) : LoopButton :=
  if looping then .noLoop else .looping

def text : LoopButton → String
  | .looping => "Looping"
  | .noLoop => "No loop"

end LoopButton

structure StatusView where
  current : String
  text : String
  looping : String
  button : LoopButton
  deriving DecidableEq, Repr

namespace StatusView

/-- The view before any status is known. -/
def unrendered : StatusView := ⟨"-", "-", "-", .looping⟩

def ofStatus (status : Status) : StatusView :=
  { current := (status.current.map ShowId.text).getD "None"
    text := status.text.getD "undefined"
    looping := if status.looping then "Yes" else "No"
    button := .ofLooping status.looping }

def rows (v : StatusView) : List (String × String) :=
  [("Show", v.current), ("Status", v.text), ("Looping", v.looping)]

def labelWidth : Nat := 8

def padded (label : String) : String :=
  label ++ String.ofList (List.replicate (labelWidth - label.length) ' ')

/-- A line a row, and the button in brackets. -/
def display (v : StatusView) : String :=
  String.join (v.rows.map fun row => padded row.1 ++ " " ++ row.2 ++ "\n")
    ++ "[" ++ v.button.text ++ "]"

end StatusView

/-- A show on offer: what is sent when it is chosen, and what is shown for it. -/
structure ShowOption where
  value : String
  label : String
  deriving DecidableEq, Repr

def Directory.options (d : Directory) : List ShowOption :=
  d.ids.map fun id => ⟨id.text, id.text⟩

end ShowRemote.Show
