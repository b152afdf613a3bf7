import ShowRemote.Json.Printer
import ShowRemote.Show.Command

/-!
The status of a player, decoded from whatever document it reports. Decoding never fails: a field
that is missing or unusable is left out, and the others do not depend on it.
-/

set_option autoImplicit false

namespace ShowRemote.Show

/-- A reported status: the show, if it denotes a number that a player accepts, the status text
verbatim, and whether the show is repeated. -/
structure Status where
  current : Option ShowId
  text : Option String
  looping : Bool
  deriving DecidableEq, Repr

def showNumber? : Json.Number → Option ShowNumber
  | .integer n => ShowNumber.ofInt? n
  | .double negative magnitude =>
    match magnitude.toNat? with
    | some n => ShowNumber.ofInt? (if negative then -n else n)
    | none => none

def ShowId.ofJson? : Json → Option ShowId
  | .string text => if (ShowNumber.parse? text).isSome then some ⟨text⟩ else none
  | .number n => if (showNumber? n).isSome then some ⟨n.text⟩ else none
  | _ => none

/-- The text that a value shows as: strings verbatim, nothing for null, other values as JSON. -/
def statusText? : Json → Option String
  | .null => none
  | .string text => some text
  | other => some other.text

/-- Only the string of the flag for repeating turns it on. -/
def isLooping : Json → Bool
  | .string flag => flag = LoopFlag.on.text
  | _ => false

namespace Status

def blank : Status := ⟨none, none, false⟩

def ofJson (document : Json) : Status :=
  { current := (document.member? "show").bind ShowId.ofJson?
    text := (document.member? "status").bind statusText?
    looping := ((document.member? "loop").map isLooping).getD false }

end Status

inductive PlayerState where
  | unknown
  | stopped
  | playing
  | looping
  deriving DecidableEq, Repr

namespace PlayerState

/-- The status texts of a player that plays, without regard to case. -/
def playingWords : List (List Char) :=
  ["playing".toList, "running".toList]

def ofStatus (status : Status) : PlayerState :=
  if status.looping then .looping
  else
    match status.text with
    | some text =>
      if Text.lowerAscii (Text.trimBlanks text.toList) ∈ playingWords then .playing else .stopped
    | none => .stopped

def name : PlayerState → String
  | .unknown => "unknown"
  | .stopped => "stopped"
  | .playing => "playing"
  | .looping => "looping"

end PlayerState
end ShowRemote.Show
