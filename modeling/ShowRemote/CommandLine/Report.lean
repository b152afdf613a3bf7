import ShowRemote.Session.Event
import ShowRemote.Text.Pieces

/-!
What is written to the operator about failures: a warning for the last one, and the chain of reasons
why a run was in vain.
-/

set_option autoImplicit false

namespace ShowRemote.CommandLine

open Show (Failure)

inductive Notice where
  | warning (record : ErrorRecord)
  /-- Reasons, the outer one first. -/
  | error (chain : List String)
  deriving DecidableEq, Repr

/-- The lines of a text, the first one behind a mark and the others below it. -/
def hang (mark indent text : String) : List String :=
  match (Text.pieces (fun c => c = '\n') text.toList).map String.ofList with
  | [] => []
  | first :: others => (mark ++ first) :: others.map fun line => indent ++ line

def padLeft (width : Nat) (s : String) : String :=
  String.ofList (List.replicate (width - s.length) ' ') ++ s

/-- The causes of an error, numbered when there are several. -/
def causeLines : List String → List String
  | [] => []
  | [cause] => ["", "Caused by:"] ++ hang "    " "    " cause
  | causes =>
    ["", "Caused by:"] ++ (causes.zipIdx.map fun (cause, n) =>
      hang (padLeft 5 (String.ofList (Nat.toDigits 10 n)) ++ ": ") "       " cause).flatten

def Notice.lines (time : String) : Notice → List String
  | .warning record =>
    hang "" "" ("warning: " ++ record.operation.title ++ " failed at " ++ time ++ ": "
      ++ record.failure.message)
  | .error [] => []
  | .error (first :: causes) => hang "Error: " "" first ++ causeLines causes

/-- Why a run was in vain, unless the player was heard or nothing failed. -/
def unanswered? (heard : Bool) (lastFailure : Option Failure) : Option (List String) :=
  match lastFailure with
  | some failure => if heard then none else some ["show player did not answer", failure.describe]
  | none => none

end ShowRemote.CommandLine
