import ShowRemote.Show.Status

/-!
The show that a value names, by way of machine numbers. A number that is not held as a signed
integer of 64 bits is taken for a double, and a double without a fraction is cast to the nearest
such integer.
-/

set_option autoImplicit false

namespace ShowRemote.Show

open Decimal (Binary64)
open Text (IntegerRange)

def signed? : Json.Number → Option Int
  | .integer n =>
    if IntegerRange.signed64.least ≤ n ∧ n ≤ IntegerRange.signed64.greatest then some n else none
  | .double _ _ => none

/-- The sign and the magnitude of the double that a number is taken for. -/
def double? : Json.Number → Option (Bool × Binary64)
  | .integer n => (Binary64.ofNat? n.natAbs).map fun magnitude => (decide (n < 0), magnitude)
  | .double negative magnitude => some (negative, magnitude)

/-- The integer of a range that is nearest to an integer. -/
def saturate (range : IntegerRange) (n : Int) : Int :=
  max range.least (min n range.greatest)

/-- The show number that a JSON number is cast to. -/
def castNumber? (number : Json.Number) : Option ShowNumber :=
  match signed? number with
  | some n => ShowNumber.ofInt? n
  | none =>
    match double? number with
    | none => none
    | some (negative, magnitude) =>
      match magnitude.toNat? with
      | none => none
      | some n => ShowNumber.ofInt? (saturate .signed64 (if negative then -n else n))

def ShowId.cast? : Json → Option ShowId
  | .string text => (ShowId.number? ⟨text⟩).map fun _ => ⟨text⟩
  | .number n => (castNumber? n).map fun _ => ⟨n.text⟩
  | _ => none

end ShowRemote.Show
