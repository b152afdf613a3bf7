/-!
Decimal numerals for integers of a bounded range: an optional sign and ASCII digits, with any number
of leading zeros. The first character at fault decides which fault is reported.
-/

set_option autoImplicit false

namespace ShowRemote.Text

/-- A closed range of integers. A range without negative numbers takes no minus sign. -/
structure IntegerRange where
  least : Int
  greatest : Int
  deriving DecidableEq, Repr

namespace IntegerRange

def signed64 : IntegerRange := ⟨-9223372036854775808, 9223372036854775807⟩

def unsigned64 : IntegerRange := ⟨0, 18446744073709551615⟩

end IntegerRange

inductive NumeralFault where
  | empty
  | strayCharacter
  | tooLarge
  | tooSmall
  deriving DecidableEq, Repr

def NumeralFault.message : NumeralFault → String
  | .empty => "cannot parse integer from empty string"
  | .strayCharacter => "invalid digit found in string"
  | .tooLarge => "number too large to fit in target type"
  | .tooSmall => "number too small to fit in target type"

def digitValue? (c : Char) : Option Nat :=
  if '0' ≤ c ∧ c ≤ '9' then some (c.toNat - 48) else none

/-- Read digits onto a total, downwards after a minus sign, and stop where the range is left. -/
def accumulate (range : IntegerRange) (negative : Bool) : Int → List Char →
    Except NumeralFault Int
  | total, [] => .ok total
  | total, c :: rest =>
    match digitValue? c with
    | none => .error .strayCharacter
    | some d =>
      let next := if negative then total * 10 - d else total * 10 + d
      if range.least ≤ next ∧ next ≤ range.greatest then accumulate range negative next rest
      else .error (if negative then .tooSmall else .tooLarge)

/-- The digits after a sign. A sign alone is a stray character. -/
def readUnsigned (range : IntegerRange) (negative : Bool) : List Char → Except NumeralFault Int
  | [] => .error .strayCharacter
  | digits => accumulate range negative 0 digits

def readInteger (range : IntegerRange) : List Char → Except NumeralFault Int
  | [] => .error .empty
  | '+' :: digits => readUnsigned range false digits
  | '-' :: digits =>
    if range.least < 0 then readUnsigned range true digits else .error .strayCharacter
  | digits => accumulate range false 0 digits

def readNatural64 (s : List Char) : Except NumeralFault Nat :=
  (readInteger .unsigned64 s).map Int.toNat

end ShowRemote.Text
