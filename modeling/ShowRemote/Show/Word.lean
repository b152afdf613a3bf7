import ShowRemote.Show.Number

/-!
Show numbers by way of machine words. The digits of a numeral are gathered in a word of 64 bits,
where each product and each sum may overflow, and a word in range is cut down to a byte.
-/

set_option autoImplicit false

namespace ShowRemote

namespace Text

/-- The result of an operation on words, unless it has overflowed. -/
def unlessOverflow (overflow : Bool) (result : Int64) : Option Int64 :=
  if overflow then none else some result

def withDigit? (negative : Bool) (total digit : Int64) : Option Int64 := do
  let tens ← unlessOverflow (total.toBitVec.smulOverflow (10 : Int64).toBitVec) (total * 10)
  if negative then unlessOverflow (tens.toBitVec.ssubOverflow digit.toBitVec) (tens - digit)
  else unlessOverflow (tens.toBitVec.saddOverflow digit.toBitVec) (tens + digit)

def accumulateWord (negative : Bool) : Int64 → List Char → Except NumeralFault Int64
  | total, [] => .ok total
  | total, c :: rest =>
    match digitValue? c with
    | none => .error .strayCharacter
    | some d =>
      match withDigit? negative total (Int64.ofNat d) with
      | some next => accumulateWord negative next rest
      | none => .error (if negative then .tooSmall else .tooLarge)

def readUnsignedWord (negative : Bool) : List Char → Except NumeralFault Int64
  | [] => .error .strayCharacter
  | digits => accumulateWord negative 0 digits

def readWord : List Char → Except NumeralFault Int64
  | [] => .error .empty
  | '+' :: digits => readUnsignedWord false digits
  | '-' :: digits => readUnsignedWord true digits
  | digits => accumulateWord false 0 digits

end Text

namespace Show.ShowNumber

/-- The byte that a word is cut down to, if it is a show number. -/
def byteOf? (n : Int64) : Option UInt8 :=
  if 0 ≤ n ∧ n ≤ Int64.ofNat greatestNumber then some n.toUInt64.toUInt8 else none

def parseByte? (text : String) : Option UInt8 :=
  match Text.readWord (Text.trimBlanks text.toList) with
  | .ok n => byteOf? n
  | .error _ => none

end Show.ShowNumber
end ShowRemote
