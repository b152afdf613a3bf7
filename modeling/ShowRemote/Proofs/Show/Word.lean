import ShowRemote.Proofs.Show.Cast
import ShowRemote.Show.Word

/-!
The texts that are show numbers: decimal integers in the range between blanks, with a sign or
without. The width of machine words has no part in it. Where a word overflows, the number has left
the range of 64 bits, and stays out of it with every further digit, so a numeral in words is read as
one without any bound (`toInt_readWord`); and nothing is cut off a word that is a show number
(`toNat_byteOf?`).

Main statement: `numerals_are_show_numbers`.
-/

set_option autoImplicit false

namespace ShowRemote

namespace Text

def IntegerRange.held? (range : IntegerRange) (n : Int) : Option Int :=
  if range.Holds n then some n else none

private theorem signed64_holds_iff (n : Int) :
    IntegerRange.signed64.Holds n ↔ -2 ^ 63 ≤ n ∧ n < 2 ^ 63 := by
  simp only [IntegerRange.Holds, IntegerRange.signed64]
  omega

private theorem toInt_unlessOverflow {overflow : Bool} {result : Int64} {n : Int}
    (overflows : overflow = true ↔ ¬ IntegerRange.signed64.Holds n)
    (exact : ¬ overflow = true → result.toInt = n) :
    (unlessOverflow overflow result).map Int64.toInt = IntegerRange.signed64.held? n := by
  by_cases holds : IntegerRange.signed64.Holds n
  · have fits : ¬ overflow = true := fun lost => overflows.mp lost holds
    rw [unlessOverflow, if_neg fits, Option.map_some, exact fits, IntegerRange.held?, if_pos holds]
  · rw [unlessOverflow, if_pos (overflows.mpr holds), IntegerRange.held?, if_neg holds]
    rfl

section Operations

variable (a b : Int64)

private theorem toInt_product :
    (unlessOverflow (a.toBitVec.smulOverflow b.toBitVec) (a * b)).map Int64.toInt =
      IntegerRange.signed64.held? (a.toInt * b.toInt) := by
  refine toInt_unlessOverflow ?_ BitVec.toInt_mul_of_not_smulOverflow
  rw [signed64_holds_iff]
  simp only [BitVec.smulOverflow, Bool.or_eq_true, decide_eq_true_eq, Int64.toInt]
  omega

private theorem toInt_sum :
    (unlessOverflow (a.toBitVec.saddOverflow b.toBitVec) (a + b)).map Int64.toInt =
      IntegerRange.signed64.held? (a.toInt + b.toInt) := by
  refine toInt_unlessOverflow ?_ BitVec.toInt_add_of_not_saddOverflow
  rw [signed64_holds_iff]
  simp only [BitVec.saddOverflow, Bool.or_eq_true, decide_eq_true_eq, Int64.toInt]
  omega

private theorem toInt_difference :
    (unlessOverflow (a.toBitVec.ssubOverflow b.toBitVec) (a - b)).map Int64.toInt =
      IntegerRange.signed64.held? (a.toInt - b.toInt) := by
  refine toInt_unlessOverflow ?_ BitVec.toInt_sub_of_not_ssubOverflow
  rw [signed64_holds_iff]
  simp only [BitVec.ssubOverflow, Bool.or_eq_true, decide_eq_true_eq, Int64.toInt]
  omega

private theorem toInt_withDigit? (negative : Bool) (total digit : Int64) :
    (withDigit? negative total digit).map Int64.toInt =
      (IntegerRange.signed64.held? (total.toInt * 10)).bind fun tens =>
        IntegerRange.signed64.held?
          (if negative then tens - digit.toInt else tens + digit.toInt) := by
  have product := toInt_product total 10
  rw [show (10 : Int64).toInt = 10 from rfl] at product
  rw [← product]
  unfold withDigit?
  cases unlessOverflow (total.toBitVec.smulOverflow (10 : Int64).toBitVec) (total * 10) with
  | none => rfl
  | some tens =>
    cases negative with
    | false => exact toInt_sum tens digit
    | true => exact toInt_difference tens digit

end Operations

/-- The number without its last digit is no farther from zero, so the product is in the range if the
number is. -/
private theorem toInt_withDigit?_of_signed {negative : Bool} {total : Int64} {k d : Nat}
    (value : total.toInt = signed negative k) (digit : d ≤ 9) :
    (withDigit? negative total (Int64.ofNat d)).map Int64.toInt =
      IntegerRange.signed64.held? (signed negative (10 * k + d)) := by
  have digit_value : (Int64.ofNat d).toInt = d := Int64.toInt_ofNat_of_lt (by omega)
  have zero : IntegerRange.signed64.Holds 0 := by decide
  have tens : signed negative k * 10 = signed negative (10 * k) := by
    cases negative <;> simp [signed] <;> ring
  rw [toInt_withDigit?, value, digit_value]
  by_cases holds : IntegerRange.signed64.Holds (signed negative (10 * k))
  · rw [← signed_next]
    rw [← tens] at holds
    rw [IntegerRange.held?, if_pos holds, Option.bind_some]
  · have outside : ¬ IntegerRange.signed64.Holds (signed negative (10 * k + d)) := fun inside =>
      holds (IntegerRange.signed64.holds_of_le zero (by omega) inside)
    rw [← tens] at holds
    rw [IntegerRange.held?, if_neg holds, IntegerRange.held?, if_neg outside]
    rfl

private theorem digitValue?_le {c : Char} {d : Nat} (read : digitValue? c = some d) : d ≤ 9 := by
  unfold digitValue? at read
  split at read
  · next bounds =>
    have greatest : c.toNat ≤ '9'.toNat := bounds.2
    cases read
    exact Nat.sub_le_of_le_add greatest
  · cases read

private theorem toInt_accumulateWord {negative : Bool} {total : Int64} {k : Nat}
    (value : total.toInt = signed negative k) (digits : List Char) :
    (accumulateWord negative total digits).map Int64.toInt =
      accumulate .signed64 negative (signed negative k) digits := by
  induction digits generalizing total k with
  | nil => exact congrArg Except.ok value
  | cons c digits ih =>
    rw [accumulateWord, accumulate]
    cases read : digitValue? c with
    | none => rfl
    | some d =>
      have next := toInt_withDigit?_of_signed value (digitValue?_le read)
      simp only [signed_next]
      by_cases inside : IntegerRange.signed64.Holds (signed negative (10 * k + d))
      · rw [IntegerRange.held?, if_pos inside] at next
        obtain ⟨word, more, same⟩ := Option.map_eq_some_iff.mp next
        unfold IntegerRange.Holds at inside
        rw [more, if_pos inside]
        exact ih same
      · rw [IntegerRange.held?, if_neg inside, Option.map_eq_none_iff] at next
        unfold IntegerRange.Holds at inside
        rw [next, if_neg inside]
        rfl

private theorem toInt_readUnsignedWord (negative : Bool) (digits : List Char) :
    (readUnsignedWord negative digits).map Int64.toInt =
      readUnsigned .signed64 negative digits := by
  cases digits with
  | nil => rfl
  | cons c digits =>
    have value : (0 : Int64).toInt = signed negative 0 := by cases negative <;> rfl
    have read := toInt_accumulateWord value (c :: digits)
    rwa [show signed negative 0 = 0 by cases negative <;> rfl] at read

private theorem readWord_unsigned {c : Char} (plus : c ≠ '+') (minus : c ≠ '-')
    (digits : List Char) :
    readWord (c :: digits) = readUnsignedWord false (c :: digits) := by
  unfold readWord
  split
  · next same => cases same
  · next same => exact (plus (List.cons.inj same).1).elim
  · next same => exact (minus (List.cons.inj same).1).elim
  · rfl

theorem toInt_readWord (s : List Char) :
    (readWord s).map Int64.toInt = readInteger .signed64 s := by
  cases s with
  | nil => rfl
  | cons c digits =>
    by_cases plus : c = '+'
    · subst plus
      exact toInt_readUnsignedWord false digits
    by_cases minus : c = '-'
    · subst minus
      exact toInt_readUnsignedWord true digits
    rw [readWord_unsigned plus minus, readInteger_unsigned plus minus]
    exact toInt_readUnsignedWord false (c :: digits)

end Text

namespace Show.ShowNumber

private theorem toNat_toUInt8 {n : Int64} (small : 0 ≤ n.toInt ∧ n.toInt ≤ 99) :
    n.toUInt64.toUInt8.toNat = n.toInt.toNat := by
  have bits : n.toInt = Int.bmod n.toUInt64.toNat (2 ^ 64) := BitVec.toInt_eq_toNat_bmod n.toBitVec
  have bound := n.toUInt64.toNat_lt
  rw [UInt64.toNat_toUInt8]
  rw [Int.bmod_def] at bits
  split at bits <;> omega

theorem toNat_byteOf? (n : Int64) : (byteOf? n).map UInt8.toNat = (ofInt? n.toInt).map value := by
  have bounds : (0 ≤ n ∧ n ≤ Int64.ofNat greatestNumber) ↔ 0 ≤ n.toInt ∧ n.toInt ≤ 99 :=
    and_congr Int64.le_iff_toInt_le Int64.le_iff_toInt_le
  by_cases small : 0 ≤ n.toInt ∧ n.toInt ≤ 99
  · have read : ofInt? n.toInt = some ⟨n.toInt.toNat, _⟩ := dif_pos small
    rw [byteOf?, if_pos (bounds.mpr small), read, Option.map_some, toNat_toUInt8 small]
    rfl
  · rw [byteOf?, if_neg fun inside => small (bounds.mp inside), ofInt?_of_outside small]
    rfl

private theorem toNat_parseByte? (text : String) :
    (parseByte? text).map UInt8.toNat = (parse? text).map value := by
  have same := Text.toInt_readWord (Text.trimBlanks text.toList)
  rw [parseByte?, parse?, ← same]
  cases Text.readWord (Text.trimBlanks text.toList) with
  | error fault => rfl
  | ok n => exact toNat_byteOf? n

private theorem parse?_eq_none_iff (text : String) :
    parse? text = none ↔
      ∀ n : Int, Text.Denotes (Text.trimBlanks text.toList) n → n < 0 ∨ 99 < n := by
  rw [Option.eq_none_iff_forall_ne_some]
  constructor
  · intro unread n denotes
    by_contra inside
    obtain ⟨number, value⟩ : ∃ number : ShowNumber, (number.value : Int) = n := by
      refine ⟨⟨n.toNat, ?_⟩, ?_⟩
      · unfold greatestNumber
        omega
      · exact Int.toNat_of_nonneg (by omega)
    exact unread number ((parse?_eq_some_iff text number).mpr (value ▸ denotes))
  · intro outside number read
    have le := number.value_le
    unfold greatestNumber at le
    have far := outside _ ((parse?_eq_some_iff text number).mp read)
    omega

private theorem exists_parse?_iff (text : String) (n : Int) :
    (∃ number, parse? text = some number ∧ (number.value : Int) = n) ↔
      Text.Denotes (Text.trimBlanks text.toList) n ∧ 0 ≤ n ∧ n ≤ 99 := by
  constructor
  · rintro ⟨number, read, rfl⟩
    have le := number.value_le
    unfold greatestNumber at le
    exact ⟨(parse?_eq_some_iff text number).mp read, by omega, by omega⟩
  · rintro ⟨denotes, nonneg, le⟩
    cases read : parse? text with
    | none =>
      have outside := (parse?_eq_none_iff text).mp read n denotes
      omega
    | some number =>
      have other := (parse?_eq_some_iff text number).mp read
      exact ⟨number, rfl, other.unique denotes⟩

/-- Which texts are show numbers, and which number each of them is. -/
structure NumeralsAreNumbers : Prop where
  /-- Of a text, what stands between the blanks at its two ends is read. -/
  between : ∀ s t : List Char, Text.trimBlanks s = t ↔ Text.Trims Text.isBlank s t
  present : ∀ (text : String) (n : Int),
    (∃ number, parse? text = some number ∧ (number.value : Int) = n) ↔
      Text.Denotes (Text.trimBlanks text.toList) n ∧ 0 ≤ n ∧ n ≤ 99
  absent : ∀ text : String, parse? text = none ↔
    ∀ n : Int, Text.Denotes (Text.trimBlanks text.toList) n → n < 0 ∨ 99 < n
  bare : ∀ text : String, Text.trimBlanks text.toList ∈ [[], ['+'], ['-']] → parse? text = none
  stray : ∀ (text : String) (c : Char), c ∈ Text.trimBlanks text.toList →
    ¬ (c.isDigit ∨ c = '+' ∨ c = '-') → parse? text = none
  /-- A numeral fits a word if its number does, and is that number. -/
  word : ∀ (s : List Char) (n : Int),
    (∃ word, Text.readWord s = .ok word ∧ word.toInt = n) ↔
      Text.Denotes s n ∧ -2 ^ 63 ≤ n ∧ n < 2 ^ 63
  byte : ∀ text : String, (parseByte? text).map UInt8.toNat = (parse? text).map value
  written : ∀ number : ShowNumber,
    parse? (String.ofList (Nat.toDigits 10 number.value)) = some number

/-- The decimal integers from 0 to 99, between blanks, are show numbers, and nothing else is. -/
theorem numerals_are_show_numbers : NumeralsAreNumbers := by
  constructor
  case between =>
    intro s t
    constructor
    · rintro rfl
      exact Text.trims_trimEnds Text.isBlank s
    · exact fun trims => trims.eq_trimEnds
  case present => exact exists_parse?_iff
  case absent => exact parse?_eq_none_iff
  case bare =>
    intro text bare
    rw [parse?_eq_none_iff]
    intro n denotes
    obtain ⟨c, mem, digit⟩ := denotes.exists_isDigit
    simp only [List.mem_cons, List.not_mem_nil, or_false] at bare
    rcases bare with empty | sign | sign
    · rw [empty] at mem
      cases mem
    · rw [sign, List.mem_singleton] at mem
      rw [mem] at digit
      cases digit
    · rw [sign, List.mem_singleton] at mem
      rw [mem] at digit
      cases digit
  case stray =>
    intro text c mem other
    rw [parse?_eq_none_iff]
    intro n denotes
    exact (other (denotes.isDigit_or_sign c mem)).elim
  case word =>
    intro s n
    have read := @Text.readInteger_eq_ok_iff .signed64 (by decide) (by decide) s n
    rw [← Text.toInt_readWord, Text.signed64_holds_iff] at read
    rw [← read]
    cases Text.readWord s with
    | error fault => exact iff_of_false nofun nofun
    | ok word => simp [Except.map]
  case byte => exact toNat_parseByte?
  case written =>
    intro number
    have written := parse?_writeInt number.value
    rwa [ofInt?_value, Json.writeInt_eq, if_neg (by omega), Int.natAbs_natCast] at written

/-- Leading zeros have no end, a negative zero is one, and a digit of another script is none. -/
example : (parse? "\u2003-00000000000000000000000000 ").map value = some 0 ∧
    (parse? "+000000000000000000000000000007\n").map value = some 7 ∧
    parse? "99999999999999999999" = none ∧ parse? "4 2" = none ∧ parse? "٣" = none := by
  decide +kernel

end Show.ShowNumber
end ShowRemote
