import ShowRemote.Proofs.Text.Numeral
import ShowRemote.Show.Status

/-!
Which texts and JSON numbers are show numbers. A text is one when it is a decimal integer in the
range between blanks, a JSON number when its exact value is an integer in the range; neither the 64
bits of a numeral nor the scale of a double plays any part in it.
-/

set_option autoImplicit false

namespace ShowRemote

def Decimal.Binary64.value (x : Decimal.Binary64) : ℚ :=
  x.significand * (2 : ℚ) ^ x.scale

def Json.Number.value : Json.Number → ℚ
  | .integer n => n
  | .double negative magnitude => if negative then -magnitude.value else magnitude.value

namespace Decimal.Binary64

theorem denominator_pos (x : Binary64) : 0 < x.denominator := by
  unfold denominator
  split
  · exact Nat.one_pos
  · exact Nat.two_pow_pos _

theorem numerator_eq (x : Binary64) : (x.numerator : ℚ) = x.value * x.denominator := by
  unfold numerator denominator value
  by_cases scale : 0 ≤ x.scale
  · obtain ⟨k, hk⟩ := Int.eq_ofNat_of_zero_le scale
    simp [hk]
  · obtain ⟨k, hk⟩ := Int.eq_ofNat_of_zero_le (show 0 ≤ -x.scale by omega)
    have power : (2 : ℚ) ^ x.scale = ((2 : ℚ) ^ k)⁻¹ := by
      rw [← neg_neg x.scale, hk, zpow_neg, zpow_natCast]
    simp [scale, hk, power]

theorem toNat?_eq_some_iff (x : Binary64) (n : Nat) : x.toNat? = some n ↔ x.value = n := by
  have pos : (x.denominator : ℚ) ≠ 0 := by
    exact_mod_cast x.denominator_pos.ne'
  have whole : x.value = n ↔ x.numerator = n * x.denominator := by
    rw [← mul_left_inj' pos, ← x.numerator_eq]
    exact_mod_cast Iff.rfl
  rw [whole]
  unfold toNat?
  constructor
  · intro read
    split at read
    · next divides =>
      obtain rfl := Option.some.inj read
      exact (Nat.div_mul_cancel (Nat.dvd_of_mod_eq_zero divides)).symm
    · cases read
  · intro product
    rw [product, Nat.mul_mod_left, if_pos rfl, Nat.mul_div_cancel _ x.denominator_pos]

theorem value_nonneg (x : Binary64) : 0 ≤ x.value := by
  unfold value
  positivity

end Decimal.Binary64

namespace Show

namespace ShowNumber

theorem ofInt?_value (number : ShowNumber) : ofInt? number.value = some number := by
  have le := number.value_le
  have inside : (0 : Int) ≤ number.value ∧ (number.value : Int) ≤ greatestNumber := by omega
  simp [ofInt?, inside]

theorem ofInt?_eq_some_iff (n : Int) (number : ShowNumber) :
    ofInt? n = some number ↔ n = number.value := by
  constructor
  · exact fun read => (value_of_ofInt? read).symm
  · rintro rfl
    exact number.ofInt?_value

/-- A text is read as the show number that it denotes between blanks. -/
theorem parse?_eq_some_iff (text : String) (number : ShowNumber) :
    parse? text = some number ↔
      Text.Denotes (Text.trimBlanks text.toList) number.value := by
  have le := number.value_le
  have holds : Text.IntegerRange.signed64.Holds number.value := by
    unfold greatestNumber at le
    constructor <;> simp only [Text.IntegerRange.signed64] <;> omega
  have zero : Text.IntegerRange.signed64.Holds 0 := by decide
  have read := Text.readInteger_eq_ok_iff zero (by decide) (Text.trimBlanks text.toList)
  unfold parse?
  constructor
  · intro parsed
    split at parsed
    · next n same =>
      rw [ofInt?_eq_some_iff] at parsed
      rw [← parsed]
      exact ((read n).mp same).1
    · cases parsed
  · intro denotes
    rw [(read _).mpr ⟨denotes, holds⟩]
    exact number.ofInt?_value

end ShowNumber

theorem showNumber?_eq_some_iff (n : Json.Number) (number : ShowNumber) :
    showNumber? n = some number ↔ n.value = number.value := by
  cases n with
  | integer n =>
    rw [showNumber?, ShowNumber.ofInt?_eq_some_iff, Json.Number.value]
    exact_mod_cast Iff.rfl
  | double negative magnitude =>
    have nonneg := magnitude.value_nonneg
    cases whole : magnitude.toNat? with
    | some k =>
      have value := (magnitude.toNat?_eq_some_iff k).mp whole
      rw [showNumber?, whole, Json.Number.value, value, ShowNumber.ofInt?_eq_some_iff]
      cases negative <;> exact_mod_cast Iff.rfl
    | none =>
      have broken : ∀ k : Nat, magnitude.value ≠ k := by
        intro k value
        rw [(magnitude.toNat?_eq_some_iff k).mpr value] at whole
        cases whole
      have unread : showNumber? (.double negative magnitude) ≠ some number := by
        rw [showNumber?, whole]
        exact (Option.some_ne_none number).symm
      refine iff_of_false unread ?_
      rw [Json.Number.value]
      cases negative with
      | false => exact broken number.value
      | true =>
        -- Of the numbers that are not positive only 0 is a show number.
        intro value
        have positive : (0 : ℚ) ≤ number.value := Nat.cast_nonneg _
        exact broken 0 (by
          rw [if_pos rfl] at value
          rw [Nat.cast_zero]
          linarith)

/-- The show that a value names: a string that denotes a show number between blanks, verbatim, or a
number that is one, as JSON writes it. -/
theorem ShowId.ofJson?_eq_some_iff (document : Json) (id : ShowId) :
    ShowId.ofJson? document = some id ↔
      (document = .string id.text ∧ ∃ number : ShowNumber,
        Text.Denotes (Text.trimBlanks id.text.toList) number.value) ∨
      ∃ n : Json.Number, document = .number n ∧ id.text = n.text ∧
        ∃ number : ShowNumber, n.value = number.value := by
  obtain ⟨spelling⟩ := id
  cases document with
  | string text =>
    simp only [ShowId.ofJson?, Option.ite_none_right_eq_some, Option.isSome_iff_exists,
      ShowNumber.parse?_eq_some_iff, Option.some.injEq, ShowId.mk.injEq, Json.string.injEq,
      reduceCtorEq, false_and, exists_false, or_false]
    constructor
    · rintro ⟨named, rfl⟩
      exact ⟨rfl, named⟩
    · rintro ⟨rfl, named⟩
      exact ⟨named, rfl⟩
  | number n =>
    simp only [ShowId.ofJson?, Option.ite_none_right_eq_some, Option.isSome_iff_exists,
      showNumber?_eq_some_iff, Option.some.injEq, ShowId.mk.injEq, Json.number.injEq,
      reduceCtorEq, false_and, false_or]
    constructor
    · rintro ⟨named, rfl⟩
      exact ⟨n, rfl, rfl, named⟩
    · rintro ⟨m, rfl, rfl, named⟩
      exact ⟨named, rfl⟩
  | null | bool | array | object => simp [ShowId.ofJson?]

end Show
end ShowRemote
