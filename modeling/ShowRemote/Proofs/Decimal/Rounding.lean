import ShowRemote.Proofs.Show.Number

/-!
How far rounding can take a quotient down. A quotient of at least one is scaled to at least one unit
before it is rounded, and there the floor is more than half of it; the one digit that may be dropped
after a carry halves it at most once more. So no chain of roundings makes a large number small.
-/

set_option autoImplicit false

namespace ShowRemote.Decimal.Binary64

private theorem floor_le_roundQuotient (num den : Nat) : num / den ≤ roundQuotient num den := by
  unfold roundQuotient
  simp only
  split
  · exact Nat.le_refl _
  · split
    · exact Nat.le_succ _
    · split
      · exact Nat.le_refl _
      · exact Nat.le_succ _

private theorem le_two_mul_roundQuotient {num den : Nat} (pos : 0 < den) (le : den ≤ num) :
    num ≤ 2 * den * roundQuotient num den := by
  have one : 1 ≤ num / den := (Nat.one_le_div_iff pos).mpr le
  have floor := floor_le_roundQuotient num den
  have split := Nat.div_add_mod num den
  have rest := Nat.mod_lt num pos
  have less : den * 1 ≤ den * (num / den) := Nat.mul_le_mul_left den one
  have more : den * (num / den) ≤ den * roundQuotient num den := Nat.mul_le_mul_left den floor
  calc
    num = den * (num / den) + num % den := split.symm
    _ ≤ den * roundQuotient num den + den * roundQuotient num den := by omega
    _ = 2 * den * roundQuotient num den := by ring

section Quotient

variable {num den : Nat} (pos : 0 < den)

include pos

/-- Whether a quotient is at least a power of two, decided on natural numbers. -/
private theorem reaches_iff (exponent : Int) :
    (if 0 ≤ exponent then den * Nat.pow 2 exponent.toNat ≤ num
      else den ≤ num * Nat.pow 2 (-exponent).toNat) ↔ (2 : ℚ) ^ exponent ≤ num / den := by
  have den_pos : (0 : ℚ) < den := by exact_mod_cast pos
  rw [le_div_iff₀ den_pos]
  by_cases up : 0 ≤ exponent
  · obtain ⟨k, rfl⟩ := Int.eq_ofNat_of_zero_le up
    rw [if_pos up, Int.toNat_natCast, zpow_natCast, mul_comm]
    exact_mod_cast Iff.rfl
  · obtain ⟨k, hk⟩ := Int.eq_ofNat_of_zero_le (show 0 ≤ -exponent by omega)
    obtain rfl : exponent = -(k : Int) := by omega
    have power : (0 : ℚ) < 2 ^ k := by positivity
    rw [if_neg up, neg_neg, Int.toNat_natCast, zpow_neg, zpow_natCast, inv_mul_le_iff₀ power,
      mul_comm]
    exact_mod_cast Iff.rfl

private theorem le_two_mul_inUnits {scale : Int} (unit : (2 : ℚ) ^ scale ≤ num / den) :
    (num : ℚ) / den ≤ 2 * (inUnits num den scale * 2 ^ scale) := by
  have den_pos : (0 : ℚ) < den := by exact_mod_cast pos
  have reaches := (reaches_iff pos scale).mpr unit
  rw [div_le_iff₀ den_pos]
  unfold inUnits
  by_cases up : 0 ≤ scale
  · obtain ⟨k, rfl⟩ := Int.eq_ofNat_of_zero_le up
    rw [if_pos up, Int.toNat_natCast] at reaches ⊢
    have rounded := le_two_mul_roundQuotient (Nat.mul_pos pos (Nat.two_pow_pos k)) reaches
    have cast : (num : ℚ) ≤ 2 * (den * 2 ^ k) * roundQuotient num (den * Nat.pow 2 k) := by
      exact_mod_cast rounded
    rw [zpow_natCast]
    linarith
  · obtain ⟨k, hk⟩ := Int.eq_ofNat_of_zero_le (show 0 ≤ -scale by omega)
    obtain rfl : scale = -(k : Int) := by omega
    rw [if_neg up, neg_neg, Int.toNat_natCast] at reaches ⊢
    have power : (0 : ℚ) < 2 ^ k := by positivity
    have cast : (num : ℚ) * 2 ^ k ≤ 2 * den * roundQuotient (num * Nat.pow 2 k) den := by
      exact_mod_cast le_two_mul_roundQuotient pos reaches
    rw [zpow_neg, zpow_natCast, ← mul_le_mul_iff_left₀ power]
    calc
      (num : ℚ) * 2 ^ k ≤ 2 * den * roundQuotient (num * Nat.pow 2 k) den := cast
      _ = 2 * (roundQuotient (num * Nat.pow 2 k) den * (2 ^ k)⁻¹) * den * 2 ^ k := by
        field_simp

private theorem two_zpow_log2_le (large : den ≤ num) :
    (2 : ℚ) ^ ((num.log2 : Int) - den.log2 - 1) ≤ num / den := by
  have num_le : (2 : ℚ) ^ num.log2 ≤ num := by
    exact_mod_cast Nat.log2_self_le (n := num) (by omega)
  have den_lt : (den : ℚ) ≤ 2 ^ (den.log2 + 1) := by
    exact_mod_cast (Nat.lt_log2_self (n := den)).le
  have den_pos : (0 : ℚ) < den := by exact_mod_cast pos
  calc
    (2 : ℚ) ^ ((num.log2 : Int) - den.log2 - 1) = 2 ^ num.log2 / 2 ^ (den.log2 + 1) := by
      rw [sub_sub, zpow_sub₀ two_ne_zero, zpow_natCast]
      norm_cast
    _ ≤ num / den := div_le_div₀ (Nat.cast_nonneg _) num_le den_pos den_lt

private theorem unit_le_quotient (large : den ≤ num) : (2 : ℚ) ^ scaleFor num den ≤ num / den := by
  have den_pos : (0 : ℚ) < den := by exact_mod_cast pos
  have below : ∀ {top : Int}, (2 : ℚ) ^ top ≤ num / den →
      (2 : ℚ) ^ max (top - 52) leastScale ≤ num / den := by
    intro top le
    rcases max_choice (top - 52) leastScale with same | same
    · rw [same]
      exact (zpow_le_zpow_right₀ one_le_two (by omega)).trans le
    · rw [same]
      calc
        (2 : ℚ) ^ leastScale ≤ 2 ^ (0 : Int) := zpow_le_zpow_right₀ one_le_two (by decide)
        _ = 1 := zpow_zero 2
        _ ≤ num / den := by
          rw [le_div_iff₀ den_pos, one_mul]
          exact_mod_cast large
  have guess := @reaches_iff num den pos ((num.log2 : Int) - den.log2)
  unfold scaleFor
  simp only
  apply below
  by_cases up : (0 : Int) ≤ (num.log2 : Int) - den.log2
  · simp only [if_pos up, decide_eq_true_eq] at guess ⊢
    split
    · next reaches => exact guess.mp reaches
    · exact two_zpow_log2_le pos large
  · simp only [if_neg up, decide_eq_true_eq] at guess ⊢
    split
    · next reaches => exact guess.mp reaches
    · exact two_zpow_log2_le pos large

private theorem le_of_ofQuotient? (large : den ≤ num) {x : Binary64}
    (rounded : ofQuotient? num den = some x) : (num : ℚ) / den ≤ 4 * x.value := by
  have units := le_two_mul_inUnits pos (unit_le_quotient pos large)
  have some_num : num ≠ 0 := by omega
  rw [ofQuotient?, if_neg some_num] at rounded
  simp only at rounded
  generalize inUnits num den (scaleFor num den) = significand at units rounded
  generalize scaleFor num den = scale at units rounded
  have nonneg : (0 : ℚ) ≤ significand * 2 ^ scale := by positivity
  by_cases carried : Nat.pow 2 53 ≤ significand
  · rw [decide_eq_true carried, if_pos rfl, Option.ite_none_left_eq_some] at rounded
    obtain ⟨-, ⟨⟩⟩ := rounded
    have halves : significand ≤ 2 * (significand / 2 * 2) := by
      have two : 2 ≤ significand := le_trans (by decide) carried
      omega
    have cast : (significand : ℚ) ≤ 2 * ((significand / 2 : Nat) * 2) := by
      exact_mod_cast halves
    have power : (0 : ℚ) < 2 ^ scale := by positivity
    calc
      (num : ℚ) / den ≤ 2 * (significand * 2 ^ scale) := units
      _ ≤ 2 * (2 * ((significand / 2 : Nat) * 2) * 2 ^ scale) := by gcongr
      _ = 4 * ((significand / 2 : Nat) * 2 ^ (scale + 1)) := by
        rw [zpow_add_one₀ two_ne_zero]
        ring
  · rw [decide_eq_false carried, if_neg Bool.false_ne_true,
      Option.ite_none_left_eq_some] at rounded
    obtain ⟨-, ⟨⟩⟩ := rounded
    show _ ≤ 4 * ((significand : ℚ) * 2 ^ scale)
    linarith

end Quotient

theorem le_of_ofNat? {n : Nat} {x : Binary64} (rounded : ofNat? n = some x) :
    (n : ℚ) ≤ 4 * x.value := by
  cases n with
  | zero =>
    have nonneg := x.value_nonneg
    rw [Nat.cast_zero]
    linarith
  | succ n =>
    have bound := le_of_ofQuotient? Nat.one_pos (Nat.le_add_left 1 n) rounded
    rwa [Nat.cast_one, div_one] at bound

theorem le_of_mul? {x y z : Binary64} (large : 1 ≤ x.value * y.value)
    (rounded : x.mul? y = some z) : x.value * y.value ≤ 4 * z.value := by
  have pos : 0 < x.denominator * y.denominator := Nat.mul_pos x.denominator_pos y.denominator_pos
  have den_pos : (0 : ℚ) < (x.denominator * y.denominator : Nat) := by exact_mod_cast pos
  have quotient : ((x.numerator * y.numerator : Nat) : ℚ) / (x.denominator * y.denominator : Nat) =
      x.value * y.value := by
    rw [div_eq_iff den_pos.ne', Nat.cast_mul, Nat.cast_mul, x.numerator_eq, y.numerator_eq]
    ring
  have least : x.denominator * y.denominator ≤ x.numerator * y.numerator := by
    rw [← quotient, le_div_iff₀ den_pos, one_mul] at large
    exact_mod_cast large
  rw [← quotient]
  exact le_of_ofQuotient? pos least rounded

end ShowRemote.Decimal.Binary64
