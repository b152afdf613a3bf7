import ShowRemote.Proofs.Decimal.Rounding
import ShowRemote.Proofs.Json.Grammar

/-!
The literal of an integer as a document. An integer of 64 bits, signed or not, is held as itself.
Any other is held as a double, if it is held at all: a significand of 64 bits is gathered from its
first digits, and however often it is rounded on the way to a double, what is held stays large.

Main statements: `parse_writeInt`, `heldAs_of_parse`.
-/

set_option autoImplicit false

namespace ShowRemote.Json

open Text (Symbol)
open Decimal (Binary64)

namespace Read

private theorem isSome_powerOfTen :
    ∀ n ≤ longestStride, (Binary64.ofNat? (Nat.pow 10 n)).isSome := by
  decide +kernel

private theorem pow_le_powerOfTen {n : Nat} (stride : n ≤ longestStride) :
    (10 : ℚ) ^ n ≤ 4 * (powerOfTen n).value := by
  obtain ⟨x, rounded⟩ := Option.isSome_iff_exists.mp (isSome_powerOfTen n stride)
  have bound := Binary64.le_of_ofNat? rounded
  rw [powerOfTen, rounded, Option.getD_some]
  exact_mod_cast bound

private theorem scaleByTen?_natCast (strides : Nat) (x : Binary64) (excess : Nat) :
    scaleByTen? (strides + 1) x excess =
      if excess ≤ longestStride then x.mul? (powerOfTen excess)
      else if x.significand = 0 then some x else none := by
  have up : (0 : Int) ≤ excess := Int.natCast_nonneg excess
  -- Unfolding it further would compute the power of the longest stride.
  delta scaleByTen?
  with_reducible
    show (if (excess : Int).natAbs ≤ longestStride then
        if (0 : Int) ≤ excess then x.mul? (powerOfTen (excess : Int).natAbs) else _
      else if x.significand = 0 then some x
      else if (0 : Int) ≤ excess then none else _) = _
  rw [Int.natAbs_natCast, if_pos up, if_pos up]

/-- Three roundings lie between a significand and its magnitude with more digits. -/
private theorem le_of_magnitude? {significand excess : Nat} (large : 16 ≤ significand)
    {m : Binary64} (held : magnitude? significand excess = some m) :
    (significand : ℚ) ≤ 64 * m.value := by
  rw [magnitude?] at held
  cases rounded : Binary64.ofNat? significand with
  | none =>
    rw [rounded] at held
    cases held
  | some x =>
    have bound := Binary64.le_of_ofNat? rounded
    have sixteen : (16 : ℚ) ≤ significand := by exact_mod_cast large
    simp only [rounded, scaleByTen?_natCast] at held
    split at held
    · next stride =>
      have power := pow_le_powerOfTen stride
      have one : (1 : ℚ) ≤ 10 ^ excess := one_le_pow₀ (by norm_num)
      have product : (significand : ℚ) / 16 ≤ x.value * (powerOfTen excess).value := by
        calc
          (significand : ℚ) / 16 = significand / 4 * (1 / 4) := by ring
          _ ≤ x.value * (powerOfTen excess).value := by
            apply mul_le_mul <;> linarith [x.value_nonneg]
      have last := Binary64.le_of_mul? (by linarith) held
      linarith
    · have positive : x.significand ≠ 0 := by
        intro zero
        have nothing : x.value = 0 := by rw [Binary64.value, zero, Nat.cast_zero, zero_mul]
        linarith
      rw [if_neg positive] at held
      cases held

private theorem digit?_of_isDigit {c : Char} (digit : c.isDigit) :
    digit? (.char c) = some (c.toNat - '0'.toNat) :=
  Text.digitValue?_of_isDigit digit

private theorem isDigit_of_isDigit {c : Char} (digit : c.isDigit) : isDigit (.char c) := by
  rw [isDigit, digit?_of_isDigit digit]
  rfl

theorem toNat_of_isDigit {c : Char} (digit : c.isDigit) : 48 ≤ c.toNat ∧ c.toNat ≤ 57 := by
  simp only [Char.isDigit, Bool.and_eq_true, decide_eq_true_eq, UInt32.le_iff_toNat_le] at digit
  exact digit

/-- Digits are gathered to the last one, or up to a total that has no room for the next. -/
private theorem gatherDigits_digits {digits : List Char} (all : ∀ c ∈ digits, c.isDigit)
    (total : Nat) (fits : total ≤ greatestSignificand) :
    (Nat.ofDigitChars 10 digits total ≤ greatestSignificand ∧
      gatherDigits total (digits.map .char) = (Nat.ofDigitChars 10 digits total, [])) ∨
    (greatestSignificand < Nat.ofDigitChars 10 digits total ∧ ∃ gathered left,
      left ≠ [] ∧ (∀ c ∈ left, c.isDigit) ∧ greatestSignificand < 10 * gathered + 10 ∧
        gatherDigits total (digits.map .char) = (gathered, left.map .char)) := by
  induction digits generalizing total with
  | nil => exact .inl ⟨by rwa [Nat.ofDigitChars_nil], by rw [Nat.ofDigitChars_nil]; rfl⟩
  | cons c digits ih =>
    have digit := all c List.mem_cons_self
    have others : ∀ c ∈ digits, c.isDigit := fun c mem => all c (List.mem_cons_of_mem _ mem)
    have next : total * 10 + (c.toNat - '0'.toNat) = 10 * total + (c.toNat - '0'.toNat) := by omega
    simp only [List.map_cons, gatherDigits, digit?_of_isDigit digit, Nat.ofDigitChars_cons, next]
    by_cases room : 10 * total + (c.toNat - '0'.toNat) ≤ greatestSignificand
    · rw [if_pos room]
      exact ih others _ room
    · rw [if_neg room]
      have least := Text.le_ofDigitChars digits (10 * total + (c.toNat - '0'.toNat))
      have value := (toNat_of_isDigit digit).2
      have zero : '0'.toNat = 48 := rfl
      exact .inr ⟨by omega, total, c :: digits, List.cons_ne_nil _ _, all, by omega, rfl⟩

private theorem head_toDigits {k : Nat} (pos : 0 < k) :
    ∃ c digits, Nat.toDigits 10 k = c :: digits ∧ c ≠ '0' := by
  induction k using Nat.strong_induction_on with
  | _ k ih =>
    rw [Nat.toDigits_eq_if (by decide)]
    by_cases one : k < 10
    · rw [if_pos one]
      exact ⟨_, [], rfl, fun zero => pos.ne' (Nat.digitChar_eq_zero.mp zero)⟩
    · rw [if_neg one]
      obtain ⟨c, digits, same, nonzero⟩ := ih (k / 10) (by omega) (by omega)
      exact ⟨c, digits ++ _, by rw [same, List.cons_append], nonzero⟩

theorem isDigit_toDigits (k : Nat) : ∀ c ∈ Nat.toDigits 10 k, c.isDigit :=
  fun _ mem => Nat.isDigit_of_mem_toDigits (by decide) (by decide) mem

private theorem not_isDigit_left {left : List Char} (all : ∀ c ∈ left, c.isDigit) :
    (left.map Symbol.char).takeWhile isDigit = left.map .char ∧
      (left.map Symbol.char).dropWhile isDigit = [] := by
  have every : ∀ x ∈ left.map Symbol.char, isDigit x := by
    intro x mem
    obtain ⟨c, member, rfl⟩ := List.mem_map.mp mem
    exact isDigit_of_isDigit (all c member)
  exact ⟨List.takeWhile_eq_self_iff.mpr every, List.dropWhile_eq_nil_iff.mpr every⟩

private theorem number_toDigits (negative : Bool) (k : Nat) :
    (k ≤ greatestSignificand ∧
      number negative ((Nat.toDigits 10 k).map .char) = finishNumber negative k 0 []) ∨
    (greatestSignificand < k ∧ ∃ gathered excess, 0 < excess ∧
      greatestSignificand < 10 * gathered + 10 ∧
        number negative ((Nat.toDigits 10 k).map .char) =
          finishNumber negative gathered excess []) := by
  rcases Nat.eq_zero_or_pos k with rfl | pos
  · exact .inl ⟨Nat.zero_le _, rfl⟩
  · obtain ⟨c, digits, same, nonzero⟩ := head_toDigits pos
    have all := isDigit_toDigits k
    have value := Nat.ofDigitChars_ten_toDigits (n := k)
    rw [same] at all value ⊢
    have digit := all c List.mem_cons_self
    obtain ⟨least, greatest⟩ := toNat_of_isDigit digit
    have zero : '0'.toNat = 48 := rfl
    obtain ⟨d, lead⟩ : ∃ d, c.toNat - '0'.toNat = d + 1 := by
      have apart : c.toNat ≠ '0'.toNat := fun same => nonzero (Char.toNat_inj.mp same)
      exact ⟨c.toNat - 49, by omega⟩
    rw [Nat.ofDigitChars_cons, Nat.mul_zero, Nat.zero_add, lead] at value
    have small : d + 1 ≤ greatestSignificand := by
      have ten : 10 ≤ greatestSignificand := by decide
      omega
    have others : ∀ c ∈ digits, c.isDigit := fun c mem => all c (List.mem_cons_of_mem _ mem)
    simp only [List.map_cons, number, digit?_of_isDigit digit, lead]
    rcases gatherDigits_digits others (d + 1) small with
      ⟨fits, gathered⟩ | ⟨exceeds, gathered, left, some_left, all_left, full, stops⟩
    · rw [gathered, value]
      rw [value] at fits
      exact .inl ⟨fits, rfl⟩
    · obtain ⟨taken, dropped⟩ := not_isDigit_left all_left
      rw [value] at exceeds
      rw [stops, taken, dropped]
      refine .inr ⟨exceeds, gathered, (left.map Symbol.char).length, ?_, full, rfl⟩
      rw [List.length_map]
      exact List.length_pos_iff.mpr some_left

end Read

def InReach (n : Int) : Prop :=
  -2 ^ 63 ≤ n ∧ n < 2 ^ 64

/-- How the literal of an integer is held. -/
inductive HeldAs (n : Int) : Number → Prop
  | integer (inside : InReach n) : HeldAs n (.integer n)
  | double (outside : ¬ InReach n) {m : Binary64} (large : 2 ^ 54 ≤ m.value) :
      HeldAs n (.double (decide (n < 0)) m)

namespace Read

private theorem finishDouble_nil_ok {negative : Bool} {significand excess : Nat} {n : Number}
    {left : List Symbol} (read : finishDouble negative significand excess [] = .ok (n, left)) :
    left = [] ∧ ∃ m, n = .double negative m ∧ magnitude? significand excess = some m := by
  rw [finishDouble] at read
  cases held : magnitude? significand excess with
  | none =>
    rw [held] at read
    cases read
  | some m =>
    rw [held] at read
    cases read
    exact ⟨rfl, m, rfl, rfl⟩

private theorem finishNumber_nil (negative : Bool) (significand excess : Nat) :
    finishNumber negative significand excess [] =
      if 0 < excess then finishDouble negative significand excess []
      else if negative = false then .ok (.integer significand, [])
      else if 0 < significand ∧ significand ≤ Nat.pow 2 63 then .ok (.integer (-significand), [])
      else finishDouble true significand 0 [] :=
  rfl

private theorem number_of_inReach (negative : Bool) {k : Nat} (unsigned : negative = true → 0 < k)
    (inside : InReach (Text.signed negative k)) :
    number negative ((Nat.toDigits 10 k).map .char) =
      .ok (.integer (Text.signed negative k), []) := by
  obtain ⟨least, greatest⟩ := inside
  rcases number_toDigits negative k with ⟨fits, read⟩ | ⟨exceeds, -⟩
  · rw [read, finishNumber_nil, if_neg (Nat.lt_irrefl 0)]
    cases negative with
    | false => rfl
    | true =>
      simp only [Text.signed, if_true] at least
      have bounds : 0 < k ∧ k ≤ Nat.pow 2 63 := ⟨unsigned rfl, show k ≤ 2 ^ 63 by omega⟩
      rw [if_neg (by decide), if_pos bounds]
      rfl
  · have limit : greatestSignificand = 2 ^ 64 - 1 := rfl
    cases negative <;> simp only [Text.signed, if_true, if_false, Bool.false_eq_true] at * <;> omega

private theorem number_of_not_inReach (negative : Bool) {k : Nat}
    (outside : ¬ InReach (Text.signed negative k)) {n : Number} {left : List Symbol}
    (read : number negative ((Nat.toDigits 10 k).map .char) = .ok (n, left)) :
    left = [] ∧ ∃ m : Binary64, n = .double negative m ∧ 2 ^ 54 ≤ m.value := by
  have limit : greatestSignificand = 2 ^ 64 - 1 := rfl
  have large : ∀ {negative : Bool} {significand : Nat} (excess : Nat), 2 ^ 60 ≤ significand →
      finishDouble negative significand excess [] = .ok (n, left) →
        left = [] ∧ ∃ m : Binary64, n = .double negative m ∧ 2 ^ 54 ≤ m.value := by
    intro negative significand excess least read
    obtain ⟨rfl, m, rfl, held⟩ := finishDouble_nil_ok read
    have bound := le_of_magnitude? (by omega) held
    have cast : (2 : ℚ) ^ 60 ≤ significand := by exact_mod_cast least
    exact ⟨rfl, m, rfl, by linarith⟩
  rcases number_toDigits negative k with
    ⟨fits, same⟩ | ⟨exceeds, gathered, excess, some_excess, full, same⟩
  · rw [same, finishNumber_nil, if_neg (Nat.lt_irrefl 0)] at read
    cases negative with
    | false =>
      refine (outside ⟨?_, ?_⟩).elim <;> simp only [Text.signed, Bool.false_eq_true, if_false] <;>
        omega
    | true =>
      have beyond : 2 ^ 63 < k := by
        by_contra within
        refine outside ⟨?_, ?_⟩ <;> simp only [Text.signed, if_true] <;> omega
      have unheld : ¬ (0 < k ∧ k ≤ Nat.pow 2 63) := fun bounds =>
        absurd beyond (Nat.not_lt.mpr bounds.2)
      rw [if_neg (by decide), if_neg unheld] at read
      exact large 0 (by omega) read
  · rw [same, finishNumber_nil, if_pos some_excess] at read
    exact large _ (by omega) read

end Read

theorem writeInt_eq (n : Int) :
    writeInt n = (if n < 0 then ['-'] else []) ++ Nat.toDigits 10 n.natAbs := by
  rw [writeInt]
  split <;> rfl

private theorem signed_natAbs (n : Int) : Text.signed (decide (n < 0)) n.natAbs = n := by
  unfold Text.signed
  by_cases negative : n < 0
  · rw [decide_eq_true negative, if_pos rfl]
    omega
  · rw [decide_eq_false negative, if_neg Bool.false_ne_true]
    omega

private theorem value_writeInt (n : Int) :
    Read.value greatestDepth ((writeInt n).map .char) =
      (Read.number (decide (n < 0)) ((Nat.toDigits 10 n.natAbs).map .char)).map
        fun read => (.number read.1, read.2) := by
  show Read.valueWith (some (Read.value (greatestDepth - 1))) _ = _
  rw [writeInt_eq]
  by_cases negative : n < 0
  · rw [if_pos negative, decide_eq_true negative, List.singleton_append]
    show (Read.number true ((Nat.toDigits 10 n.natAbs).map .char) >>= _) = _
    cases Read.number true ((Nat.toDigits 10 n.natAbs).map .char) <;> rfl
  · rw [if_neg negative, decide_eq_false negative, List.nil_append]
    have all := Read.isDigit_toDigits n.natAbs
    cases digits : Nat.toDigits 10 n.natAbs with
    | nil => exact (Nat.toDigits_ne_nil digits).elim
    | cons c rest =>
      rw [digits] at all
      exact Read.valueWith_digit _ _ (all c List.mem_cons_self)

theorem parse_writeInt {n : Int} (inside : InReach n) :
    parse ((writeInt n).map .char) = .ok (.number (.integer n)) := by
  have unsigned : decide (n < 0) = true → 0 < n.natAbs := by
    intro negative
    have less := of_decide_eq_true negative
    omega
  have read := Read.number_of_inReach (decide (n < 0)) unsigned
    (by rwa [signed_natAbs])
  rw [signed_natAbs] at read
  have value := value_writeInt n
  rw [read] at value
  rw [parse, readWhole_of_read value rfl]
  rfl

/-- However the literal of an integer is held, a large integer is not held as a small number. -/
theorem heldAs_of_parse {n : Int} {v : Json} (parsed : parse ((writeInt n).map .char) = .ok v) :
    ∃ held, v = .number held ∧ HeldAs n held := by
  by_cases inside : InReach n
  · rw [parse_writeInt inside] at parsed
    cases parsed
    exact ⟨_, rfl, .integer inside⟩
  · have value := value_writeInt n
    cases read : Read.number (decide (n < 0)) ((Nat.toDigits 10 n.natAbs).map .char) with
    | error fault =>
      rw [read] at value
      simp only [parse, readWhole, bind, Except.bind, value, Except.map, Except.mapError] at parsed
      cases parsed
    | ok result =>
      obtain ⟨held, left⟩ := result
      obtain ⟨rfl, m, rfl, large⟩ := Read.number_of_not_inReach (decide (n < 0))
        (by rwa [signed_natAbs]) read
      rw [read] at value
      rw [parse, readWhole_of_read value rfl] at parsed
      cases parsed
      exact ⟨_, rfl, .double inside large⟩

end ShowRemote.Json
