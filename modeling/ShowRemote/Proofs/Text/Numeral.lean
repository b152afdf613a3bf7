import Mathlib
import ShowRemote.Text.Numeral

/-!
What numerals denote. `Denotes` says which texts are decimal integers, and which integer each of
them is, without any bound; `readInteger_eq_ok_iff` says that reading a numeral of a signed range
accepts these texts, when their integers are in the range, and no others, and
`readNatural64_eq_ok_iff` says the same for the texts without a minus sign. Nothing is lost on the
way: the totals of the digits read so far never leave a range that the whole number is in.
-/

set_option autoImplicit false

namespace ShowRemote.Text

def IntegerRange.Holds (range : IntegerRange) (n : Int) : Prop :=
  range.least ≤ n ∧ n ≤ range.greatest

instance (range : IntegerRange) (n : Int) : Decidable (range.Holds n) :=
  inferInstanceAs (Decidable (range.least ≤ n ∧ n ≤ range.greatest))

def signed (negative : Bool) (n : Nat) : Int :=
  if negative then -(n : Int) else n

/-- One or more ASCII digits. -/
structure IsDigits (digits : List Char) : Prop where
  nonempty : digits ≠ []
  all : ∀ c ∈ digits, c.isDigit

/-- A text that is a decimal integer: ASCII digits, with a sign or without. -/
inductive Denotes : List Char → Int → Prop
  | plain {digits : List Char} (isDigits : IsDigits digits) :
      Denotes digits (Nat.ofDigitChars 10 digits 0)
  | plus {digits : List Char} (isDigits : IsDigits digits) :
      Denotes ('+' :: digits) (Nat.ofDigitChars 10 digits 0)
  | minus {digits : List Char} (isDigits : IsDigits digits) :
      Denotes ('-' :: digits) (-(Nat.ofDigitChars 10 digits 0 : Nat))

theorem digitValue?_of_isDigit {c : Char} (digit : c.isDigit) :
    digitValue? c = some (c.toNat - '0'.toNat) := by
  have bounds : '0' ≤ c ∧ c ≤ '9' := by
    simpa [Char.isDigit, Char.le_def] using digit
  simp [digitValue?, bounds]

theorem digitValue?_of_not_isDigit {c : Char} (other : ¬ c.isDigit) : digitValue? c = none := by
  have bounds : ¬ ('0' ≤ c ∧ c ≤ '9') := by
    simpa [Char.isDigit, Char.le_def] using other
  simp [digitValue?, bounds]

theorem le_ofDigitChars (digits : List Char) (total : Nat) :
    total ≤ Nat.ofDigitChars 10 digits total := by
  induction digits generalizing total with
  | nil => exact Nat.le_refl _
  | cons c digits ih =>
    rw [Nat.ofDigitChars_cons]
    exact le_trans (by omega) (ih _)

theorem signed_next (negative : Bool) (total d : Nat) :
    (if negative then signed negative total * 10 - d else signed negative total * 10 + d) =
      signed negative (10 * total + d) := by
  cases negative <;> simp [signed] <;> ring

theorem IntegerRange.holds_of_le (range : IntegerRange) (zero : range.Holds 0) {negative : Bool}
    {m n : Nat} (le : m ≤ n) (holds : range.Holds (signed negative n)) :
    range.Holds (signed negative m) := by
  unfold IntegerRange.Holds signed at *
  cases negative <;> simp at * <;> omega

/-- Digits are read onto a total when they are digits and the whole number is in the range. -/
private theorem accumulate_eq_ok_iff {range : IntegerRange} (zero : range.Holds 0) {negative : Bool}
    {total : Nat} (inside : range.Holds (signed negative total)) (digits : List Char) (n : Int) :
    accumulate range negative (signed negative total) digits = .ok n ↔
      (∀ c ∈ digits, c.isDigit) ∧ n = signed negative (Nat.ofDigitChars 10 digits total) ∧
        range.Holds n := by
  induction digits generalizing total with
  | nil =>
    simp only [accumulate, Except.ok.injEq, Nat.ofDigitChars_nil, List.not_mem_nil, false_implies,
      implies_true, true_and]
    constructor
    · rintro rfl
      exact ⟨rfl, inside⟩
    · rintro ⟨rfl, -⟩
      rfl
  | cons c digits ih =>
    by_cases digit : c.isDigit
    · simp only [accumulate, digitValue?_of_isDigit digit, signed_next, Nat.ofDigitChars_cons,
        List.forall_mem_cons, digit, true_and]
      by_cases next : range.Holds (signed negative (10 * total + (c.toNat - '0'.toNat)))
      · have bounds := next
        unfold IntegerRange.Holds at bounds
        rw [if_pos bounds, ih next]
      · have bounds := next
        unfold IntegerRange.Holds at bounds
        rw [if_neg bounds]
        refine iff_of_false nofun ?_
        rintro ⟨-, rfl, holds⟩
        exact next (range.holds_of_le zero (le_ofDigitChars _ _) holds)
    · simp [accumulate, digitValue?_of_not_isDigit digit, digit]

private theorem readUnsigned_eq_ok_iff {range : IntegerRange} (zero : range.Holds 0)
    (negative : Bool) (digits : List Char) (n : Int) :
    readUnsigned range negative digits = .ok n ↔
      IsDigits digits ∧ n = signed negative (Nat.ofDigitChars 10 digits 0) ∧ range.Holds n := by
  have start : signed negative 0 = 0 := by cases negative <;> rfl
  cases digits with
  | nil => exact iff_of_false nofun fun ⟨isDigits, _⟩ => isDigits.nonempty rfl
  | cons c digits =>
    have inside : range.Holds (signed negative 0) := by rwa [start]
    have read := accumulate_eq_ok_iff zero inside (c :: digits) n
    rw [start] at read
    refine Iff.trans read ?_
    constructor
    · rintro ⟨all, same, holds⟩
      exact ⟨⟨List.cons_ne_nil _ _, all⟩, same, holds⟩
    · rintro ⟨isDigits, same, holds⟩
      exact ⟨isDigits.all, same, holds⟩

theorem readInteger_unsigned {range : IntegerRange} {c : Char} (plus : c ≠ '+') (minus : c ≠ '-')
    (digits : List Char) :
    readInteger range (c :: digits) = readUnsigned range false (c :: digits) := by
  unfold readInteger
  split
  · next same => cases same
  · next same => exact (plus (List.cons.inj same).1).elim
  · next same => exact (minus (List.cons.inj same).1).elim
  · rfl

private theorem IsDigits.head_ne_sign {c : Char} {digits : List Char}
    (isDigits : IsDigits (c :: digits)) :
    c ≠ '+' ∧ c ≠ '-' := by
  have digit := isDigits.all c List.mem_cons_self
  constructor
  · rintro rfl
    cases digit
  · rintro rfl
    cases digit

/-- Reading accepts the texts that denote an integer in the range. -/
theorem readInteger_eq_ok_iff {range : IntegerRange} (zero : range.Holds 0)
    (negatives : range.least < 0) (s : List Char) (n : Int) :
    readInteger range s = .ok n ↔ Denotes s n ∧ range.Holds n := by
  have unsigned : ∀ digits, readUnsigned range false digits = .ok n ↔
      IsDigits digits ∧ n = (Nat.ofDigitChars 10 digits 0 : Nat) ∧ range.Holds n :=
    fun digits => readUnsigned_eq_ok_iff zero false digits n
  have negated : ∀ digits, readInteger range ('-' :: digits) = .ok n ↔
      IsDigits digits ∧ n = -(Nat.ofDigitChars 10 digits 0 : Nat) ∧ range.Holds n := by
    intro digits
    rw [readInteger, if_pos negatives]
    exact readUnsigned_eq_ok_iff zero true digits n
  constructor
  · intro read
    cases s with
    | nil => cases read
    | cons c digits =>
      by_cases plus : c = '+'
      · subst plus
        obtain ⟨isDigits, rfl, holds⟩ := (unsigned digits).mp read
        exact ⟨.plus isDigits, holds⟩
      by_cases minus : c = '-'
      · subst minus
        obtain ⟨isDigits, rfl, holds⟩ := (negated digits).mp read
        exact ⟨.minus isDigits, holds⟩
      rw [readInteger_unsigned plus minus] at read
      obtain ⟨isDigits, rfl, holds⟩ := (unsigned _).mp read
      exact ⟨.plain isDigits, holds⟩
  · rintro ⟨denotes, holds⟩
    cases denotes with
    | plain isDigits =>
      cases s with
      | nil => exact (isDigits.nonempty rfl).elim
      | cons c digits =>
        obtain ⟨plus, minus⟩ := isDigits.head_ne_sign
        rw [readInteger_unsigned plus minus]
        exact (unsigned _).mpr ⟨isDigits, rfl, holds⟩
    | plus isDigits => exact (unsigned _).mpr ⟨isDigits, rfl, holds⟩
    | minus isDigits => exact (negated _).mpr ⟨isDigits, rfl, holds⟩

theorem Denotes.isDigit_or_sign {s : List Char} {n : Int} (denotes : Denotes s n) :
    ∀ c ∈ s, c.isDigit ∨ c = '+' ∨ c = '-' := by
  intro c mem
  cases denotes with
  | plain isDigits => exact .inl (isDigits.all c mem)
  | plus isDigits =>
    rcases List.mem_cons.mp mem with rfl | mem
    · exact .inr (.inl rfl)
    · exact .inl (isDigits.all c mem)
  | minus isDigits =>
    rcases List.mem_cons.mp mem with rfl | mem
    · exact .inr (.inr rfl)
    · exact .inl (isDigits.all c mem)

theorem Denotes.exists_isDigit {s : List Char} {n : Int} (denotes : Denotes s n) :
    ∃ c ∈ s, c.isDigit := by
  have some : ∀ {digits : List Char}, IsDigits digits → ∃ c ∈ digits, c.isDigit := by
    intro digits isDigits
    obtain ⟨c, mem⟩ := List.exists_mem_of_ne_nil digits isDigits.nonempty
    exact ⟨c, mem, isDigits.all c mem⟩
  cases denotes with
  | plain isDigits => exact some isDigits
  | plus isDigits | minus isDigits =>
    obtain ⟨c, mem, digit⟩ := some isDigits
    exact ⟨c, List.mem_cons_of_mem _ mem, digit⟩

theorem Denotes.unique {s : List Char} {m n : Int} (first : Denotes s m) (second : Denotes s n) :
    m = n := by
  cases first with
  | plain isDigits =>
    cases second with
    | plain _ => rfl
    | plus _ => exact (isDigits.head_ne_sign.1 rfl).elim
    | minus _ => exact (isDigits.head_ne_sign.2 rfl).elim
  | plus isDigits =>
    cases second with
    | plain isDigits' => exact (isDigits'.head_ne_sign.1 rfl).elim
    | plus _ => rfl
  | minus isDigits =>
    cases second with
    | plain isDigits' => exact (isDigits'.head_ne_sign.2 rfl).elim
    | minus _ => rfl

/-- A text that is a natural number: ASCII digits, with a plus sign or without. -/
inductive DenotesNatural : List Char → Nat → Prop
  | plain {digits : List Char} (isDigits : IsDigits digits) :
      DenotesNatural digits (Nat.ofDigitChars 10 digits 0)
  | plus {digits : List Char} (isDigits : IsDigits digits) :
      DenotesNatural ('+' :: digits) (Nat.ofDigitChars 10 digits 0)

private theorem readInteger_eq_ok_iff_of_natural {range : IntegerRange} (zero : range.least = 0)
    (greatest : 0 ≤ range.greatest) (s : List Char) (n : Int) :
    readInteger range s = .ok n ↔ ∃ m : Nat, n = m ∧ DenotesNatural s m ∧ range.Holds m := by
  have unsigned : ∀ digits, readUnsigned range false digits = .ok n ↔
      IsDigits digits ∧ n = (Nat.ofDigitChars 10 digits 0 : Nat) ∧ range.Holds n :=
    fun digits => readUnsigned_eq_ok_iff ⟨zero.le, greatest⟩ false digits n
  constructor
  · intro read
    cases s with
    | nil => cases read
    | cons c digits =>
      by_cases plus : c = '+'
      · subst plus
        obtain ⟨isDigits, rfl, holds⟩ := (unsigned digits).mp read
        exact ⟨_, rfl, .plus isDigits, holds⟩
      by_cases minus : c = '-'
      · subst minus
        rw [readInteger, if_neg (by omega)] at read
        cases read
      rw [readInteger_unsigned plus minus] at read
      obtain ⟨isDigits, rfl, holds⟩ := (unsigned _).mp read
      exact ⟨_, rfl, .plain isDigits, holds⟩
  · rintro ⟨m, rfl, denotes, holds⟩
    cases denotes with
    | plain isDigits =>
      cases s with
      | nil => exact (isDigits.nonempty rfl).elim
      | cons c digits =>
        obtain ⟨plus, minus⟩ := isDigits.head_ne_sign
        rw [readInteger_unsigned plus minus]
        exact (unsigned _).mpr ⟨isDigits, rfl, holds⟩
    | plus isDigits => exact (unsigned _).mpr ⟨isDigits, rfl, holds⟩

theorem readNatural64_eq_ok_iff (s : List Char) (n : Nat) :
    readNatural64 s = .ok n ↔ DenotesNatural s n ∧ n < 2 ^ 64 := by
  have natural := @readInteger_eq_ok_iff_of_natural .unsigned64 rfl (by decide) s
  have holds : ∀ m : Nat, IntegerRange.unsigned64.Holds m ↔ m < 2 ^ 64 := by
    intro m
    simp only [IntegerRange.Holds, IntegerRange.unsigned64]
    omega
  rw [readNatural64]
  constructor
  · intro read
    cases integer : readInteger .unsigned64 s with
    | error fault =>
      rw [integer] at read
      cases read
    | ok m =>
      rw [integer] at read
      obtain ⟨k, rfl, denotes, small⟩ := (natural m).mp integer
      obtain rfl : k = n := by injection read
      exact ⟨denotes, (holds k).mp small⟩
  · rintro ⟨denotes, small⟩
    rw [(natural n).mpr ⟨n, rfl, denotes, (holds n).mpr small⟩]
    rfl

end ShowRemote.Text
