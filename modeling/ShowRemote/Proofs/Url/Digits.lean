import Mathlib
import ShowRemote.Url.Host

/-!
Digits of addresses. A number is read from its own digits in any base up to sixteen, and a number of
so many digits is less than that power of its base.
-/

set_option autoImplicit false

namespace ShowRemote.Url

theorem exists_of_mem_toDigits {base n : Nat} (two : 1 < base) {c : Char}
    (mem : c ∈ Nat.toDigits base n) : ∃ d < base, c = Nat.digitChar d := by
  induction n using Nat.strongRecOn with
  | ind n ih =>
    rw [Nat.toDigits_eq_if two] at mem
    split at mem
    · next small => exact ⟨n, small, List.mem_singleton.mp mem⟩
    · next large =>
      have less : n / base < n := Nat.div_lt_self (by omega) two
      rcases List.mem_append.mp mem with mem | mem
      · exact ih (n / base) less mem
      · exact ⟨n % base, Nat.mod_lt n (by omega), List.mem_singleton.mp mem⟩

private theorem hexValue?_digitChar : ∀ d < 16, hexValue? (Nat.digitChar d) = some d := by
  decide

namespace Host

def nextDigit? (base : Nat) (total : Option Nat) (c : Char) : Option Nat :=
  match total, hexValue? c with
  | some n, some d => if d < base then some (n * base + d) else none
  | _, _ => none

private theorem readDigits_concat (base : Nat) (digits : List Char) (c : Char) :
    readDigits base (digits ++ [c]) = nextDigit? base (readDigits base digits) c := by
  rw [readDigits, List.foldl_append]
  rfl

theorem readDigits_toDigits {base : Nat} (two : 1 < base) (sixteen : base ≤ 16) (n : Nat) :
    readDigits base (Nat.toDigits base n) = some n := by
  have digit : ∀ total d, d < base →
      nextDigit? base (some total) (Nat.digitChar d) = some (total * base + d) := by
    intro total d small
    simp only [nextDigit?, hexValue?_digitChar d (by omega), if_pos small]
  induction n using Nat.strongRecOn with
  | ind n ih =>
    rw [Nat.toDigits_eq_if two]
    split
    · next small =>
      have single := readDigits_concat base [] (Nat.digitChar n)
      rw [List.nil_append] at single
      have zero : readDigits base [] = some 0 := rfl
      rw [single, zero, digit 0 n small, Nat.zero_mul, Nat.zero_add]
    · next large =>
      have less : n / base < n := Nat.div_lt_self (by omega) two
      have last : n % base < base := Nat.mod_lt n (by omega)
      rw [readDigits_concat, ih (n / base) less, digit _ _ last, Nat.div_add_mod']

theorem lt_of_readDigits {base : Nat} {digits : List Char} {n : Nat}
    (read : readDigits base digits = some n) : n < base ^ digits.length := by
  induction digits using List.reverseRecOn generalizing n with
  | nil =>
    cases read
    exact Nat.one_pos
  | append_singleton digits c ih =>
    rw [readDigits_concat] at read
    cases before : readDigits base digits with
    | none =>
      rw [before] at read
      cases read
    | some total =>
      cases value : hexValue? c with
      | none => simp [nextDigit?, before, value] at read
      | some d =>
        simp only [nextDigit?, before, value] at read
        split at read
        · next small =>
          obtain rfl := Option.some.inj read
          have bound := ih before
          rw [List.length_append, List.length_singleton, Nat.pow_succ]
          calc
            total * base + d < total * base + base := by omega
            _ = (total + 1) * base := by ring
            _ ≤ base ^ digits.length * base := Nat.mul_le_mul_right base bound
        · cases read

end Host
end ShowRemote.Url
