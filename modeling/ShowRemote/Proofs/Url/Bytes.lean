import ShowRemote.Proofs.Text.Pieces
import ShowRemote.Proofs.Url.Digits

/-!
Addresses of four bytes that are read again. However few numbers an address is given with, it has no
more than 32 bits (`ipv4?_lt`), and is written as four numbers that are a byte each.

Main statements: `ipv4?_lt`, `ipv4?_writeIpv4`.
-/

set_option autoImplicit false

namespace ShowRemote.Url.Host

def addByte (sum : Nat) (n : Nat × Nat) : Nat :=
  sum + n.1 * Nat.pow 256 (3 - n.2)

private theorem foldl_addByte_add (numbers : List (Nat × Nat)) (more sum : Nat) :
    numbers.foldl addByte (more + sum) = more + numbers.foldl addByte sum := by
  induction numbers generalizing sum with
  | nil => rfl
  | cons n numbers ih => rw [List.foldl_cons, List.foldl_cons, addByte, Nat.add_assoc, ih, addByte]

private theorem sum_lt {leading : List Nat} {k last : Nat} (few : k + leading.length ≤ 3)
    (bytes : ∀ n ∈ leading, n ≤ 255) (fits : last < 256 ^ (4 - (k + leading.length))) :
    (leading.zipIdx k).foldl addByte last < 256 ^ (4 - k) := by
  induction leading generalizing k with
  | nil => exact fits
  | cons n leading ih =>
    obtain ⟨byte, others⟩ := List.forall_mem_cons.mp bytes
    rw [List.length_cons] at few fits
    have count : k + 1 + leading.length = k + (leading.length + 1) := by omega
    have rest : (leading.zipIdx (k + 1)).foldl addByte last < 256 ^ (3 - k) := by
      have below := ih (k := k + 1) (by omega) others (by rwa [count])
      rwa [show 4 - (k + 1) = 3 - k by omega] at below
    have room : 256 ^ (4 - k) = 256 * 256 ^ (3 - k) := by
      rw [show 4 - k = 3 - k + 1 by omega, Nat.pow_succ, Nat.mul_comm]
    have first : addByte last (n, k) = n * 256 ^ (3 - k) + last := Nat.add_comm ..
    have high : n * 256 ^ (3 - k) ≤ 255 * 256 ^ (3 - k) := Nat.mul_le_mul_right _ byte
    rw [List.zipIdx_cons, List.foldl_cons, first, foldl_addByte_add, room]
    omega

theorem ipv4?_lt {name : List Char} {address : Nat} (read : ipv4? name = some address) :
    address < 2 ^ 32 := by
  unfold ipv4? at read
  split at read
  · cases read
  · next numbers _ =>
    split at read
    · cases read
    · next last _ =>
      simp only at read
      split at read
      · cases read
      · next allowed =>
        simp only [not_or, not_lt, not_le, Bool.not_eq_true, List.any_eq_false,
          decide_eq_true_eq] at allowed
        obtain ⟨few, fits, bytes⟩ := allowed
        obtain rfl := Option.some.inj read
        have bound := sum_lt (k := 0) (by omega) bytes (by rwa [Nat.zero_add])
        exact bound

def byteList (address : Nat) : List Nat :=
  [address / Nat.pow 256 3 % 256, address / Nat.pow 256 2 % 256, address / 256 % 256, address % 256]

private theorem writeIpv4_eq (address : Nat) :
    writeIpv4 address = ['.'].intercalate ((byteList address).map (Nat.toDigits 10)) := by
  simp [writeIpv4, byteList, List.intercalate_cons_cons]

theorem isDigit_of_mem_toDigits {n : Nat} {c : Char} (mem : c ∈ Nat.toDigits 10 n) : c.isDigit :=
  Nat.isDigit_of_mem_toDigits (by decide) (by decide) mem

private theorem ne_point_of_isDigit {c : Char} (digit : c.isDigit) : c ≠ '.' := by
  rintro rfl
  cases digit

theorem pieces_writeIpv4 (address : Nat) :
    Text.pieces (fun c => c = '.') (writeIpv4 address) =
      (byteList address).map (Nat.toDigits 10) := by
  rw [writeIpv4_eq]
  refine Text.pieces_intercalate (decide_eq_true rfl) (by simp [byteList]) ?_
  intro s mem c inside
  obtain ⟨n, -, rfl⟩ := List.mem_map.mp mem
  exact decide_eq_false (ne_point_of_isDigit (isDigit_of_mem_toDigits inside))

private theorem labels_writeIpv4 (address : Nat) :
    labels (writeIpv4 address) = (byteList address).map (Nat.toDigits 10) := by
  obtain ⟨c, digits, last⟩ :=
    List.exists_cons_of_ne_nil (Nat.toDigits_ne_nil (n := address % 256) (b := 10))
  rw [labels, pieces_writeIpv4]
  simp [byteList, last]

private theorem toDigits_ne_zero_cons {n : Nat} (c : Char) (digits : List Char) :
    Nat.toDigits 10 n ≠ '0' :: c :: digits := by
  induction n using Nat.strongRecOn generalizing c digits with
  | ind n ih =>
    rw [Nat.toDigits_eq_if (by decide)]
    split
    · intro same
      cases (List.cons.inj same).2
    · next large =>
      have positive : 0 < n / 10 := by omega
      intro same
      cases front : Nat.toDigits 10 (n / 10) with
      | nil => exact Nat.toDigits_ne_nil front
      | cons d others =>
        rw [front, List.cons_append] at same
        obtain ⟨rfl, -⟩ := List.cons.inj same
        cases others with
        | nil =>
          -- A single digit in front is that of a number, which is not zero.
          have value := Nat.ofDigitChars_toDigits (b := 10) (n := n / 10) (by decide) (by decide)
          rw [front] at value
          have zero : Nat.ofDigitChars 10 ['0'] 0 = 0 := rfl
          omega
        | cons e others => exact ih (n / 10) (by omega) e others front

private theorem ipv4Number?_toDigits (n : Nat) : ipv4Number? (Nat.toDigits 10 n) = some n := by
  have read : readDigits 10 (Nat.toDigits 10 n) = some n :=
    readDigits_toDigits (by decide) (by decide) n
  unfold ipv4Number?
  split
  · next none => exact (Nat.toDigits_ne_nil none).elim
  · next digits same => exact (toDigits_ne_zero_cons _ _ same).elim
  · next digits same => exact (toDigits_ne_zero_cons _ _ same).elim
  · next d digits _ _ same => exact (toDigits_ne_zero_cons _ _ same).elim
  · exact read

theorem ipv4?_writeIpv4 {address : Nat} (small : address < 2 ^ 32) :
    ipv4? (writeIpv4 address) = some address := by
  have numbers : ((byteList address).map (Nat.toDigits 10)).mapM ipv4Number? =
      some (byteList address) := by
    simp [byteList, ipv4Number?_toDigits]
  have bytes : address % 256 < 256 ∧ address / 16777216 % 256 ≤ 255 ∧
      address / 65536 % 256 ≤ 255 ∧ address / 256 % 256 ≤ 255 := by omega
  have sum : address % 256 + address / 16777216 % 256 * 16777216 + address / 65536 % 256 * 65536 +
      address / 256 % 256 * 256 = address := by omega
  simp only [ipv4?, labels_writeIpv4, numbers]
  simpa [byteList] using ⟨bytes, sum⟩

theorem endsInNumber_writeIpv4 (address : Nat) : endsInNumber (writeIpv4 address) = true := by
  have decimal : isDecimal (Nat.toDigits 10 (address % 256)) = true := by
    rw [isDecimal, Bool.and_eq_true]
    refine ⟨by simp [Nat.toDigits_ne_nil], List.all_eq_true.mpr fun c mem => ?_⟩
    have digit := isDigit_of_mem_toDigits mem
    simpa [Char.isDigit, Char.le_def] using digit
  simp [endsInNumber, labels_writeIpv4, byteList, decimal]

end ShowRemote.Url.Host
