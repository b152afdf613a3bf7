import ShowRemote.Http.Transfer
import Mathlib

/-!
What is made of an answer whose head announces the length of its body. The lines of the head are
read back from their bytes (`takeHead?_headBytes`), and the reply is whole if as many bytes follow
as were announced, before the connection ends.

Main statement: `receive?_announced`.
-/

set_option autoImplicit false

namespace ShowRemote.Http

/-- Characters of one byte each, on one line. -/
structure IsLine (line : List Char) : Prop where
  inhabited : line ≠ []
  small : ∀ c ∈ line, c.toNat < 256
  unbroken : ∀ c ∈ line, c ≠ '\n'

private theorem isLine_iff (line : List Char) :
    IsLine line ↔ line ≠ [] ∧ line.all fun c => c.toNat < 256 && c ≠ '\n' := by
  simp only [List.all_eq_true, Bool.and_eq_true, decide_eq_true_eq]
  constructor
  · rintro ⟨inhabited, small, unbroken⟩
    exact ⟨inhabited, fun c mem => ⟨small c mem, unbroken c mem⟩⟩
  · rintro ⟨inhabited, chars⟩
    exact ⟨inhabited, fun c mem => (chars c mem).1, fun c mem => (chars c mem).2⟩

instance (line : List Char) : Decidable (IsLine line) :=
  decidable_of_iff' _ (isLine_iff line)

def lineBytes (line : List Char) : List UInt8 :=
  line.map fun c => UInt8.ofNat c.toNat

def headBytes (lines : List (List Char)) : List UInt8 :=
  lines.flatMap (fun line => lineBytes line ++ [13, 10]) ++ [13, 10]

private theorem ofNat_toNat_byte {c : Char} (small : c.toNat < 256) :
    Char.ofNat (UInt8.ofNat c.toNat).toNat = c := by
  rw [UInt8.toNat_ofNat_of_lt' small, Char.ofNat_toNat]

private theorem byte_ne_ten {c : Char} (small : c.toNat < 256) (other : c ≠ '\n') :
    UInt8.ofNat c.toNat ≠ 10 := by
  intro same
  apply other
  rw [← ofNat_toNat_byte small, same]
  rfl

private theorem takeLine?_cons {b : UInt8} (other : b ≠ 10) {rest : List UInt8}
    (unended : b = 13 → rest.head? ≠ some 10) :
    takeLine? (b :: rest) =
      (takeLine? rest).map fun line => (Char.ofNat b.toNat :: line.1, line.2) := by
  rw [takeLine?]
  · rintro behind rfl rfl
    exact unended rfl rfl
  · rintro rfl
    exact other rfl

private theorem takeLine?_lineBytes {line : List Char} (small : ∀ c ∈ line, c.toNat < 256)
    (unbroken : ∀ c ∈ line, c ≠ '\n') (rest : List UInt8) :
    takeLine? (lineBytes line ++ (13 :: 10 :: rest)) = some (line, rest) := by
  induction line with
  | nil => rfl
  | cons c line ih =>
    obtain ⟨smallFirst, small⟩ := List.forall_mem_cons.mp small
    obtain ⟨unbrokenFirst, unbroken⟩ := List.forall_mem_cons.mp unbroken
    have unended : (lineBytes line ++ (13 :: 10 :: rest)).head? ≠ some 10 := by
      cases line with
      | nil => exact nofun
      | cons d line =>
        intro same
        exact byte_ne_ten (small d List.mem_cons_self) (unbroken d List.mem_cons_self)
          (Option.some.inj same)
    show takeLine? (UInt8.ofNat c.toNat :: (lineBytes line ++ _)) = _
    rw [takeLine?_cons (byte_ne_ten smallFirst unbrokenFirst) fun _ => unended,
      ih small unbroken, Option.map_some, ofNat_toNat_byte smallFirst]

theorem takeHead?_headBytes {lines : List (List Char)} (isLine : ∀ line ∈ lines, IsLine line)
    (rest : List UInt8) {fuel : Nat} (lasts : lines.length < fuel) :
    takeHead? fuel (headBytes lines ++ rest) = some (lines, rest) := by
  induction lines generalizing fuel with
  | nil =>
    obtain ⟨fuel, rfl⟩ := Nat.exists_eq_add_of_lt lasts
    rfl
  | cons line lines ih =>
    obtain ⟨first, others⟩ := List.forall_mem_cons.mp isLine
    rw [List.length_cons] at lasts
    obtain ⟨fuel, rfl⟩ : ∃ n, fuel = n + 1 := ⟨fuel - 1, by omega⟩
    have split : headBytes (line :: lines) ++ rest =
        lineBytes line ++ (13 :: 10 :: (headBytes lines ++ rest)) := by
      simp [headBytes]
    rw [split, takeHead?, takeLine?_lineBytes first.small first.unbroken]
    cases line with
    | nil => exact (first.inhabited rfl).elim
    | cons c line =>
      show (takeHead? fuel (headBytes lines ++ rest)).map _ = _
      rw [ih others (by omega)]
      rfl

private theorem length_lt_headBytes (lines : List (List Char)) :
    lines.length < (headBytes lines).length := by
  induction lines with
  | nil => exact Nat.zero_lt_two
  | cons line lines ih =>
    simp only [headBytes, List.flatMap_cons, List.length_append, List.length_cons] at ih ⊢
    omega

/-- A head that gives a final status and announces the length of a body. -/
structure Announces (status length : Nat) (first : List Char) (headers : List (List Char)) :
    Prop where
  isLine : ∀ line ∈ first :: headers, IsLine line
  tells : status? first = some status
  final : 200 ≤ status
  unchunked : header? "transfer-encoding".toList headers = none
  announced : (header? "content-length".toList headers).bind (Url.Host.readDigits 10) = some length

/-- The reply of an announced answer behind whose head some bytes came. Two statuses have no body,
and the others have one that is whole if as many bytes came as were announced. -/
def announcedReply (status length : Nat) (sent : List UInt8) : Reply :=
  if status = 204 ∨ status = 304 then ⟨status, [], true⟩
  else ⟨status, sent.take length, length ≤ sent.length⟩

theorem status_announcedReply (status length : Nat) (sent : List UInt8) :
    (announcedReply status length sent).status = status := by
  rw [announcedReply]
  split <;> rfl

theorem announcedReply_of_body {status : Nat} (noContent : status ≠ 204)
    (notModified : status ≠ 304) (length : Nat) (sent : List UInt8) :
    announcedReply status length sent = ⟨status, sent.take length, length ≤ sent.length⟩ := by
  rw [announcedReply, if_neg]
  rintro (same | same)
  · exact noContent same
  · exact notModified same

/-- An announced answer is taken when nothing more is waited for, whole or not. -/
theorem receive?_announced {status length : Nat} {first : List Char} {headers : List (List Char)}
    (announces : Announces status length first headers) {reads : Nat → Bool} {ended : Bool}
    (settled : (ended || !reads status) = true) (sent : List UInt8) {fuel : Nat} :
    receive? reads ended (fuel + 1) (headBytes (first :: headers) ++ sent) =
      some (.answered (announcedReply status length sent)) := by
  obtain ⟨isLine, tells, final, unchunked, announced⟩ := announces
  have lasts : (first :: headers).length < (headBytes (first :: headers) ++ sent).length + 1 := by
    have := length_lt_headBytes (first :: headers)
    rw [List.length_append]
    omega
  have notInterim : ¬ status < 200 := by omega
  cases first with
  | nil => exact ((isLine [] List.mem_cons_self).inhabited rfl).elim
  | cons c first =>
    rw [receive?, takeHead?_headBytes isLine sent lasts]
    simp only [tells, if_neg notInterim, settled, replyOf?, announcedReply, unchunked, announced]
    split
    · rfl
    · rw [if_neg (by decide)]
      split
      · next complete => simp [complete]
      · next cut => simp [cut, List.take_of_length_le (Nat.le_of_not_le cut)]

/-- A head with a length, as a server may send it. -/
example : Announces 200 2 "HTTP/1.1 200 OK".toList ["Content-Length:  2".toList] :=
  ⟨by decide +kernel, rfl, by decide, rfl, rfl⟩

end ShowRemote.Http
