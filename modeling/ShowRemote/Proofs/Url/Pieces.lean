import ShowRemote.Proofs.Text.Pieces
import ShowRemote.Proofs.Url.Digits

/-!
Addresses of eight pieces that are read again. The gap that is left out of a written address is a
run of zeros (`isGap_longestGap`), and no piece holds a colon, so that the first two colons in a row
stand where the gap is.

Main statements: `isPieces_of_ipv6?`, `ipv6?_writeIpv6`.
-/

set_option autoImplicit false

namespace ShowRemote.Url.Host

/-- Eight pieces of sixteen bits. -/
structure IsPieces (ns : List Nat) : Prop where
  eight : ns.length = 8
  small : ∀ n ∈ ns, n < 65536

private theorem piece?_lt {s : List Char} {n : Nat} (read : piece? s = some n) : n < 65536 := by
  unfold piece? at read
  split at read
  · cases read
  · next short =>
    have bound := lt_of_readDigits read
    have length : s.length ≤ 4 := by
      by_contra long
      exact short (.inr (by omega))
    calc
      n < 16 ^ s.length := bound
      _ ≤ 16 ^ 4 := Nat.pow_le_pow_right (by omega) length

private theorem byte?_lt {s : List Char} {n : Nat} (read : byte? s = some n) : n < 256 := by
  unfold byte? at read
  split at read
  · split at read
    · split at read
      · next small =>
        cases read
        exact small
      · cases read
    · cases read
  · cases read

private theorem dottedPieces?_lt {s : List Char} {ns : List Nat}
    (read : dottedPieces? s = some ns) :
    ∀ n ∈ ns, n < 65536 := by
  unfold dottedPieces? at read
  split at read
  · next a b c d bytes =>
    cases read
    have small : ∀ n, some n ∈ (Text.pieces (fun c => c = '.') s).map byte? → n < 256 := by
      intro n mem
      obtain ⟨text, -, byte⟩ := List.mem_map.mp mem
      exact byte?_lt byte
    have first := small a (by rw [bytes]; simp)
    have second := small b (by rw [bytes]; simp)
    have third := small c (by rw [bytes]; simp)
    have fourth := small d (by rw [bytes]; simp)
    intro n mem
    simp only [List.mem_cons, List.not_mem_nil, or_false] at mem
    rcases mem with rfl | rfl <;> omega
  · cases read

private theorem pieceRun?_lt {dotted : Bool} {texts : List (List Char)} {ns : List Nat}
    (read : pieceRun? dotted texts = some ns) : ∀ n ∈ ns, n < 65536 := by
  induction texts generalizing ns with
  | nil =>
    cases read
    exact nofun
  | cons s rest ih =>
    cases rest with
    | nil =>
      rw [pieceRun?] at read
      split at read
      · exact dottedPieces?_lt read
      · obtain ⟨n, piece, rfl⟩ := Option.map_eq_some_iff.mp read
        intro m mem
        rw [List.mem_singleton.mp mem]
        exact piece?_lt piece
    | cons t rest =>
      rw [pieceRun?] at read
      · cases piece : piece? s with
        | none =>
          rw [piece] at read
          cases read
        | some n =>
          cases others : pieceRun? dotted (t :: rest) with
          | none =>
            rw [piece, others] at read
            cases read
          | some more =>
            rw [piece, others] at read
            cases read
            intro m mem
            rcases List.mem_cons.mp mem with rfl | mem
            · exact piece?_lt piece
            · exact ih others m mem
      · exact List.cons_ne_nil t rest

private theorem pieceList?_lt {dotted : Bool} {s : List Char} {ns : List Nat}
    (read : pieceList? dotted s = some ns) : ∀ n ∈ ns, n < 65536 := by
  unfold pieceList? at read
  split at read
  · cases read
    exact nofun
  · exact pieceRun?_lt read

theorem isPieces_of_ipv6? {s : List Char} {ns : List Nat} (read : ipv6? s = some ns) :
    IsPieces ns := by
  unfold ipv6? at read
  split at read
  · next before behind _ =>
    split at read
    · next front back front' back' =>
      split at read
      · next short =>
        cases read
        constructor
        case eight =>
          simp only [List.length_append, List.length_replicate]
          omega
        case small =>
          intro n mem
          simp only [List.mem_append, List.mem_replicate] at mem
          rcases mem with (mem | ⟨-, rfl⟩) | mem
          · exact pieceList?_lt front' n mem
          · decide
          · exact pieceList?_lt back' n mem
      · cases read
    · cases read
  · split at read
    · next all run =>
      split at read
      · next eight =>
        cases read
        exact ⟨eight, pieceRun?_lt run⟩
      · cases read
    · cases read

def pieceText (n : Nat) : List Char :=
  Nat.toDigits 16 n

private theorem ne_of_mem_pieceText {n : Nat} {c : Char} (mem : c ∈ pieceText n) :
    c ≠ ':' ∧ c ≠ '.' := by
  have digits : ∀ d < 16, Nat.digitChar d ≠ ':' ∧ Nat.digitChar d ≠ '.' := by decide
  obtain ⟨d, small, rfl⟩ := exists_of_mem_toDigits (by decide) mem
  exact digits d small

private theorem pieceText_ne_nil (n : Nat) : pieceText n ≠ [] :=
  Nat.toDigits_ne_nil

private theorem piece?_pieceText {n : Nat} (small : n < 65536) : piece? (pieceText n) = some n := by
  have short : (pieceText n).length ≤ 4 :=
    (Nat.length_toDigits_le_iff (by decide) (by decide)).mpr small
  have kept : ¬ (pieceText n = [] ∨ 4 < (pieceText n).length) := by
    rintro (empty | long)
    · exact pieceText_ne_nil n empty
    · omega
  rw [piece?, if_neg kept]
  exact readDigits_toDigits (by decide) (by decide) n

private theorem writePieces_singleton (n : Nat) : writePieces [n] = pieceText n := by
  simp [writePieces, pieceText]

private theorem writePieces_cons_cons (n m : Nat) (ns : List Nat) :
    writePieces (n :: m :: ns) = pieceText n ++ ':' :: writePieces (m :: ns) := by
  simp [writePieces, pieceText, List.intercalate_cons_cons]

private theorem exists_writePieces_cons (n : Nat) (ns : List Nat) :
    ∃ c text, writePieces (n :: ns) = c :: text ∧ c ≠ ':' := by
  obtain ⟨c, digits, piece⟩ := List.exists_cons_of_ne_nil (pieceText_ne_nil n)
  have other : c ≠ ':' := (ne_of_mem_pieceText (piece ▸ List.mem_cons_self)).1
  cases ns with
  | nil => exact ⟨c, digits, by rw [writePieces_singleton, piece], other⟩
  | cons m ns =>
    refine ⟨c, digits ++ ':' :: writePieces (m :: ns), ?_, other⟩
    rw [writePieces_cons_cons, piece, List.cons_append]

section Written

variable {ns : List Nat} (small : ∀ n ∈ ns, n < 65536)

include small

private theorem pieceRun?_map_pieceText (dotted : Bool) :
    pieceRun? dotted (ns.map pieceText) = some ns := by
  induction ns with
  | nil => rfl
  | cons n ns ih =>
    obtain ⟨here, others⟩ := List.forall_mem_cons.mp small
    cases ns with
    | nil =>
      have undotted : (pieceText n).contains '.' = false := by
        refine Bool.eq_false_iff.mpr fun mem => ?_
        exact (ne_of_mem_pieceText (List.contains_iff_mem.mp mem)).2 rfl
      rw [List.map_singleton, pieceRun?, undotted, Bool.and_false, piece?_pieceText here]
      rfl
    | cons m ns =>
      have further := ih others
      rw [List.map_cons, pieceRun?]
      · rw [further, piece?_pieceText here]
      · exact List.cons_ne_nil _ _

private theorem pieceRun?_pieces (dotted : Bool) (nonempty : ns ≠ []) :
    pieceRun? dotted (Text.pieces (fun c => c = ':') (writePieces ns)) = some ns := by
  have cut : Text.pieces (fun c => c = ':') (writePieces ns) = ns.map pieceText := by
    refine Text.pieces_intercalate (decide_eq_true rfl) (by simpa using nonempty) ?_
    intro s mem c inside
    obtain ⟨n, -, rfl⟩ := List.mem_map.mp mem
    exact decide_eq_false (ne_of_mem_pieceText inside).1
  rw [cut, pieceRun?_map_pieceText small]

private theorem pieceList?_writePieces (dotted : Bool) :
    pieceList? dotted (writePieces ns) = some ns := by
  cases ns with
  | nil => rfl
  | cons n ns =>
    have nonempty : writePieces (n :: ns) ≠ [] := by
      obtain ⟨c, text, first, -⟩ := exists_writePieces_cons n ns
      rw [first]
      exact List.cons_ne_nil c text
    rw [pieceList?, if_neg nonempty, pieceRun?_pieces small dotted (List.cons_ne_nil n ns)]

end Written

private theorem splitGap?_cons {c : Char} (other : c ≠ ':') (rest : List Char) :
    splitGap? (c :: rest) = (splitGap? rest).map fun parts => (c :: parts.1, parts.2) := by
  rw [splitGap?]
  intro behind same
  exact (other same).elim

private theorem splitGap?_colon {c : Char} (other : c ≠ ':') (rest : List Char) :
    splitGap? (':' :: c :: rest) =
      (splitGap? (c :: rest)).map fun parts => (':' :: parts.1, parts.2) := by
  rw [splitGap?]
  intro behind _ same
  exact other (List.cons.inj same).1

private theorem splitGap?_append {s : List Char} (others : ∀ c ∈ s, c ≠ ':') (rest : List Char) :
    splitGap? (s ++ rest) = (splitGap? rest).map fun parts => (s ++ parts.1, parts.2) := by
  induction s with
  | nil => simp
  | cons c s ih =>
    obtain ⟨here, others⟩ := List.forall_mem_cons.mp others
    rw [List.cons_append, splitGap?_cons here, ih others, Option.map_map]
    rfl

private theorem splitGap?_writePieces (ns : List Nat) (rest : List Char) :
    splitGap? (writePieces ns ++ rest) =
      (splitGap? rest).map fun parts => (writePieces ns ++ parts.1, parts.2) := by
  have noColon : ∀ n, ∀ c ∈ pieceText n, c ≠ ':' := fun n c mem => (ne_of_mem_pieceText mem).1
  induction ns with
  | nil => simp [writePieces]
  | cons n ns ih =>
    cases ns with
    | nil => rw [writePieces_singleton, splitGap?_append (noColon n)]
    | cons m ns =>
      obtain ⟨c, text, first, other⟩ := exists_writePieces_cons m ns
      have written := writePieces_cons_cons n m ns
      rw [first] at ih written
      rw [written, List.append_assoc, splitGap?_append (noColon n), List.cons_append,
        List.cons_append, splitGap?_colon other, ← List.cons_append, ih, Option.map_map,
        Option.map_map]
      simp [Function.comp_def]

/-- A run of zeros in some pieces. -/
structure IsGap (ns : List Nat) (start run : Nat) : Prop where
  many : 2 ≤ run
  inside : start + run ≤ ns.length
  zeros : (ns.drop start).take run = List.replicate run 0

private theorem isGap_takeWhile (ns : List Nat) {start : Nat} (inside : start < ns.length)
    (many : 2 ≤ ((ns.drop start).takeWhile (· = 0)).length) :
    IsGap ns start ((ns.drop start).takeWhile (· = 0)).length := by
  have front : ((ns.drop start).takeWhile (· = 0)) <+: ns.drop start := List.takeWhile_prefix _
  have length := front.length_le
  rw [List.length_drop] at length
  refine ⟨many, by omega, ?_⟩
  rw [← List.prefix_iff_eq_take.mp front]
  refine List.eq_replicate_iff.mpr ⟨rfl, fun n mem => ?_⟩
  have zero := List.mem_takeWhile_imp mem
  exact of_decide_eq_true zero

/-- What is left out of a written address is a run of zeros. -/
theorem isGap_longestGap {ns : List Nat} {start run : Nat}
    (gap : longestGap ns = some (start, run)) : IsGap ns start run := by
  have invariant : ∀ s n, longestGap ns = some (s, n) → IsGap ns s n := by
    unfold longestGap
    refine List.foldlRecOn
      (motive := fun best => ∀ s n, best = some (s, n) → IsGap ns s n) _ _ nofun ?_
    intro best kept start mem s n next
    have inside := List.mem_range.mp mem
    cases best with
    | none =>
      simp only at next
      split at next
      · next many =>
        cases next
        exact isGap_takeWhile ns inside many
      · cases next
    | some gap =>
      obtain ⟨s', n'⟩ := gap
      have held := kept s' n' rfl
      simp only at next
      split at next
      · next longer =>
        cases next
        have many := held.many
        exact isGap_takeWhile ns inside (by omega)
      · cases next
        exact held
  exact invariant start run gap

private theorem IsGap.split {ns : List Nat} {start run : Nat} (gap : IsGap ns start run) :
    ns.take start ++ List.replicate run 0 ++ ns.drop (start + run) = ns := by
  rw [← gap.zeros, ← List.drop_drop, List.append_assoc, List.take_append_drop,
    List.take_append_drop]

theorem ipv6?_writeIpv6 {ns : List Nat} (isPieces : IsPieces ns) :
    ipv6? (writeIpv6 ns) = some ns := by
  have eight := isPieces.eight
  cases longest : longestGap ns with
  | none =>
    have whole : splitGap? (writePieces ns) = none := by
      have split := splitGap?_writePieces ns []
      rwa [List.append_nil] at split
    have nonempty : ns ≠ [] := by
      rintro rfl
      cases eight
    have run := pieceRun?_pieces isPieces.small true nonempty
    simp only [writeIpv6, longest, ipv6?, whole]
    rw [run]
    exact if_pos eight
  | some gap =>
    obtain ⟨start, run⟩ := gap
    have gap := isGap_longestGap longest
    have many := gap.many
    have inside := gap.inside
    have split : splitGap? (writePieces (ns.take start) ++
        ':' :: ':' :: writePieces (ns.drop (start + run))) =
          some (writePieces (ns.take start), writePieces (ns.drop (start + run))) := by
      rw [splitGap?_writePieces]
      simp [splitGap?]
    have front : pieceList? false (writePieces (ns.take start)) = some (ns.take start) :=
      pieceList?_writePieces (fun n mem => isPieces.small n (List.mem_of_mem_take mem)) false
    have back : pieceList? true (writePieces (ns.drop (start + run))) =
        some (ns.drop (start + run)) :=
      pieceList?_writePieces (fun n mem => isPieces.small n (List.mem_of_mem_drop mem)) true
    have frontLength : (ns.take start).length = start := by
      rw [List.length_take]
      omega
    have backLength : (ns.drop (start + run)).length = 8 - (start + run) := by
      rw [List.length_drop, eight]
    have room : 8 - start - (8 - (start + run)) = run := by omega
    simp only [writeIpv6, longest, ipv6?, split, front, back, frontLength, backLength, room]
    rw [if_pos (by omega), gap.split]

end ShowRemote.Url.Host
