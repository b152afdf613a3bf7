import Mathlib
import ShowRemote.Text.Pieces

/-!
Texts that are put together with separators and cut at them again. Pieces hold no separator, and
pieces without one are found again between those that were put there (`pieces_intercalate`); a text
is cut where a separator was put if there is none before it, or none behind it.
-/

set_option autoImplicit false

namespace ShowRemote.Text

variable {p : Char → Bool}

theorem pieces_congr {q : Char → Bool} {s : List Char} (same : ∀ c ∈ s, p c = q c) :
    pieces p s = pieces q s := by
  induction s with
  | nil => rfl
  | cons c s ih =>
    obtain ⟨first, others⟩ := List.forall_mem_cons.mp same
    rw [pieces, pieces, first, ih others]

theorem intercalate_pieces (separator : Char) (s : List Char) :
    [separator].intercalate (pieces (fun c => c = separator) s) = s := by
  induction s with
  | nil => rfl
  | cons c s ih =>
    rw [pieces]
    cases others : pieces (fun c => c = separator) s with
    | nil => exact (pieces_ne_nil _ s others).elim
    | cons piece rest =>
      rw [others] at ih
      split
      · next separates =>
        obtain rfl : c = separator := by simpa using separates
        rw [List.intercalate_cons_cons, ih]
        rfl
      · cases rest with
        | nil => simpa using ih
        | cons next rest =>
          rw [List.intercalate_cons_cons] at ih ⊢
          simpa using ih

theorem mem_of_mem_pieces {s piece : List Char} (mem : piece ∈ pieces p s) :
    ∀ c ∈ piece, c ∈ s := by
  induction s generalizing piece with
  | nil =>
    obtain rfl := List.mem_singleton.mp mem
    exact nofun
  | cons d s ih =>
    rw [pieces] at mem
    cases others : pieces p s with
    | nil => exact (pieces_ne_nil p s others).elim
    | cons first rest =>
      rw [others] at mem ih
      split at mem
      · rcases List.mem_cons.mp mem with rfl | mem
        · exact nofun
        · exact fun c inside => List.mem_cons_of_mem d (ih mem c inside)
      · rcases List.mem_cons.mp mem with rfl | mem
        · intro c inside
          rcases List.mem_cons.mp inside with rfl | inside
          · exact List.mem_cons_self
          · exact List.mem_cons_of_mem d (ih List.mem_cons_self c inside)
        · exact fun c inside =>
            List.mem_cons_of_mem d (ih (List.mem_cons_of_mem first mem) c inside)

theorem pieces_dropWhile_subset (separator : Char) (s : List Char) :
    pieces (fun c => c = separator) (s.dropWhile fun c => c = separator) ⊆
      pieces (fun c => c = separator) s := by
  induction s with
  | nil => exact List.Subset.refl _
  | cons c s ih =>
    rw [List.dropWhile_cons]
    split
    · next separates =>
      rw [pieces, if_pos separates]
      exact List.subset_cons_of_subset [] ih
    · exact List.Subset.refl _

theorem not_separates_of_mem_pieces {s piece : List Char} (mem : piece ∈ pieces p s) :
    ∀ c ∈ piece, p c = false := by
  induction s generalizing piece with
  | nil =>
    obtain rfl := List.mem_singleton.mp mem
    exact nofun
  | cons d s ih =>
    rw [pieces] at mem
    cases others : pieces p s with
    | nil => exact (pieces_ne_nil p s others).elim
    | cons first rest =>
      rw [others] at mem ih
      split at mem
      · rcases List.mem_cons.mp mem with rfl | mem
        · exact nofun
        · exact ih mem
      · next other =>
        rcases List.mem_cons.mp mem with rfl | mem
        · intro c inside
          rcases List.mem_cons.mp inside with rfl | inside
          · exact Bool.not_eq_true _ ▸ other
          · exact ih List.mem_cons_self c inside
        · exact ih (List.mem_cons_of_mem first mem)

section Join

variable {s : List Char} (unparted : ∀ c ∈ s, p c = false)

include unparted

private theorem pieces_of_unparted : pieces p s = [s] := by
  induction s with
  | nil => rfl
  | cons c s ih =>
    obtain ⟨here, others⟩ := List.forall_mem_cons.mp unparted
    rw [pieces, if_neg (by rw [here]; exact Bool.false_ne_true), ih others]

private theorem pieces_append_cons {separator : Char} (separates : p separator) (t : List Char) :
    pieces p (s ++ separator :: t) = s :: pieces p t := by
  induction s with
  | nil => rw [List.nil_append, pieces, if_pos separates]
  | cons c s ih =>
    obtain ⟨here, others⟩ := List.forall_mem_cons.mp unparted
    rw [List.cons_append, pieces, if_neg (by rw [here]; exact Bool.false_ne_true), ih others]

end Join

theorem pieces_intercalate {separator : Char} (separates : p separator)
    {segments : List (List Char)} (nonempty : segments ≠ [])
    (unparted : ∀ s ∈ segments, ∀ c ∈ s, p c = false) :
    pieces p ([separator].intercalate segments) = segments := by
  induction segments with
  | nil => exact (nonempty rfl).elim
  | cons s rest ih =>
    obtain ⟨here, others⟩ := List.forall_mem_cons.mp unparted
    cases rest with
    | nil => simpa using pieces_of_unparted here
    | cons t rest =>
      have further := ih (List.cons_ne_nil t rest) others
      rw [List.intercalate_cons_cons, List.append_assoc, List.singleton_append,
        pieces_append_cons here separates, further]

theorem mem_intercalate {separator c : Char} {segments : List (List Char)}
    (mem : c ∈ [separator].intercalate segments) : c = separator ∨ ∃ s ∈ segments, c ∈ s := by
  induction segments with
  | nil => cases mem
  | cons s rest ih =>
    cases rest with
    | nil => exact .inr ⟨s, List.mem_singleton_self s, by simpa using mem⟩
    | cons t rest =>
      rw [List.intercalate_cons_cons, List.append_assoc, List.mem_append, List.singleton_append,
        List.mem_cons] at mem
      rcases mem with here | rfl | mem
      · exact .inr ⟨s, List.mem_cons_self, here⟩
      · exact .inl rfl
      · rcases ih mem with separates | ⟨segment, inside, mem⟩
        · exact .inl separates
        · exact .inr ⟨segment, List.mem_cons_of_mem s inside, mem⟩

section Split

variable {separator : Char} {s : List Char}

private theorem ne_of_not_mem (absent : separator ∉ s) :
    ∀ c ∈ s, decide (c ≠ separator) = true := by
  intro c mem
  refine decide_eq_true ?_
  rintro rfl
  exact absent mem

private theorem takeWhile_append_cons (absent : separator ∉ s) (t : List Char) :
    (s ++ separator :: t).takeWhile (fun c => c ≠ separator) = s := by
  rw [List.takeWhile_append_of_pos (ne_of_not_mem absent)]
  simp

private theorem dropWhile_append_cons (absent : separator ∉ s) (t : List Char) :
    (s ++ separator :: t).dropWhile (fun c => c ≠ separator) = separator :: t := by
  rw [List.dropWhile_append_of_pos (ne_of_not_mem absent)]
  simp

theorem splitFirst?_of_not_mem (absent : separator ∉ s) : splitFirst? separator s = none := by
  rw [splitFirst?, List.dropWhile_eq_nil_iff.mpr (ne_of_not_mem absent)]

theorem not_mem_of_splitFirst?_eq_none (none : splitFirst? separator s = none) : separator ∉ s := by
  intro mem
  unfold splitFirst? at none
  split at none
  · next all =>
    have other := List.dropWhile_eq_nil_iff.mp all separator mem
    simp at other
  · cases none

theorem splitFirst?_append_cons (absent : separator ∉ s) (t : List Char) :
    splitFirst? separator (s ++ separator :: t) = some (s, t) := by
  rw [splitFirst?, takeWhile_append_cons absent, dropWhile_append_cons absent]

theorem splitLast?_of_not_mem (absent : separator ∉ s) : splitLast? separator s = none := by
  have absent' : separator ∉ s.reverse := fun mem => absent (List.mem_reverse.mp mem)
  rw [splitLast?, List.dropWhile_eq_nil_iff.mpr (ne_of_not_mem absent')]

theorem splitLast?_append_cons (absent : separator ∉ s) (before : List Char) :
    splitLast? separator (before ++ separator :: s) = some (before, s) := by
  have absent' : separator ∉ s.reverse := fun mem => absent (List.mem_reverse.mp mem)
  have turned : (before ++ separator :: s).reverse =
      s.reverse ++ separator :: before.reverse := by
    simp
  rw [splitLast?, turned, takeWhile_append_cons absent', dropWhile_append_cons absent']
  simp only [List.reverse_reverse]

end Split

end ShowRemote.Text
