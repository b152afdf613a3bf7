import Mathlib
import ShowRemote.Text.Blank

/-!
What trimming takes away: the characters of its class at the two ends of a text, and nothing else
(`trims_trimEnds`, `Trims.eq_trimEnds`).
-/

set_option autoImplicit false

namespace ShowRemote.Text

variable {p : Char → Bool} {s : List Char}

private theorem dropWhile_eq_self (none : ∀ c ∈ s, p c = false) : s.dropWhile p = s := by
  cases s with
  | nil => rfl
  | cons c s =>
    refine List.dropWhile_cons_of_neg ?_
    rw [none c List.mem_cons_self]
    exact Bool.false_ne_true

theorem trimEnds_eq_self (none : ∀ c ∈ s, p c = false) : trimEnds p s = s := by
  have back : ∀ c ∈ s.reverse, p c = false := fun c mem => none c (List.mem_reverse.mp mem)
  rw [trimEnds, dropWhile_eq_self none, dropWhile_eq_self back, List.reverse_reverse]

private theorem mem_dropWhile {c : Char} (other : p c = false) (mem : c ∈ s) :
    c ∈ s.dropWhile p := by
  rw [← List.takeWhile_append_dropWhile (p := p) (l := s), List.mem_append] at mem
  rcases mem with taken | left
  · rw [List.mem_takeWhile_imp taken] at other
    cases other
  · exact left

theorem mem_trimEnds {c : Char} (other : p c = false) (mem : c ∈ s) : c ∈ trimEnds p s := by
  rw [trimEnds, List.mem_reverse]
  exact mem_dropWhile other (List.mem_reverse.mpr (mem_dropWhile other mem))

theorem mem_of_mem_trimEnds {c : Char} (mem : c ∈ trimEnds p s) : c ∈ s := by
  rw [trimEnds, List.mem_reverse] at mem
  have back := (List.dropWhile_sublist p).mem mem
  exact (List.dropWhile_sublist p).mem (List.mem_reverse.mp back)

/-- A text without the characters of a class at its two ends. -/
structure Trims (p : Char → Bool) (s t : List Char) : Prop where
  ends : ∃ before behind, s = before ++ (t ++ behind) ∧ (∀ c ∈ before, p c) ∧ ∀ c ∈ behind, p c
  head : ∀ c ∈ t.head?, p c = false
  last : ∀ c ∈ t.getLast?, p c = false

theorem takeWhile_append_of_all {before t : List Char} (all : ∀ c ∈ before, p c)
    (head : ∀ c ∈ t.head?, p c = false) : (before ++ t).takeWhile p = before := by
  have stop : t.takeWhile p = [] := by
    cases t with
    | nil => rfl
    | cons c t =>
      refine List.takeWhile_cons_of_neg ?_
      rw [head c rfl]
      exact Bool.false_ne_true
  rw [List.takeWhile_append_of_pos all, stop, List.append_nil]

theorem dropWhile_append_of_all {before t : List Char} (all : ∀ c ∈ before, p c)
    (head : ∀ c ∈ t.head?, p c = false) : (before ++ t).dropWhile p = t := by
  rw [List.dropWhile_append_of_pos all]
  cases t with
  | nil => rfl
  | cons c t =>
    refine List.dropWhile_cons_of_neg ?_
    rw [head c rfl]
    exact Bool.false_ne_true

theorem head?_dropWhile (s : List Char) : ∀ c ∈ (s.dropWhile p).head?, p c = false := by
  intro c mem
  have none := List.head?_dropWhile_not p s
  rw [Option.mem_def.mp mem] at none
  simpa using none

theorem trims_trimEnds (p : Char → Bool) (s : List Char) : Trims p s (trimEnds p s) := by
  have front := List.takeWhile_append_dropWhile (p := p) (l := s)
  have back := List.takeWhile_append_dropWhile (p := p) (l := (s.dropWhile p).reverse)
  have split : s.dropWhile p =
      trimEnds p s ++ ((s.dropWhile p).reverse.takeWhile p).reverse := by
    rw [trimEnds, ← List.reverse_append, back, List.reverse_reverse]
  constructor
  case ends =>
    refine ⟨_, _, by rw [← split, front], ?_, ?_⟩
    · exact fun c mem => List.mem_takeWhile_imp mem
    · exact fun c mem => List.mem_takeWhile_imp (List.mem_reverse.mp mem)
  case head =>
    intro c mem
    refine head?_dropWhile s c ?_
    rw [split, List.head?_append, Option.mem_def.mp mem]
    rfl
  case last =>
    intro c mem
    rw [trimEnds, List.getLast?_reverse] at mem
    exact head?_dropWhile _ c mem

theorem Trims.eq_trimEnds {t : List Char} (trims : Trims p s t) : trimEnds p s = t := by
  obtain ⟨⟨before, behind, rfl, all, all'⟩, head, last⟩ := trims
  have all'' : ∀ c ∈ behind.reverse, p c := fun c mem => all' c (List.mem_reverse.mp mem)
  cases t with
  | nil =>
    have none : (before ++ ([] ++ behind)).dropWhile p = [] := by
      rw [List.dropWhile_append_of_pos all, List.nil_append]
      exact List.dropWhile_eq_nil_iff.mpr all'
    rw [trimEnds, none]
    rfl
  | cons c t =>
    have first := dropWhile_append_of_all (t := c :: t ++ behind) all head
    have others := dropWhile_append_of_all (t := (c :: t).reverse) all'' (by
      rw [List.head?_reverse]
      exact last)
    rw [trimEnds, first, List.reverse_append, others, List.reverse_reverse]

end ShowRemote.Text
