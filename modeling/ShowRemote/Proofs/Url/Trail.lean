import ShowRemote.Proofs.Text.Pieces
import ShowRemote.Proofs.Url.Escape
import ShowRemote.Proofs.Url.Plain

/-!
Paths that are read again. Whatever text a path is followed from, its folders and its leaf are
segments that are escaped, hold no separator and go down (`isTrail_follow`); a path of such segments
is what its own text is read as (`follow_write`).
-/

set_option autoImplicit false

namespace ShowRemote.Url

/-- A part of a path that is kept as it is when the path is followed. -/
structure IsSegment (s : List Char) : Prop where
  escaped : Escaped pathSet s
  unparted : ∀ c ∈ s, separates true c = false
  down : Trail.Step.ofSegment s = .down [] s

private theorem isSegment_nil : IsSegment [] where
  escaped := escaped_nil
  unparted := nofun
  down := rfl

/-- A path all of whose segments are kept. -/
structure IsTrail (t : Trail) : Prop where
  folders : ∀ f ∈ t.folders, IsSegment f
  leaf : IsSegment t.leaf

namespace Trail

private theorem ofSegment_cases (s : List Char) :
    Step.ofSegment s = .up ∨ Step.ofSegment s = .stay ∨ Step.ofSegment s = .down [] s := by
  unfold Step.ofSegment
  split
  · exact .inl rfl
  · split
    · exact .inr (.inl rfl)
    · exact .inr (.inr rfl)

private theorem above_subset (folders : List (List Char)) : above folders ⊆ folders := by
  unfold above
  split
  · split
    · exact List.Subset.refl _
    · exact List.dropLast_subset folders
  · exact List.nil_subset _

section Climb

variable {P : List Char → Prop}

private theorem forall_mem_enter {folders : List (List Char)} (all : ∀ f ∈ folders, P f)
    {s : List Char} (down : Step.ofSegment s = .down [] s → P s) :
    ∀ f ∈ enter folders (Step.ofSegment s), P f := by
  rcases ofSegment_cases s with up | stay | goesDown
  · rw [up]
    exact fun f mem => all f (above_subset folders mem)
  · rw [stay]
    exact all
  · rw [goesDown]
    intro f mem
    simp only [enter, List.append_nil, List.mem_append, List.mem_singleton] at mem
    rcases mem with mem | rfl
    · exact all f mem
    · exact down goesDown

private theorem climb_cases {folders segments : List (List Char)} (all : ∀ f ∈ folders, P f)
    (down : ∀ s ∈ segments, Step.ofSegment s = .down [] s → P s) :
    (∀ f ∈ (climb (fun _ => Step.ofSegment) folders segments).folders, P f) ∧
      ((climb (fun _ => Step.ofSegment) folders segments).leaf = [] ∨
        P (climb (fun _ => Step.ofSegment) folders segments).leaf) := by
  induction segments generalizing folders with
  | nil => exact ⟨all, .inl rfl⟩
  | cons s rest ih =>
    obtain ⟨here, others⟩ := List.forall_mem_cons.mp down
    have entered := forall_mem_enter all here
    cases rest with
    | nil =>
      rw [climb]
      rcases ofSegment_cases s with up | stay | goesDown
      · rw [up] at entered ⊢
        exact ⟨entered, .inl rfl⟩
      · rw [stay]
        exact ⟨all, .inl rfl⟩
      · rw [goesDown]
        refine ⟨?_, .inr (here goesDown)⟩
        simpa [finish] using all
    | cons t rest =>
      rw [climb]
      · exact ih entered others
      · exact List.cons_ne_nil t rest

end Climb

def segments (t : Trail) : List (List Char) :=
  t.folders ++ [t.leaf]

private theorem write_eq (t : Trail) : t.write = '/' :: ['/'].intercalate t.segments := by
  obtain ⟨folders, leaf⟩ := t
  have below : Trail.below [] (folders ++ [leaf]) = ⟨folders, leaf⟩ := by simp [Trail.below]
  have nonempty : folders ++ [leaf] ≠ [] :=
    List.append_ne_nil_of_right_ne_nil _ (List.cons_ne_nil leaf [])
  have written := write_below [] nonempty
  rw [below] at written
  exact written

end Trail

private theorem forall_mem_segments {t : Trail} (isTrail : IsTrail t) :
    ∀ s ∈ t.segments, IsSegment s := by
  intro s mem
  rcases List.mem_append.mp mem with mem | mem
  · exact isTrail.folders s mem
  · rw [List.mem_singleton.mp mem]
    exact isTrail.leaf

private theorem follow_web (folders : List (List Char)) (s : List Char) :
    follow .web folders s =
      Trail.climb (fun _ => Trail.Step.ofSegment) folders
        (Text.pieces (separates true) (escape pathSet s)) :=
  rfl

/-- What a path is followed to is made of segments that are kept. -/
theorem isTrail_follow (s : List Char) : IsTrail (follow .web [] s) := by
  have escaped : Escaped pathSet (escape pathSet s) := escaped_escape spares_pathSet s
  have kept : ∀ segment ∈ Text.pieces (separates true) (escape pathSet s),
      Trail.Step.ofSegment segment = .down [] segment → IsSegment segment := by
    intro segment mem down
    constructor
    case escaped => exact fun c inside => escaped c (Text.mem_of_mem_pieces mem c inside)
    case unparted => exact Text.not_separates_of_mem_pieces mem
    case down => exact down
  have root : ∀ f ∈ ([] : List (List Char)), IsSegment f := nofun
  obtain ⟨folders, leaf⟩ := Trail.climb_cases root kept
  rw [follow_web]
  refine ⟨folders, ?_⟩
  rcases leaf with absent | segment
  · rw [absent]
    exact isSegment_nil
  · exact segment

section IsTrail

variable {t : Trail} (isTrail : IsTrail t)

include isTrail

theorem IsTrail.escaped_write : Escaped pathSet t.write := by
  rw [Trail.write_eq]
  have slash : isControl '/' = false ∧ pathSet '/' = false := by decide
  intro c mem
  rcases List.mem_cons.mp mem with rfl | mem
  · exact slash
  · rcases Text.mem_intercalate mem with rfl | ⟨segment, inside, mem⟩
    · exact slash
    · exact (forall_mem_segments isTrail segment inside).escaped c mem

theorem IsTrail.follow_write : follow .web [] (withoutSlash true t.write) = t := by
  have escaped := isTrail.escaped_write
  rw [Trail.write_eq] at escaped ⊢
  have escaped' : Escaped pathSet (['/'].intercalate t.segments) :=
    fun c mem => escaped c (List.mem_cons_of_mem _ mem)
  have segments := forall_mem_segments isTrail
  have nonempty : t.segments ≠ [] :=
    List.append_ne_nil_of_right_ne_nil _ (List.cons_ne_nil _ _)
  have cut : Text.pieces (separates true) (['/'].intercalate t.segments) = t.segments :=
    Text.pieces_intercalate rfl nonempty fun s mem => (segments s mem).unparted
  show follow .web [] (['/'].intercalate t.segments) = t
  rw [follow_web, escaped'.escape_eq, cut,
    Trail.climb_eq_below (fun _ s mem => (segments s mem).down)]
  simp [Trail.below, Trail.segments]

theorem IsTrail.asFolder : IsTrail t.asFolder := by
  unfold Trail.asFolder
  split
  · exact isTrail
  · refine ⟨fun f mem => ?_, isSegment_nil⟩
    rcases List.mem_append.mp mem with mem | mem
    · exact isTrail.folders f mem
    · rw [List.mem_singleton.mp mem]
      exact isTrail.leaf

theorem IsTrail.getLast?_write : t.write.getLast? = some '/' ↔ t.leaf = [] := by
  obtain ⟨folders, leaf⟩ := t
  constructor
  · intro last
    by_contra nonempty
    obtain ⟨front, c, rfl⟩ := (List.eq_nil_or_concat leaf).resolve_left nonempty
    have other := isTrail.leaf.unparted c (by simp)
    have slash : c = '/' := by simpa [Trail.write, List.getLast?_cons] using last
    rw [slash] at other
    cases other
  · rintro rfl
    have written : (Trail.mk folders []).write = '/' :: folders.flatMap fun f => f ++ ['/'] := by
      simp [Trail.write]
    rw [written]
    rcases List.eq_nil_or_concat folders with rfl | ⟨front, f, rfl⟩
    · rfl
    · simp [List.getLast?_cons]

end IsTrail

end ShowRemote.Url
