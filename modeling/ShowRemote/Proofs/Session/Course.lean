import ShowRemote.Proofs.Session.Numbering

/-!
The course of a call. A call that gets something sends one get; a call that commands something sends
one post, and one get of the status when the post has been answered, well or badly; and a call ends
when its get has been answered. `coursing_run` says that every call of every run is somewhere on its
course.
-/

set_option autoImplicit false

namespace ShowRemote

open Show (Intent)

namespace Journal

def Entry.Gets (e : Entry) (endpoints : Endpoints) (kind : Kind) : Prop :=
  (∃ rank, e.slip.errand = .get kind rank) ∧ e.message = .get (endpoints.path kind)

def Entry.Posts (e : Entry) (endpoints : Endpoints) (c : Call) : Prop :=
  ∃ next intent, c.intent next = some intent ∧ e.slip.errand = .post intent.name ∧
    e.message = .post endpoints.command intent.command.toJson

section Requests

variable {endpoints : Endpoints} {e : Entry} {kind : Kind}

theorem Entry.Gets.kind_eq (gets : e.Gets endpoints kind) {asked : Kind} {rank : Nat}
    (errand : e.slip.errand = .get asked rank) : kind = asked := by
  obtain ⟨⟨rank', asks⟩, -⟩ := gets
  rw [errand] at asks
  cases asks
  rfl

theorem Entry.Gets.errand_ne (gets : e.Gets endpoints kind) (intent : String) :
    e.slip.errand ≠ .post intent := by
  obtain ⟨⟨rank, asks⟩, -⟩ := gets
  rw [asks]
  nofun

theorem Entry.Gets.message_ne (gets : e.Gets endpoints kind) (path : String) (body : Json) :
    e.message ≠ .post path body := by
  rw [gets.2]
  nofun

theorem Entry.Posts.errand_ne {c : Call} (posts : e.Posts endpoints c) (kind : Kind) (rank : Nat) :
    e.slip.errand ≠ .get kind rank := by
  obtain ⟨next, intent, -, post, -⟩ := posts
  rw [post]
  nofun

end Requests

/-- How far a call has come: what was sent for it, in order, and what it ended with. It has one
outcome when its get has an answer, and none before. -/
inductive Course (endpoints : Endpoints) : Call → List Entry → List Outcome → Prop
  | asking {kind : Kind} {get : Entry} {outcomes : List Outcome} (gets : get.Gets endpoints kind)
      (ends : outcomes.length = get.answer.toList.length) :
      Course endpoints kind.call [get] outcomes
  | posting {c : Call} {post : Entry} (posts : post.Posts endpoints c) (isOpen : post.isOpen) :
      Course endpoints c [post] []
  | confirming {c : Call} {post get : Entry} {outcomes : List Outcome}
      (posts : post.Posts endpoints c) (answered : ¬ post.isOpen)
      (gets : get.Gets endpoints .status)
      (ends : outcomes.length = get.answer.toList.length) :
      Course endpoints c [post, get] outcomes

/-- Every call is on its course, and nothing was sent or ended but for calls that were made. -/
structure Coursing (endpoints : Endpoints) (j : Journal) : Prop where
  course : ∀ (i : Nat) (c : Call), j.calls[i]? = some c →
    Course endpoints c (j.entriesOf (i + 1)) (j.outcomesOf (i + 1))
  sent_for : ∀ e ∈ j.entries, ∃ i < j.calls.length, e.slip.call = i + 1
  ended_of : ∀ end_ ∈ j.ended, ∃ i < j.calls.length, end_.1 = i + 1

private theorem coursing_blank (endpoints : Endpoints) : blank.Coursing endpoints := by
  refine ⟨?_, ?_, ?_⟩
  · intro i c hc
    simp [blank] at hc
  · intro e he
    simp [blank] at he
  · intro end_ he
    simp [blank] at he

theorem gets_nextGet (j : Journal) (endpoints : Endpoints) (call : Nat) (kind : Kind) :
    (j.nextGet endpoints call kind).Gets endpoints kind :=
  ⟨⟨_, rfl⟩, rfl⟩

section

variable {endpoints : Endpoints} {j : Journal}

theorem mem_entriesOf {e : Entry} {call : Nat} :
    e ∈ j.entriesOf call ↔ e ∈ j.entries ∧ e.slip.call = call := by
  simp [entriesOf]

theorem Coursing.of_mem (coursing : j.Coursing endpoints) {e : Entry} (mem : e ∈ j.entries) :
    ∃ c, j.calls[e.slip.call - 1]? = some c ∧ e ∈ j.entriesOf e.slip.call ∧
      Course endpoints c (j.entriesOf e.slip.call) (j.outcomesOf e.slip.call) := by
  obtain ⟨i, hi, own⟩ := coursing.sent_for e mem
  have made := List.getElem?_eq_getElem hi
  rw [own, Nat.add_sub_cancel]
  exact ⟨_, made, mem_entriesOf.mpr ⟨mem, own⟩, coursing.course i _ made⟩

private theorem entriesOf_append (calls : List Call) (entries : List Entry) (e : Entry)
    (ended : List (Nat × Outcome)) (call : Nat) :
    (Journal.mk calls (entries ++ [e]) ended).entriesOf call =
      (Journal.mk calls entries ended).entriesOf call ++
        if e.slip.call = call then [e] else [] := by
  by_cases hc : e.slip.call = call <;> simp [entriesOf, hc]

private theorem outcomesOf_append (calls : List Call) (entries : List Entry)
    (ended : List (Nat × Outcome)) (other : Nat) (outcome : Outcome) (call : Nat) :
    (Journal.mk calls entries (ended ++ [(other, outcome)])).outcomesOf call =
      (Journal.mk calls entries ended).outcomesOf call ++
        if other = call then [outcome] else [] := by
  by_cases hc : other = call <;> simp [outcomesOf, hc]

private theorem entriesOf_hear (number : Nat) (answer : Answer) (calls : List Call)
    (ended : List (Nat × Outcome)) (call : Nat) :
    (Journal.mk calls (j.entries.map (Entry.hear number answer)) ended).entriesOf call =
      (j.entriesOf call).map (Entry.hear number answer) := by
  simp [entriesOf, List.filter_map, Function.comp_def]

private theorem Numbered.entriesOf_hear_of_ne (numbered : j.Numbered) {e : Entry}
    (waits : e ∈ j.pending) {call : Nat} (ne : e.slip.call ≠ call) (answer : Answer) :
    (j.entriesOf call).map (Entry.hear e.slip.number answer) = j.entriesOf call := by
  refine (List.map_congr_left fun other mem => ?_).trans (List.map_id _)
  obtain ⟨mem, hc⟩ := mem_entriesOf.mp mem
  refine Entry.hear_of_ne (fun number => ne ?_) answer
  rw [← numbered.eq_of_number mem (mem_of_mem_pending waits) number, hc]

private theorem Coursing.entriesOf_next (coursing : j.Coursing endpoints) :
    j.entriesOf (j.calls.length + 1) = [] := by
  rw [entriesOf, List.filter_eq_nil_iff]
  intro e he
  obtain ⟨i, hi, hc⟩ := coursing.sent_for e he
  simp only [hc, decide_eq_true_eq]
  omega

private theorem Coursing.outcomesOf_next (coursing : j.Coursing endpoints) :
    j.outcomesOf (j.calls.length + 1) = [] := by
  rw [outcomesOf, List.map_eq_nil_iff, List.filter_eq_nil_iff]
  intro end_ he
  obtain ⟨i, hi, hc⟩ := coursing.ended_of end_ he
  simp only [hc, decide_eq_true_eq]
  omega

private theorem Coursing.call (coursing : j.Coursing endpoints) {c : Call} {e : Entry}
    (call : e.slip.call = j.calls.length + 1) (starts : Course endpoints c [e] []) :
    (Journal.mk (j.calls ++ [c]) (j.entries ++ [e]) j.ended).Coursing endpoints := by
  refine ⟨?_, ?_, ?_⟩
  · intro i d hd
    rw [entriesOf_append]
    have same : ∀ n, (Journal.mk (j.calls ++ [c]) j.entries j.ended).entriesOf n =
        j.entriesOf n := fun _ => rfl
    have same' : ∀ n, (Journal.mk (j.calls ++ [c]) (j.entries ++ [e]) j.ended).outcomesOf n =
        j.outcomesOf n := fun _ => rfl
    rw [same, same', call]
    rcases Nat.lt_trichotomy i j.calls.length with lt | rfl | gt
    · rw [List.getElem?_append_left lt] at hd
      rw [if_neg (by omega), List.append_nil]
      exact coursing.course i d hd
    · rw [List.getElem?_concat_length] at hd
      obtain rfl := Option.some.inj hd
      rw [if_pos rfl, coursing.entriesOf_next, coursing.outcomesOf_next]
      exact starts
    · rw [List.getElem?_eq_none (by simp; omega)] at hd
      cases hd
  · intro other mem
    rw [List.length_append, List.length_singleton]
    rcases List.mem_append.mp mem with mem | mem
    · obtain ⟨i, hi, hc⟩ := coursing.sent_for other mem
      exact ⟨i, by omega, hc⟩
    · obtain rfl := List.mem_singleton.mp mem
      exact ⟨j.calls.length, by omega, call⟩
  · intro end_ mem
    rw [List.length_append, List.length_singleton]
    obtain ⟨i, hi, hc⟩ := coursing.ended_of end_ mem
    exact ⟨i, by omega, hc⟩

private theorem Course.told {c : Call} {entries : List Entry} {outcomes : List Outcome}
    (course : Course endpoints c entries outcomes) {e : Entry} (mem : e ∈ entries)
    (isOpen : e.isOpen) {kind : Kind} {rank : Nat} (errand : e.slip.errand = .get kind rank)
    (answer : Answer) (outcome : Outcome) :
    Course endpoints c (entries.map (Entry.hear e.slip.number answer))
      (outcomes ++ [outcome]) := by
  have heard := Entry.hear_of_open isOpen answer
  have none_yet : e.answer = none := by simpa [Entry.isOpen] using isOpen
  cases course with
  | asking gets ends =>
    obtain rfl := List.mem_singleton.mp mem
    rw [List.map_singleton, heard]
    refine .asking gets ?_
    simp [ends, none_yet]
  | posting posts _ =>
    obtain rfl := List.mem_singleton.mp mem
    exact (posts.errand_ne kind rank errand).elim
  | confirming posts answered gets ends =>
    rcases List.mem_pair.mp mem with rfl | rfl
    · exact (answered isOpen).elim
    · rw [List.map_cons, List.map_singleton, heard, Entry.hear_of_closed answered]
      refine .confirming posts answered gets ?_
      simp [ends, none_yet]

private theorem Course.confirm {c : Call} {entries : List Entry} {outcomes : List Outcome}
    (course : Course endpoints c entries outcomes) {e get : Entry} (mem : e ∈ entries)
    (isOpen : e.isOpen) {intent : String} (errand : e.slip.errand = .post intent)
    (answer : Answer) (gets : get.Gets endpoints .status) (get_open : get.isOpen) :
    Course endpoints c (entries.map (Entry.hear e.slip.number answer) ++ [get]) outcomes := by
  have heard := Entry.hear_of_open isOpen answer
  have none_yet : get.answer = none := by simpa [Entry.isOpen] using get_open
  cases course with
  | asking gets _ =>
    obtain rfl := List.mem_singleton.mp mem
    exact (gets.errand_ne intent errand).elim
  | posting posts _ =>
    obtain rfl := List.mem_singleton.mp mem
    rw [List.map_singleton, heard]
    exact .confirming posts (by simp [Entry.isOpen]) gets (by simp [none_yet])
  | confirming posts answered gets _ =>
    rcases List.mem_pair.mp mem with rfl | rfl
    · exact (answered isOpen).elim
    · exact (gets.errand_ne intent errand).elim

private theorem Coursing.turn {x x' : Session} {j' : Journal} {s : Step} (numbered : j.Numbered)
    (coursing : j.Coursing endpoints) (turn : Turn endpoints x j s x' j') :
    j'.Coursing endpoints := by
  cases turn with
  | ask kind =>
    exact coursing.call rfl (.asking (j.gets_nextGet endpoints _ kind) rfl)
  | post c intent carried =>
    exact coursing.call rfl (.posting ⟨_, intent, carried, rfl, rfl⟩ rfl)
  | told e kind rank answer waits errand =>
    have mem := mem_of_mem_pending waits
    refine ⟨?_, ?_, ?_⟩
    · intro i c hc
      rw [entriesOf_hear, outcomesOf_append]
      have course := coursing.course i c hc
      by_cases own : e.slip.call = i + 1
      · rw [if_pos own]
        exact course.told (mem_entriesOf.mpr ⟨mem, own⟩) (isOpen_of_mem_pending waits) errand
          answer _
      · rw [if_neg own, numbered.entriesOf_hear_of_ne waits own, List.append_nil]
        exact course
    · intro other hm
      obtain ⟨old, hold, rfl⟩ := List.mem_map.mp hm
      rw [Entry.slip_hear]
      exact coursing.sent_for old hold
    · intro end_ hm
      rcases List.mem_append.mp hm with hm | hm
      · exact coursing.ended_of end_ hm
      · obtain rfl := List.mem_singleton.mp hm
        exact coursing.sent_for e mem
  | confirm e intent answer waits errand =>
    have mem := mem_of_mem_pending waits
    refine ⟨?_, ?_, coursing.ended_of⟩
    · intro i c hc
      rw [entriesOf_append, entriesOf_hear]
      have course := coursing.course i c hc
      by_cases own : e.slip.call = i + 1
      · rw [if_pos (show (j.nextGet endpoints e.slip.call .status).slip.call = i + 1 from own)]
        exact course.confirm (mem_entriesOf.mpr ⟨mem, own⟩) (isOpen_of_mem_pending waits) errand
          answer (j.gets_nextGet endpoints _ .status) rfl
      · rw [if_neg (show (j.nextGet endpoints e.slip.call .status).slip.call ≠ i + 1 from own),
          numbered.entriesOf_hear_of_ne waits own, List.append_nil]
        exact course
    · intro other hm
      rcases List.mem_append.mp hm with hm | hm
      · obtain ⟨old, hold, rfl⟩ := List.mem_map.mp hm
        rw [Entry.slip_hear]
        exact coursing.sent_for old hold
      · obtain rfl := List.mem_singleton.mp hm
        exact coursing.sent_for e mem
  | stray number answer unknown => exact coursing
  | subscribe => exact coursing
  | drain receiver => exact coursing
  | clearError => exact coursing

end
end Journal

theorem History.coursing_run (endpoints : Endpoints) (steps : List Step) :
    ((opened endpoints).run steps).journal.Coursing endpoints :=
  numbered_induction (P := fun _ j => j.Coursing endpoints) (Journal.coursing_blank endpoints)
    (fun _ _ _ _ _ numbered coursing turn => coursing.turn numbered turn) steps

end ShowRemote
