import ShowRemote.Proofs.Session.Turn

/-!
How a journal is numbered. Requests are numbered from 1 in the order they were sent, and so are the
gets of each kind, so a number or a rank names one request. What an answer changes in a journal is
the one request that it is for (`mem_hear`), and nothing that was sent is ever taken back
(`slips_run`), so a number or a rank that was given out before names an old request.
-/

set_option autoImplicit false

namespace ShowRemote.Journal

/-- Requests and gets of a kind are numbered from 1, without gaps. -/
structure Numbered (j : Journal) : Prop where
  numbers : j.entries.map (fun e => e.slip.number) = List.range' 1 j.entries.length
  ranks : ∀ kind, j.ranks kind = List.range' 1 (j.count kind)

private theorem numbered_blank : blank.Numbered :=
  ⟨rfl, fun _ => rfl⟩

theorem Numbered.of_slips {j : Journal} (numbered : j.Numbered) {k : Journal}
    (slips : k.entries.map Entry.slip = j.entries.map Entry.slip) : k.Numbered := by
  have length : k.entries.length = j.entries.length := by
    simpa using congrArg List.length slips
  have ranks : ∀ kind, k.ranks kind = j.ranks kind := by
    intro kind
    have same := congrArg (List.filterMap fun slip => slip.errand.rank? kind) slips
    rwa [List.filterMap_map, List.filterMap_map] at same
  constructor
  · have same := congrArg (List.map Slip.number) slips
    rw [List.map_map, List.map_map] at same
    rw [length, ← numbered.numbers]
    exact same
  · intro kind
    rw [count, ranks, numbered.ranks kind, List.length_range']

private theorem Numbered.append {j : Journal} (numbered : j.Numbered) {e : Entry}
    (number : e.slip.number = j.entries.length + 1)
    (rank : ∀ kind, ∀ n ∈ e.slip.errand.rank? kind, n = j.count kind + 1)
    (calls : List Call) (ended : List (Nat × Outcome)) :
    (Journal.mk calls (j.entries ++ [e]) ended).Numbered := by
  constructor
  · rw [List.map_append, numbered.numbers, List.length_append, List.length_singleton,
      List.range'_concat]
    simp [number, Nat.add_comm]
  · intro kind
    cases hr : e.slip.errand.rank? kind with
    | none =>
      have same : (Journal.mk calls (j.entries ++ [e]) ended).ranks kind = j.ranks kind := by
        simp [Journal.ranks, hr]
      rw [count, same]
      exact numbered.ranks kind
    | some n =>
      obtain rfl := rank kind n hr
      have next : (Journal.mk calls (j.entries ++ [e]) ended).ranks kind =
          j.ranks kind ++ [j.count kind + 1] := by
        simp [Journal.ranks, hr]
      rw [count, next, List.length_append, List.length_singleton, List.range'_concat,
        numbered.ranks kind, List.length_range']
      simp [Nat.add_comm]

private theorem rank_nextGet (j : Journal) (endpoints : Endpoints) (call : Nat) (kind : Kind) :
    ∀ other, ∀ n ∈ (j.nextGet endpoints call kind).slip.errand.rank? other,
      n = j.count other + 1 := by
  intro other n hn
  by_cases same : kind = other
  · subst same
    simpa [nextGet, Errand.rank?, eq_comm] using hn
  · simp [nextGet, Errand.rank?, same] at hn

theorem Numbered.turn {endpoints : Endpoints} {x x' : Session} {j j' : Journal} {s : Step}
    (numbered : j.Numbered) (turn : Turn endpoints x j s x' j') : j'.Numbered := by
  cases turn with
  | ask kind => exact numbered.append rfl (j.rank_nextGet endpoints _ kind) _ _
  | post c intent carried =>
    refine numbered.append rfl ?_ _ _
    rintro kind n ⟨⟩
  | told e kind rank answer waits errand => exact numbered.of_slips (by simp)
  | confirm e intent answer waits errand =>
    have heard : (Journal.mk j.calls (j.entries.map (Entry.hear e.slip.number answer))
        j.ended).Numbered := numbered.of_slips (by simp)
    have next := heard.append (e := j.nextGet endpoints e.slip.call .status)
      (by simp [nextGet]) ?_ j.calls j.ended
    · exact next
    · intro other n hn
      have count_eq : (Journal.mk j.calls (j.entries.map (Entry.hear e.slip.number answer))
          j.ended).count other = j.count other := congrArg List.length (j.ranks_hear _ _ other)
      rw [count_eq]
      exact j.rank_nextGet endpoints e.slip.call .status other n hn
  | stray number answer unknown => exact numbered
  | subscribe => exact numbered
  | drain receiver => exact numbered
  | clearError => exact numbered

section Unique

variable {j : Journal} {e e' : Entry}

theorem Numbered.eq_of_number (numbered : j.Numbered) (he : e ∈ j.entries) (he' : e' ∈ j.entries)
    (number : e.slip.number = e'.slip.number) : e = e' := by
  have nodup : (j.entries.map fun e => e.slip.number).Nodup := by
    rw [numbered.numbers]
    exact List.nodup_range'
  exact List.inj_on_of_nodup_map nodup he he' number

theorem Numbered.eq_of_rank (numbered : j.Numbered) {kind : Kind} {rank : Nat}
    (he : e ∈ j.entries) (he' : e' ∈ j.entries) (errand : e.slip.errand = .get kind rank)
    (errand' : e'.slip.errand = .get kind rank) : e = e' := by
  have nodup : (j.ranks kind).Nodup := by
    rw [numbered.ranks]
    exact List.nodup_range'
  have pairwise := List.pairwise_filterMap.mp nodup
  have symm : Std.Symm fun a b : Entry => ∀ m, a.slip.errand.rank? kind = some m →
      ∀ n, b.slip.errand.rank? kind = some n → m ≠ n :=
    ⟨fun a b h m hm n hn => (h n hn m hm).symm⟩
  by_contra ne
  exact pairwise.forall he he' ne rank (by simp [errand, Errand.rank?]) rank
    (by simp [errand', Errand.rank?]) rfl

private theorem mem_ranks {kind : Kind} {rank : Nat} :
    rank ∈ j.ranks kind ↔ ∃ e ∈ j.entries, e.slip.errand = .get kind rank := by
  simp only [ranks, List.mem_filterMap]
  constructor
  · rintro ⟨e, he, hr⟩
    refine ⟨e, he, ?_⟩
    cases errand : e.slip.errand with
    | get k n =>
      by_cases same : k = kind
      · simpa [errand, Errand.rank?, same] using hr
      · simp [errand, Errand.rank?, same] at hr
    | post intent => simp [errand, Errand.rank?] at hr
  · rintro ⟨e, he, errand⟩
    exact ⟨e, he, by simp [errand, Errand.rank?]⟩

theorem Numbered.exists_rank_iff (numbered : j.Numbered) {kind : Kind} {rank : Nat} :
    (∃ e ∈ j.entries, e.slip.errand = .get kind rank) ↔ 1 ≤ rank ∧ rank ≤ j.count kind := by
  rw [← mem_ranks, numbered.ranks, List.mem_range'_1]
  omega

theorem mem_of_mem_pending (waits : e ∈ j.pending) : e ∈ j.entries :=
  (List.mem_filter.mp waits).1

theorem isOpen_of_mem_pending (waits : e ∈ j.pending) : e.isOpen :=
  (List.mem_filter.mp waits).2

theorem Numbered.hear_split (numbered : j.Numbered) (waits : e ∈ j.pending) (answer : Answer) :
    ∃ front back, j.entries = front ++ e :: back ∧
      j.entries.map (Entry.hear e.slip.number answer) =
        front ++ { e with answer := some answer } :: back := by
  obtain ⟨front, back, split⟩ := List.append_of_mem (mem_of_mem_pending waits)
  have nodup : (j.entries.map fun e => e.slip.number).Nodup := by
    rw [numbered.numbers]
    exact List.nodup_range'
  rw [split, List.map_append, List.map_cons, List.nodup_middle, List.nodup_cons] at nodup
  have same : ∀ l : List Entry, (∀ other ∈ l, other ∈ front ++ back) →
      l.map (Entry.hear e.slip.number answer) = l := by
    intro l sub
    refine (List.map_congr_left fun other mem => ?_).trans (List.map_id l)
    refine Entry.hear_of_ne (fun number => nodup.1 ?_) answer
    rw [← number, ← List.map_append]
    exact List.mem_map_of_mem (f := fun e : Entry => e.slip.number) (sub other mem)
  refine ⟨front, back, split, ?_⟩
  rw [split, List.map_append, List.map_cons, Entry.hear_of_open (isOpen_of_mem_pending waits),
    same front (fun _ mem => List.mem_append_left _ mem),
    same back (fun _ mem => List.mem_append_right _ mem)]

theorem Numbered.mem_hear (numbered : j.Numbered) (waits : e ∈ j.pending) (answer : Answer) :
    e' ∈ j.entries.map (Entry.hear e.slip.number answer) ↔
      (e' ∈ j.entries ∧ e' ≠ e) ∨ e' = { e with answer := some answer } := by
  have he := mem_of_mem_pending waits
  have heard := Entry.hear_of_open (isOpen_of_mem_pending waits) answer
  rw [List.mem_map]
  constructor
  · rintro ⟨old, hold, rfl⟩
    by_cases same : old = e
    · rw [same, heard]
      exact .inr rfl
    · have ne : old.slip.number ≠ e.slip.number :=
        fun number => same (numbered.eq_of_number hold he number)
      rw [Entry.hear_of_ne ne]
      exact .inl ⟨hold, same⟩
  · rintro (⟨hold, ne⟩ | rfl)
    · have other : e'.slip.number ≠ e.slip.number :=
        fun number => ne (numbered.eq_of_number hold he number)
      exact ⟨e', hold, Entry.hear_of_ne other answer⟩
    · exact ⟨e, he, heard⟩

end Unique

section Turn

variable {endpoints : Endpoints} {x x' : Session} {j j' : Journal} {e : Entry} {number : Nat}
  {answer : Answer}

theorem Numbered.turn_answer (numbered : j.Numbered) (mem : e ∈ j.entries)
    (named : e.slip.number = number) (turn : Turn endpoints x j (.answer number answer) x' j') :
    (∃ kind rank, e.slip.errand = .get kind rank ∧
      x' = (x.settle kind rank answer).session ∧
      j' = { j with
        entries := j.entries.map (Entry.hear number answer)
        ended := j.ended ++ [(e.slip.call, (x.settle kind rank answer).outcome)] }) ∨
    (∃ intent, e.slip.errand = .post intent ∧
      x' = (x.posted intent answer).issue .status ∧
      j' = { j with
        entries := j.entries.map (Entry.hear number answer) ++
          [j.nextGet endpoints e.slip.call .status] }) ∨
    (e ∉ j.pending ∧ x' = x ∧ j' = j) := by
  cases turn with
  | told other kind rank answer waits errand =>
    obtain rfl := numbered.eq_of_number mem (mem_of_mem_pending waits) named
    exact .inl ⟨kind, rank, errand, rfl, rfl⟩
  | confirm other intent answer waits errand =>
    obtain rfl := numbered.eq_of_number mem (mem_of_mem_pending waits) named
    exact .inr (.inl ⟨intent, errand, rfl, rfl⟩)
  | stray number answer unknown =>
    exact .inr (.inr ⟨fun waits => unknown e waits named, rfl, rfl⟩)

theorem Numbered.turn_get (numbered : j.Numbered) (waits : e ∈ j.pending)
    (named : e.slip.number = number) {kind : Kind} {rank : Nat}
    (errand : e.slip.errand = .get kind rank)
    (turn : Turn endpoints x j (.answer number answer) x' j') :
    x' = (x.settle kind rank answer).session ∧
      j' = { j with
        entries := j.entries.map (Entry.hear number answer)
        ended := j.ended ++ [(e.slip.call, (x.settle kind rank answer).outcome)] } := by
  rcases numbered.turn_answer (mem_of_mem_pending waits) named turn with
    ⟨kind', rank', errand', hx, hj⟩ | ⟨intent, errand', -⟩ | ⟨heard, -⟩
  · rw [errand] at errand'
    cases errand'
    exact ⟨hx, hj⟩
  · rw [errand] at errand'
    cases errand'
  · exact (heard waits).elim

theorem Numbered.turn_post (numbered : j.Numbered) (waits : e ∈ j.pending)
    (named : e.slip.number = number) {intent : String} (errand : e.slip.errand = .post intent)
    (turn : Turn endpoints x j (.answer number answer) x' j') :
    x' = (x.posted intent answer).issue .status ∧
      j' = { j with
        entries := j.entries.map (Entry.hear number answer) ++
          [j.nextGet endpoints e.slip.call .status] } := by
  rcases numbered.turn_answer (mem_of_mem_pending waits) named turn with
    ⟨kind, rank, errand', -⟩ | ⟨intent', errand', hx, hj⟩ | ⟨heard, -⟩
  · rw [errand] at errand'
    cases errand'
  · rw [errand] at errand'
    cases errand'
    exact ⟨hx, hj⟩
  · exact (heard waits).elim

theorem slips_turn {s : Step} (turn : Turn endpoints x j s x' j') : j.slips <+: j'.slips := by
  cases turn with
  | ask kind => exact ⟨_, (List.map_append ..).symm⟩
  | post c intent carried => exact ⟨_, (List.map_append ..).symm⟩
  | told e kind rank answer waits errand => exact ⟨[], by simp [slips, Function.comp_def]⟩
  | confirm e intent answer waits errand =>
    rw [Journal.slips, Journal.slips, List.map_append]
    exact ⟨_, by rw [slips_hear]; rfl⟩
  | stray | subscribe | drain | clearError => exact List.prefix_rfl

theorem Numbered.answered_turn (numbered : j.Numbered) {s : Step}
    (turn : Turn endpoints x j s x' j') (mem : e ∈ j'.entries) (answered : e.answer = some answer) :
    e ∈ j.entries ∨
      (s = .answer e.slip.number answer ∧ { e with answer := none } ∈ j.pending) := by
  have heard : ∀ e₀ ∈ j.pending, ∀ answer₀,
      e ∈ j.entries.map (Entry.hear e₀.slip.number answer₀) →
        e ∈ j.entries ∨ (Step.answer e₀.slip.number answer₀ = .answer e.slip.number answer ∧
          { e with answer := none } ∈ j.pending) := by
    intro e₀ waits answer₀ mem
    rcases (numbered.mem_hear waits answer₀).mp mem with ⟨old, -⟩ | rfl
    · exact .inl old
    · obtain rfl := Option.some.inj answered
      have unanswered : e₀.answer = none := by
        simpa [Entry.isOpen] using isOpen_of_mem_pending waits
      refine .inr ⟨rfl, ?_⟩
      rw [← unanswered]
      exact waits
  have old_or_sent : ∀ (entries : List Entry) (sent : Entry), sent.isOpen →
      e ∈ entries ++ [sent] → e ∈ entries := by
    intro entries sent isOpen mem
    rcases List.mem_append.mp mem with mem | mem
    · exact mem
    · obtain rfl := List.mem_singleton.mp mem
      simp [Entry.isOpen, answered] at isOpen
  cases turn with
  | ask kind => exact .inl (old_or_sent _ _ rfl mem)
  | post c intent carried => exact .inl (old_or_sent _ _ rfl mem)
  | told e₀ kind rank answer₀ waits errand => exact heard e₀ waits answer₀ mem
  | confirm e₀ intent answer₀ waits errand =>
    exact heard e₀ waits answer₀ (old_or_sent _ _ rfl mem)
  | stray | subscribe | drain | clearError => exact .inl mem

end Turn

section Old

variable {j j' : Journal} {e : Entry}

theorem exists_of_mem_slips {slip : Slip} (mem : slip ∈ j.slips) :
    ∃ e ∈ j.entries, e.slip = slip :=
  List.mem_map.mp mem

theorem mem_slips (mem : e ∈ j.entries) : e.slip ∈ j.slips :=
  List.mem_map_of_mem mem

theorem Numbered.exists_number_iff (numbered : j.Numbered) {number : Nat} :
    (∃ e ∈ j.entries, e.slip.number = number) ↔ 1 ≤ number ∧ number ≤ j.entries.length := by
  have numbers : number ∈ j.entries.map (fun e => e.slip.number) ↔
      ∃ e ∈ j.entries, e.slip.number = number := List.mem_map
  rw [← numbers, numbered.numbers, List.mem_range'_1]
  omega

theorem Numbered.mem_slips_of_number (numbered : j.Numbered) (numbered' : j'.Numbered)
    (slips : j.slips <+: j'.slips) (mem : e ∈ j'.entries)
    (le : e.slip.number ≤ j.entries.length) : e.slip ∈ j.slips := by
  have positive := (numbered'.exists_number_iff.mp ⟨e, mem, rfl⟩).1
  obtain ⟨old, hold, number⟩ := numbered.exists_number_iff.mpr ⟨positive, le⟩
  obtain ⟨again, hagain, same⟩ := exists_of_mem_slips (slips.subset (mem_slips hold))
  obtain rfl := numbered'.eq_of_number hagain mem (by rw [same, number])
  rw [same]
  exact mem_slips hold

theorem Numbered.mem_slips_of_rank (numbered : j.Numbered) (numbered' : j'.Numbered)
    (slips : j.slips <+: j'.slips) (mem : e ∈ j'.entries) {kind : Kind} {rank : Nat}
    (errand : e.slip.errand = .get kind rank) (le : rank ≤ j.count kind) : e.slip ∈ j.slips := by
  have positive := (numbered'.exists_rank_iff.mp ⟨e, mem, errand⟩).1
  obtain ⟨old, hold, ranked⟩ := numbered.exists_rank_iff.mpr ⟨positive, le⟩
  obtain ⟨again, hagain, same⟩ := exists_of_mem_slips (slips.subset (mem_slips hold))
  obtain rfl := numbered'.eq_of_rank hagain mem (by rw [same, ranked]) errand
  rw [same]
  exact mem_slips hold

theorem Numbered.rank_le_count (numbered : j.Numbered) (old : e.slip ∈ j.slips) {kind : Kind}
    {rank : Nat} (errand : e.slip.errand = .get kind rank) : rank ≤ j.count kind := by
  obtain ⟨e', he', same⟩ := exists_of_mem_slips old
  exact (numbered.exists_rank_iff.mp ⟨e', he', by rw [same, errand]⟩).2

end Old

end ShowRemote.Journal

namespace ShowRemote.History

open Journal (Entry)

theorem numbered_run (endpoints : Endpoints) (steps : List Step) :
    ((opened endpoints).run steps).journal.Numbered :=
  run_induction (P := fun _ j => j.Numbered) Journal.numbered_blank
    (fun _ _ _ _ _ numbered turn => numbered.turn turn) steps

/-- What is kept by every turn of a numbered journal holds in every run. -/
theorem numbered_induction {endpoints : Endpoints} {P : Session → Journal → Prop}
    (fresh : P .fresh .blank)
    (turn : ∀ x j s x' j', j.Numbered → P x j → Turn endpoints x j s x' j' → P x' j')
    (steps : List Step) :
    P ((opened endpoints).run steps).session ((opened endpoints).run steps).journal := by
  induction steps using List.reverseRecOn with
  | nil => exact fresh
  | append_singleton steps s ih =>
    exact turn _ _ s _ _ (numbered_run endpoints steps) ih (turn_run endpoints steps s)

theorem slips_run (endpoints : Endpoints) (steps more : List Step) :
    ((opened endpoints).run steps).journal.slips <+:
      ((opened endpoints).run (steps ++ more)).journal.slips :=
  run_induction_from
    (P := fun _ j => ((opened endpoints).run steps).journal.slips <+: j.slips)
    List.prefix_rfl (fun _ _ _ _ _ slips turn => slips.trans (Journal.slips_turn turn)) more

/-- An answered request was in flight when a step of the run brought its answer. -/
theorem answered_at (endpoints : Endpoints) (steps : List Step) {e : Entry} {answer : Answer}
    (mem : e ∈ ((opened endpoints).run steps).journal.entries)
    (answered : e.answer = some answer) :
    ∃ front back, steps = front ++ .answer e.slip.number answer :: back ∧
      { e with answer := none } ∈ ((opened endpoints).run front).journal.pending := by
  induction steps using List.reverseRecOn with
  | nil => cases mem
  | append_singleton steps s ih =>
    rcases (numbered_run endpoints steps).answered_turn (turn_run endpoints steps s) mem answered
      with old | ⟨rfl, waits⟩
    · obtain ⟨front, back, split, waits⟩ := ih old
      exact ⟨front, back ++ [s], by rw [split, List.append_assoc, List.cons_append], waits⟩
    · exact ⟨steps, [], rfl, waits⟩

end ShowRemote.History
