import ShowRemote.Proofs.Session.Numbering

/-!
The latest get that was answered with success wins, whatever the order of the answers. In every run
a session shows, of each kind, the document of the good answer with the greatest rank
(`latest_run`), and so two runs whose gets were answered alike show the same.

Main statement: `latest_issued_success_wins`.
-/

set_option autoImplicit false

namespace ShowRemote

open Journal (Entry)
open Show (Directory Status)

namespace Journal

/-- A get of a kind had an answer that was good for a document. -/
def Usable (j : Journal) (kind : Kind) (rank : Nat) (document : Json) : Prop :=
  ∃ e ∈ j.entries, e.slip.errand = .get kind rank ∧
    ∃ answer, e.answer = some answer ∧ kind.verdict answer = .ok document

/-- The greatest rank of a get of a kind with a good answer, and what the answer was good for. -/
inductive Latest (j : Journal) (kind : Kind) : Nat → Option Json → Prop
  | unheard (never : ∀ rank document, ¬ j.Usable kind rank document) : Latest j kind 0 none
  | heard {rank : Nat} {document : Json} (usable : j.Usable kind rank document)
      (greatest : ∀ other document, j.Usable kind other document → other ≤ rank) :
      Latest j kind rank (some document)

section

variable {j j' : Journal} {kind other : Kind} {rank : Nat} {document : Json}

private theorem Latest.congr {last : Option Json} (latest : j.Latest kind rank last)
    (same : ∀ rank document, j'.Usable kind rank document ↔ j.Usable kind rank document) :
    j'.Latest kind rank last := by
  cases latest with
  | unheard never =>
    exact .unheard fun rank document usable => never rank document ((same _ _).mp usable)
  | heard usable greatest =>
    exact .heard ((same _ _).mpr usable) fun rank document usable =>
      greatest rank document ((same _ _).mp usable)

theorem Numbered.usable_unique (numbered : j.Numbered) {document' : Json}
    (usable : j.Usable kind rank document) (usable' : j.Usable kind rank document') :
    document = document' := by
  obtain ⟨e, he, errand, answer, ha, hv⟩ := usable
  obtain ⟨e', he', errand', answer', ha', hv'⟩ := usable'
  obtain rfl := numbered.eq_of_rank he he' errand errand'
  obtain rfl := Option.some.inj (ha.symm.trans ha')
  exact Except.ok.inj (hv.symm.trans hv')

private theorem Latest.unique (numbered : j.Numbered) {rank' : Nat} {last last' : Option Json}
    (latest : j.Latest kind rank last) (latest' : j.Latest kind rank' last') :
    rank = rank' ∧ last = last' := by
  cases latest with
  | unheard never =>
    cases latest' with
    | unheard _ => exact ⟨rfl, rfl⟩
    | heard usable _ => exact (never _ _ usable).elim
  | heard usable greatest =>
    cases latest' with
    | unheard never => exact (never _ _ usable).elim
    | heard usable' greatest' =>
      obtain rfl := Nat.le_antisymm (greatest' _ _ usable) (greatest _ _ usable')
      exact ⟨rfl, congrArg some (numbered.usable_unique usable usable')⟩

private theorem usable_append {e : Entry} (isOpen : e.isOpen) (calls : List Call)
    (entries : List Entry) (ended : List (Nat × Outcome)) :
    (Journal.mk calls (entries ++ [e]) ended).Usable kind rank document ↔
      (Journal.mk calls entries ended).Usable kind rank document := by
  constructor
  · rintro ⟨e', he', errand, answer, ha, hv⟩
    rcases List.mem_append.mp he' with he' | he'
    · exact ⟨e', he', errand, answer, ha, hv⟩
    · obtain rfl := List.mem_singleton.mp he'
      simp [Entry.isOpen, ha] at isOpen
  · rintro ⟨e', he', rest⟩
    exact ⟨e', List.mem_append_left _ he', rest⟩

private theorem Numbered.usable_hear (numbered : j.Numbered) {e : Entry} (waits : e ∈ j.pending)
    (answer : Answer) (calls : List Call) (ended : List (Nat × Outcome)) :
    (Journal.mk calls (j.entries.map (Entry.hear e.slip.number answer)) ended).Usable
        kind rank document ↔
      j.Usable kind rank document ∨
        (e.slip.errand = .get kind rank ∧ kind.verdict answer = .ok document) := by
  have isOpen := isOpen_of_mem_pending waits
  constructor
  · rintro ⟨e', he', errand, answer', ha, hv⟩
    rcases (numbered.mem_hear waits answer).mp he' with ⟨he', -⟩ | rfl
    · exact .inl ⟨e', he', errand, answer', ha, hv⟩
    · obtain rfl := Option.some.inj ha
      exact .inr ⟨errand, hv⟩
  · rintro (⟨e', he', errand, answer', ha, hv⟩ | ⟨errand, hv⟩)
    · refine ⟨e', (numbered.mem_hear waits answer).mpr (.inl ⟨he', ?_⟩), errand, answer', ha, hv⟩
      rintro rfl
      simp [Entry.isOpen, ha] at isOpen
    · exact ⟨_, (numbered.mem_hear waits answer).mpr (.inr rfl), errand, answer, rfl, hv⟩

end

def ShownBy (j : Journal) (x : Session) (kind : Kind) : Prop :=
  ∃ last, j.Latest kind (x.applied kind) last ∧ x.Shows kind last

private theorem shownBy_fresh (kind : Kind) : blank.ShownBy .fresh kind := by
  refine ⟨none, ?_, ?_⟩
  · cases kind <;>
      exact .unheard fun rank document ⟨e, he, _⟩ => (List.not_mem_nil he).elim
  · cases kind with
    | status => exact ⟨rfl, rfl, rfl⟩
    | directory => rfl

section

variable {endpoints : Endpoints} {x x' : Session} {j j' : Journal} {kind other : Kind}

private theorem ShownBy.congr (shown : j.ShownBy x kind)
    (applied : x'.applied kind = x.applied kind)
    (shows : ∀ last, x'.Shows kind last ↔ x.Shows kind last)
    (same : ∀ rank document, j'.Usable kind rank document ↔ j.Usable kind rank document) :
    j'.ShownBy x' kind := by
  obtain ⟨last, latest, hs⟩ := shown
  exact ⟨last, applied ▸ latest.congr same, (shows last).mpr hs⟩

private theorem ShownBy.told (numbered : j.Numbered) (shown : j.ShownBy x other) {e : Entry}
    {rank : Nat} (waits : e ∈ j.pending) (errand : e.slip.errand = .get kind rank)
    (answer : Answer) (calls : List Call) (ended : List (Nat × Outcome)) :
    (Journal.mk calls (j.entries.map (Entry.hear e.slip.number answer)) ended).ShownBy
      (x.settle kind rank answer).session other := by
  have usable : ∀ n document,
      (Journal.mk calls (j.entries.map (Entry.hear e.slip.number answer)) ended).Usable other n
          document ↔
        j.Usable other n document ∨
          ((kind = other ∧ rank = n) ∧ kind.verdict answer = .ok document) := by
    intro n document
    rw [numbered.usable_hear waits, errand, Errand.get.injEq]
    constructor
    · rintro (old | ⟨⟨rfl, rfl⟩, hv⟩)
      · exact .inl old
      · exact .inr ⟨⟨rfl, rfl⟩, hv⟩
    · rintro (old | ⟨⟨rfl, rfl⟩, hv⟩)
      · exact .inl old
      · exact .inr ⟨⟨rfl, rfl⟩, hv⟩
  rcases x.settle_cases kind rank answer with
    ⟨failure, hv, hs⟩ | ⟨document, hv, late, hs⟩ | ⟨document, hv, newer, hs⟩
  · rw [hs]
    exact shown.congr (x.applied_fail other _) (x.shows_fail other _)
      fun n document => by simp [usable, hv]
  · -- An answer that comes too late is good, but of a rank that is not the greatest.
    rw [hs]
    obtain ⟨last, latest, hx⟩ := shown
    refine ⟨last, ?_, hx⟩
    by_cases same : kind = other
    · subst same
      have known : 1 ≤ rank ∧ rank ≤ j.count kind :=
        numbered.exists_rank_iff.mp ⟨e, mem_of_mem_pending waits, errand⟩
      generalize x.applied kind = applied at late latest
      cases latest with
      | unheard never => omega
      | heard old greatest =>
        refine .heard ((usable _ _).mpr (.inl old)) ?_
        intro n document' good
        rcases (usable _ _).mp good with good | ⟨⟨-, rfl⟩, -⟩
        · exact greatest n document' good
        · exact late
    · exact latest.congr fun n document' => by simp [usable, same]
  · rw [hs]
    by_cases same : kind = other
    · subst same
      refine ⟨some document, ?_, x.shows_adopt kind rank document⟩
      rw [Session.applied_adopt, if_pos rfl]
      refine .heard ((usable _ _).mpr (.inr ⟨⟨rfl, rfl⟩, hv⟩)) ?_
      intro n document' good
      rcases (usable _ _).mp good with good | ⟨⟨-, rfl⟩, -⟩
      · obtain ⟨last, latest, -⟩ := shown
        generalize x.applied kind = applied at newer latest
        cases latest with
        | unheard never => exact (never n document' good).elim
        | heard _ greatest => exact (greatest n document' good).trans newer.le
      · exact Nat.le_refl _
    · refine shown.congr ?_ (x.shows_adopt_of_ne (Ne.symm same) rank document)
        fun n document' => by simp [usable, same]
      rw [Session.applied_adopt, if_neg (Ne.symm same)]

private theorem ShownBy.turn {s : Step} (numbered : j.Numbered) (shown : j.ShownBy x kind)
    (turn : Turn endpoints x j s x' j') : j'.ShownBy x' kind := by
  cases turn with
  | ask asked =>
    exact shown.congr (x.applied_issue asked kind) (x.shows_issue asked kind)
      fun rank document => usable_append rfl _ _ _
  | post c intent carried =>
    exact shown.congr rfl (fun _ => Iff.rfl) fun rank document => usable_append rfl _ _ _
  | told e asked rank answer waits errand => exact shown.told numbered waits errand answer _ _
  | confirm e intent answer waits errand =>
    refine shown.congr (by simp) ?_ ?_
    · intro last
      rw [Session.shows_issue, Session.shows_posted]
    · intro rank document
      rw [usable_append rfl, numbered.usable_hear waits, errand]
      simp
  | stray number answer unknown => exact shown
  | subscribe => exact shown
  | drain receiver => exact shown
  | clearError =>
    exact shown.congr (by cases kind <;> rfl) (x.shows_clearError kind) fun _ _ => Iff.rfl

theorem applied_le_turn {s : Step} (turn : Turn endpoints x j s x' j') :
    x.applied kind ≤ x'.applied kind := by
  cases turn with
  | told e asked rank answer waits errand =>
    rcases x.settle_cases asked rank answer with
      ⟨failure, -, hs⟩ | ⟨document, -, -, hs⟩ | ⟨document, -, newer, hs⟩
    · rw [hs]
      exact (x.applied_fail kind _).ge
    · rw [hs]
    · rw [hs, Session.applied_adopt]
      split
      · next same => exact same ▸ newer.le
      · exact Nat.le_refl _
  | ask asked => simp
  | confirm e intent answer waits errand => simp
  | clearError => cases kind <;> exact Nat.le_refl _
  | post | stray | subscribe | drain => exact Nat.le_refl _

end

section

variable {j : Journal} {rank : Nat} {document : Json}

theorem usable_status_iff : j.Usable .status rank document ↔ j.Answered .status rank document := by
  simp only [Usable, Answered, Kind.verdict_status_eq_ok]
  constructor
  · rintro ⟨e, he, errand, answer, ha, rfl⟩
    exact ⟨e, he, errand, ha⟩
  · rintro ⟨e, he, errand, ha⟩
    exact ⟨e, he, errand, _, ha, rfl⟩

private theorem usable_directory_iff :
    j.Usable .directory rank document ↔
      j.Answered .directory rank document ∧
        ∃ listing, Directory.ofJson document = .ok listing := by
  simp only [Usable, Answered, Kind.verdict_directory_eq_ok]
  constructor
  · rintro ⟨e, he, errand, answer, ha, rfl, listed⟩
    exact ⟨⟨e, he, errand, ha⟩, listed⟩
  · rintro ⟨⟨e, he, errand, ha⟩, listed⟩
    exact ⟨e, he, errand, _, ha, rfl, listed⟩

theorem Latest.isGreatest {kind : Kind} {last : Option Json} (latest : j.Latest kind rank last) :
    IsGreatest {n | n = 0 ∨ ∃ document, j.Usable kind n document} rank := by
  cases latest with
  | unheard never =>
    refine ⟨.inl rfl, ?_⟩
    rintro n (rfl | ⟨document, usable⟩)
    · exact Nat.le_refl _
    · exact (never n document usable).elim
  | heard usable greatest =>
    refine ⟨.inr ⟨_, usable⟩, ?_⟩
    rintro n (rfl | ⟨document, usable'⟩)
    · exact Nat.zero_le _
    · exact greatest n document usable'

private theorem Latest.eq_none {kind : Kind} {last : Option Json} (numbered : j.Numbered)
    (latest : j.Latest kind rank last) (zero : rank = 0) : last = none := by
  cases latest with
  | unheard _ => rfl
  | heard usable _ =>
    obtain ⟨e, he, errand, -⟩ := usable
    have positive := (numbered.exists_rank_iff.mp ⟨e, he, errand⟩).1
    omega

private theorem Latest.eq_some {kind : Kind} {last : Option Json} (numbered : j.Numbered)
    (latest : j.Latest kind rank last) (usable : j.Usable kind rank document) :
    last = some document := by
  cases latest with
  | unheard never => exact (never _ document usable).elim
  | heard usable' _ => exact congrArg some (numbered.usable_unique usable' usable)

private theorem Latest.le_count {kind : Kind} {last : Option Json} (numbered : j.Numbered)
    (latest : j.Latest kind rank last) : rank ≤ j.count kind := by
  cases latest with
  | unheard _ => exact Nat.zero_le _
  | heard usable _ =>
    obtain ⟨e, he, errand, -⟩ := usable
    exact (numbered.exists_rank_iff.mp ⟨e, he, errand⟩).2

end
end Journal

namespace History

/-- In every run a session shows the latest of each kind. -/
theorem shownBy_run (endpoints : Endpoints) (steps : List Step) (kind : Kind) :
    ((opened endpoints).run steps).journal.ShownBy ((opened endpoints).run steps).session kind :=
  numbered_induction (P := fun x j => j.ShownBy x kind) (Journal.shownBy_fresh kind)
    (fun _ _ _ _ _ numbered shown turn => shown.turn numbered turn) steps

theorem shows_newest (endpoints : Endpoints) (steps : List Step) {kind : Kind} {document : Json}
    (usable : ((opened endpoints).run steps).journal.Usable kind
      (((opened endpoints).run steps).journal.count kind) document) :
    ((opened endpoints).run steps).session.Shows kind (some document) := by
  have numbered := numbered_run endpoints steps
  obtain ⟨last, latest, shows⟩ := shownBy_run endpoints steps kind
  have newest : ((opened endpoints).run steps).session.applied kind =
      ((opened endpoints).run steps).journal.count kind :=
    Nat.le_antisymm (latest.le_count numbered) (latest.isGreatest.2 (.inr ⟨document, usable⟩))
  rw [← newest] at usable
  obtain rfl := latest.eq_some numbered usable
  exact shows

theorem applied_le_run (endpoints : Endpoints) (steps more : List Step) (kind : Kind) :
    ((opened endpoints).run steps).session.applied kind ≤
      ((opened endpoints).run (steps ++ more)).session.applied kind :=
  run_induction_from
    (P := fun x _ => ((opened endpoints).run steps).session.applied kind ≤ x.applied kind)
    (Nat.le_refl _) (fun _ _ _ _ _ le turn => le.trans (Journal.applied_le_turn turn)) more

/-- The status and the directory held are those of the latest gets answered with success. -/
structure HoldsLatest (h : History) : Prop where
  status_issued : h.session.refreshIssued = h.journal.count .status
  status_greatest : IsGreatest {rank | rank = 0 ∨ ∃ document,
    h.journal.Answered .status rank document} h.session.refreshApplied
  status_le : h.session.refreshApplied ≤ h.session.refreshIssued
  status_none : h.session.refreshApplied = 0 → h.session.status = none
  status_held : ∀ document, h.journal.Answered .status h.session.refreshApplied document →
    h.session.status = some (Status.ofJson document)
  directory_issued : h.session.directoryIssued = h.journal.count .directory
  directory_greatest : IsGreatest {rank | rank = 0 ∨ ∃ document,
    h.journal.Answered .directory rank document ∧
      ∃ listing, Directory.ofJson document = .ok listing} h.session.directoryApplied
  directory_le : h.session.directoryApplied ≤ h.session.directoryIssued
  directory_none : h.session.directoryApplied = 0 → h.session.directory = .empty
  directory_held : ∀ document listing,
    h.journal.Answered .directory h.session.directoryApplied document →
      Directory.ofJson document = .ok listing → h.session.directory = listing

private theorem holdsLatest_run (endpoints : Endpoints) (steps : List Step) :
    ((opened endpoints).run steps).HoldsLatest := by
  have numbered := numbered_run endpoints steps
  have kept := kept_run endpoints steps
  obtain ⟨status, latestStatus, showsStatus⟩ := shownBy_run endpoints steps .status
  obtain ⟨listing, latestListing, showsListing⟩ := shownBy_run endpoints steps .directory
  constructor
  case status_issued => exact kept.issued .status
  case directory_issued => exact kept.issued .directory
  case status_greatest =>
    have greatest := latestStatus.isGreatest
    simp only [Journal.usable_status_iff] at greatest
    exact greatest
  case directory_greatest =>
    have greatest := latestListing.isGreatest
    simp only [Journal.usable_directory_iff] at greatest
    exact greatest
  case status_le => exact (latestStatus.le_count numbered).trans (kept.issued .status).ge
  case directory_le => exact (latestListing.le_count numbered).trans (kept.issued .directory).ge
  case status_none =>
    intro zero
    obtain rfl := latestStatus.eq_none numbered zero
    exact showsStatus.1
  case directory_none =>
    intro zero
    obtain rfl := latestListing.eq_none numbered zero
    exact showsListing
  case status_held =>
    intro document answered
    obtain rfl := latestStatus.eq_some numbered (Journal.usable_status_iff.mpr answered)
    exact showsStatus.1
  case directory_held =>
    intro document found answered listed
    obtain rfl := latestListing.eq_some numbered
      (Journal.usable_directory_iff.mpr ⟨answered, found, listed⟩)
    have shows : _ = Directory.ofJsonOrEmpty document := showsListing
    rw [shows, Directory.ofJsonOrEmpty, listed]

/-- The gets of two histories, by kind and rank, were answered with the same documents. -/
def AnsweredAlike (h h' : History) : Prop :=
  ∀ kind rank document,
    h.journal.Answered kind rank document ↔ h'.journal.Answered kind rank document

/-- What a session shows and has heard does not differ. -/
structure LooksLike (h h' : History) : Prop where
  status : h.session.status = h'.session.status
  view : h.session.view = h'.session.view
  player : h.session.player = h'.session.player
  loopNext : h.session.loopNext = h'.session.loopNext
  directory : h.session.directory = h'.session.directory
  options : h.session.options = h'.session.options
  heard : h.session.heard = h'.session.heard

/-- The latest answer of a kind depends on the documents that answered gets, and on nothing else. -/
private theorem AnsweredAlike.shown {endpoints endpoints' : Endpoints} {steps steps' : List Step}
    (alike : ((opened endpoints).run steps).AnsweredAlike ((opened endpoints').run steps'))
    (kind : Kind) :
    ((opened endpoints).run steps).session.applied kind =
        ((opened endpoints').run steps').session.applied kind ∧
      ∃ last, ((opened endpoints).run steps).session.Shows kind last ∧
        ((opened endpoints').run steps').session.Shows kind last := by
  have usable : ∀ rank document,
      ((opened endpoints).run steps).journal.Usable kind rank document ↔
        ((opened endpoints').run steps').journal.Usable kind rank document := by
    intro rank document
    cases kind with
    | status => simp only [Journal.usable_status_iff, alike .status rank document]
    | directory => simp only [Journal.usable_directory_iff, alike .directory rank document]
  obtain ⟨last, latest, shows⟩ := shownBy_run endpoints steps kind
  obtain ⟨last', latest', shows'⟩ := shownBy_run endpoints' steps' kind
  obtain ⟨applied, rfl⟩ := latest.unique (numbered_run endpoints steps) (latest'.congr usable)
  exact ⟨applied, last, shows, shows'⟩

private theorem AnsweredAlike.looksLike {endpoints endpoints' : Endpoints}
    {steps steps' : List Step}
    (alike : ((opened endpoints).run steps).AnsweredAlike ((opened endpoints').run steps')) :
    ((opened endpoints).run steps).LooksLike ((opened endpoints').run steps') := by
  obtain ⟨refreshed, last, ⟨status, view, loopNext⟩, status', view', loopNext'⟩ :=
    alike.shown .status
  obtain ⟨loaded, listing, directory, directory'⟩ := alike.shown .directory
  have same_status := status.trans status'.symm
  have same_directory := Eq.trans directory directory'.symm
  refine ⟨same_status, view.trans view'.symm, ?_, loopNext.trans loopNext'.symm, same_directory,
    congrArg Directory.options same_directory, ?_⟩
  · rw [Session.player, same_status]
    rfl
  · have refreshed_eq : _ = ((opened endpoints').run steps').session.refreshApplied := refreshed
    have loaded_eq : _ = ((opened endpoints').run steps').session.directoryApplied := loaded
    simp only [Session.heard, ← refreshed_eq, ← loaded_eq]
    rfl

/-- The latest issued success wins. In every run a session holds what the get with the greatest
rank among those answered with success was answered with; that rank never goes back; and runs whose
gets were answered alike, in whatever order, come to look alike. -/
theorem latest_issued_success_wins (endpoints : Endpoints) :
    (∀ steps, ((opened endpoints).run steps).HoldsLatest) ∧
    (∀ steps more,
      ((opened endpoints).run steps).session.refreshApplied ≤
          ((opened endpoints).run (steps ++ more)).session.refreshApplied ∧
        ((opened endpoints).run steps).session.directoryApplied ≤
          ((opened endpoints).run (steps ++ more)).session.directoryApplied) ∧
    ∀ steps endpoints' steps',
      ((opened endpoints).run steps).AnsweredAlike ((opened endpoints').run steps') →
        ((opened endpoints).run steps).LooksLike ((opened endpoints').run steps') := by
  refine ⟨holdsLatest_run endpoints, ?_, ?_⟩
  · intro steps more
    exact ⟨applied_le_run endpoints steps more .status,
      applied_le_run endpoints steps more .directory⟩
  · intro steps endpoints' steps' alike
    exact alike.looksLike

/-- A late answer to the older get and a late answer to the newer one come to the same. -/
theorem crossed_answers_look_alike :
    let calls : List Step :=
      [.call .refresh, .call (.command (.playback .start)), .answer 2 (.error (.timeout "player")),
        .call .loadDirectory]
    let older : Step := .answer 1 (.ok (.object [("status", .string "idle")]))
    let newer : Step := .answer 3 (.ok (.object [("loop", .string "1")]))
    let listing : Step := .answer 4 (.ok (.object [("shows", .object [])]))
    let inOrder := (opened .standard).run (calls ++ [older, newer, listing])
    let crossed := (opened .standard).run (calls ++ [listing, newer, older])
    inOrder.AnsweredAlike crossed ∧ inOrder.LooksLike crossed ∧
      crossed.session.refreshApplied = 2 ∧ crossed.session.heard = true := by
  intro calls older newer listing inOrder crossed
  have alike : inOrder.AnsweredAlike crossed := fun _ _ _ => Iff.rfl
  exact ⟨alike, (latest_issued_success_wins .standard).2.2 _ _ _ alike, rfl, rfl⟩

end History
end ShowRemote
