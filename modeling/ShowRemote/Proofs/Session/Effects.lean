import ShowRemote.Proofs.Session.Emission

/-!
What a step changes of what a session shows. `Effect` has the four ways in which a step can touch
it: not at all, by a failure that is noted, by a document that is shown, and by clearing the last
error. From it follows what every step leaves alone, and what the last error is: the record of the
latest failure that has not been cleared since (`cause_of_lastError`).

Main statement: `failures_leave_the_rest_alone`.
-/

set_option autoImplicit false

namespace ShowRemote

open Journal (Entry)
open Show (Directory LoopFlag PlayerState ShowOption Status StatusView TransportFault)

/-- All that a session shows. -/
structure Panel where
  view : StatusView
  status : Option Status
  player : PlayerState
  directory : Directory
  options : List ShowOption
  loopNext : LoopFlag
  lastError : Option ErrorRecord
  heard : Bool

namespace Session

def panel (x : Session) : Panel :=
  ⟨x.view, x.status, x.player, x.directory, x.options, x.loopNext, x.lastError, x.heard⟩

def Agrees (x x' : Session) : Kind → Prop
  | .status => x'.status = x.status ∧ x'.view = x.view ∧ x'.player = x.player ∧
    x'.loopNext = x.loopNext ∧ x'.refreshApplied = x.refreshApplied
  | .directory => x'.directory = x.directory ∧ x'.options = x.options ∧
    x'.directoryApplied = x.directoryApplied

theorem agrees_of_same {x x' : Session} (status : x'.status = x.status) (view : x'.view = x.view)
    (loopNext : x'.loopNext = x.loopNext) (refreshed : x'.refreshApplied = x.refreshApplied)
    (directory : x'.directory = x.directory) (loaded : x'.directoryApplied = x.directoryApplied)
    (kind : Kind) : x.Agrees x' kind := by
  cases kind with
  | status => exact ⟨status, view, by rw [player, player, status], loopNext, refreshed⟩
  | directory => exact ⟨directory, congrArg Directory.options directory, loaded⟩

theorem agrees_adopt_of_ne (x : Session) {kind other : Kind} (ne : other ≠ kind) (rank : Nat)
    (document : Json) : x.Agrees (x.adopt rank document kind) other := by
  cases kind <;> cases other
  · exact (ne rfl).elim
  · exact ⟨rfl, rfl, rfl⟩
  · exact ⟨rfl, rfl, rfl, rfl, rfl⟩
  · exact (ne rfl).elim

private theorem lastError_adopt (x : Session) (rank : Nat) (document : Json) (kind : Kind) :
    (x.adopt rank document kind).lastError = x.lastError := by
  cases kind <;> rfl

/-- A session with other counts of the gets that were issued, which nothing shows. -/
def counting (x : Session) (refreshes loads : Nat) : Session :=
  { x with refreshIssued := refreshes, directoryIssued := loads }

private theorem issue_eq_counting (x : Session) (kind : Kind) :
    ∃ refreshes loads, x.issue kind = x.counting refreshes loads := by
  cases kind with
  | status => exact ⟨x.refreshIssued + 1, x.directoryIssued, rfl⟩
  | directory => exact ⟨x.refreshIssued, x.directoryIssued + 1, rfl⟩

end Session

namespace Journal

/-- A step that brings a failure: a post or a get that has no answer, or a listing that is none. -/
inductive Fails (j : Journal) : Step → ErrorRecord → Prop
  | post (e : Entry) (intent : String) (fault : TransportFault) (waits : e ∈ j.pending)
      (errand : e.slip.errand = .post intent) :
      Fails j (.answer e.slip.number (.error fault)) ⟨.command intent, fault.failure⟩
  | get (e : Entry) (kind : Kind) (rank : Nat) (fault : TransportFault) (waits : e ∈ j.pending)
      (errand : e.slip.errand = .get kind rank) :
      Fails j (.answer e.slip.number (.error fault)) ⟨kind.operation, fault.failure⟩
  | listing (e : Entry) (rank : Nat) (document : Json) (fault : Show.ListingFault)
      (waits : e ∈ j.pending) (errand : e.slip.errand = .get .directory rank)
      (rejected : Directory.ofJson document = .error fault) :
      Fails j (.answer e.slip.number (.ok document)) ⟨.loadDirectory, fault.failure⟩

section

variable {j : Journal} {e : Entry} {s : Step} {answer : Answer} {record : ErrorRecord}

theorem Fails.exists_pending (fails : j.Fails s record) :
    ∃ e ∈ j.pending, ∃ answer, s = .answer e.slip.number answer ∧
      e.slip.errand.failure? answer = some record := by
  cases fails with
  | post e intent fault waits errand => exact ⟨e, waits, _, rfl, by rw [errand]; rfl⟩
  | get e kind rank fault waits errand =>
    exact ⟨e, waits, _, rfl, by rw [errand]; cases kind <;> rfl⟩
  | listing e rank document fault waits errand rejected =>
    refine ⟨e, waits, _, rfl, ?_⟩
    simp only [errand, Errand.failure?, Kind.verdict, rejected]
    rfl

private theorem Fails.of_failure? (waits : e ∈ j.pending)
    (fails : e.slip.errand.failure? answer = some record) :
    j.Fails (.answer e.slip.number answer) record := by
  cases errand : e.slip.errand with
  | post intent =>
    rw [errand] at fails
    cases answer with
    | ok document => cases fails
    | error fault =>
      cases fails
      exact .post e intent fault waits errand
  | get kind rank =>
    rw [errand] at fails
    cases answer with
    | error fault =>
      obtain rfl : ErrorRecord.mk kind.operation fault.failure = record := by
        cases kind <;> exact Option.some.inj fails
      exact .get e kind rank fault waits errand
    | ok document =>
      cases kind with
      | status => cases fails
      | directory =>
        cases rejected : Directory.ofJson document with
        | ok listing => simp [Errand.failure?, Kind.verdict, rejected] at fails
        | error fault =>
          simp only [Errand.failure?, Kind.verdict, rejected, Option.some.injEq] at fails
          rw [← fails]
          exact .listing e rank document fault waits errand rejected

private theorem Numbered.fails_iff (numbered : j.Numbered) (waits : e ∈ j.pending) :
    j.Fails (.answer e.slip.number answer) record ↔
      e.slip.errand.failure? answer = some record := by
  constructor
  · intro fails
    obtain ⟨other, waits', answer', same, fails⟩ := fails.exists_pending
    obtain ⟨number, rfl⟩ := Step.answer.inj same
    obtain rfl := numbered.eq_of_number (mem_of_mem_pending waits) (mem_of_mem_pending waits')
      number
    exact fails
  · exact Fails.of_failure? waits

private theorem Numbered.fails_unique (numbered : j.Numbered) {record' : ErrorRecord}
    (fails : j.Fails s record) (fails' : j.Fails s record') : record = record' := by
  obtain ⟨e, waits, answer, rfl, failure⟩ := fails.exists_pending
  rw [numbered.fails_iff waits, failure] at fails'
  exact Option.some.inj fails'

end

/-- What a step does to what a session shows, with the call that it ends. Counts of issued gets
apart, it leaves all as it was, notes a failure, shows a document, or clears the last error. -/
inductive Effect (x : Session) (j : Journal) : Step → Session → Option (Nat × Outcome) → Prop
  | still {s : Step} {ended : Option (Nat × Outcome)} (refreshes loads : Nat)
      (unfailing : ∀ record, ¬ j.Fails s record) (uncleared : s ≠ .clearError)
      (ends : ∀ end_ ∈ ended, end_.2 = .stale) :
      Effect x j s (x.counting refreshes loads) ended
  | failed {s : Step} {ended : Option (Nat × Outcome)} {record : ErrorRecord}
      (fails : j.Fails s record) (refreshes loads : Nat) (ends : ∀ end_ ∈ ended, end_.2 = .failed) :
      Effect x j s ((x.fail record).counting refreshes loads) ended
  | shown {e : Entry} {kind : Kind} {rank : Nat} {answer : Answer} (document : Json)
      (waits : e ∈ j.pending) (errand : e.slip.errand = .get kind rank)
      (unfailing : ∀ record, ¬ j.Fails (.answer e.slip.number answer) record) :
      Effect x j (.answer e.slip.number answer) (x.adopt rank document kind)
        (some (e.slip.call, .applied))
  | cleared : Effect x j .clearError x.clearError none

section

variable {endpoints : Endpoints} {x x' : Session} {j j' : Journal} {s : Step}

private theorem Numbered.effect_get (numbered : j.Numbered) {e : Entry} (waits : e ∈ j.pending)
    {kind : Kind} {rank : Nat} (errand : e.slip.errand = .get kind rank) (x : Session)
    (answer : Answer) :
    Effect x j (.answer e.slip.number answer) (x.settle kind rank answer).session
      (some (e.slip.call, (x.settle kind rank answer).outcome)) := by
  have unfailing : ∀ {document}, kind.verdict answer = .ok document →
      ∀ record, ¬ j.Fails (.answer e.slip.number answer) record := by
    intro document good record fails
    rw [numbered.fails_iff waits, errand] at fails
    simp [Errand.failure?, good] at fails
  rcases x.settle_cases kind rank answer with
    ⟨failure, bad, hs⟩ | ⟨document, good, -, hs⟩ | ⟨document, good, -, hs⟩
  · rw [hs]
    refine .failed (.of_failure? waits ?_) x.refreshIssued x.directoryIssued ?_
    · rw [errand]
      simp [Errand.failure?, bad]
    · rintro _ ⟨⟩
      rfl
  · rw [hs]
    refine .still x.refreshIssued x.directoryIssued (unfailing good) nofun ?_
    rintro _ ⟨⟩
    rfl
  · rw [hs]
    exact .shown document waits errand (unfailing good)

private theorem Numbered.effect_post (numbered : j.Numbered) {e : Entry} (waits : e ∈ j.pending)
    {intent : String} (errand : e.slip.errand = .post intent) (x : Session) (answer : Answer) :
    Effect x j (.answer e.slip.number answer) ((x.posted intent answer).issue .status) none := by
  cases answer with
  | ok document =>
    refine .still (x.refreshIssued + 1) x.directoryIssued ?_ nofun nofun
    intro record fails
    rw [numbered.fails_iff waits, errand] at fails
    cases fails
  | error fault =>
    exact .failed (.post e intent fault waits errand) (x.refreshIssued + 1) x.directoryIssued nofun

private theorem effect_idle (uncalled : ∀ c, s ≠ .call c)
    (unanswered : ∀ number answer, s = .answer number answer →
      ∀ e ∈ j.pending, e.slip.number ≠ number)
    (turn : Turn endpoints x j s x' j') : Effect x j s x' none := by
  cases turn with
  | ask kind => exact (uncalled _ rfl).elim
  | post c intent carried => exact (uncalled c rfl).elim
  | told e kind rank answer waits errand => exact (unanswered _ _ rfl e waits rfl).elim
  | confirm e intent answer waits errand => exact (unanswered _ _ rfl e waits rfl).elim
  | clearError => exact .cleared
  | stray number answer unknown =>
    refine .still x.refreshIssued x.directoryIssued ?_ nofun nofun
    intro record fails
    obtain ⟨e, waits, answer', same, -⟩ := fails.exists_pending
    exact unknown e waits (Step.answer.inj same).1.symm
  | subscribe | drain => exact .still x.refreshIssued x.directoryIssued nofun nofun nofun

private theorem effect_call {c : Call} (turn : Turn endpoints x j (.call c) x' j') :
    Effect x j (.call c) x' none := by
  cases turn with
  | ask kind =>
    obtain ⟨refreshes, loads, same⟩ := x.issue_eq_counting kind
    rw [same]
    exact .still refreshes loads nofun nofun nofun
  | post c intent carried =>
    exact .still x.refreshIssued x.directoryIssued nofun nofun nofun

end

section

variable {x x' : Session} {j : Journal} {s : Step} {ended : Option (Nat × Outcome)}

theorem Effect.agrees (effect : Effect x j s x' ended) (kind : Kind) :
    x.Agrees x' kind ∨
      ∃ get ∈ j.pending, ∃ rank answer, get.slip.errand = .get kind rank ∧
        s = .answer get.slip.number answer ∧ ended = some (get.slip.call, .applied) := by
  cases effect with
  | still | failed | cleared => exact .inl (Session.agrees_of_same rfl rfl rfl rfl rfl rfl kind)
  | @shown e shown_kind rank answer document waits errand =>
    by_cases same : kind = shown_kind
    · subst same
      exact .inr ⟨e, waits, rank, answer, errand, rfl, rfl⟩
    · exact .inl (x.agrees_adopt_of_ne same rank document)

theorem Effect.panel_eq (effect : Effect x j s x' ended) (unfailing : ∀ record, ¬ j.Fails s record)
    (uncleared : s ≠ .clearError) (unshown : ∀ end_ ∈ ended, end_.2 ≠ .applied) :
    x'.panel = x.panel := by
  cases effect with
  | still => rfl
  | failed fails => exact (unfailing _ fails).elim
  | shown => exact (unshown _ rfl rfl).elim
  | cleared => exact (uncleared rfl).elim

private theorem Effect.panel_failed (effect : Effect x j s x' ended) (numbered : j.Numbered)
    {record : ErrorRecord} (fails : j.Fails s record) :
    x'.panel = { x.panel with lastError := some record } := by
  cases effect with
  | still _ _ unfailing => exact (unfailing _ fails).elim
  | failed fails' =>
    obtain rfl := numbered.fails_unique fails fails'
    rfl
  | shown _ _ _ unfailing => exact (unfailing _ fails).elim
  | cleared => cases fails

private theorem Effect.panel_cleared (effect : Effect x j .clearError x' ended) :
    x'.panel = { x.panel with lastError := none } := by
  cases effect with
  | still _ _ _ uncleared => exact (uncleared rfl).elim
  | failed fails => cases fails
  | cleared => rfl

private theorem Effect.lastError_eq (effect : Effect x j s x' ended)
    (unfailing : ∀ record, ¬ j.Fails s record) (uncleared : s ≠ .clearError) :
    x'.lastError = x.lastError := by
  cases effect with
  | still => rfl
  | failed fails => exact (unfailing _ fails).elim
  | shown document => exact x.lastError_adopt _ document _
  | cleared => exact (uncleared rfl).elim

private theorem Effect.exists_fails (effect : Effect x j s x' ended) {call : Nat}
    (ends : ended = some (call, .failed)) : ∃ record, j.Fails s record := by
  subst ends
  cases effect with
  | still _ _ _ _ ends => cases ends _ rfl
  | failed fails => exact ⟨_, fails⟩

private theorem Effect.not_fails (effect : Effect x j s x' ended) {call : Nat}
    (ends : ended = some (call, .stale)) (record : ErrorRecord) : ¬ j.Fails s record := by
  subst ends
  cases effect with
  | still _ _ unfailing => exact unfailing record
  | failed _ _ _ ends => cases ends _ rfl

end
end Journal

namespace History

section

variable {endpoints : Endpoints} {h : History}

theorem Kept.effect (kept : h.Kept endpoints) (numbered : h.journal.Numbered) (s : Step) :
    Journal.Effect h.session h.journal s (h.step s).session (h.desk.step s).2.ended := by
  have turn := (kept.step s).turn
  rcases Journal.step_cases h.journal s with
    ⟨c, rfl⟩ | ⟨e, waits, answer, rfl⟩ | ⟨uncalled, unanswered⟩
  · obtain ⟨request, report⟩ := h.desk.report_call c
    rw [report]
    exact Journal.effect_call turn
  · cases errand : e.slip.errand with
    | get kind rank =>
      rw [(numbered.turn_get waits rfl errand turn).1, kept.report_get numbered waits errand]
      exact numbered.effect_get waits errand _ answer
    | post intent =>
      rw [(numbered.turn_post waits rfl errand turn).1, kept.report_post numbered waits errand]
      exact numbered.effect_post waits errand _ answer
  · obtain ⟨drained, report⟩ := kept.report_idle uncalled unanswered
    rw [report]
    exact Journal.effect_idle uncalled unanswered turn

/-- No step of some that come next brings a failure or clears the last error. -/
def Untroubled (h : History) (more : List Step) : Prop :=
  ∀ front s back, more = front ++ s :: back →
    s ≠ .clearError ∧ ∀ record, ¬ (h.run front).journal.Fails s record

private theorem untroubled_nil (h : History) : h.Untroubled [] := by
  intro front s back split
  simp at split

private theorem untroubled_concat {more : List Step} {s : Step} :
    h.Untroubled (more ++ [s]) ↔
      h.Untroubled more ∧ s ≠ .clearError ∧ ∀ record, ¬ (h.run more).journal.Fails s record := by
  constructor
  · intro quiet
    refine ⟨?_, quiet more s [] rfl⟩
    rintro front t back rfl
    exact quiet front t (back ++ [s]) (by simp)
  · rintro ⟨quiet, last⟩ front t back split
    rcases List.eq_nil_or_concat back with rfl | ⟨back, u, rfl⟩
    · obtain ⟨rfl, same⟩ := List.append_inj' split rfl
      obtain rfl : s = t := by simpa using same
      exact last
    · refine quiet front t back ?_
      have same : more ++ [s] = (front ++ t :: back) ++ [u] := by simpa using split
      exact (List.append_inj' same rfl).1

end

section

variable {endpoints : Endpoints}

private theorem lastError_untroubled {steps more : List Step}
    (quiet : ((opened endpoints).run steps).Untroubled more) :
    ((opened endpoints).run (steps ++ more)).session.lastError =
      ((opened endpoints).run steps).session.lastError := by
  induction more using List.reverseRecOn with
  | nil => rw [List.append_nil]
  | append_singleton more s ih =>
    obtain ⟨quiet, uncleared, unfailing⟩ := untroubled_concat.mp quiet
    rw [← run_append] at unfailing
    rw [← ih quiet, ← List.append_assoc, run_append]
    exact ((kept_run endpoints (steps ++ more)).effect (numbered_run endpoints _) s).lastError_eq
      unfailing uncleared

theorem cause_of_lastError (endpoints : Endpoints) (steps : List Step) :
    (∃ front s back record, steps = front ++ s :: back ∧
      ((opened endpoints).run front).journal.Fails s record ∧
      ((opened endpoints).run (front ++ [s])).Untroubled back ∧
      ((opened endpoints).run steps).session.lastError = some record) ∨
    (∃ front back, steps = front ++ back ∧
      (front = [] ∨ ∃ earlier, front = earlier ++ [.clearError]) ∧
      ((opened endpoints).run front).Untroubled back ∧
      ((opened endpoints).run steps).session.lastError = none) := by
  induction steps using List.reverseRecOn with
  | nil => exact .inr ⟨[], [], rfl, .inl rfl, untroubled_nil _, rfl⟩
  | append_singleton steps s ih =>
    have numbered := numbered_run endpoints steps
    have effect := (kept_run endpoints steps).effect numbered s
    have run : (opened endpoints).run (steps ++ [s]) = ((opened endpoints).run steps).step s :=
      run_append _ steps [s]
    by_cases fails : ∃ record, ((opened endpoints).run steps).journal.Fails s record
    · obtain ⟨record, fails⟩ := fails
      refine .inl ⟨steps, s, [], record, rfl, fails, untroubled_nil _, ?_⟩
      rw [run]
      exact congrArg Panel.lastError (effect.panel_failed numbered fails)
    -- A step that fails or clears is itself the cause; after any other the earlier cause stands.
    · by_cases clears : s = .clearError
      · subst clears
        refine .inr ⟨steps ++ [.clearError], [], by simp, .inr ⟨steps, rfl⟩, untroubled_nil _, ?_⟩
        rw [run]
        exact congrArg Panel.lastError effect.panel_cleared
      · have unfailing := not_exists.mp fails
        have same := effect.lastError_eq unfailing clears
        rcases ih with ⟨front, t, back, record, rfl, fails', quiet, last⟩ |
          ⟨front, back, rfl, start, quiet, last⟩
        · refine .inl ⟨front, t, back ++ [s], record, by simp, fails', ?_, ?_⟩
          · refine untroubled_concat.mpr ⟨quiet, clears, ?_⟩
            rw [← run_append, List.append_assoc]
            exact unfailing
          · rw [run, same, last]
        · refine .inr ⟨front, back ++ [s], by simp, start, ?_, ?_⟩
          · refine untroubled_concat.mpr ⟨quiet, clears, ?_⟩
            rw [← run_append]
            exact unfailing
          · rw [run, same, last]

/-- An error is the last one when a step brought it and no later one failed or cleared it. -/
private theorem lastError_eq_some_iff (endpoints : Endpoints) (steps : List Step)
    (record : ErrorRecord) :
    ((opened endpoints).run steps).session.lastError = some record ↔
      ∃ front s back, steps = front ++ s :: back ∧
        ((opened endpoints).run front).journal.Fails s record ∧
        ((opened endpoints).run (front ++ [s])).Untroubled back := by
  constructor
  · intro last
    rcases cause_of_lastError endpoints steps with
      ⟨front, s, back, other, split, fails, quiet, same⟩ | ⟨front, back, -, -, -, none_left⟩
    · obtain rfl := Option.some.inj (same.symm.trans last)
      exact ⟨front, s, back, split, fails, quiet⟩
    · rw [none_left] at last
      cases last
  · rintro ⟨front, s, back, rfl, fails, quiet⟩
    have numbered := numbered_run endpoints front
    have effect := (kept_run endpoints front).effect numbered s
    rw [List.append_cons, lastError_untroubled quiet, run_append]
    exact congrArg Panel.lastError (effect.panel_failed numbered fails)

private theorem lastError_eq_none_iff (endpoints : Endpoints) (steps : List Step) :
    ((opened endpoints).run steps).session.lastError = none ↔
      ∃ front back, steps = front ++ back ∧
        (front = [] ∨ ∃ earlier, front = earlier ++ [.clearError]) ∧
        ((opened endpoints).run front).Untroubled back := by
  constructor
  · intro none_left
    rcases cause_of_lastError endpoints steps with
      ⟨front, s, back, record, -, -, -, last⟩ | ⟨front, back, split, start, quiet, -⟩
    · rw [last] at none_left
      cases none_left
    · exact ⟨front, back, split, start, quiet⟩
  · rintro ⟨front, back, rfl, start, quiet⟩
    rw [lastError_untroubled quiet]
    rcases start with rfl | ⟨earlier, rfl⟩
    · rfl
    · rw [run_append]
      rfl

/-- What the next step of a history leaves as it is. -/
structure Steady (h : History) : Prop where
  /-- What belongs to a kind changes when the answer to a get of it is shown, and only then. -/
  agrees : ∀ s kind, h.session.Agrees (h.step s).session kind ∨
    ∃ get ∈ h.journal.pending, ∃ rank answer, get.slip.errand = .get kind rank ∧
      s = .answer get.slip.number answer ∧
      (h.desk.step s).2.ended = some (get.slip.call, .applied)
  stale_step : ∀ s call, (h.desk.step s).2.ended = some (call, .stale) →
    (h.step s).session.panel = h.session.panel
  /-- A failure, of a post too, changes the last error and nothing else. -/
  failed_step : ∀ s record, h.journal.Fails s record →
    (h.step s).session.panel = { h.session.panel with lastError := some record }
  failed_call : ∀ s call, (h.desk.step s).2.ended = some (call, .failed) →
    ∃ record, h.journal.Fails s record
  call_step : ∀ c, (h.step (.call c)).session.panel = h.session.panel
  subscribe_step : (h.step .subscribe).session.panel = h.session.panel
  drain_step : ∀ receiver, (h.step (.drain receiver)).session.panel = h.session.panel
  clear_step : (h.step .clearError).session.panel = { h.session.panel with lastError := none }
  /-- Any other step that shows nothing changes nothing. -/
  quiet_step : ∀ s, (∀ record, ¬ h.journal.Fails s record) → s ≠ .clearError →
    (∀ call, (h.desk.step s).2.ended ≠ some (call, .applied)) →
    (h.step s).session.panel = h.session.panel
  /-- What succeeds neither clears nor replaces the last error. -/
  lastError_kept : ∀ s, (∀ record, ¬ h.journal.Fails s record) → s ≠ .clearError →
    (h.step s).session.lastError = h.session.lastError

private theorem steady_run (endpoints : Endpoints) (steps : List Step) :
    ((opened endpoints).run steps).Steady := by
  have numbered := numbered_run endpoints steps
  have effect := (kept_run endpoints steps).effect numbered
  have unshown : ∀ {s : Step} {ended : Option (Nat × Outcome)},
      (((opened endpoints).run steps).desk.step s).2.ended = ended →
        (∀ call, ended ≠ some (call, .applied)) →
          ∀ end_ ∈ (((opened endpoints).run steps).desk.step s).2.ended, end_.2 ≠ .applied := by
    rintro s _ rfl unshown ⟨call, outcome⟩ mem rfl
    exact unshown call mem
  have call_ends : ∀ c, (((opened endpoints).run steps).desk.step (.call c)).2.ended = none := by
    intro c
    obtain ⟨request, report⟩ := Desk.report_call ((opened endpoints).run steps).desk c
    rw [report]
    rfl
  constructor
  case agrees => exact fun s kind => (effect s).agrees kind
  case stale_step =>
    intro s call ends
    refine (effect s).panel_eq ((effect s).not_fails ends) ?_ (unshown ends nofun)
    rintro rfl
    cases ends
  case failed_step => exact fun s record fails => (effect s).panel_failed numbered fails
  case failed_call => exact fun s call ends => (effect s).exists_fails ends
  case call_step =>
    exact fun c => (effect (.call c)).panel_eq nofun nofun (unshown (call_ends c) nofun)
  case subscribe_step => exact (effect .subscribe).panel_eq nofun nofun nofun
  case drain_step => exact fun k => (effect (.drain k)).panel_eq nofun nofun nofun
  case clear_step => exact (effect .clearError).panel_cleared
  case quiet_step =>
    exact fun s unfailing uncleared shown =>
      (effect s).panel_eq unfailing uncleared (unshown rfl shown)
  case lastError_kept =>
    exact fun s unfailing uncleared => (effect s).lastError_eq unfailing uncleared

/-- In every run a step leaves what it does not show, and a failure leaves all but the last error;
the last error is the latest failure that was not cleared. -/
theorem failures_leave_the_rest_alone (endpoints : Endpoints) (steps : List Step) :
    ((opened endpoints).run steps).Steady ∧
    (∀ record, ((opened endpoints).run steps).session.lastError = some record ↔
      ∃ front s back, steps = front ++ s :: back ∧
        ((opened endpoints).run front).journal.Fails s record ∧
        ((opened endpoints).run (front ++ [s])).Untroubled back) ∧
    (((opened endpoints).run steps).session.lastError = none ↔
      ∃ front back, steps = front ++ back ∧
        (front = [] ∨ ∃ earlier, front = earlier ++ [.clearError]) ∧
        ((opened endpoints).run front).Untroubled back) :=
  ⟨steady_run endpoints steps, lastError_eq_some_iff endpoints steps,
    lastError_eq_none_iff endpoints steps⟩

/-- A get that fails after a newer one was shown, and after the failure of a post: it is the last
error, and the rest stays. -/
theorem late_failure_is_last_error :
    let steps : List Step :=
      [.call .refresh, .call (.command (.playback .start)), .answer 2 (.error (.client "closed")),
        .answer 3 (.ok (.object [("loop", .string "1")])), .call .loadDirectory]
    let h := (opened .standard).run steps
    let record : ErrorRecord := ⟨.refresh, .transport, "request to player timed out"⟩
    h.session.lastError =
        some ⟨.command "start", .internal, "failed to build http client: closed"⟩ ∧
      h.journal.Fails (.answer 1 (.error (.timeout "player"))) record ∧
      (h.step (.answer 1 (.error (.timeout "player")))).session.panel =
        { h.session.panel with lastError := some record } := by
  intro steps h record
  have fails : h.journal.Fails (.answer 1 (.error (.timeout "player"))) record :=
    .get ⟨⟨1, 1, .get .status 1⟩, _, none⟩ .status 1 _ (.head _) rfl
  exact ⟨by decide, fails, (failures_leave_the_rest_alone .standard steps).1.failed_step _ _ fails⟩

end
end History
end ShowRemote
