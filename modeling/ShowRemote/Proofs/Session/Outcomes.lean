import ShowRemote.Proofs.Session.Delivery
import ShowRemote.Proofs.Session.Latest

/-!
How calls end. The answer to a get fails its call, comes too late, or is shown; which of these it is
depends on the answer and on the good answers to later gets of its kind (`outcome_of_get`). The step
of the answer emits the one event that tells it, and a failed post one more, so that the events of
every sort can be counted from the journal (`Journal.Ledger.tallies`).

Main statement: `answers_end_calls_with_one_event`.
-/

set_option autoImplicit false

namespace ShowRemote

open Journal (Entry)
open Show (Directory)

def Session.announcement (x : Session) : Kind → Event
  | .status => .statusUpdated x.view
  | .directory => .directoryUpdated x.options

private theorem Session.announcement_adopt (x : Session) (rank : Nat) (document : Json)
    (kind : Kind) :
    (x.adopt rank document kind).announcement kind = news document kind := by
  cases kind <;> rfl

/-- What an event of a log tells: how a call ended, or the failure of a post. -/
inductive Event.Tells : Event → Option (Kind × Outcome) → Option ErrorRecord → Prop
  | statusUpdated (view : Show.StatusView) :
      Tells (.statusUpdated view) (some (.status, .applied)) none
  | directoryUpdated (options : List Show.ShowOption) :
      Tells (.directoryUpdated options) (some (.directory, .applied)) none
  | staleDiscarded (operation : Operation) (sequence : Nat) (kind : Kind) :
      Tells (.staleDiscarded operation sequence) (some (kind, .stale)) none
  | failed (record : ErrorRecord) (kind : Kind) :
      Tells (.failed record) (some (kind, .failed)) none
  | refused (record : ErrorRecord) : Tells (.failed record) none (some record)

private theorem Event.tells_of_known {event : Event}
    (known : event.ending?.isSome ∨ event.refusal?.isSome) :
    event.Tells event.ending? event.refusal? := by
  cases event with
  | statusUpdated view => exact .statusUpdated view
  | directoryUpdated options => exact .directoryUpdated options
  | staleDiscarded operation sequence =>
    cases kind : operation.kind? with
    | none => simp [ending?, refusal?, kind] at known
    | some got =>
      simp only [ending?, refusal?, kind, Option.map_some]
      exact .staleDiscarded operation sequence got
  | failed record =>
    cases kind : record.operation.kind? with
    | none =>
      simp only [ending?, refusal?, kind, Option.map_none, Option.isNone_none, if_true]
      exact .refused record
    | some got =>
      simp only [ending?, refusal?, kind, Option.map_some, Option.isNone_some]
      exact .failed record got

namespace Kind

private theorem verdict_status_eq_error {answer : Answer} :
    (∃ failure, status.verdict answer = .error failure) ↔ ∃ fault, answer = .error fault := by
  cases answer <;> simp [verdict]

private theorem verdict_directory_eq_error {answer : Answer} :
    (∃ failure, directory.verdict answer = .error failure) ↔
      (∃ fault, answer = .error fault) ∨
        ∃ document fault, answer = .ok document ∧ Directory.ofJson document = .error fault := by
  cases answer with
  | error fault => simp [verdict]
  | ok document => cases hd : Directory.ofJson document <;> simp [verdict, hd]

end Kind

namespace Journal

/-- A later get of a kind had a good answer. -/
def Overtaken (j : Journal) (kind : Kind) (rank : Nat) : Prop :=
  ∃ later > rank, ∃ document, j.Usable kind later document

section

variable {endpoints : Endpoints} {x : Session} {j : Journal} {e : Entry} {kind : Kind} {rank : Nat}

/-- A get that waits is not newer than what is shown when a later one had a good answer, and only
then. -/
private theorem ShownBy.rank_le_applied_iff (shown : j.ShownBy x kind) (numbered : j.Numbered)
    (waits : e ∈ j.pending) (errand : e.slip.errand = .get kind rank) :
    rank ≤ x.applied kind ↔ j.Overtaken kind rank := by
  obtain ⟨last, latest, -⟩ := shown
  have greatest := latest.isGreatest
  constructor
  · intro late
    rcases greatest.1 with zero | ⟨document, usable⟩
    · have positive :=
        (numbered.exists_rank_iff.mp ⟨e, mem_of_mem_pending waits, errand⟩).1
      omega
    · refine ⟨x.applied kind, lt_of_le_of_ne late ?_, document, usable⟩
      rintro rfl
      -- What is shown has been answered, and the get waits.
      obtain ⟨other, mem, errand', answer, answered, -⟩ := usable
      obtain rfl := numbered.eq_of_rank mem (mem_of_mem_pending waits) errand' errand
      simpa [Entry.isOpen, answered] using isOpen_of_mem_pending waits
  · rintro ⟨later, lt, document, usable⟩
    exact lt.le.trans (greatest.2 (.inr ⟨document, usable⟩))

/-- How a get ends when its answer comes, and the event that tells it: it fails, whatever is shown,
or it comes after a good answer to a later get of its kind, or it is shown. -/
structure Ends (j : Journal) (kind : Kind) (rank : Nat) (answer : Answer) (x' : Session)
    (outcome : Outcome) (event : Event) : Prop where
  failed_iff : outcome = .failed ↔ ∃ failure, kind.verdict answer = .error failure
  stale_iff : outcome = .stale ↔
    (∃ document, kind.verdict answer = .ok document) ∧ j.Overtaken kind rank
  applied_iff : outcome = .applied ↔
    (∃ document, kind.verdict answer = .ok document) ∧ ¬ j.Overtaken kind rank
  failed_event : ∀ failure, kind.verdict answer = .error failure →
    event = .failed ⟨kind.operation, failure⟩
  stale_event : outcome = .stale → event = .staleDiscarded kind.operation rank
  applied_event : outcome = .applied → event = x'.announcement kind

private theorem ShownBy.ends (shown : j.ShownBy x kind) (numbered : j.Numbered)
    (waits : e ∈ j.pending) (errand : e.slip.errand = .get kind rank) (answer : Answer) :
    j.Ends kind rank answer (x.settle kind rank answer).session
      (x.settle kind rank answer).outcome (x.settle kind rank answer).event := by
  have overtaken := shown.rank_le_applied_iff numbered waits errand
  rcases x.settle_cases kind rank answer with
    ⟨failure, bad, hs⟩ | ⟨document, good, late, hs⟩ | ⟨document, good, newer, hs⟩
  · rw [hs]
    constructor <;> simp [Session.settleFailure, bad]
  · have late := overtaken.mp late
    rw [hs]
    constructor <;> simp [good, late]
  · have newest : ¬ j.Overtaken kind rank := fun late => (overtaken.mpr late).not_gt newer
    rw [hs]
    constructor <;> simp [good, newest, x.announcement_adopt]

end

section

variable {endpoints : Endpoints} {j : Journal} {log : List Event}

theorem Coursing.ending?_eq_some (coursing : j.Coursing endpoints) {end_ : Nat × Outcome}
    (mem : end_ ∈ j.ended) : ∃ kind, j.ending? end_ = some (kind, end_.2) := by
  obtain ⟨i, hi, he⟩ := coursing.ended_of end_ mem
  rw [ending?, he, Nat.add_sub_cancel, List.getElem?_eq_getElem hi]
  exact ⟨_, rfl⟩

private theorem Ledger.countP_ending (ledger : j.Ledger log) (p : Kind × Outcome → Bool) :
    (log.countP fun event => (event.ending?.map p).getD false) =
      j.ended.countP fun end_ => ((j.ending? end_).map p).getD false := by
  have same := congrArg (List.countP p) ledger.endings
  rwa [List.countP_filterMap, List.countP_filterMap] at same

private theorem Coursing.countP_ending (coursing : j.Coursing endpoints) (outcome : Outcome) :
    (j.ended.countP fun end_ =>
        ((j.ending? end_).map fun told => decide (told.2 = outcome)).getD false) =
      j.ended.countP fun end_ => end_.2 = outcome := by
  refine List.countP_congr fun end_ mem => ?_
  obtain ⟨kind, told⟩ := coursing.ending?_eq_some mem
  simp [told]

private theorem Ledger.countP_eq (ledger : j.Ledger log) (p : Event → Bool)
    (q : Kind × Outcome → Bool)
    (tells : ∀ event ending refusal, Event.Tells event ending refusal →
      p event = (ending.map q).getD false) :
    log.countP p = j.ended.countP fun end_ => ((j.ending? end_).map q).getD false := by
  rw [← ledger.countP_ending]
  refine List.countP_congr fun event mem => ?_
  rw [tells event _ _ (Event.tells_of_known (ledger.known event mem))]

private theorem Ledger.countP_add (ledger : j.Ledger log) (p : Event → Bool)
    (q : Kind × Outcome → Bool)
    (tells : ∀ event ending refusal, Event.Tells event ending refusal →
      (if p event then 1 else 0) =
        (if (ending.map q).getD false then 1 else 0) + if refusal.isSome then 1 else 0) :
    log.countP p =
      (j.ended.countP fun end_ => ((j.ending? end_).map q).getD false) + j.refusals.length := by
  rw [← ledger.refusals.length_eq, ← ledger.countP_ending, List.length_filterMap_eq_countP]
  have known := ledger.known
  clear ledger
  induction log with
  | nil => rfl
  | cons event log ih =>
    have head := tells event _ _ (Event.tells_of_known (known event List.mem_cons_self))
    have tail := ih fun other mem => known other (List.mem_cons_of_mem _ mem)
    simp only [List.countP_cons, tail, head]
    omega

/-- The events of a log, counted by sort. -/
structure Tallies (j : Journal) (log : List Event) : Prop where
  statusUpdated : (log.countP fun event => event matches .statusUpdated _) =
    j.ended.countP fun end_ => j.ending? end_ = some (.status, .applied)
  directoryUpdated : (log.countP fun event => event matches .directoryUpdated _) =
    j.ended.countP fun end_ => j.ending? end_ = some (.directory, .applied)
  staleDiscarded : (log.countP fun event => event matches .staleDiscarded ..) =
    j.ended.countP fun end_ => end_.2 = .stale
  failed : (log.countP fun event => event matches .failed _) =
    (j.ended.countP fun end_ => end_.2 = .failed) + j.refusals.length
  length : log.length = j.ended.length + j.refusals.length

theorem Ledger.tallies (ledger : j.Ledger log) (coursing : j.Coursing endpoints) :
    j.Tallies log := by
  have ends : ∀ (end_ : Nat × Outcome) (sort : Kind × Outcome),
      ((j.ending? end_).map fun told => decide (told = sort)).getD false =
        decide (j.ending? end_ = some sort) := by
    intro end_ sort
    cases j.ending? end_ <;> simp
  constructor
  case statusUpdated =>
    simp only [← ends]
    refine ledger.countP_eq _ _ fun event ending refusal tells => ?_
    cases tells <;> simp
  case directoryUpdated =>
    simp only [← ends]
    refine ledger.countP_eq _ _ fun event ending refusal tells => ?_
    cases tells <;> simp
  case staleDiscarded =>
    rw [← coursing.countP_ending]
    refine ledger.countP_eq _ _ fun event ending refusal tells => ?_
    cases tells <;> simp
  case failed =>
    rw [← coursing.countP_ending]
    refine ledger.countP_add _ _ fun event ending refusal tells => ?_
    cases tells <;> simp
  case length =>
    have all : (j.ended.countP fun end_ => ((j.ending? end_).map fun _ => true).getD false) =
        j.ended.length := by
      refine List.countP_eq_length.mpr fun end_ mem => ?_
      obtain ⟨kind, told⟩ := coursing.ending?_eq_some mem
      simp [told]
    rw [← all, ← List.countP_true]
    refine ledger.countP_add _ _ fun event ending refusal tells => ?_
    cases tells <;> simp

end
end Journal

namespace History

/-- What comes of a history in one more step, and what its log tells. -/
structure Accounts (h : History) (log : List Event) : Prop where
  /-- Gets of a kind are ranked in the order in which they were sent. -/
  ranked : ∀ kind, h.journal.ranks kind = List.range' 1 (h.journal.count kind)
  /-- The answer to a get ends its call, and emits one event. -/
  get_step : ∀ get ∈ h.journal.pending, ∀ kind rank, get.slip.errand = .get kind rank →
    ∀ answer, ∃ outcome event,
      (h.desk.step (.answer get.slip.number answer)).2 =
        ⟨none, some (get.slip.call, outcome), some event, none⟩ ∧
      h.journal.Ends kind rank answer (h.step (.answer get.slip.number answer)).session
        outcome event
  /-- A get of the status fails when there is no document, one of the directory also when the
  document is no listing. -/
  bad_status : ∀ answer, (∃ failure, Kind.status.verdict answer = .error failure) ↔
    ∃ fault, answer = .error fault
  bad_directory : ∀ answer, (∃ failure, Kind.directory.verdict answer = .error failure) ↔
    (∃ fault, answer = .error fault) ∨
      ∃ document fault, answer = .ok document ∧ Directory.ofJson document = .error fault
  /-- The failure of a post is told first, and then the status is asked for. -/
  refused_step : ∀ post ∈ h.journal.pending, ∀ intent, post.slip.errand = .post intent →
    ∀ fault, ∃ told, told = Desk.noted
        { h.desk with waiting := h.desk.waiting.filter fun w => w.request ≠ post.slip.number }
        ⟨.command intent, fault.failure⟩ ∧
      h.desk.step (.answer post.slip.number (.error fault)) =
        ((told.sendRefresh post.slip.call).1,
          ⟨some (told.sendRefresh post.slip.call).2, none,
            some (.failed ⟨.command intent, fault.failure⟩), none⟩)
  /-- All other steps end no call and emit nothing. -/
  accepted_step : ∀ post ∈ h.journal.pending, ∀ intent, post.slip.errand = .post intent →
    ∀ document, ∃ request,
      (h.desk.step (.answer post.slip.number (.ok document))).2 = ⟨some request, none, none, none⟩
  call_step : ∀ c, ∃ request, (h.desk.step (.call c)).2 = ⟨some request, none, none, none⟩
  idle_step : ∀ s, (∀ c, s ≠ .call c) →
    (∀ number answer, s = .answer number answer →
      ∀ e ∈ h.journal.pending, e.slip.number ≠ number) →
    ∃ drained, (h.desk.step s).2 = ⟨none, none, none, drained⟩
  /-- Every receiver takes in the event that a step emits, and nothing else. -/
  handed : ∀ s k r, h.desk.receivers[k]? = some r → s ≠ .drain k →
    ∃ r', (h.step s).desk.receivers[k]? = some r' ∧ r.Takes (h.desk.step s).2.emitted r'
  /-- The log tells the ends of calls, in their order, and the failed posts. -/
  ledger : h.journal.Ledger log
  tallies : h.journal.Tallies log

/-- In every run an answer ends its call as the answers before it decide, and emits exactly one
event, which tells that end; a failed post emits one event, and nothing else emits any. What is
emitted reaches every receiver. -/
theorem answers_end_calls_with_one_event (endpoints : Endpoints) (steps : List Step) :
    ((opened endpoints).run steps).Accounts ((opened endpoints).log steps) := by
  have kept := kept_run endpoints steps
  have numbered := numbered_run endpoints steps
  have ledger := ledger_run endpoints steps
  constructor
  case ranked => exact numbered.ranks
  case get_step =>
    intro get waits kind rank errand answer
    have turn := (kept.step (.answer get.slip.number answer)).turn
    have settled := (numbered.turn_get waits rfl errand turn).1
    refine ⟨_, _, kept.report_get numbered waits errand answer, ?_⟩
    rw [settled]
    exact (shownBy_run endpoints steps kind).ends numbered waits errand answer
  case bad_status => exact fun answer => Kind.verdict_status_eq_error
  case bad_directory => exact fun answer => Kind.verdict_directory_eq_error
  case refused_step =>
    intro post waits intent errand fault
    obtain ⟨sent, rfl, step⟩ := kept.step_post numbered waits errand (.error fault)
    exact ⟨_, rfl, step.trans (Desk.confirm_error _ _ sent fault)⟩
  case accepted_step =>
    intro post waits intent errand document
    have report := kept.report_post numbered waits errand (.ok document)
    rw [errand] at report
    exact ⟨_, report⟩
  case call_step => exact fun c => Desk.report_call _ c
  case idle_step => exact fun s uncalled unanswered => kept.report_idle uncalled unanswered
  case handed =>
    intro s k r held ne
    exact ⟨_, receiver_step held ne, r.takes_push _⟩
  case ledger => exact ledger
  case tallies => exact ledger.tallies (coursing_run endpoints steps)

/-- Two refreshes, a listing and a command overlap: the newer refresh is shown, the older one comes
too late, the listing is none, the post fails, and so does the get of the status after it. A
receiver that was there from the start holds it all. -/
theorem crossed_answers_are_told :
    let steps : List Step :=
      [.subscribe, .call .refresh, .call .refresh, .call .loadDirectory,
        .call (.command (.playback .start)),
        .answer 2 (.ok .null), .answer 1 (.ok .null), .answer 3 (.ok .null),
        .answer 4 (.error (.client "closed")), .answer 5 (.error (.timeout "player"))]
    let h := (opened .standard).run steps
    h.journal.ended = [(2, .applied), (1, .stale), (3, .failed), (4, .failed)] ∧
      (opened .standard).log steps =
        [.statusUpdated ⟨"None", "undefined", "No", .looping⟩, .staleDiscarded .refresh 1,
          .failed ⟨.loadDirectory, .malformedBody, "directory payload is not a json object"⟩,
          .failed ⟨.command "start", .internal, "failed to build http client: closed"⟩,
          .failed ⟨.refresh, .transport, "request to player timed out"⟩] ∧
      h.desk.receivers.map Receiver.waiting = [(opened .standard).log steps] ∧
      h.journal.Tallies ((opened .standard).log steps) :=
  ⟨by decide, by decide, by decide, (answers_end_calls_with_one_event .standard _).tallies⟩

end History
end ShowRemote
