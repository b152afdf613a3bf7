import ShowRemote.Proofs.Session.Course

/-!
The events of a run. A step emits an event when it brings the answer to a get, or the failure of a
post, and at no other time (`report_get`, `report_post`, `report_idle`). So the log of a run tells,
event by event, how its calls ended and which of its posts failed (`ledger_run`).
-/

set_option autoImplicit false

namespace ShowRemote

open Journal (Entry)
open Show (TransportFault)

/-- The failure that an answer to a request is, as it is noted; nothing if the answer is good. -/
def Errand.failure? : Errand → Answer → Option ErrorRecord
  | .get kind _, answer =>
    match kind.verdict answer with
    | .error failure => some ⟨kind.operation, failure⟩
    | .ok _ => none
  | .post intent, .error fault => some ⟨.command intent, fault.failure⟩
  | .post _, .ok _ => none

def Call.kind : Call → Kind
  | .loadDirectory => .directory
  | .refresh | .command _ | .toggleLoop => .status

@[simp] theorem Kind.kind_call (kind : Kind) : kind.call.kind = kind := by
  cases kind <;> rfl

/-- The kind that an operation gets. A command gets nothing by itself. -/
def Operation.kind? : Operation → Option Kind
  | .refresh => some .status
  | .loadDirectory => some .directory
  | .command _ => none

@[simp] theorem Kind.kind?_operation (kind : Kind) : kind.operation.kind? = some kind := by
  cases kind <;> rfl

namespace Event

/-- The end of a call that an event tells: what the call got, and its outcome. -/
def ending? : Event → Option (Kind × Outcome)
  | .statusUpdated _ => some (.status, .applied)
  | .directoryUpdated _ => some (.directory, .applied)
  | .staleDiscarded operation _ => operation.kind?.map fun kind => (kind, .stale)
  | .failed record => record.operation.kind?.map fun kind => (kind, .failed)

/-- The failed post that an event tells. -/
def refusal? : Event → Option ErrorRecord
  | .failed record => if record.operation.kind?.isNone then some record else none
  | _ => none

end Event

namespace Session

private theorem ending?_news (document : Json) (kind : Kind) :
    (news document kind).ending? = some (kind, .applied) := by
  cases kind <;> rfl

private theorem refusal?_news (document : Json) (kind : Kind) :
    (news document kind).refusal? = none := by
  cases kind <;> rfl

private theorem ending?_settle (x : Session) (kind : Kind) (rank : Nat) (answer : Answer) :
    (x.settle kind rank answer).event.ending? =
      some (kind, (x.settle kind rank answer).outcome) := by
  rcases x.settle_cases kind rank answer with
    ⟨failure, -, hs⟩ | ⟨document, -, -, hs⟩ | ⟨document, -, -, hs⟩
  · simp [hs, settleFailure, Event.ending?]
  · simp [hs, Event.ending?]
  · simp [hs, ending?_news]

private theorem refusal?_settle (x : Session) (kind : Kind) (rank : Nat) (answer : Answer) :
    (x.settle kind rank answer).event.refusal? = none := by
  rcases x.settle_cases kind rank answer with
    ⟨failure, -, hs⟩ | ⟨document, -, -, hs⟩ | ⟨document, -, -, hs⟩
  · simp [hs, settleFailure, Event.refusal?]
  · simp [hs, Event.refusal?]
  · simp [hs, refusal?_news]

end Session

namespace Desk

def noted (d : Desk) (record : ErrorRecord) : Desk :=
  { d with session := d.session.fail record }.emit (.failed record)

theorem report_call (d : Desk) (c : Call) :
    ∃ request, (d.step (.call c)).2 = { Report.nothing with sent := some request } := by
  cases c <;> exact ⟨_, rfl⟩

theorem confirm_error (d : Desk) (call : Nat) (intent : Show.Intent) (fault : TransportFault) :
    d.confirm call intent (.error fault) =
      (((d.noted ⟨.command intent.name, fault.failure⟩).sendRefresh call).1,
        { Report.nothing with
          sent := some ((d.noted ⟨.command intent.name, fault.failure⟩).sendRefresh call).2
          emitted := some (.failed ⟨.command intent.name, fault.failure⟩) }) :=
  rfl

private theorem report_confirm (d : Desk) (call : Nat) (intent : Show.Intent) (answer : Answer) :
    (d.confirm call intent answer).2 =
      ⟨some ⟨d.requests + 1, .get (d.endpoints.path .status)⟩, none,
        ((Errand.post intent.name).failure? answer).map .failed, none⟩ := by
  cases answer <;> rfl

end Desk

namespace Journal

theorem step_cases (j : Journal) (s : Step) :
    (∃ c, s = .call c) ∨
    (∃ e ∈ j.pending, ∃ answer, s = .answer e.slip.number answer) ∨
    ((∀ c, s ≠ .call c) ∧ ∀ number answer, s = .answer number answer →
      ∀ e ∈ j.pending, e.slip.number ≠ number) := by
  cases s with
  | call c => exact .inl ⟨c, rfl⟩
  | answer number answer =>
    by_cases waits : ∃ e ∈ j.pending, e.slip.number = number
    · obtain ⟨e, waits, rfl⟩ := waits
      exact .inr (.inl ⟨e, waits, answer, rfl⟩)
    · refine .inr (.inr ⟨nofun, ?_⟩)
      rintro _ _ ⟨⟩ e he same
      exact waits ⟨e, he, same⟩
  | subscribe | drain | clearError => exact .inr (.inr ⟨nofun, nofun⟩)

private theorem Numbered.find_pending {j : Journal} (numbered : j.Numbered) {e : Entry}
    (waits : e ∈ j.pending) :
    (j.pending.find? fun other => other.slip.number = e.slip.number) = some e := by
  obtain ⟨found, hfound⟩ : ∃ found,
      (j.pending.find? fun other => other.slip.number = e.slip.number) = some found := by
    rw [← Option.isSome_iff_exists, List.find?_isSome]
    exact ⟨e, waits, by simp⟩
  have number : found.slip.number = e.slip.number := by simpa using List.find?_some hfound
  obtain rfl := numbered.eq_of_number (mem_of_mem_pending (List.mem_of_find?_eq_some hfound))
    (mem_of_mem_pending waits) number
  exact hfound

theorem Coursing.kind_of_get {endpoints : Endpoints} {j : Journal} (coursing : j.Coursing endpoints)
    {e : Entry} (mem : e ∈ j.entries) {kind : Kind} {rank : Nat}
    (errand : e.slip.errand = .get kind rank) :
    ∃ c, j.calls[e.slip.call - 1]? = some c ∧ c.kind = kind := by
  obtain ⟨c, made, sent, course⟩ := coursing.of_mem mem
  refine ⟨c, made, ?_⟩
  generalize j.entriesOf e.slip.call = entries at sent course
  generalize j.outcomesOf e.slip.call = outcomes at course
  cases course with
  | asking gets _ =>
    obtain rfl := List.mem_singleton.mp sent
    rw [Kind.kind_call, gets.kind_eq errand]
  | posting posts _ =>
    obtain rfl := List.mem_singleton.mp sent
    exact (posts.errand_ne kind rank errand).elim
  | confirming posts _ gets _ =>
    rcases List.mem_pair.mp sent with rfl | rfl
    · exact (posts.errand_ne kind rank errand).elim
    · obtain ⟨next, intent, carried, -, -⟩ := posts
      rw [← gets.kind_eq errand]
      cases c <;> first | rfl | cases carried

/-- How a call that ended is told: what it got, and its outcome. -/
def ending? (j : Journal) (end_ : Nat × Outcome) : Option (Kind × Outcome) :=
  j.calls[end_.1 - 1]?.map fun c => (c.kind, end_.2)

def Entry.refusal? (e : Entry) : Option ErrorRecord :=
  match e.slip.errand with
  | .get .. => none
  | .post _ => e.answer.bind e.slip.errand.failure?

private theorem Entry.refusal?_of_open {e : Entry} (isOpen : e.isOpen) : e.refusal? = none := by
  have unanswered : e.answer = none := by simpa [Entry.isOpen] using isOpen
  unfold Entry.refusal?
  split
  · rfl
  · rw [unanswered, Option.bind_none]

def refusals (j : Journal) : List ErrorRecord :=
  j.entries.filterMap Entry.refusal?

/-- A log that tells the end of every call and the failure of every post, and nothing else. -/
structure Ledger (j : Journal) (log : List Event) : Prop where
  endings : log.filterMap Event.ending? = j.ended.filterMap j.ending?
  refusals : (log.filterMap Event.refusal?).Perm j.refusals
  known : ∀ event ∈ log, event.ending?.isSome ∨ event.refusal?.isSome

end Journal

namespace History

def log (h : History) (steps : List Step) : List Event :=
  (h.desk.run steps).2.filterMap Report.emitted

theorem log_append (h : History) (front back : List Step) :
    h.log (front ++ back) = h.log front ++ (h.run front).log back := by
  rw [log, Desk.run_append, List.filterMap_append, ← desk_run, log, log]

theorem log_singleton (h : History) (s : Step) : h.log [s] = (h.desk.step s).2.emitted.toList := by
  cases he : (h.desk.step s).2.emitted <;> simp [log, Desk.run, he]

namespace Kept

variable {endpoints : Endpoints} {h : History} {e : Entry}

private theorem waiting_of_pending (kept : h.Kept endpoints) (numbered : h.journal.Numbered)
    (waits : e ∈ h.journal.pending) :
    ∃ w, (h.desk.waiting.find? fun w => w.request = e.slip.number) = some w ∧
      w.slip = e.slip := by
  have same := kept.find_waiting e.slip.number
  rw [numbered.find_pending waits] at same
  exact Option.map_eq_some_iff.mp same

theorem report_get (kept : h.Kept endpoints) (numbered : h.journal.Numbered)
    (waits : e ∈ h.journal.pending) {kind : Kind} {rank : Nat}
    (errand : e.slip.errand = .get kind rank) (answer : Answer) :
    (h.desk.step (.answer e.slip.number answer)).2 =
      ⟨none, some (e.slip.call, (h.session.settle kind rank answer).outcome),
        some (h.session.settle kind rank answer).event, none⟩ := by
  obtain ⟨w, found, slip⟩ := kept.waiting_of_pending numbered waits
  have call : w.call = e.slip.call := congrArg Slip.call slip
  simp only [Desk.step, Desk.answer_get found ((congrArg Slip.errand slip).trans errand) answer,
    Desk.finish, Report.nothing, call]
  rfl

theorem step_post (kept : h.Kept endpoints) (numbered : h.journal.Numbered)
    (waits : e ∈ h.journal.pending) {intent : String} (errand : e.slip.errand = .post intent)
    (answer : Answer) :
    ∃ sent : Show.Intent, sent.name = intent ∧
      h.desk.step (.answer e.slip.number answer) =
        { h.desk with
          waiting := h.desk.waiting.filter fun w => w.request ≠ e.slip.number }.confirm
            e.slip.call sent answer := by
  obtain ⟨w, found, slip⟩ := kept.waiting_of_pending numbered waits
  have call : w.call = e.slip.call := congrArg Slip.call slip
  have purpose : w.purpose.errand = .post intent := (congrArg Slip.errand slip).trans errand
  simp only [Desk.step, Desk.answer, found, Desk.resume, call]
  cases hp : w.purpose with
  | status sequence | directory sequence =>
    rw [hp] at purpose
    cases purpose
  | command sent =>
    rw [hp] at purpose
    exact ⟨sent, Errand.post.inj purpose, rfl⟩

theorem report_post (kept : h.Kept endpoints) (numbered : h.journal.Numbered)
    (waits : e ∈ h.journal.pending) {intent : String} (errand : e.slip.errand = .post intent)
    (answer : Answer) :
    (h.desk.step (.answer e.slip.number answer)).2 =
      ⟨some ⟨h.desk.requests + 1, .get (h.desk.endpoints.path .status)⟩, none,
        (e.slip.errand.failure? answer).map .failed, none⟩ := by
  obtain ⟨sent, rfl, step⟩ := kept.step_post numbered waits errand answer
  rw [step, Desk.report_confirm, errand]

theorem report_idle (kept : h.Kept endpoints) {s : Step} (uncalled : ∀ c, s ≠ .call c)
    (unanswered : ∀ number answer, s = .answer number answer →
      ∀ e ∈ h.journal.pending, e.slip.number ≠ number) :
    ∃ drained, (h.desk.step s).2 = ⟨none, none, none, drained⟩ := by
  cases s with
  | call c => exact (uncalled c rfl).elim
  | answer number answer =>
    have absent : (h.journal.pending.find? fun e => e.slip.number = number) = none := by
      simpa using unanswered number answer rfl
    have unknown : (h.desk.waiting.find? fun w => w.request = number) = none := by
      have same := kept.find_waiting number
      rw [absent] at same
      exact Option.map_eq_none_iff.mp same
    refine ⟨none, ?_⟩
    rw [Desk.step, Desk.answer_unknown unknown]
    rfl
  | subscribe | drain | clearError => exact ⟨_, rfl⟩

end Kept
end History

namespace Journal

variable {endpoints : Endpoints} {j : Journal} {e : Entry} {log : List Event}

private theorem ledger_blank : blank.Ledger [] :=
  ⟨rfl, .nil, nofun⟩

theorem Coursing.ending?_append (coursing : j.Coursing endpoints) (c : Call) (entries : List Entry)
    {end_ : Nat × Outcome} (mem : end_ ∈ j.ended) :
    (Journal.mk (j.calls ++ [c]) entries j.ended).ending? end_ = j.ending? end_ := by
  obtain ⟨i, hi, he⟩ := coursing.ended_of end_ mem
  rw [ending?, ending?, List.getElem?_append_left (by omega)]

private theorem refusals_append (calls : List Call) (entries : List Entry) (isOpen : e.isOpen)
    (ended : List (Nat × Outcome)) :
    (Journal.mk calls (entries ++ [e]) ended).refusals =
      (Journal.mk calls entries ended).refusals := by
  simp [refusals, Entry.refusal?_of_open isOpen]

private theorem Numbered.refusals_hear (numbered : j.Numbered) (waits : e ∈ j.pending)
    (answer : Answer) (calls : List Call) (ended : List (Nat × Outcome)) :
    (j.refusals ++ ({ e with answer := some answer } : Entry).refusal?.toList).Perm
      (Journal.mk calls (j.entries.map (Entry.hear e.slip.number answer)) ended).refusals := by
  obtain ⟨front, back, split, heard⟩ := numbered.hear_split waits answer
  have silent := Entry.refusal?_of_open (isOpen_of_mem_pending waits)
  rw [refusals, refusals, heard, split]
  cases hr : ({ e with answer := some answer } : Entry).refusal? with
  | none => simp [hr, silent]
  | some record =>
    simp only [List.filterMap_append, List.filterMap_cons, hr, silent, Option.toList_some,
      List.append_assoc]
    exact List.Perm.append_left _ List.perm_append_comm

private theorem Ledger.told (ledger : j.Ledger log) (numbered : j.Numbered)
    (coursing : j.Coursing endpoints) (waits : e ∈ j.pending) {kind : Kind} {rank : Nat}
    (errand : e.slip.errand = .get kind rank) (x : Session) (answer : Answer) :
    Ledger
      { j with
        entries := j.entries.map (Entry.hear e.slip.number answer)
        ended := j.ended ++ [(e.slip.call, (x.settle kind rank answer).outcome)] }
      (log ++ [(x.settle kind rank answer).event]) := by
  obtain ⟨c, made, rfl⟩ := coursing.kind_of_get (mem_of_mem_pending waits) errand
  have ungrown := numbered.refusals_hear waits answer j.calls
    (j.ended ++ [(e.slip.call, (x.settle c.kind rank answer).outcome)])
  have unrefused : ({ e with answer := some answer } : Entry).refusal? = none := by
    simp [Entry.refusal?, errand]
  rw [unrefused, Option.toList_none, List.append_nil] at ungrown
  constructor
  case endings =>
    rw [List.filterMap_append, List.filterMap_append, ledger.endings]
    simp [x.ending?_settle, Journal.ending?, made]
    rfl
  case refusals =>
    rw [List.filterMap_append]
    simpa [x.refusal?_settle] using ledger.refusals.trans ungrown
  case known =>
    intro event mem
    rcases List.mem_append.mp mem with mem | mem
    · exact ledger.known event mem
    · obtain rfl := List.mem_singleton.mp mem
      exact .inl (by rw [x.ending?_settle]; rfl)

private theorem Ledger.confirm (ledger : j.Ledger log) (numbered : j.Numbered)
    (waits : e ∈ j.pending) {intent : String} (errand : e.slip.errand = .post intent)
    (answer : Answer) :
    Ledger
      { j with
        entries := j.entries.map (Entry.hear e.slip.number answer) ++
          [j.nextGet endpoints e.slip.call .status] }
      (log ++ ((e.slip.errand.failure? answer).map Event.failed).toList) := by
  have grown := numbered.refusals_hear waits answer j.calls j.ended
  have refused : ({ e with answer := some answer } : Entry).refusal? =
      e.slip.errand.failure? answer := by
    simp [Entry.refusal?, errand]
  have asked := refusals_append j.calls (j.entries.map (Entry.hear e.slip.number answer))
    (e := j.nextGet endpoints e.slip.call .status) rfl j.ended
  rw [refused] at grown
  rw [← asked] at grown
  have told : ∀ record, e.slip.errand.failure? answer = some record →
      (Event.failed record).ending? = none ∧ (Event.failed record).refusal? = some record := by
    intro record hr
    rw [errand] at hr
    cases answer with
    | ok document => cases hr
    | error fault =>
      cases hr
      exact ⟨rfl, rfl⟩
  cases hr : e.slip.errand.failure? answer with
  | none =>
    rw [hr, Option.toList_none, List.append_nil] at grown
    rw [Option.map_none, Option.toList_none, List.append_nil]
    exact ⟨ledger.endings, ledger.refusals.trans grown, ledger.known⟩
  | some record =>
    obtain ⟨unending, refuses⟩ := told record hr
    rw [hr, Option.toList_some] at grown
    refine ⟨?_, ?_, ?_⟩
    · rw [Option.map_some, Option.toList_some, List.filterMap_append,
        List.filterMap_cons_none unending, List.filterMap_nil, List.append_nil]
      exact ledger.endings
    · simpa [refuses] using (ledger.refusals.append_right [record]).trans grown
    · intro event mem
      rcases List.mem_append.mp mem with mem | mem
      · exact ledger.known event mem
      · obtain rfl := List.mem_singleton.mp mem
        exact .inr (by rw [refuses]; rfl)

end Journal

/-- In every run the log tells the end of every call and the failure of every post. -/
theorem History.ledger_run (endpoints : Endpoints) (steps : List Step) :
    ((opened endpoints).run steps).journal.Ledger ((opened endpoints).log steps) := by
  induction steps using List.reverseRecOn with
  | nil => exact Journal.ledger_blank
  | append_singleton steps s ledger =>
    have kept := kept_run endpoints steps
    have numbered := numbered_run endpoints steps
    have coursing := coursing_run endpoints steps
    have turn := turn_run endpoints steps s
    rw [log_append, log_singleton]
    -- The journal and the report of the step grow together, in one of three ways.
    rcases Journal.step_cases ((opened endpoints).run steps).journal s with
      ⟨c, rfl⟩ | ⟨e, waits, answer, rfl⟩ | ⟨uncalled, unanswered⟩
    · obtain ⟨request, report⟩ := ((opened endpoints).run steps).desk.report_call c
      obtain ⟨e, -, isOpen, journal⟩ := Journal.turn_call turn
      rw [report, journal, Report.nothing, Option.toList_none, List.append_nil]
      have refusals := Journal.refusals_append
        (((opened endpoints).run steps).journal.calls ++ [c])
        ((opened endpoints).run steps).journal.entries isOpen
        ((opened endpoints).run steps).journal.ended
      refine ⟨?_, ?_, ?_⟩
      · rw [List.filterMap_congr fun end_ mem => coursing.ending?_append c _ mem]
        exact ledger.endings
      · rw [refusals]
        exact ledger.refusals
      · exact ledger.known
    · cases errand : e.slip.errand with
      | get kind rank =>
        rw [(numbered.turn_get waits rfl errand turn).2, kept.report_get numbered waits errand]
        exact ledger.told numbered coursing waits errand _ answer
      | post intent =>
        rw [(numbered.turn_post waits rfl errand turn).2, kept.report_post numbered waits errand]
        exact ledger.confirm numbered waits errand answer
    · obtain ⟨drained, report⟩ := kept.report_idle uncalled unanswered
      rw [report, Journal.turn_idle uncalled unanswered turn]
      simpa using ledger

end ShowRemote
