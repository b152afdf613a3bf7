import ShowRemote.Proofs.Session.Journal

/-!
What one step does to a session and to its journal. `Turn` says everything that a step can do, in
terms of the journal alone, and `Kept.step` that a desk does just that, because its list of waiting
calls is the list of requests that the journal shows without an answer. `run_induction` carries a
property of every turn to every run.
-/

set_option autoImplicit false

namespace ShowRemote

open Journal (Entry)
open Show (Intent LoopFlag)

def Call.intent (next : LoopFlag) : Call → Option Intent
  | .command intent => some intent
  | .toggleLoop => some (.toggleLoop next)
  | _ => none

private theorem Call.intentName_eq {next : LoopFlag} {c : Call} {intent : Intent}
    (carried : c.intent next = some intent) : c.intentName = intent.name := by
  cases c <;> cases carried <;> rfl

theorem Call.asks_or_posts (c : Call) (next : LoopFlag) :
    (∃ kind : Kind, c = kind.call) ∨ ∃ intent, c.intent next = some intent := by
  cases c with
  | refresh => exact .inl ⟨.status, rfl⟩
  | loadDirectory => exact .inl ⟨.directory, rfl⟩
  | command intent => exact .inr ⟨intent, rfl⟩
  | toggleLoop => exact .inr ⟨_, rfl⟩

namespace Journal

def nextGet (j : Journal) (endpoints : Endpoints) (call : Nat) (kind : Kind) : Entry :=
  ⟨⟨j.entries.length + 1, call, .get kind (j.count kind + 1)⟩, .get (endpoints.path kind), none⟩

def nextPost (j : Journal) (endpoints : Endpoints) (call : Nat) (intent : Intent) : Entry :=
  ⟨⟨j.entries.length + 1, call, .post intent.name⟩,
    .post endpoints.command intent.command.toJson, none⟩

end Journal

/-- What a step does. An answer goes to the request in flight that it names: a get is settled and
its call ends; after a post, whatever its answer, the call gets the status. -/
inductive Turn (endpoints : Endpoints) (x : Session) (j : Journal) :
    Step → Session → Journal → Prop
  | ask (kind : Kind) :
      Turn endpoints x j (.call kind.call) (x.issue kind)
        { j with
          calls := j.calls ++ [kind.call]
          entries := j.entries ++ [j.nextGet endpoints (j.calls.length + 1) kind] }
  | post (c : Call) (intent : Intent) (carried : c.intent x.loopNext = some intent) :
      Turn endpoints x j (.call c) x
        { j with
          calls := j.calls ++ [c]
          entries := j.entries ++ [j.nextPost endpoints (j.calls.length + 1) intent] }
  | told (e : Entry) (kind : Kind) (rank : Nat) (answer : Answer) (waits : e ∈ j.pending)
      (errand : e.slip.errand = .get kind rank) :
      Turn endpoints x j (.answer e.slip.number answer) (x.settle kind rank answer).session
        { j with
          entries := j.entries.map (Entry.hear e.slip.number answer)
          ended := j.ended ++ [(e.slip.call, (x.settle kind rank answer).outcome)] }
  | confirm (e : Entry) (intent : String) (answer : Answer) (waits : e ∈ j.pending)
      (errand : e.slip.errand = .post intent) :
      Turn endpoints x j (.answer e.slip.number answer) ((x.posted intent answer).issue .status)
        { j with
          entries := j.entries.map (Entry.hear e.slip.number answer) ++
            [j.nextGet endpoints e.slip.call .status] }
  | stray (number : Nat) (answer : Answer) (unknown : ∀ e ∈ j.pending, e.slip.number ≠ number) :
      Turn endpoints x j (.answer number answer) x j
  | subscribe : Turn endpoints x j .subscribe x j
  | drain (receiver : Nat) : Turn endpoints x j (.drain receiver) x j
  | clearError : Turn endpoints x j .clearError x.clearError j

namespace Journal

section

variable {endpoints : Endpoints} {x x' : Session} {j j' : Journal}

theorem turn_call {c : Call} (turn : Turn endpoints x j (.call c) x' j') :
    ∃ e, e.slip.call = j.calls.length + 1 ∧ e.isOpen ∧
      j' = { j with calls := j.calls ++ [c], entries := j.entries ++ [e] } := by
  cases turn with
  | ask kind => exact ⟨_, rfl, rfl, rfl⟩
  | post c intent carried => exact ⟨_, rfl, rfl, rfl⟩

theorem turn_ask {asked : Kind} (turn : Turn endpoints x j (.call asked.call) x' j') :
    x' = x.issue asked ∧
      j' = { j with
        calls := j.calls ++ [asked.call]
        entries := j.entries ++ [j.nextGet endpoints (j.calls.length + 1) asked] } := by
  generalize called : asked.call = c at turn
  cases turn with
  | ask other =>
    obtain rfl : asked = other := by
      cases asked <;> cases other <;> first | rfl | cases called
    exact ⟨rfl, rfl⟩
  | post c intent carried =>
    subst called
    cases asked <;> cases carried

theorem turn_post {c : Call} {intent : Intent} (carried : c.intent x.loopNext = some intent)
    (turn : Turn endpoints x j (.call c) x' j') :
    x' = x ∧
      j' = { j with
        calls := j.calls ++ [c]
        entries := j.entries ++ [j.nextPost endpoints (j.calls.length + 1) intent] } := by
  cases turn with
  | ask asked => cases asked <;> cases carried
  | post c other carried' =>
    obtain rfl := Option.some.inj (carried.symm.trans carried')
    exact ⟨rfl, rfl⟩

theorem turn_stray {number : Nat} {answer : Answer}
    (unknown : ∀ e ∈ j.pending, e.slip.number ≠ number)
    (turn : Turn endpoints x j (.answer number answer) x' j') : x' = x ∧ j' = j := by
  cases turn with
  | told e got rank answer waits errand => exact (unknown e waits rfl).elim
  | confirm e intent answer waits errand => exact (unknown e waits rfl).elim
  | stray number answer unknown => exact ⟨rfl, rfl⟩

theorem turn_idle {s : Step} (uncalled : ∀ c, s ≠ .call c)
    (unanswered : ∀ number answer, s = .answer number answer →
      ∀ e ∈ j.pending, e.slip.number ≠ number)
    (turn : Turn endpoints x j s x' j') : j' = j := by
  cases turn with
  | ask kind => exact (uncalled _ rfl).elim
  | post c intent carried => exact (uncalled c rfl).elim
  | told e kind rank answer waits errand => exact (unanswered _ _ rfl e waits rfl).elim
  | confirm e intent answer waits errand => exact (unanswered _ _ rfl e waits rfl).elim
  | stray | subscribe | drain | clearError => rfl

end
end Journal

def Purpose.errand : Purpose → Errand
  | .status sequence => .get .status sequence
  | .directory sequence => .get .directory sequence
  | .command intent => .post intent.name

def Waiting.slip (w : Waiting) : Slip :=
  ⟨w.request, w.call, w.purpose.errand⟩

/-- A desk that agrees with its journal: it has counted the same calls and requests, and those that
wait are the requests without an answer, in the same order. -/
structure History.Kept (endpoints : Endpoints) (h : History) : Prop where
  endpoints_eq : h.desk.endpoints = endpoints
  calls : h.desk.calls = h.journal.calls.length
  requests : h.desk.requests = h.journal.entries.length
  waiting : h.desk.waiting.map Waiting.slip = h.journal.pending.map Entry.slip
  issued : ∀ kind, h.session.issued kind = h.journal.count kind

/-- A step is a turn, and leaves a desk and its journal in agreement. -/
structure History.Advances (endpoints : Endpoints) (h : History) (s : Step) : Prop where
  kept : (h.step s).Kept endpoints
  turn : Turn endpoints h.session h.journal s (h.step s).session (h.step s).journal

namespace Journal

private theorem filter_isOpen_hear (number : Nat) (answer : Answer) (entries : List Entry) :
    ((entries.map (Entry.hear number answer)).filter Entry.isOpen).map Entry.slip =
      ((entries.filter Entry.isOpen).filter fun e => e.slip.number ≠ number).map Entry.slip := by
  induction entries with
  | nil => rfl
  | cons e entries ih =>
    by_cases ho : e.isOpen
    · by_cases hn : e.slip.number = number
      · simpa [Entry.isOpen_hear, ho, hn] using ih
      · simpa [Entry.isOpen_hear, ho, hn] using ih
    · simpa [Entry.isOpen_hear, ho] using ih

@[simp] theorem slips_hear (j : Journal) (number : Nat) (answer : Answer) :
    (j.entries.map (Entry.hear number answer)).map Entry.slip = j.slips := by
  simp [slips, Function.comp_def]

@[simp] theorem ranks_hear (j : Journal) (number : Nat) (answer : Answer) (kind : Kind) :
    (j.entries.map (Entry.hear number answer)).filterMap (fun e => e.slip.errand.rank? kind) =
      j.ranks kind := by
  simp [ranks, List.filterMap_map]

end Journal

def Kind.purpose (rank : Nat) : Kind → Purpose
  | .status => .status rank
  | .directory => .directory rank

@[simp] theorem Kind.errand_purpose (kind : Kind) (rank : Nat) :
    (kind.purpose rank).errand = .get kind rank := by
  cases kind <;> rfl

namespace Desk

variable {d : Desk}

theorem step_ask (d : Desk) (kind : Kind) :
    d.step (.call kind.call) =
      ({ d with
          session := d.session.issue kind
          calls := d.calls + 1
          requests := d.requests + 1
          waiting := d.waiting ++
            [⟨d.requests + 1, d.calls + 1, kind.purpose (d.session.issued kind + 1)⟩] },
        { Report.nothing with sent := some ⟨d.requests + 1, .get (d.endpoints.path kind)⟩ }) := by
  cases kind <;> rfl

theorem step_post {c : Call} {intent : Intent}
    (carried : c.intent d.session.loopNext = some intent) :
    d.step (.call c) =
      ({ d with
          calls := d.calls + 1
          requests := d.requests + 1
          waiting := d.waiting ++ [⟨d.requests + 1, d.calls + 1, .command intent⟩] },
        { Report.nothing with
          sent := some ⟨d.requests + 1, .post d.endpoints.command intent.command.toJson⟩ }) := by
  cases c <;> cases carried <;> rfl

theorem answer_unknown {number : Nat}
    (unknown : d.waiting.find? (fun w => w.request = number) = none) (answer : Answer) :
    d.answer number answer = (d, .nothing) := by
  simp only [Desk.answer, unknown]

theorem answer_get {number : Nat} {w : Waiting} {kind : Kind} {rank : Nat}
    (found : d.waiting.find? (fun w => w.request = number) = some w)
    (errand : w.purpose.errand = .get kind rank) (answer : Answer) :
    d.answer number answer =
      { d with waiting := d.waiting.filter fun w => w.request ≠ number }.finish w.call
        (d.session.settle kind rank answer) := by
  simp only [Desk.answer, found, Desk.resume]
  cases hp : w.purpose with
  | status sequence =>
    rw [hp] at errand
    cases errand
    simp only [Session.settleRefresh_eq]
  | directory sequence =>
    rw [hp] at errand
    cases errand
    simp only [Session.settleDirectory_eq]
  | command intent =>
    rw [hp] at errand
    cases errand

theorem answer_post {number : Nat} {w : Waiting} {intent : String}
    (found : d.waiting.find? (fun w => w.request = number) = some w)
    (errand : w.purpose.errand = .post intent) (answer : Answer) :
    ∃ receivers emitted, d.answer number answer =
      ({ d with
          session := (d.session.posted intent answer).issue .status
          requests := d.requests + 1
          waiting := (d.waiting.filter fun w => w.request ≠ number) ++
            [⟨d.requests + 1, w.call, .status (d.session.issued .status + 1)⟩]
          receivers := receivers },
        ⟨some ⟨d.requests + 1, .get (d.endpoints.path .status)⟩, none, emitted, none⟩) := by
  simp only [Desk.answer, found, Desk.resume]
  cases hp : w.purpose with
  | status sequence =>
    rw [hp] at errand
    cases errand
  | directory sequence =>
    rw [hp] at errand
    cases errand
  | command sent =>
    rw [hp] at errand
    cases errand
    cases answer with
    | ok document => exact ⟨_, _, rfl⟩
    | error fault => exact ⟨_, _, rfl⟩

end Desk

namespace History
variable {endpoints : Endpoints} {h : History}

namespace Kept

theorem find_waiting (kept : h.Kept endpoints) (number : Nat) :
    (h.desk.waiting.find? fun w => w.request = number).map Waiting.slip =
      (h.journal.pending.find? fun e => e.slip.number = number).map Entry.slip := by
  have same := congrArg (List.find? fun slip => slip.number = number) kept.waiting
  rw [List.find?_map, List.find?_map] at same
  exact same

private theorem filter_waiting (kept : h.Kept endpoints) (number : Nat) (answer : Answer) :
    (h.desk.waiting.filter fun w => w.request ≠ number).map Waiting.slip =
      ((h.journal.entries.map (Entry.hear number answer)).filter Entry.isOpen).map Entry.slip := by
  have same := congrArg (List.filter fun slip => slip.number ≠ number) kept.waiting
  rw [List.filter_map, List.filter_map] at same
  rw [Journal.filter_isOpen_hear]
  exact same

private theorem of_sent {calls : List Call} {entries : List Entry} {e : Entry}
    {ended : List (Nat × Outcome)} {front : List Waiting} {w : Waiting}
    (endpoints_eq : h.desk.endpoints = endpoints)
    (journal : h.journal = ⟨calls, entries ++ [e], ended⟩)
    (called : h.desk.calls = calls.length) (requested : h.desk.requests = entries.length + 1)
    (waiting : h.desk.waiting = front ++ [w])
    (front_eq : front.map Waiting.slip = (entries.filter Entry.isOpen).map Entry.slip)
    (slip_eq : w.slip = e.slip) (isOpen : e.isOpen)
    (issued : ∀ kind, h.session.issued kind =
      (entries.filterMap fun e => e.slip.errand.rank? kind).length +
        (e.slip.errand.rank? kind).toList.length) :
    h.Kept endpoints := by
  refine ⟨endpoints_eq, ?_, ?_, ?_, ?_⟩
  · rw [journal, called]
  · simp [journal, requested]
  · simp [journal, waiting, front_eq, slip_eq, isOpen, Journal.pending]
  · intro kind
    rw [issued kind, journal]
    cases hr : e.slip.errand.rank? kind <;> simp [Journal.count, Journal.ranks, hr]

private theorem ask (kept : h.Kept endpoints) (kind : Kind) :
    h.Advances endpoints (.call kind.call) := by
  have desk := Desk.step_ask h.desk kind
  have journal : (h.step (.call kind.call)).journal =
      { h.journal with
        calls := h.journal.calls ++ [kind.call]
        entries := h.journal.entries ++
          [h.journal.nextGet endpoints (h.journal.calls.length + 1) kind] } := by
    simp only [step, desk, Journal.note, Journal.nextGet]
    cases kind <;>
      simp [Report.nothing, Journal.callsAfter, Journal.heardAfter, Journal.sent, Journal.subject,
        Journal.errand, Kind.call, kept.requests, kept.endpoints_eq]
  have session : (h.step (.call kind.call)).session = h.session.issue kind := by
    simp only [History.session, step, desk]
  constructor
  · refine of_sent ?_ journal ?_ ?_ (by simp only [step, desk]; rfl) kept.waiting ?_ rfl ?_
    · simpa only [step, desk] using kept.endpoints_eq
    · simp [step, desk, kept.calls]
    · simp [step, desk, kept.requests]
    · have hi := kept.issued kind
      rw [History.session] at hi
      simp [Waiting.slip, Journal.nextGet, kept.requests, kept.calls, hi]
    · intro other
      rw [session, Session.issued_issue, kept.issued]
      simp only [Journal.nextGet, Errand.length_rank?_get]
      rfl
  · rw [session, journal]
    exact Turn.ask kind

private theorem post (kept : h.Kept endpoints) {c : Call} {intent : Intent}
    (carried : c.intent h.session.loopNext = some intent) :
    h.Advances endpoints (.call c) := by
  have desk := Desk.step_post (d := h.desk) carried
  have journal : (h.step (.call c)).journal =
      { h.journal with
        calls := h.journal.calls ++ [c]
        entries := h.journal.entries ++
          [h.journal.nextPost endpoints (h.journal.calls.length + 1) intent] } := by
    simp [step, desk, Journal.note, Journal.nextPost, Report.nothing, Journal.callsAfter,
      Journal.heardAfter, Journal.sent, Journal.subject, Journal.errand, kept.requests,
      kept.endpoints_eq, Call.intentName_eq carried]
  have session : (h.step (.call c)).session = h.session := by
    simp only [History.session, step, desk]
  constructor
  · refine of_sent ?_ journal ?_ ?_ (by simp only [step, desk]; rfl) kept.waiting ?_ rfl ?_
    · simpa only [step, desk] using kept.endpoints_eq
    · simp [step, desk, kept.calls]
    · simp [step, desk, kept.requests]
    · simp [Waiting.slip, Purpose.errand, Journal.nextPost, kept.requests, kept.calls]
    · intro kind
      rw [session, kept.issued]
      rfl
  · rw [session, journal]
    exact Turn.post c intent carried

private theorem told (kept : h.Kept endpoints) {w : Waiting} {e : Entry} {kind : Kind} {rank : Nat}
    (found : (h.desk.waiting.find? fun w => w.request = e.slip.number) = some w)
    (slip_eq : w.slip = e.slip) (waits : e ∈ h.journal.pending)
    (errand : e.slip.errand = .get kind rank) (answer : Answer) :
    h.Advances endpoints (.answer e.slip.number answer) := by
  have desk := Desk.answer_get found ((congrArg Slip.errand slip_eq).trans errand) answer
  have call_eq : w.call = e.slip.call := congrArg Slip.call slip_eq
  have journal : (h.step (.answer e.slip.number answer)).journal =
      { h.journal with
        entries := h.journal.entries.map (Entry.hear e.slip.number answer)
        ended := h.journal.ended ++
          [(e.slip.call, (h.session.settle kind rank answer).outcome)] } := by
    simp [step, Desk.step, desk, Desk.finish, Journal.note, Report.nothing, Journal.callsAfter,
      Journal.heardAfter, call_eq, History.session]
  have session : (h.step (.answer e.slip.number answer)).session =
      (h.session.settle kind rank answer).session := by
    simp only [History.session, step, Desk.step, desk, Desk.finish, Desk.emit]
  constructor
  · refine ⟨?_, ?_, ?_, ?_, ?_⟩
    · simpa only [step, Desk.step, desk, Desk.finish, Desk.emit] using kept.endpoints_eq
    · rw [journal]
      simpa only [step, Desk.step, desk, Desk.finish, Desk.emit] using kept.calls
    · rw [journal]
      simpa only [step, Desk.step, desk, Desk.finish, Desk.emit, List.length_map]
        using kept.requests
    · rw [journal]
      simp only [step, Desk.step, desk, Desk.finish, Desk.emit]
      exact kept.filter_waiting e.slip.number answer
    · intro other
      rw [session, journal, Session.issued_settle, kept.issued]
      exact congrArg List.length (h.journal.ranks_hear e.slip.number answer other).symm
  · rw [session, journal]
    exact Turn.told e kind rank answer waits errand

private theorem confirm (kept : h.Kept endpoints) {w : Waiting} {e : Entry} {intent : String}
    (found : (h.desk.waiting.find? fun w => w.request = e.slip.number) = some w)
    (listed : (h.journal.pending.find? fun other => other.slip.number = e.slip.number) = some e)
    (slip_eq : w.slip = e.slip) (errand : e.slip.errand = .post intent) (answer : Answer) :
    h.Advances endpoints (.answer e.slip.number answer) := by
  obtain ⟨receivers, emitted, desk⟩ :=
    Desk.answer_post found ((congrArg Slip.errand slip_eq).trans errand) answer
  have call_eq : w.call = e.slip.call := congrArg Slip.call slip_eq
  have journal : (h.step (.answer e.slip.number answer)).journal =
      { h.journal with
        entries := h.journal.entries.map (Entry.hear e.slip.number answer) ++
          [h.journal.nextGet endpoints e.slip.call .status] } := by
    simp [step, Desk.step, desk, Journal.note, Journal.nextGet, Journal.callsAfter,
      Journal.heardAfter, Journal.sent, Journal.subject, Journal.errand, kept.requests,
      kept.endpoints_eq, listed]
  have session : (h.step (.answer e.slip.number answer)).session =
      (h.session.posted intent answer).issue .status := by
    simp only [History.session, step, Desk.step, desk]
  constructor
  · refine of_sent ?_ journal ?_ ?_ (by simp only [step, Desk.step, desk]; rfl)
      (kept.filter_waiting e.slip.number answer) ?_ rfl ?_
    · simpa only [step, Desk.step, desk] using kept.endpoints_eq
    · simpa only [step, Desk.step, desk] using kept.calls
    · simp [step, Desk.step, desk, kept.requests]
    · have hi := kept.issued .status
      rw [History.session] at hi
      simp [Waiting.slip, Purpose.errand, Journal.nextGet, kept.requests, call_eq, hi]
    · intro other
      rw [session, Session.issued_issue, Session.issued_posted, kept.issued]
      simp only [Journal.nextGet, Errand.length_rank?_get, Journal.ranks_hear]
      rfl
  · rw [session, journal]
    exact Turn.confirm e intent answer (List.mem_of_find?_eq_some listed) errand

private theorem stray (kept : h.Kept endpoints) {number : Nat}
    (absent : (h.journal.pending.find? fun e => e.slip.number = number) = none) (answer : Answer) :
    h.Advances endpoints (.answer number answer) := by
  have unknown : (h.desk.waiting.find? fun w => w.request = number) = none := by
    have same := kept.find_waiting number
    rw [absent] at same
    exact Option.map_eq_none_iff.mp same
  have desk := Desk.answer_unknown unknown answer
  have silent : ∀ e ∈ h.journal.pending, e.slip.number ≠ number := by
    simpa using absent
  have same : h.step (.answer number answer) = h := by
    have heard : h.journal.entries.map (Entry.hear number answer) = h.journal.entries := by
      refine (List.map_congr_left fun e he => ?_).trans (List.map_id _)
      by_cases ho : e.isOpen
      · exact Entry.hear_of_ne (silent e (List.mem_filter.mpr ⟨he, ho⟩)) answer
      · exact Entry.hear_of_closed ho number answer
    simp [step, Desk.step, desk, Journal.note, Report.nothing, Journal.callsAfter,
      Journal.heardAfter, heard]
  constructor
  · rw [same]
    exact kept
  · rw [same]
    exact Turn.stray number answer silent

private theorem aside (kept : h.Kept endpoints) {s : Step} {x : Session} (receivers : List Receiver)
    (same : h.step s = ⟨{ h.desk with session := x, receivers := receivers }, h.journal⟩)
    (issued : ∀ kind, x.issued kind = h.session.issued kind)
    (turn : Turn endpoints h.session h.journal s x h.journal) : h.Advances endpoints s := by
  constructor
  · rw [same]
    exact ⟨kept.endpoints_eq, kept.calls, kept.requests, kept.waiting,
      fun kind => (issued kind).trans (kept.issued kind)⟩
  · rw [same]
    exact turn

theorem step (kept : h.Kept endpoints) (s : Step) : h.Advances endpoints s := by
  have unwritten : ∀ x, h.journal.note s ⟨none, none, none, x⟩ =
      ⟨h.journal.callsAfter s, h.journal.heardAfter s, h.journal.ended⟩ := by
    intro x
    simp [Journal.note]
  cases s with
  | call c =>
    cases c with
    | refresh => exact kept.ask .status
    | loadDirectory => exact kept.ask .directory
    | command intent => exact kept.post rfl
    | toggleLoop => exact kept.post rfl
  | answer number answer =>
    cases listed : h.journal.pending.find? fun e => e.slip.number = number with
    | none => exact kept.stray listed answer
    | some e =>
      obtain rfl : e.slip.number = number := by simpa using List.find?_some listed
      have same := kept.find_waiting e.slip.number
      rw [listed] at same
      obtain ⟨w, found, slip_eq⟩ := Option.map_eq_some_iff.mp same
      cases errand : e.slip.errand with
      | get kind rank =>
        exact kept.told found slip_eq (List.mem_of_find?_eq_some listed) errand answer
      | post intent => exact kept.confirm found listed slip_eq errand answer
  | subscribe =>
    refine kept.aside (h.desk.receivers ++ [.empty]) ?_ (fun _ => rfl) Turn.subscribe
    simp only [History.step, Desk.step, Report.nothing, unwritten]
    rfl
  | drain receiver =>
    refine kept.aside (h.desk.receivers.set receiver .empty) ?_ (fun _ => rfl) (Turn.drain receiver)
    simp only [History.step, Desk.step, Report.nothing, unwritten]
    rfl
  | clearError =>
    refine kept.aside h.desk.receivers ?_ (fun kind => ?_) Turn.clearError
    · simp only [History.step, Desk.step, Report.nothing, unwritten]
      rfl
    · cases kind <;> rfl

end Kept

private theorem kept_opened (endpoints : Endpoints) : (opened endpoints).Kept endpoints := by
  refine ⟨rfl, rfl, rfl, rfl, ?_⟩
  intro kind
  cases kind <;> rfl

theorem kept_run (endpoints : Endpoints) (steps : List Step) :
    ((opened endpoints).run steps).Kept endpoints := by
  induction steps using List.reverseRecOn with
  | nil => exact kept_opened endpoints
  | append_singleton steps s ih =>
    rw [run_append]
    exact (ih.step s).kept

theorem turn_run (endpoints : Endpoints) (steps : List Step) (s : Step) :
    Turn endpoints ((opened endpoints).run steps).session ((opened endpoints).run steps).journal s
      ((opened endpoints).run (steps ++ [s])).session
      ((opened endpoints).run (steps ++ [s])).journal := by
  rw [run_append]
  exact ((kept_run endpoints steps).step s).turn

theorem run_induction_from {endpoints : Endpoints} {steps : List Step}
    {P : Session → Journal → Prop}
    (start : P ((opened endpoints).run steps).session ((opened endpoints).run steps).journal)
    (turn : ∀ x j s x' j', P x j → Turn endpoints x j s x' j' → P x' j') (more : List Step) :
    P ((opened endpoints).run (steps ++ more)).session
      ((opened endpoints).run (steps ++ more)).journal := by
  induction more using List.reverseRecOn with
  | nil => simpa using start
  | append_singleton more s ih =>
    rw [← List.append_assoc]
    exact turn _ _ s _ _ ih (turn_run endpoints (steps ++ more) s)

/-- What holds of a fresh session and is kept by every turn holds in every run. -/
theorem run_induction {endpoints : Endpoints} {P : Session → Journal → Prop}
    (fresh : P .fresh .blank)
    (turn : ∀ x j s x' j', P x j → Turn endpoints x j s x' j' → P x' j') (steps : List Step) :
    P ((opened endpoints).run steps).session ((opened endpoints).run steps).journal := by
  have start : P ((opened endpoints).run []).session ((opened endpoints).run []).journal := fresh
  exact run_induction_from start turn steps

end History
end ShowRemote
