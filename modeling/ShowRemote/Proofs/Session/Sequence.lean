import ShowRemote.Proofs.Session.Conservation
import ShowRemote.Proofs.Session.Emission

/-!
Sessions that answer for what they end with, and sessions that make one call after another. Whatever
has ended, a session has heard its player or holds an error, unless that was cleared
(`accounts_run`). In a session at rest every request has been answered before the next one was
sent; it gets one thing more (`Rests.get`) or carries out one intent more (`Rests.command`), and its
last error is the last of its failures in the order of its requests.
-/

set_option autoImplicit false

namespace ShowRemote

open Journal (Entry)
open Show (Intent)

def Keeping (steps : List Step) : Prop :=
  ∀ s ∈ steps, s ≠ .clearError

private theorem Keeping.append {front back : List Step} (first : Keeping front)
    (second : Keeping back) :
    Keeping (front ++ back) :=
  List.forall_mem_append.mpr ⟨first, second⟩

namespace Journal

def Entry.failure? (e : Entry) : Option ErrorRecord :=
  e.answer.bind e.slip.errand.failure?

def failures (j : Journal) : List ErrorRecord :=
  j.entries.filterMap Entry.failure?

theorem getLast?_filterMap_concat (entries : List Entry) (e : Entry) :
    ((entries ++ [e]).filterMap Entry.failure?).getLast? =
      e.failure?.or (entries.filterMap Entry.failure?).getLast? := by
  rw [List.filterMap_append, List.getLast?_append]
  cases failed : e.failure? <;> simp [failed]

private theorem hear_concat {front : List Entry} {e : Entry} (closed : ∀ e ∈ front, ¬ e.isOpen)
    (isOpen : e.isOpen) (answer : Answer) :
    (front ++ [e]).map (Entry.hear e.slip.number answer) =
      front ++ [{ e with answer := some answer }] := by
  have same : front.map (Entry.hear e.slip.number answer) = front := by
    refine (List.map_congr_left fun other mem => ?_).trans (List.map_id front)
    exact Entry.hear_of_closed (closed other mem) _ _
  rw [List.map_append, same, List.map_singleton, Entry.hear_of_open isOpen]

end Journal

namespace Session

theorem lastError_issue (x : Session) (kind : Kind) : (x.issue kind).lastError = x.lastError := by
  cases kind <;> rfl

theorem lastError_settle (x : Session) (kind : Kind) (rank : Nat) (answer : Answer) :
    (x.settle kind rank answer).session.lastError =
      ((Errand.get kind rank).failure? answer).or x.lastError := by
  rcases x.settle_cases kind rank answer with
    ⟨failure, bad, h⟩ | ⟨document, good, -, h⟩ | ⟨document, good, -, h⟩
  · rw [h, Errand.failure?, bad]
    rfl
  · rw [h, Errand.failure?, good]
    rfl
  · rw [h, Errand.failure?, good]
    cases kind <;> rfl

theorem lastError_posted (x : Session) (intent : String) (answer : Answer) :
    (x.posted intent answer).lastError =
      ((Errand.post intent).failure? answer).or x.lastError := by
  cases answer <;> rfl

end Session

namespace Session

private theorem heard_iff_applied (x : Session) : x.heard = true ↔ ∃ kind, 0 < x.applied kind := by
  have both : x.heard = true ↔ 0 < x.applied .status ∨ 0 < x.applied .directory := by
    simp [heard, applied]
  rw [both]
  constructor
  · rintro (status | directory)
    · exact ⟨_, status⟩
    · exact ⟨_, directory⟩
  · rintro ⟨kind, applied⟩
    cases kind with
    | status => exact .inl applied
    | directory => exact .inr applied

theorem heard_issue (x : Session) (kind : Kind) : (x.issue kind).heard = x.heard := by
  cases kind <;> rfl

theorem heard_posted (x : Session) (intent : String) (answer : Answer) :
    (x.posted intent answer).heard = x.heard := by
  cases answer <;> rfl

theorem heard_settle (x : Session) {kind : Kind} {rank : Nat} (ranked : 1 ≤ rank)
    (answer : Answer) :
    (x.settle kind rank answer).session.heard = true ↔
      x.heard = true ∨ ∃ document, kind.verdict answer = .ok document := by
  rcases x.settle_cases kind rank answer with
    ⟨failure, bad, h⟩ | ⟨document, good, late, h⟩ | ⟨document, good, newer, h⟩
  · rw [h, bad]
    exact ⟨.inl, fun heard => heard.resolve_right nofun⟩
  · have applied : 0 < x.applied kind := by omega
    have heard := x.heard_iff_applied.mpr ⟨kind, applied⟩
    rw [h]
    exact iff_of_true heard (.inl heard)
  · rw [h]
    refine iff_of_true ?_ (.inr ⟨document, good⟩)
    rw [heard_iff_applied]
    exact ⟨kind, by rw [applied_adopt, if_pos rfl]; omega⟩

def Accounts (x : Session) (j : Journal) : Prop :=
  j.ended ≠ [] → x.heard = true ∨ x.lastError.isSome

private theorem Accounts.turn {endpoints : Endpoints} {x x' : Session} {j j' : Journal} {s : Step}
    (accounts : x.Accounts j) (numbered : j.Numbered) (turn : Turn endpoints x j s x' j')
    (keeps : s ≠ .clearError) : x'.Accounts j' := by
  intro ended
  cases turn with
  | ask kind =>
    rw [heard_issue, lastError_issue]
    exact accounts ended
  | post c intent carried => exact accounts ended
  | told e kind rank answer waits errand =>
    have ranked : 1 ≤ rank :=
      (numbered.exists_rank_iff.mp ⟨e, Journal.mem_of_mem_pending waits, errand⟩).1
    rw [heard_settle x ranked, lastError_settle]
    cases verdict : kind.verdict answer with
    | ok document => exact .inl (.inr ⟨document, rfl⟩)
    | error failure =>
      right
      simp [Errand.failure?, verdict]
  | confirm e intent answer waits errand =>
    rw [heard_issue, lastError_issue, heard_posted, lastError_posted]
    refine (accounts ended).imp id fun error => ?_
    cases (Errand.post intent).failure? answer with
    | none => exact error
    | some record => rfl
  | stray | subscribe | drain => exact accounts ended
  | clearError => exact (keeps rfl).elim

end Session

namespace History

theorem accounts_run (endpoints : Endpoints) {steps : List Step} (keeping : Keeping steps) :
    ((opened endpoints).run steps).session.Accounts ((opened endpoints).run steps).journal := by
  induction steps using List.reverseRecOn with
  | nil => exact fun ended => (ended rfl).elim
  | append_singleton steps s ih =>
    obtain ⟨before, last⟩ := List.forall_mem_append.mp keeping
    exact (ih before).turn (numbered_run endpoints steps) (turn_run endpoints steps s)
      (last s List.mem_cons_self)

/-- A run of a session, up to a moment when every request has been answered. -/
structure Rests (endpoints : Endpoints) (h : History) : Prop where
  run : ∃ steps, Keeping steps ∧ h = (opened endpoints).run steps
  answered : ∀ e ∈ h.journal.entries, ¬ e.isOpen

/-- A run of a session, up to a moment when only the last request waits for its answer. -/
structure Awaits (endpoints : Endpoints) (h : History) (front : List Entry) (e : Entry) :
    Prop where
  run : ∃ steps, Keeping steps ∧ h = (opened endpoints).run steps
  entries : h.journal.entries = front ++ [e]
  answered : ∀ e ∈ front, ¬ e.isOpen
  isOpen : e.isOpen

theorem rests_opened (endpoints : Endpoints) : (opened endpoints).Rests endpoints :=
  ⟨⟨[], nofun, rfl⟩, nofun⟩

section Calls

variable {endpoints : Endpoints} {h : History}

private theorem turn_step (run : ∃ steps, Keeping steps ∧ h = (opened endpoints).run steps)
    {s : Step} (keeps : s ≠ .clearError) :
    (∃ steps, Keeping steps ∧ h.step s = (opened endpoints).run steps) ∧ h.journal.Numbered ∧
      Turn endpoints h.session h.journal s (h.step s).session (h.step s).journal := by
  obtain ⟨steps, keeping, rfl⟩ := run
  have last : Keeping [s] := fun other mem => by rwa [List.mem_singleton.mp mem]
  have stepped : ((opened endpoints).run steps).step s = (opened endpoints).run (steps ++ [s]) := by
    rw [run_append]
    rfl
  rw [stepped]
  exact ⟨⟨_, keeping.append last, rfl⟩, numbered_run endpoints steps, turn_run endpoints steps s⟩

private theorem Rests.ask (rests : h.Rests endpoints) (kind : Kind) :
    ∃ e, (h.step (.call kind.call)).Awaits endpoints h.journal.entries e ∧
      e.Gets endpoints kind ∧
      e.slip.errand = .get kind (h.session.issued kind + 1) ∧
      (h.step (.call kind.call)).session = h.session.issue kind ∧
      (h.step (.call kind.call)).journal.calls = h.journal.calls ++ [kind.call] := by
  obtain ⟨run, -, turn⟩ := turn_step rests.run (s := .call kind.call) nofun
  obtain ⟨session, journal⟩ := Journal.turn_ask turn
  have issued : h.session.issued kind = h.journal.count kind := by
    obtain ⟨steps, -, rfl⟩ := rests.run
    exact (kept_run endpoints steps).issued kind
  refine ⟨_, ⟨run, by rw [journal], rests.answered, rfl⟩, Journal.gets_nextGet _ _ _ _, ?_,
    session, by rw [journal]⟩
  rw [issued]
  rfl

private theorem Rests.post (rests : h.Rests endpoints) {c : Call} {intent : Intent}
    (carried : c.intent h.session.loopNext = some intent) :
    ∃ e, (h.step (.call c)).Awaits endpoints h.journal.entries e ∧
      e.slip.errand = .post intent.name ∧
      e.message = .post endpoints.command intent.command.toJson ∧
      (h.step (.call c)).session = h.session ∧
      (h.step (.call c)).journal.calls = h.journal.calls ++ [c] := by
  obtain ⟨run, -, turn⟩ := turn_step rests.run (s := .call c) nofun
  obtain ⟨session, journal⟩ := Journal.turn_post carried turn
  exact ⟨h.journal.nextPost endpoints (h.journal.calls.length + 1) intent,
    ⟨run, by rw [journal], rests.answered, rfl⟩, rfl, rfl, session, by rw [journal]⟩

variable {front : List Entry} {e : Entry}

private theorem Awaits.mem_pending (awaits : h.Awaits endpoints front e) :
    e ∈ h.journal.pending := by
  rw [Journal.pending, awaits.entries]
  exact List.mem_filter.mpr ⟨by simp, awaits.isOpen⟩

private theorem Awaits.hear (awaits : h.Awaits endpoints front e) (answer : Answer) :
    h.journal.entries.map (Entry.hear e.slip.number answer) =
      front ++ [{ e with answer := some answer }] := by
  rw [awaits.entries, Journal.hear_concat awaits.answered awaits.isOpen]

private theorem Awaits.answered_hear (awaits : h.Awaits endpoints front e) (answer : Answer) :
    ∀ other ∈ front ++ [{ e with answer := some answer }], ¬ other.isOpen := by
  rw [List.forall_mem_append]
  refine ⟨awaits.answered, fun other mem => ?_⟩
  rw [List.mem_singleton.mp mem]
  nofun

private theorem Awaits.told (awaits : h.Awaits endpoints front e) {kind : Kind} {rank : Nat}
    (errand : e.slip.errand = .get kind rank) (answer : Answer) :
    (h.step (.answer e.slip.number answer)).Rests endpoints ∧
      (h.step (.answer e.slip.number answer)).session =
        (h.session.settle kind rank answer).session ∧
      (h.step (.answer e.slip.number answer)).journal.calls = h.journal.calls ∧
      (h.step (.answer e.slip.number answer)).journal.entries =
        front ++ [{ e with answer := some answer }] := by
  obtain ⟨run, numbered, turn⟩ :=
    turn_step awaits.run (s := .answer e.slip.number answer) nofun
  obtain ⟨session, journal⟩ := numbered.turn_get awaits.mem_pending rfl errand turn
  have entries : (h.step (.answer e.slip.number answer)).journal.entries =
      front ++ [{ e with answer := some answer }] := by
    rw [journal]
    exact awaits.hear answer
  refine ⟨⟨run, ?_⟩, session, by rw [journal], entries⟩
  rw [entries]
  exact awaits.answered_hear answer

private theorem Awaits.confirm (awaits : h.Awaits endpoints front e) {intent : String}
    (errand : e.slip.errand = .post intent) (answer : Answer) :
    ∃ get, (h.step (.answer e.slip.number answer)).Awaits endpoints
        (front ++ [{ e with answer := some answer }]) get ∧
      get.Gets endpoints .status ∧
      get.slip.errand = .get .status ((h.session.posted intent answer).issued .status + 1) ∧
      (h.step (.answer e.slip.number answer)).session =
        (h.session.posted intent answer).issue .status ∧
      (h.step (.answer e.slip.number answer)).journal.calls = h.journal.calls := by
  obtain ⟨run, numbered, turn⟩ :=
    turn_step awaits.run (s := .answer e.slip.number answer) nofun
  obtain ⟨session, journal⟩ := numbered.turn_post awaits.mem_pending rfl errand turn
  have issued : h.session.issued .status = h.journal.count .status := by
    obtain ⟨steps, -, rfl⟩ := awaits.run
    exact (kept_run endpoints steps).issued .status
  refine ⟨h.journal.nextGet endpoints e.slip.call .status,
    ⟨run, ?_, awaits.answered_hear answer, rfl⟩, Journal.gets_nextGet _ _ _ _, ?_, session,
    by rw [journal]⟩
  · rw [journal, awaits.hear]
  · rw [Session.issued_posted, issued]
    rfl

theorem Rests.get (rests : h.Rests endpoints) (kind : Kind) (answer : Answer) :
    ∃ (h' : History) (e : Entry), h'.Rests endpoints ∧
      h'.session =
        ((h.session.issue kind).settle kind (h.session.issued kind + 1) answer).session ∧
      h'.journal.calls = h.journal.calls ++ [kind.call] ∧
      h'.journal.entries = h.journal.entries ++ [e] ∧
      e.Gets endpoints kind ∧ e.answer = some answer := by
  obtain ⟨e, awaits, gets, errand, session, calls⟩ := rests.ask kind
  obtain ⟨rested, session', calls', entries⟩ := awaits.told errand answer
  rw [session] at session'
  rw [calls] at calls'
  exact ⟨_, _, rested, session', calls', entries, gets, rfl⟩

theorem Rests.command (rests : h.Rests endpoints) {c : Call} {intent : Intent}
    (carried : c.intent h.session.loopNext = some intent) (posted told : Answer) :
    ∃ (h' : History) (post get : Entry), h'.Rests endpoints ∧
      h'.session = (((h.session.posted intent.name posted).issue .status).settle .status
        ((h.session.posted intent.name posted).issued .status + 1) told).session ∧
      h'.journal.calls = h.journal.calls ++ [c] ∧
      h'.journal.entries = h.journal.entries ++ [post] ++ [get] ∧
      (post.slip.errand = .post intent.name ∧
        post.message = .post endpoints.command intent.command.toJson ∧
        post.answer = some posted) ∧
      get.Gets endpoints .status ∧ get.answer = some told := by
  obtain ⟨e, awaits, errand, message, session, calls⟩ := rests.post carried
  obtain ⟨get, awaits', gets, errand', session', calls'⟩ := awaits.confirm errand posted
  obtain ⟨rested, session'', calls'', entries⟩ := awaits'.told errand' told
  rw [session', session] at session''
  rw [calls', calls] at calls''
  rw [session] at errand'
  exact ⟨_, _, _, rested, session'', calls'', entries, ⟨errand, message, rfl⟩, gets, rfl⟩

private theorem Rests.ended_ne_nil (rests : h.Rests endpoints) (called : h.journal.calls ≠ []) :
    h.journal.ended ≠ [] := by
  obtain ⟨⟨steps, -, rfl⟩, answered⟩ := rests
  have idle : ((opened endpoints).run steps).journal.pending = [] :=
    List.filter_eq_nil_iff.mpr answered
  have finished := (unfinished_eq_nil_iff endpoints steps).mpr idle
  intro unended
  rw [Journal.unfinished, unended] at finished
  exact called (by simpa using finished)

theorem Rests.heard_or_lastError (rests : h.Rests endpoints) (called : h.journal.calls ≠ []) :
    h.session.heard = true ∨ h.session.lastError.isSome := by
  have ended := rests.ended_ne_nil called
  obtain ⟨⟨steps, keeping, rfl⟩, -⟩ := rests
  exact accounts_run endpoints keeping ended

end Calls

end History
end ShowRemote
