import ShowRemote.Proofs.Session.Delivery
import ShowRemote.Proofs.Session.Effects

/-!
A session rebuilt from its events. What events tell, replayed onto what a session showed, is what it
shows after them (`replica_step`), so a receiver that missed nothing has all of it.

Main statement: `subscriber_rebuilds_session`.
-/

set_option autoImplicit false

namespace ShowRemote

open Receiver (Fills Item)
open Show (ShowOption StatusView)

/-- What the events of a session tell of it. -/
structure Replica where
  view : StatusView
  options : List ShowOption
  lastError : Option ErrorRecord
  deriving DecidableEq, Repr

/-- A replica after an event. That an answer came too late changes nothing. -/
def Replica.hear (r : Replica) : Event → Replica
  | .statusUpdated view => { r with view := view }
  | .directoryUpdated options => { r with options := options }
  | .staleDiscarded .. => r
  | .failed record => { r with lastError := some record }

def Replica.cleared (r : Replica) : Replica :=
  { r with lastError := none }

private theorem Replica.foldl_cleared (r : Replica) (events : List Event) :
    events.foldl hear r.cleared = (events.foldl hear r).cleared ∨
      events.foldl hear r.cleared = events.foldl hear r := by
  induction events generalizing r with
  | nil => exact .inl rfl
  | cons event events ih =>
    cases event with
    | failed record => exact .inr rfl
    | statusUpdated view => exact ih { r with view := view }
    | directoryUpdated options => exact ih { r with options := options }
    | staleDiscarded => exact ih r

def Panel.replica (p : Panel) : Replica :=
  ⟨p.view, p.options, p.lastError⟩

namespace Session

def replica (x : Session) : Replica :=
  x.panel.replica

private theorem replica_issue (x : Session) (kind : Kind) : (x.issue kind).replica = x.replica := by
  cases kind <;> rfl

private theorem replica_settle (x : Session) (kind : Kind) (rank : Nat) (answer : Answer) :
    (x.settle kind rank answer).session.replica =
      x.replica.hear (x.settle kind rank answer).event := by
  rcases x.settle_cases kind rank answer with
    ⟨failure, -, hs⟩ | ⟨document, -, -, hs⟩ | ⟨document, -, -, hs⟩
  · rw [hs]
    rfl
  · rw [hs]
    rfl
  · rw [hs]
    cases kind <;> rfl

private theorem replica_posted (x : Session) (intent : String) (answer : Answer) :
    (x.posted intent answer).replica =
      (((Errand.post intent).failure? answer).map Event.failed).toList.foldl Replica.hear
        x.replica := by
  cases answer <;> rfl

end Session

namespace History

section

variable {endpoints : Endpoints} {h : History} {s : Step}

private theorem Kept.replica_quiet (kept : h.Kept endpoints) (numbered : h.journal.Numbered)
    (uncleared : s ≠ .clearError)
    (unanswered : ∀ number answer, s = .answer number answer →
      ∀ e ∈ h.journal.pending, e.slip.number ≠ number)
    (quiet : ∃ sent drained, (h.desk.step s).2 = ⟨sent, none, none, drained⟩) :
    (h.step s).session.replica = (h.log [s]).foldl Replica.hear h.session.replica := by
  obtain ⟨sent, drained, report⟩ := quiet
  have effect := kept.effect numbered s
  rw [report] at effect
  have unfailing : ∀ record, ¬ h.journal.Fails s record := by
    intro record fails
    obtain ⟨e, waits, answer, same, -⟩ := fails.exists_pending
    exact unanswered _ _ same e waits rfl
  rw [log_singleton, report]
  exact congrArg Panel.replica (effect.panel_eq unfailing uncleared nofun)

/-- What events tell changes with the events of a step, and when the last error is cleared. -/
theorem Kept.replica_step (kept : h.Kept endpoints) (numbered : h.journal.Numbered)
    (uncleared : s ≠ .clearError) :
    (h.step s).session.replica = (h.log [s]).foldl Replica.hear h.session.replica := by
  have turn := (kept.step s).turn
  rcases Journal.step_cases h.journal s with
    ⟨c, rfl⟩ | ⟨e, waits, answer, rfl⟩ | ⟨uncalled, unanswered⟩
  · obtain ⟨request, report⟩ := h.desk.report_call c
    exact kept.replica_quiet numbered uncleared nofun ⟨_, _, report⟩
  · rw [log_singleton]
    cases errand : e.slip.errand with
    | get kind rank =>
      rw [(numbered.turn_get waits rfl errand turn).1, kept.report_get numbered waits errand]
      exact h.session.replica_settle kind rank answer
    | post intent =>
      rw [(numbered.turn_post waits rfl errand turn).1, kept.report_post numbered waits errand,
        Session.replica_issue, errand]
      exact h.session.replica_posted intent answer
  · obtain ⟨drained, report⟩ := kept.report_idle uncalled unanswered
    exact kept.replica_quiet numbered uncleared unanswered ⟨_, _, report⟩

end

/-- The log of any steps, heard from what was shown before them, tells what is shown after them;
only a last error may have been cleared since. -/
private theorem replica_run (endpoints : Endpoints) (before steps : List Step) :
    let start := (opened endpoints).run before
    let told := (start.log steps).foldl Replica.hear start.session.replica
    (start.run steps).session.replica = told ∨
      (Step.clearError ∈ steps ∧ (start.run steps).session.replica = told.cleared) := by
  intro start
  induction steps using List.reverseRecOn with
  | nil => exact .inl rfl
  | append_singleton steps s ih =>
    have run : start.run (steps ++ [s]) = (start.run steps).step s := run_append start steps [s]
    have earlier : start.run steps = (opened endpoints).run (before ++ steps) :=
      (run_append _ before steps).symm
    rw [log_append, List.foldl_append, run]
    generalize (start.log steps).foldl Replica.hear start.session.replica = told at ih
    by_cases clears : s = .clearError
    · subst clears
      refine .inr ⟨by simp, ?_⟩
      have same : (start.run steps).session.replica.cleared = told.cleared := by
        rcases ih with same | ⟨-, same⟩
        · rw [same]
        · rw [same]
          rfl
      exact same
    · have step : ((start.run steps).step s).session.replica =
          ((start.run steps).log [s]).foldl Replica.hear (start.run steps).session.replica := by
        rw [earlier]
        exact (kept_run endpoints _).replica_step (numbered_run endpoints _) clears
      -- Both sides hear the same events, so only a last error cleared before can keep them apart.
      rw [step]
      rcases ih with same | ⟨cleared, same⟩
      · rw [same]
        exact .inl rfl
      · rw [same]
        have mem : Step.clearError ∈ steps ++ [s] := List.mem_append_left _ cleared
        rcases told.foldl_cleared ((start.run steps).log [s]) with hears | hears
        · exact .inr ⟨mem, hears⟩
        · exact .inl hears

def rebuilt (h : History) (k : Nat) (steps : List Step) : Replica :=
  ((h.taken k steps).filterMap Item.event?).foldl Replica.hear h.session.replica

/-- What the next drain of a receiver returns, and all its drains with it. -/
structure Serves (h : History) (k : Nat) (steps : List Step) : Prop where
  /-- What is unread is what has not been told of the log. -/
  length_unread : (h.unread k steps).length + h.told k steps = (h.log steps).length
  /-- A drain returns all that is unread, or the latest of it after a count of the rest. -/
  drain : ∃ r, ((h.run steps).desk.step (.drain k)).2.drained = some r ∧
    ((h.unread k steps).length ≤ Receiver.capacity → r.items = (h.unread k steps).map .event) ∧
    (Receiver.capacity < (h.unread k steps).length →
      r.items = .lagged ((h.unread k steps).length - Receiver.capacity) ::
        ((h.unread k steps).drop ((h.unread k steps).length - Receiver.capacity)).map .event)
  /-- After a drain the whole log has been told. -/
  fills : Fills (h.taken k (steps ++ [Step.drain k])) (h.log (steps ++ [Step.drain k]))
  /-- Where nothing was missed, the events returned tell what is shown. -/
  rebuilds : (∀ missed, Item.lagged missed ∉ h.taken k (steps ++ [Step.drain k])) →
    (h.run (steps ++ [Step.drain k])).session.replica = h.rebuilt k (steps ++ [Step.drain k]) ∨
      (Step.clearError ∈ steps ∧ (h.run (steps ++ [Step.drain k])).session.replica =
        (h.rebuilt k (steps ++ [Step.drain k])).cleared)

private theorem serves_run (endpoints : Endpoints) (before : List Step) {k : Nat}
    (start : ((opened endpoints).run before).desk.receivers[k]? = some .empty)
    (steps : List Step) : ((opened endpoints).run before).Serves k steps := by
  obtain ⟨front, delivered⟩ := delivered_run start steps
  have fills := delivered.drain.fills
  rw [← List.append_nil (front ++ _), ← delivered.drain.log] at fills
  constructor
  case length_unread =>
    rw [delivered.log, delivered.told_eq, List.length_append, Nat.add_comm]
  case drain =>
    exact ⟨_, delivered.held, Receiver.items_handed_of_le, Receiver.items_handed_of_lt⟩
  case fills => exact fills
  case rebuilds =>
    intro unlagged
    rw [rebuilt, fills.events_eq unlagged]
    rcases replica_run endpoints before (steps ++ [Step.drain k]) with same | ⟨mem, same⟩
    · exact .inl same
    · refine .inr ⟨?_, same⟩
      simpa using mem

/-- A receiver returns the events since its subscription, whatever is drained and subscribed and
whenever, with a count for those that it had no room to keep; if there were none of these, they tell
what is shown. Neither a drain nor a subscription changes what is shown or what other receivers
return. -/
theorem subscriber_rebuilds_session (endpoints : Endpoints) (before : List Step) :
    let h := (opened endpoints).run before
    let next := h.desk.receivers.length
    let shift := Step.renumber (Receiver.shift next)
    (∀ steps, (h.step .subscribe).Serves next steps) ∧
    (∀ k more, ((h.step (.drain k)).run more).session.panel = (h.run more).session.panel ∧
      ∀ other, other ≠ k → (h.step (.drain k)).drains other more = h.drains other more) ∧
    (∀ more, ((h.step .subscribe).run (more.map shift)).session.panel = (h.run more).session.panel ∧
      ∀ k, (h.step .subscribe).drains (Receiver.shift next k) (more.map shift) =
        h.drains k more) := by
  intro h next shift
  refine ⟨fun steps => ?_, fun k more => ?_, fun more => ?_⟩
  · have subscribed : h.step .subscribe = (opened endpoints).run (before ++ [.subscribe]) :=
      (run_append _ before [.subscribe]).symm
    have start : (h.step .subscribe).desk.receivers[next]? = some .empty :=
      List.getElem?_concat_length
    rw [subscribed] at start ⊢
    exact serves_run endpoints _ start steps
  · obtain ⟨session, -, drains⟩ := h.drain_apart k more
    exact ⟨congrArg Session.panel session, drains⟩
  · obtain ⟨session, -, drains⟩ := h.subscribe_apart more
    exact ⟨congrArg Session.panel session, drains⟩

/-- One of two receivers is drained after a failure and after a listing: it returns both, and they
tell what is shown. That it was drained before is nothing to the other one. -/
theorem two_drains_rebuild_session :
    let h := (opened .standard).run [.subscribe, .call .refresh]
    let start := h.step .subscribe
    let steps : List Step :=
      [.answer 1 (.error (.timeout "player")), .drain 1, .call .loadDirectory,
        .answer 2 (.ok (.object [("shows", .object [("jazz", .string "7")])]))]
    let all := steps ++ [Step.drain 1]
    start.taken 1 all =
        [.event (.failed ⟨.refresh, .transport, "request to player timed out"⟩),
          .event (.directoryUpdated [⟨"7", "7"⟩])] ∧
      ((start.run all).session.replica = start.rebuilt 1 all ∨
        (Step.clearError ∈ steps ∧
          (start.run all).session.replica = (start.rebuilt 1 all).cleared)) ∧
      (start.step (.drain 1)).drains 0 [.drain 0] = start.drains 0 [.drain 0] := by
  intro h start steps all
  have taken : start.taken 1 all =
      [.event (.failed ⟨.refresh, .transport, "request to player timed out"⟩),
        .event (.directoryUpdated [⟨"7", "7"⟩])] := by decide
  have unlagged : ∀ missed, Item.lagged missed ∉ start.taken 1 all := by simp [taken]
  have next : h.desk.receivers.length = 1 := by decide
  have serves := (subscriber_rebuilds_session .standard [.subscribe, .call .refresh]).1 steps
  have apart :=
    (subscriber_rebuilds_session .standard [.subscribe, .call .refresh, .subscribe]).2.1 1
      [.drain 0]
  change start.Serves h.desk.receivers.length steps at serves
  rw [next] at serves
  exact ⟨taken, serves.rebuilds unlagged, apart.2 0 (by decide)⟩

end History
end ShowRemote
