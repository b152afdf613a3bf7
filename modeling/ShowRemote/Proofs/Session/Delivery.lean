import ShowRemote.Proofs.Session.Emission

/-!
What a receiver gets. Drained whenever, it returns the events of the log since its subscription, in
order, with a count in place of those it had to give up (`delivered_run`), and it is up to no other
receiver what these are (`run_mirrors`).
-/

set_option autoImplicit false

namespace ShowRemote

namespace Receiver

/-- What a drain returns, piece by piece: an event, or how many were missed before the next one. -/
inductive Item where
  | lagged (missed : Nat)
  | event (e : Event)
  deriving DecidableEq, Repr

namespace Item

def count : Item → Nat
  | .lagged missed => missed
  | .event _ => 1

def event? : Item → Option Event
  | .lagged _ => none
  | .event e => some e

end Item

def items (r : Receiver) : List Item :=
  (if 0 < r.missed then [.lagged r.missed] else []) ++ r.waiting.map .event

/-- A receiver that has been handed some events since it was empty. -/
def handed (events : List Event) : Receiver :=
  events.foldl push empty

private theorem handed_append (front back : List Event) :
    handed (front ++ back) = back.foldl push (handed front) :=
  List.foldl_append

/-- A receiver before and after it takes in an event, or none: the latest events of all wait, and
none goes uncounted. -/
structure Takes (r : Receiver) (emitted : Option Event) (r' : Receiver) : Prop where
  waiting : r'.waiting = (r.waiting ++ emitted.toList).drop
    (r.waiting.length + emitted.toList.length - capacity)
  counted : r'.missed + r'.waiting.length =
    r.missed + r.waiting.length + emitted.toList.length

theorem takes_push (r : Receiver) (emitted : Option Event) :
    r.Takes emitted (emitted.toList.foldl push r) := by
  cases emitted with
  | none =>
    have room : r.waiting.length - capacity = 0 := Nat.sub_eq_zero_of_le r.length_le
    exact ⟨by simp [room], rfl⟩
  | some e => exact ⟨r.waiting_push e, r.missed_add_length_push e⟩

private theorem missed_add_length_handed (events : List Event) :
    (handed events).missed + (handed events).waiting.length = events.length := by
  induction events using List.reverseRecOn with
  | nil => rfl
  | append_singleton events e ih =>
    rw [handed_append, List.foldl_cons, List.foldl_nil, missed_add_length_push, ih,
      List.length_append, List.length_singleton]

private theorem waiting_handed (events : List Event) :
    (handed events).waiting = events.drop (events.length - capacity) := by
  induction events using List.reverseRecOn with
  | nil => rfl
  | append_singleton events e ih =>
    have length : (handed events).waiting.length = min events.length capacity := by
      rw [ih, List.length_drop]
      omega
    have split : (events ++ [e]).length - capacity =
        (events.length - capacity) + (min events.length capacity + 1 - capacity) := by
      rw [List.length_append, List.length_singleton]
      omega
    have inside : events.length - capacity ≤ events.length := Nat.sub_le _ _
    rw [handed_append, List.foldl_cons, List.foldl_nil, waiting_push, length, ih, split,
      ← List.drop_drop, List.drop_append_of_le_length inside]

private theorem missed_handed (events : List Event) :
    (handed events).missed = events.length - capacity := by
  have all := missed_add_length_handed events
  rw [waiting_handed, List.length_drop] at all
  omega

theorem items_handed_of_le {events : List Event} (le : events.length ≤ capacity) :
    (handed events).items = events.map .event := by
  have none_missed : events.length - capacity = 0 := by omega
  simp [items, missed_handed, waiting_handed, none_missed]

theorem items_handed_of_lt {events : List Event} (lt : capacity < events.length) :
    (handed events).items =
      .lagged (events.length - capacity) ::
        (events.drop (events.length - capacity)).map .event := by
  have some_missed : 0 < events.length - capacity := by omega
  simp [items, missed_handed, waiting_handed, some_missed]

example :
    let e : Event := .staleDiscarded .refresh 1
    (handed (List.replicate 65 e)).items = .lagged 1 :: List.replicate 64 (.event e) := by
  decide +kernel

/-- Items that are the events of a log in order, where as many are left out as a lag says. -/
inductive Fills : List Item → List Event → Prop
  | nil : Fills [] []
  | event {items : List Item} {log : List Event} (e : Event) (fills : Fills items log) :
      Fills (.event e :: items) (e :: log)
  | lagged {items : List Item} {log : List Event} (missed : List Event)
      (fills : Fills items log) : Fills (.lagged missed.length :: items) (missed ++ log)

namespace Fills

variable {items items' : List Item} {log log' : List Event}

private theorem append (fills : Fills items log) (fills' : Fills items' log') :
    Fills (items ++ items') (log ++ log') := by
  induction fills with
  | nil => exact fills'
  | event e _ ih => exact .event e ih
  | lagged missed _ ih =>
    rw [List.append_assoc]
    exact .lagged missed ih

private theorem map_event (events : List Event) : Fills (events.map .event) events := by
  induction events with
  | nil => exact .nil
  | cons e events ih => exact .event e ih

theorem items_handed (events : List Event) : Fills (handed events).items events := by
  by_cases le : events.length ≤ capacity
  · rw [items_handed_of_le le]
    exact map_event events
  · have lt : capacity < events.length := by omega
    have missed : (events.take (events.length - capacity)).length = events.length - capacity := by
      rw [List.length_take]
      omega
    have fills := (map_event (events.drop (events.length - capacity))).lagged
      (events.take (events.length - capacity))
    rw [missed, List.take_append_drop] at fills
    rw [items_handed_of_lt lt]
    exact fills

private theorem sum_count (fills : Fills items log) : (items.map Item.count).sum = log.length := by
  induction fills with
  | nil => rfl
  | event e _ ih =>
    simp only [List.map_cons, List.sum_cons, List.length_cons, Item.count, ih]
    omega
  | lagged missed _ ih =>
    simp only [List.map_cons, List.sum_cons, List.length_append, Item.count, ih]

theorem events_eq (fills : Fills items log) (unlagged : ∀ missed, .lagged missed ∉ items) :
    items.filterMap Item.event? = log := by
  induction fills with
  | nil => rfl
  | event e _ ih =>
    have rest := ih fun missed mem => unlagged missed (List.mem_cons_of_mem _ mem)
    simp [Item.event?, rest]
  | lagged missed => exact (unlagged _ List.mem_cons_self).elim

end Fills
end Receiver

open Receiver (Fills Item)

namespace Step

def receivers (emitted : Option Event) (receivers : List Receiver) : Step → List Receiver
  | .subscribe => receivers ++ [.empty]
  | .drain k => receivers.set k .empty
  | .call _ | .answer .. | .clearError =>
    receivers.map fun r => emitted.toList.foldl Receiver.push r

def drained (receivers : List Receiver) : Step → Option Receiver
  | .drain k => receivers[k]?
  | .call _ | .answer .. | .subscribe | .clearError => none

def returned? (k : Nat) (report : Report) : Step → Option Receiver
  | .drain other => if other = k then report.drained else none
  | .call _ | .answer .. | .subscribe | .clearError => none

def renumber (number : Nat → Nat) : Step → Step
  | .drain k => .drain (number k)
  | .call c => .call c
  | .answer request reply => .answer request reply
  | .subscribe => .subscribe
  | .clearError => .clearError

private theorem renumber_id (s : Step) : s.renumber id = s := by
  cases s <;> rfl

end Step

namespace Desk

private theorem answer_receivers (d : Desk) (receivers : List Receiver) (request : Nat)
    (answer : Answer) :
    { d with receivers := receivers }.answer request answer =
      ({ (d.answer request answer).1 with
          receivers := receivers.map fun r =>
            (d.answer request answer).2.emitted.toList.foldl Receiver.push r },
        { (d.answer request answer).2 with drained := none }) := by
  simp only [Desk.answer]
  cases d.waiting.find? fun w => w.request = request with
  | none => simp [Report.nothing]
  | some w =>
    simp only [Desk.resume]
    cases w.purpose with
    | status | directory => rfl
    | command intent =>
      cases answer with
      | ok document => simp [confirm, sendRefresh, send, Report.nothing]
      | error fault => rfl

/-- What a step does but for its receivers does not depend on them, nor on how they are numbered. -/
private theorem step_receivers (d : Desk) (receivers : List Receiver) (number : Nat → Nat)
    (s : Step) :
    { d with receivers := receivers }.step (s.renumber number) =
      ({ (d.step s).1 with
          receivers := (s.renumber number).receivers (d.step s).2.emitted receivers },
        { (d.step s).2 with drained := (s.renumber number).drained receivers }) := by
  cases s with
  | call c =>
    cases c <;>
      simp [Step.renumber, Step.receivers, Step.drained, step, startCall, sendRefresh,
        sendDirectory, sendCommand, send, Report.nothing]
  | answer request answer =>
    exact d.answer_receivers receivers request answer
  | subscribe => rfl
  | drain k => rfl
  | clearError => simp [Step.renumber, Step.receivers, Step.drained, step, Report.nothing]

end Desk

namespace History

def drains (h : History) (k : Nat) (steps : List Step) : List Receiver :=
  (steps.zip (h.desk.run steps).2).filterMap fun seen => seen.1.returned? k seen.2

def taken (h : History) (k : Nat) (steps : List Step) : List Item :=
  (h.drains k steps).flatMap Receiver.items

def told (h : History) (k : Nat) (steps : List Step) : Nat :=
  ((h.taken k steps).map Item.count).sum

def unread (h : History) (k : Nat) (steps : List Step) : List Event :=
  (h.log steps).drop (h.told k steps)

variable {h : History} {k : Nat} {s : Step}

private theorem drains_append (h : History) (k : Nat) (front back : List Step) :
    h.drains k (front ++ back) = h.drains k front ++ (h.run front).drains k back := by
  rw [drains, Desk.run_append, List.zip_append (Desk.length_run _ _).symm, List.filterMap_append,
    ← desk_run, drains, drains]

private theorem drains_singleton (h : History) (k : Nat) (s : Step) :
    h.drains k [s] = (s.returned? k (h.desk.step s).2).toList := by
  cases hr : s.returned? k (h.desk.step s).2 <;> simp [drains, Desk.run, hr]

private theorem drains_drain (h : History) (k : Nat) :
    h.drains k [.drain k] = h.desk.receivers[k]?.toList := by
  rw [drains_singleton, Step.returned?, if_pos rfl]
  rfl

private theorem drains_of_ne (h : History) (ne : s ≠ .drain k) : h.drains k [s] = [] := by
  rw [drains_singleton]
  cases s with
  | drain other =>
    have other_ne : other ≠ k := fun same => ne (congrArg Step.drain same)
    rw [Step.returned?, if_neg other_ne, Option.toList_none]
  | call | answer | subscribe | clearError => rfl

private theorem taken_append (h : History) (k : Nat) (front back : List Step) :
    h.taken k (front ++ back) = h.taken k front ++ (h.run front).taken k back := by
  rw [taken, drains_append, List.flatMap_append, taken, taken]

private theorem taken_drain (h : History) (k : Nat) :
    h.taken k [.drain k] = h.desk.receivers[k]?.toList.flatMap Receiver.items := by
  rw [taken, drains_drain]

private theorem taken_of_ne (h : History) (ne : s ≠ .drain k) : h.taken k [s] = [] := by
  rw [taken, drains_of_ne h ne, List.flatMap_nil]

theorem receiver_step {r : Receiver} (held : h.desk.receivers[k]? = some r)
    (ne : s ≠ .drain k) :
    (h.step s).desk.receivers[k]? =
      some ((h.desk.step s).2.emitted.toList.foldl Receiver.push r) := by
  have step := h.desk.step_receivers h.desk.receivers id s
  rw [Step.renumber_id] at step
  have receivers : (h.step s).desk.receivers =
      s.receivers (h.desk.step s).2.emitted h.desk.receivers :=
    congrArg (fun after => after.1.receivers) step
  rw [receivers]
  cases s with
  | call | answer | clearError => simp [Step.receivers, held]
  | subscribe =>
    have inside := (List.getElem?_eq_some_iff.mp held).1
    rw [Step.receivers, List.getElem?_append_left inside, held]
    rfl
  | drain other =>
    have other_ne : other ≠ k := fun same => ne (congrArg Step.drain same)
    rw [Step.receivers, List.getElem?_set_ne other_ne, held]
    rfl

/-- The log, split by what a receiver has given or told of, and what it still holds. -/
structure Delivered (h : History) (k : Nat) (steps : List Step) (front back : List Event) :
    Prop where
  log : h.log steps = front ++ back
  fills : Fills (h.taken k steps) front
  held : (h.run steps).desk.receivers[k]? = some (.handed back)

theorem Delivered.told_eq {steps : List Step} {front back : List Event}
    (delivered : h.Delivered k steps front back) : h.told k steps = front.length :=
  delivered.fills.sum_count

private theorem Delivered.unread_eq {steps : List Step} {front back : List Event}
    (delivered : h.Delivered k steps front back) : h.unread k steps = back := by
  rw [unread, delivered.log, delivered.told_eq, List.drop_left]

theorem Delivered.drain {steps : List Step} {front back : List Event}
    (delivered : h.Delivered k steps front back) :
    h.Delivered k (steps ++ [.drain k]) (front ++ back) [] := by
  constructor
  case log =>
    rw [log_append, delivered.log, log_singleton]
    rfl
  case fills =>
    rw [taken_append, taken_drain, delivered.held]
    refine delivered.fills.append ?_
    simpa using Fills.items_handed back
  case held =>
    have inside := (List.getElem?_eq_some_iff.mp delivered.held).1
    rw [run_append]
    exact List.getElem?_set_self inside

private theorem Delivered.step {steps : List Step} {front back : List Event}
    (delivered : h.Delivered k steps front back) (ne : s ≠ .drain k) :
    ∃ emitted, h.Delivered k (steps ++ [s]) front (back ++ emitted) := by
  refine ⟨((h.run steps).desk.step s).2.emitted.toList, ?_, ?_, ?_⟩
  · rw [log_append, delivered.log, log_singleton, List.append_assoc]
  · rw [taken_append, taken_of_ne _ ne, List.append_nil]
    exact delivered.fills
  · rw [run_append, Receiver.handed_append]
    exact receiver_step delivered.held ne

/-- Whatever is drained and whenever, a receiver that starts empty has given or told of a first part
of the log since, and holds the rest. -/
theorem delivered_run (start : h.desk.receivers[k]? = some .empty) (steps : List Step) :
    ∃ front, h.Delivered k steps front (h.unread k steps) := by
  suffices ∃ front back, h.Delivered k steps front back by
    obtain ⟨front, back, delivered⟩ := this
    exact ⟨front, delivered.unread_eq ▸ delivered⟩
  induction steps using List.reverseRecOn with
  | nil => exact ⟨[], [], rfl, .nil, start⟩
  | append_singleton steps s ih =>
    obtain ⟨front, back, delivered⟩ := ih
    -- Only a drain of this receiver moves the split of the log; any other step adds to the end.
    by_cases drained : s = .drain k
    · subst drained
      exact ⟨_, _, delivered.drain⟩
    · obtain ⟨emitted, delivered⟩ := delivered.step drained
      exact ⟨front, _, delivered⟩

end History

/-- Some receivers of one session are, under another number, those of another, and so are all that
are still to come. -/
structure Receiver.Mirrors (number : Nat → Nat) (seen : Nat → Prop)
    (receivers receivers' : List Receiver) : Prop where
  held : ∀ k, seen k → receivers'[number k]? = receivers[k]?
  next : ∀ i, number (receivers.length + i) = receivers'.length + i

namespace Receiver.Mirrors

variable {number : Nat → Nat} {seen : Nat → Prop} {receivers receivers' : List Receiver}

private theorem step (mirrors : Mirrors number seen receivers receivers')
    (injective : Function.Injective number) (emitted : Option Event) (s : Step) :
    Mirrors number seen (s.receivers emitted receivers)
      ((s.renumber number).receivers emitted receivers') := by
  obtain ⟨held, next⟩ := mirrors
  cases s with
  | call | answer | clearError =>
    refine ⟨fun k known => ?_, ?_⟩
    · simp [Step.renumber, Step.receivers, held k known]
    · simpa [Step.renumber, Step.receivers] using next
  | subscribe =>
    refine ⟨fun k known => ?_, fun i => ?_⟩
    · simp only [Step.renumber, Step.receivers]
      rcases Nat.lt_or_ge k receivers.length with old | new
      · have some_old := (held k known).trans (List.getElem?_eq_getElem old)
        have old' := (List.getElem?_eq_some_iff.mp some_old).1
        rw [List.getElem?_append_left old, List.getElem?_append_left old', held k known]
      · -- From here on both lists are numbered alike, counted from where they end.
        obtain ⟨i, rfl⟩ := Nat.exists_eq_add_of_le new
        rw [next, List.getElem?_append_right (Nat.le_add_right _ _),
          List.getElem?_append_right (Nat.le_add_right _ _), Nat.add_sub_cancel_left,
          Nat.add_sub_cancel_left]
    · simp only [Step.renumber, Step.receivers, List.length_append, List.length_singleton]
      rw [Nat.add_assoc, next, Nat.add_assoc]
  | drain other =>
    refine ⟨fun k known => ?_, ?_⟩
    · simp only [Step.renumber, Step.receivers]
      by_cases same : k = other
      · rw [same] at known ⊢
        rw [List.getElem?_set_self', List.getElem?_set_self', held other known]
      · have same' : number other ≠ number k := fun h => same (injective h).symm
        rw [List.getElem?_set_ne (Ne.symm same), List.getElem?_set_ne same', held k known]
    · simpa [Step.renumber, Step.receivers] using next

private theorem returned? (mirrors : Mirrors number seen receivers receivers')
    (injective : Function.Injective number) {k : Nat} (known : seen k) (s : Step)
    (report : Report) :
    (s.renumber number).returned? (number k)
        { report with drained := (s.renumber number).drained receivers' } =
      s.returned? k { report with drained := s.drained receivers } := by
  cases s with
  | drain other =>
    by_cases same : other = k
    · rw [same]
      simp [Step.renumber, Step.returned?, Step.drained, mirrors.held k known]
    · have same' : number other ≠ number k := fun h => same (injective h)
      simp [Step.renumber, Step.returned?, same, same']
  | call | answer | subscribe | clearError => rfl

end Receiver.Mirrors

namespace Desk

/-- Two desks that differ in their receivers alone do the same, and what those receivers return that
they share is the same. -/
theorem run_mirrors {number : Nat → Nat} {seen : Nat → Prop}
    (injective : Function.Injective number) (d : Desk) {receivers : List Receiver}
    (mirrors : Receiver.Mirrors number seen d.receivers receivers) (steps : List Step) :
    let run := d.run steps
    let steps' := steps.map (Step.renumber number)
    let run' := { d with receivers := receivers }.run steps'
    run'.1.session = run.1.session ∧
      run'.2.filterMap Report.emitted = run.2.filterMap Report.emitted ∧
      ∀ k, seen k →
        (steps'.zip run'.2).filterMap (fun at_ => at_.1.returned? (number k) at_.2) =
          (steps.zip run.2).filterMap (fun at_ => at_.1.returned? k at_.2) := by
  induction steps generalizing d receivers with
  | nil => exact ⟨rfl, rfl, fun _ _ => rfl⟩
  | cons s steps ih =>
    have own := d.step_receivers d.receivers id s
    rw [Step.renumber_id] at own
    have other := d.step_receivers receivers number s
    have after := mirrors.step injective (d.step s).2.emitted s
    have held : (d.step s).1.receivers = s.receivers (d.step s).2.emitted d.receivers :=
      congrArg (fun after => after.1.receivers) own
    rw [← held] at after
    obtain ⟨session, emitted, returned⟩ := ih (d.step s).1 after
    simp only [List.map_cons, run, other]
    refine ⟨session, by simp only [List.filterMap_cons, emitted], fun k known => ?_⟩
    have same := mirrors.returned? injective known s (d.step s).2
    have report : { (d.step s).2 with drained := s.drained d.receivers } = (d.step s).2 :=
      (congrArg Prod.snd own).symm
    rw [report] at same
    simp only [List.zip_cons_cons, List.filterMap_cons, same, returned k known]

end Desk

/-- The number of a receiver where another has been subscribed, as number `n`, before it. -/
def Receiver.shift (n k : Nat) : Nat :=
  if k < n then k else k + 1

private theorem Receiver.shift_injective (n : Nat) : Function.Injective (shift n) := by
  intro k other same
  unfold shift at same
  split at same <;> split at same <;> omega

namespace History

theorem drain_apart (h : History) (k : Nat) (more : List Step) :
    ((h.step (.drain k)).run more).session = (h.run more).session ∧
      (h.step (.drain k)).log more = h.log more ∧
      ∀ other, other ≠ k → (h.step (.drain k)).drains other more = h.drains other more := by
  have mirrors : Receiver.Mirrors id (· ≠ k) h.desk.receivers (h.desk.receivers.set k .empty) := by
    refine ⟨fun other ne => ?_, fun i => ?_⟩
    · exact List.getElem?_set_ne (Ne.symm ne)
    · rw [List.length_set]
      rfl
  obtain ⟨session, log, drains⟩ := h.desk.run_mirrors Function.injective_id mirrors more
  have same : more.map (Step.renumber id) = more := by
    rw [funext Step.renumber_id, List.map_id']
  rw [same] at session log drains
  refine ⟨?_, log, drains⟩
  rw [History.session, History.session, desk_run, desk_run]
  exact session

theorem subscribe_apart (h : History) (more : List Step) :
    let shift := Receiver.shift h.desk.receivers.length
    let more' := more.map (Step.renumber shift)
    ((h.step .subscribe).run more').session = (h.run more).session ∧
      (h.step .subscribe).log more' = h.log more ∧
      ∀ k, (h.step .subscribe).drains (shift k) more' = h.drains k more := by
  have mirrors : Receiver.Mirrors (Receiver.shift h.desk.receivers.length) (fun _ => True)
      h.desk.receivers (h.desk.receivers ++ [.empty]) := by
    refine ⟨fun k _ => ?_, fun i => ?_⟩
    · unfold Receiver.shift
      split
      · next old => exact List.getElem?_append_left old
      · next new =>
        have beyond : (h.desk.receivers ++ [Receiver.empty]).length ≤ k + 1 := by
          rw [List.length_append, List.length_singleton]
          omega
        rw [List.getElem?_eq_none beyond, List.getElem?_eq_none (Nat.le_of_not_lt new)]
    · unfold Receiver.shift
      rw [if_neg (by omega), List.length_append, List.length_singleton]
      omega
  obtain ⟨session, log, drains⟩ :=
    h.desk.run_mirrors (Receiver.shift_injective _) mirrors more
  refine ⟨?_, log, fun k => drains k trivial⟩
  rw [History.session, History.session, desk_run, desk_run]
  exact session

end History
end ShowRemote
