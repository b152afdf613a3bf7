import Mathlib
import ShowRemote.Proofs.Session.Kinds

/-!
A journal of a session, kept from outside: the calls that were made, the requests that were sent and
what answered them, and how calls ended. It is written from steps and their reports alone
(`Journal.note`), so it can say what the answers of a whole run are without looking at the session.
-/

set_option autoImplicit false

namespace ShowRemote

/-- What a request was sent for. Gets are ranked by kind, from 1, in the order they go out; a post
is known by the name of its intent. -/
inductive Errand where
  | get (kind : Kind) (rank : Nat)
  | post (intent : String)
  deriving DecidableEq, Repr

def Errand.rank? (kind : Kind) : Errand → Option Nat
  | .get k rank => if k = kind then some rank else none
  | .post _ => none

theorem Errand.length_rank?_get (kind other : Kind) (rank : Nat) :
    ((Errand.get kind rank).rank? other).toList.length = if other = kind then 1 else 0 := by
  cases kind <;> cases other <;> rfl

/-- A request by its number, the call that waits for it and its errand. -/
structure Slip where
  number : Nat
  call : Nat
  errand : Errand
  deriving DecidableEq, Repr

namespace Journal

/-- A request that was sent, with its answer once there is one. -/
structure Entry where
  slip : Slip
  message : Message
  answer : Option Answer

namespace Entry

def isOpen (e : Entry) : Bool :=
  e.answer.isNone

/-- Note the answer to a request. Only the first one counts. -/
def hear (number : Nat) (answer : Answer) (e : Entry) : Entry :=
  if e.slip.number = number ∧ e.isOpen then { e with answer := some answer } else e

@[simp] theorem slip_hear (number : Nat) (answer : Answer) (e : Entry) :
    (e.hear number answer).slip = e.slip := by
  unfold hear
  split <;> rfl

theorem hear_of_closed {e : Entry} (closed : ¬ e.isOpen) (number : Nat) (answer : Answer) :
    e.hear number answer = e := by
  simp [hear, closed]

theorem hear_of_ne {e : Entry} {number : Nat} (ne : e.slip.number ≠ number) (answer : Answer) :
    e.hear number answer = e := by
  simp [hear, ne]

theorem hear_of_open {e : Entry} (isOpen : e.isOpen) (answer : Answer) :
    e.hear e.slip.number answer = { e with answer := some answer } := by
  simp [hear, isOpen]

theorem isOpen_hear (number : Nat) (answer : Answer) (e : Entry) :
    (e.hear number answer).isOpen = (decide (e.slip.number ≠ number) && e.isOpen) := by
  by_cases ho : e.isOpen
  · by_cases hn : e.slip.number = number
    · subst hn
      simp [hear_of_open ho, isOpen]
    · simp [hear_of_ne hn, hn]
  · simp [hear_of_closed ho, ho]

end Entry
end Journal

open Journal (Entry)

/-- What was seen of a session from outside. -/
structure Journal where
  calls : List Call
  entries : List Entry
  ended : List (Nat × Outcome)

def Call.isCommand : Call → Bool
  | .refresh | .loadDirectory => false
  | .command _ | .toggleLoop => true

def Call.intentName : Call → String
  | .command intent => intent.name
  | .toggleLoop => "toggle_loop"
  | _ => ""

namespace Journal

def blank : Journal := ⟨[], [], []⟩

def slips (j : Journal) : List Slip :=
  j.entries.map Entry.slip

def ranks (j : Journal) (kind : Kind) : List Nat :=
  j.entries.filterMap fun e => e.slip.errand.rank? kind

def count (j : Journal) (kind : Kind) : Nat :=
  (j.ranks kind).length

def pending (j : Journal) : List Entry :=
  j.entries.filter Entry.isOpen

/-- The errand of a message. A post comes of the call of a command, and a get is for the directory
when a call to load it is made. -/
def errand (j : Journal) : Step → Message → Errand
  | .call c, .post .. => .post c.intentName
  | _, .post .. => .post ""
  | .call .loadDirectory, .get _ => .get .directory (j.count .directory + 1)
  | _, .get _ => .get .status (j.count .status + 1)

/-- The call that a step is about: the one it makes, or the one whose request it answers. -/
def subject (j : Journal) : Step → Nat
  | .call _ => j.calls.length + 1
  | .answer number _ =>
    ((j.pending.find? fun e => e.slip.number = number).map fun e => e.slip.call).getD 0
  | _ => 0

def callsAfter (j : Journal) : Step → List Call
  | .call c => j.calls ++ [c]
  | _ => j.calls

def heardAfter (j : Journal) : Step → List Entry
  | .answer number answer => j.entries.map (Entry.hear number answer)
  | _ => j.entries

def sent (j : Journal) (s : Step) (request : Request) : Entry :=
  ⟨⟨request.number, j.subject s, j.errand s request.message⟩, request.message, none⟩

def note (j : Journal) (s : Step) (report : Report) : Journal :=
  { calls := j.callsAfter s
    entries := j.heardAfter s ++ (report.sent.map (j.sent s)).toList
    ended := j.ended ++ report.ended.toList }

def Answered (j : Journal) (kind : Kind) (rank : Nat) (document : Json) : Prop :=
  ∃ e ∈ j.entries, e.slip.errand = .get kind rank ∧ e.answer = some (.ok document)

def unfinished (j : Journal) : List Nat :=
  (List.range' 1 j.calls.length).filter fun call => call ∉ j.ended.map Prod.fst

def entriesOf (j : Journal) (call : Nat) : List Entry :=
  j.entries.filter fun e => e.slip.call = call

def outcomesOf (j : Journal) (call : Nat) : List Outcome :=
  (j.ended.filter fun end_ => end_.1 = call).map Prod.snd

end Journal

/-- A desk and the journal that is kept beside it. -/
structure History where
  desk : Desk
  journal : Journal

namespace History

def opened (endpoints : Endpoints) : History :=
  ⟨.opened endpoints, .blank⟩

def session (h : History) : Session :=
  h.desk.session

def step (h : History) (s : Step) : History :=
  ⟨(h.desk.step s).1, h.journal.note s (h.desk.step s).2⟩

def run (h : History) (steps : List Step) : History :=
  steps.foldl step h

theorem run_append (h : History) (front back : List Step) :
    h.run (front ++ back) = (h.run front).run back :=
  List.foldl_append

theorem desk_run (h : History) (steps : List Step) : (h.run steps).desk = (h.desk.run steps).1 := by
  induction steps generalizing h with
  | nil => rfl
  | cons s steps ih => exact ih (h.step s)

end History
end ShowRemote
