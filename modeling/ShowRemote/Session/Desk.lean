import ShowRemote.Session.Receiver
import ShowRemote.Session.State

/-!
A session with calls that overlap. A call runs until it waits for the answer to a request; the
answer lets it go on, and it ends or waits again. A command call posts its command and, whatever
becomes of that, asks for the status afterwards.
-/

set_option autoImplicit false

namespace ShowRemote

open Show (Intent TransportFault)

structure Endpoints where
  status : String
  directory : String
  command : String
  deriving DecidableEq, Repr

def Endpoints.standard : Endpoints :=
  ⟨"showfile/status", "showfile/directory", "showfile"⟩

inductive Message where
  | get (path : String)
  | post (path : String) (body : Json)
  deriving Repr

structure Request where
  number : Nat
  message : Message
  deriving Repr

/-- An operation of a session. A toggle reverses the last confirmed status. -/
inductive Call where
  | refresh
  | loadDirectory
  | command (intent : Intent)
  | toggleLoop
  deriving DecidableEq, Repr

/-- What the answer to a request is for. -/
inductive Purpose where
  | status (sequence : Nat)
  | directory (sequence : Nat)
  | command (intent : Intent)
  deriving DecidableEq, Repr

/-- A call that waits for the answer to a request. -/
structure Waiting where
  request : Nat
  call : Nat
  purpose : Purpose
  deriving DecidableEq, Repr

structure Desk where
  endpoints : Endpoints
  session : Session
  /-- Calls made so far. -/
  calls : Nat
  /-- Requests sent so far. -/
  requests : Nat
  waiting : List Waiting
  receivers : List Receiver
  deriving DecidableEq, Repr

/-- What happens to a session. Of the answer to a post only its success counts. -/
inductive Step where
  | call (call : Call)
  | answer (request : Nat) (reply : Except TransportFault Json)
  | subscribe
  | drain (receiver : Nat)
  | clearError

/-- What a step shows: the request it sends, the call it ends, the event it emits, and what it takes
from a receiver. -/
structure Report where
  sent : Option Request
  ended : Option (Nat × Outcome)
  emitted : Option Event
  drained : Option Receiver
  deriving Repr

namespace Report

def nothing : Report := ⟨none, none, none, none⟩

end Report

namespace Desk

def opened (endpoints : Endpoints) : Desk :=
  ⟨endpoints, .fresh, 0, 0, [], []⟩

def send (d : Desk) (call : Nat) (purpose : Purpose) (message : Message) : Desk × Request :=
  let number := d.requests + 1
  ({ d with requests := number, waiting := d.waiting ++ [⟨number, call, purpose⟩] },
    ⟨number, message⟩)

def sendRefresh (d : Desk) (call : Nat) : Desk × Request :=
  let d := { d with session := d.session.issueRefresh }
  d.send call (.status d.session.refreshIssued) (.get d.endpoints.status)

def sendDirectory (d : Desk) (call : Nat) : Desk × Request :=
  let d := { d with session := d.session.issueDirectory }
  d.send call (.directory d.session.directoryIssued) (.get d.endpoints.directory)

def sendCommand (d : Desk) (call : Nat) (intent : Intent) : Desk × Request :=
  d.send call (.command intent) (.post d.endpoints.command intent.command.toJson)

def startCall (d : Desk) (number : Nat) : Call → Desk × Request
  | .refresh => d.sendRefresh number
  | .loadDirectory => d.sendDirectory number
  | .command intent => d.sendCommand number intent
  | .toggleLoop => d.sendCommand number (.toggleLoop d.session.loopNext)

def emit (d : Desk) (e : Event) : Desk :=
  { d with receivers := d.receivers.map fun r => r.push e }

def finish (d : Desk) (call : Nat) (settled : Settled) : Desk × Report :=
  ({ d with session := settled.session }.emit settled.event,
    { Report.nothing with
      ended := some (call, settled.outcome)
      emitted := some settled.event })

/-- Go on with a call after the answer to its command. -/
def confirm (d : Desk) (call : Nat) (intent : Intent) : Except TransportFault Json →
    Desk × Report
  | .ok _ =>
    let (d, request) := d.sendRefresh call
    (d, { Report.nothing with sent := some request })
  | .error fault =>
    let settled := d.session.settleFailure (.command intent.name) fault.failure
    let (d, request) := ({ d with session := settled.session }.emit settled.event).sendRefresh call
    (d, { Report.nothing with sent := some request, emitted := some settled.event })

def resume (d : Desk) (w : Waiting) (reply : Except TransportFault Json) : Desk × Report :=
  match w.purpose with
  | .status sequence => d.finish w.call (d.session.settleRefresh sequence reply)
  | .directory sequence => d.finish w.call (d.session.settleDirectory sequence reply)
  | .command intent => d.confirm w.call intent reply

def answer (d : Desk) (request : Nat) (reply : Except TransportFault Json) : Desk × Report :=
  match d.waiting.find? fun w => w.request = request with
  | none => (d, .nothing)
  | some w =>
    { d with waiting := d.waiting.filter fun w => w.request ≠ request }.resume w reply

def step (d : Desk) : Step → Desk × Report
  | .call c =>
    let number := d.calls + 1
    let (d, request) := { d with calls := number }.startCall number c
    (d, { Report.nothing with sent := some request })
  | .answer request reply => d.answer request reply
  | .subscribe => ({ d with receivers := d.receivers ++ [.empty] }, .nothing)
  | .drain k =>
    ({ d with receivers := d.receivers.set k .empty },
      { Report.nothing with drained := d.receivers[k]? })
  | .clearError => ({ d with session := d.session.clearError }, .nothing)

def run (d : Desk) : List Step → Desk × List Report
  | [] => (d, [])
  | s :: steps =>
    let (next, report) := d.step s
    let (last, reports) := next.run steps
    (last, report :: reports)

theorem run_append (d : Desk) (front back : List Step) :
    d.run (front ++ back) =
      (((d.run front).1.run back).1, (d.run front).2 ++ ((d.run front).1.run back).2) := by
  induction front generalizing d with
  | nil => rfl
  | cons s front ih => simp [run, ih]

theorem length_run (d : Desk) (steps : List Step) : (d.run steps).2.length = steps.length := by
  induction steps generalizing d with
  | nil => rfl
  | cons s steps ih => simp [run, ih]

end Desk
end ShowRemote
