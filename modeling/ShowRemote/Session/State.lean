import ShowRemote.Session.Event

/-!
The state of a session with a player. Nothing is shown that the player has not confirmed: a command
changes nothing by itself, and every status and directory comes from an answer. Requests of each
kind are numbered as they are issued, and an answer is adopted unless a request of its kind with the
same or a later number has been.
-/

set_option autoImplicit false

namespace ShowRemote

open Show (Directory Failure LoopFlag PlayerState ShowOption Status StatusView TransportFault)

structure Session where
  status : Option Status
  view : StatusView
  /-- The flag that the next toggle sends. -/
  loopNext : LoopFlag
  refreshIssued : Nat
  refreshApplied : Nat
  directory : Directory
  directoryIssued : Nat
  directoryApplied : Nat
  lastError : Option ErrorRecord
  deriving DecidableEq, Repr

/-- A session after an answer, with the outcome of the operation and the event that tells it. -/
structure Settled where
  session : Session
  outcome : Outcome
  event : Event
  deriving DecidableEq, Repr

namespace Session

def fresh : Session :=
  { status := none
    view := .unrendered
    loopNext := .on
    refreshIssued := 0
    refreshApplied := 0
    directory := .empty
    directoryIssued := 0
    directoryApplied := 0
    lastError := none }

def player (s : Session) : PlayerState :=
  match s.status with
  | some status => .ofStatus status
  | none => .unknown

def options (s : Session) : List ShowOption :=
  s.directory.options

/-- Whether the player has answered anything that was adopted. -/
def heard (s : Session) : Bool :=
  0 < s.refreshApplied || 0 < s.directoryApplied

def clearError (s : Session) : Session :=
  { s with lastError := none }

def fail (s : Session) (record : ErrorRecord) : Session :=
  { s with lastError := some record }

/-- Number a request for the status. Its number is the new count of such requests. -/
def issueRefresh (s : Session) : Session :=
  { s with refreshIssued := s.refreshIssued + 1 }

def issueDirectory (s : Session) : Session :=
  { s with directoryIssued := s.directoryIssued + 1 }

/-- Show a status, and let the next toggle reverse what it says. -/
def adoptStatus (s : Session) (sequence : Nat) (status : Status) : Session :=
  { s with
    status := some status
    view := .ofStatus status
    loopNext := (LoopFlag.ofBool status.looping).toggled
    refreshApplied := sequence }

def adoptDirectory (s : Session) (sequence : Nat) (directory : Directory) : Session :=
  { s with
    directory := directory
    directoryApplied := sequence }

/-- Keep a failure and tell it. -/
def settleFailure (s : Session) (operation : Operation) (failure : Failure) : Settled :=
  let record : ErrorRecord := ⟨operation, failure⟩
  ⟨s.fail record, .failed, .failed record⟩

def settleRefresh (s : Session) (sequence : Nat) : Except TransportFault Json → Settled
  | .error fault => s.settleFailure .refresh fault.failure
  | .ok document =>
    if sequence ≤ s.refreshApplied then
      ⟨s, .stale, .staleDiscarded .refresh sequence⟩
    else
      let status := Status.ofJson document
      ⟨s.adoptStatus sequence status, .applied, .statusUpdated (.ofStatus status)⟩

/-- The answer to a request for the directory. A document that is no listing is a failure. -/
def settleDirectory (s : Session) (sequence : Nat) : Except TransportFault Json → Settled
  | .error fault => s.settleFailure .loadDirectory fault.failure
  | .ok document =>
    match Directory.ofJson document with
    | .error fault => s.settleFailure .loadDirectory fault.failure
    | .ok directory =>
      if sequence ≤ s.directoryApplied then
        ⟨s, .stale, .staleDiscarded .loadDirectory sequence⟩
      else ⟨s.adoptDirectory sequence directory, .applied, .directoryUpdated directory.options⟩

end Session
end ShowRemote
