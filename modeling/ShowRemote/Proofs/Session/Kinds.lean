import ShowRemote.Session.Desk

/-!
The two things that a session gets from its player, the status and the directory. Requests for them
are numbered, settled and adopted by one rule, which is stated here once: `settleRefresh_eq` and
`settleDirectory_eq` say that the two operations of a session are instances of it.
-/

set_option autoImplicit false

namespace ShowRemote

open Show (Directory Failure LoopFlag Status StatusView TransportFault)

/-- What a session gets from its player. -/
inductive Kind where
  | status
  | directory
  deriving DecidableEq, Repr

abbrev Answer := Except TransportFault Json

namespace Kind

def operation : Kind → Operation
  | .status => .refresh
  | .directory => .loadDirectory

def call : Kind → Call
  | .status => .refresh
  | .directory => .loadDirectory

/-- The document that an answer is good for, or the failure that it is. A status is read from any
document, a directory only from a listing. -/
def verdict : Kind → Answer → Except Failure Json
  | _, .error fault => .error fault.failure
  | .status, .ok document => .ok document
  | .directory, .ok document =>
    match Directory.ofJson document with
    | .error fault => .error fault.failure
    | .ok _ => .ok document

theorem verdict_status_eq_ok {reply : Answer} {document : Json} :
    status.verdict reply = .ok document ↔ reply = .ok document := by
  cases reply <;> simp [verdict]

theorem verdict_directory_eq_ok {reply : Answer} {document : Json} :
    directory.verdict reply = .ok document ↔
      reply = .ok document ∧ ∃ listing, Directory.ofJson document = .ok listing := by
  cases reply with
  | error fault => simp [verdict]
  | ok other =>
    cases hd : Directory.ofJson other with
    | error fault =>
      simp only [verdict, hd, Except.ok.injEq, reduceCtorEq, false_iff, not_and, not_exists]
      rintro rfl listing hl
      rw [hd] at hl
      cases hl
    | ok listing =>
      simp only [verdict, hd, Except.ok.injEq]
      constructor
      · rintro rfl
        exact ⟨rfl, listing, hd⟩
      · exact And.left

end Kind

def Endpoints.path (endpoints : Endpoints) : Kind → String
  | .status => endpoints.status
  | .directory => endpoints.directory

namespace Session

def issued (x : Session) : Kind → Nat
  | .status => x.refreshIssued
  | .directory => x.directoryIssued

def applied (x : Session) : Kind → Nat
  | .status => x.refreshApplied
  | .directory => x.directoryApplied

def issue (x : Session) : Kind → Session
  | .status => x.issueRefresh
  | .directory => x.issueDirectory

def adopt (x : Session) (rank : Nat) (document : Json) : Kind → Session
  | .status => x.adoptStatus rank (Status.ofJson document)
  | .directory => x.adoptDirectory rank (Directory.ofJsonOrEmpty document)

/-- The event of showing what a document says. -/
def news (document : Json) : Kind → Event
  | .status => .statusUpdated (.ofStatus (Status.ofJson document))
  | .directory => .directoryUpdated (Directory.ofJsonOrEmpty document).options

/-- The answer to a get of a kind. -/
def settle (x : Session) (kind : Kind) (rank : Nat) (reply : Answer) : Settled :=
  match kind.verdict reply with
  | .error failure => x.settleFailure kind.operation failure
  | .ok document =>
    if rank ≤ x.applied kind then ⟨x, .stale, .staleDiscarded kind.operation rank⟩
    else ⟨x.adopt rank document kind, .applied, news document kind⟩

theorem settleRefresh_eq (x : Session) (rank : Nat) (reply : Answer) :
    x.settleRefresh rank reply = x.settle .status rank reply := by
  cases reply <;> rfl

theorem settleDirectory_eq (x : Session) (rank : Nat) (reply : Answer) :
    x.settleDirectory rank reply = x.settle .directory rank reply := by
  cases reply with
  | error fault => rfl
  | ok document =>
    cases hd : Directory.ofJson document with
    | error fault => simp [settleDirectory, settle, Kind.verdict, Kind.operation, hd]
    | ok listing =>
      simp [settleDirectory, settle, Kind.verdict, Kind.operation, hd, applied, adopt, news,
        Directory.ofJsonOrEmpty]

/-- What an answer comes to: a failure that is only noted, a document that comes too late and
changes nothing, or a document that is shown. -/
theorem settle_cases (x : Session) (kind : Kind) (rank : Nat) (reply : Answer) :
    (∃ failure, kind.verdict reply = .error failure ∧
      x.settle kind rank reply = x.settleFailure kind.operation failure) ∨
    (∃ document, kind.verdict reply = .ok document ∧ rank ≤ x.applied kind ∧
      x.settle kind rank reply = ⟨x, .stale, .staleDiscarded kind.operation rank⟩) ∨
    (∃ document, kind.verdict reply = .ok document ∧ x.applied kind < rank ∧
      x.settle kind rank reply = ⟨x.adopt rank document kind, .applied, news document kind⟩) := by
  unfold settle
  cases hv : kind.verdict reply with
  | error failure => exact .inl ⟨failure, rfl, rfl⟩
  | ok document =>
    by_cases hr : rank ≤ x.applied kind
    · exact .inr (.inl ⟨document, rfl, hr, by simp [hr]⟩)
    · exact .inr (.inr ⟨document, rfl, by omega, by simp [hr]⟩)

/-- What is shown of a kind, as the document of the newest answer tells it; nothing is known
without one. -/
def Shows (x : Session) : Kind → Option Json → Prop
  | .status, document =>
    x.status = document.map Status.ofJson ∧
    x.view = ((document.map Status.ofJson).map StatusView.ofStatus).getD .unrendered ∧
    x.loopNext =
      ((document.map Status.ofJson).map fun s => (LoopFlag.ofBool s.looping).toggled).getD .on
  | .directory, document => x.directory = (document.map Directory.ofJsonOrEmpty).getD .empty

/-- A session after the answer to a post. Only a failure leaves a trace. -/
def posted (x : Session) (intent : String) : Answer → Session
  | .ok _ => x
  | .error fault => x.fail ⟨.command intent, fault.failure⟩

section Frame

variable (x : Session) (kind other : Kind)

@[simp] theorem issued_issue :
    (x.issue kind).issued other = x.issued other + if other = kind then 1 else 0 := by
  cases kind <;> cases other <;> rfl

@[simp] theorem applied_issue : (x.issue kind).applied other = x.applied other := by
  cases kind <;> cases other <;> rfl

@[simp] theorem issued_fail (record : ErrorRecord) :
    (x.fail record).issued other = x.issued other := by
  cases other <;> rfl

@[simp] theorem applied_fail (record : ErrorRecord) :
    (x.fail record).applied other = x.applied other := by
  cases other <;> rfl

@[simp] theorem issued_adopt (rank : Nat) (document : Json) :
    (x.adopt rank document kind).issued other = x.issued other := by
  cases kind <;> cases other <;> rfl

@[simp] theorem applied_adopt (rank : Nat) (document : Json) :
    (x.adopt rank document kind).applied other =
      if other = kind then rank else x.applied other := by
  cases kind <;> cases other <;> rfl

@[simp] theorem issued_posted (intent : String) (answer : Answer) :
    (x.posted intent answer).issued other = x.issued other := by
  cases answer with
  | ok document => rfl
  | error fault => exact x.issued_fail other _

@[simp] theorem applied_posted (intent : String) (answer : Answer) :
    (x.posted intent answer).applied other = x.applied other := by
  cases answer with
  | ok document => rfl
  | error fault => exact x.applied_fail other _

@[simp] theorem issued_settle (rank : Nat) (answer : Answer) :
    (x.settle kind rank answer).session.issued other = x.issued other := by
  rcases x.settle_cases kind rank answer with
    ⟨failure, -, h⟩ | ⟨document, -, -, h⟩ | ⟨document, -, -, h⟩
  · rw [h]
    exact x.issued_fail other _
  · rw [h]
  · rw [h]
    exact x.issued_adopt kind other rank document

theorem shows_issue (last : Option Json) :
    (x.issue kind).Shows other last ↔ x.Shows other last := by
  cases kind <;> cases other <;> rfl

theorem shows_fail (record : ErrorRecord) (last : Option Json) :
    (x.fail record).Shows other last ↔ x.Shows other last := by
  cases other <;> rfl

theorem shows_clearError (last : Option Json) :
    x.clearError.Shows other last ↔ x.Shows other last := by
  cases other <;> rfl

theorem shows_posted (intent : String) (answer : Answer) (last : Option Json) :
    (x.posted intent answer).Shows other last ↔ x.Shows other last := by
  cases answer with
  | ok document => rfl
  | error fault => exact x.shows_fail other _ last

theorem shows_adopt (rank : Nat) (document : Json) :
    (x.adopt rank document kind).Shows kind (some document) := by
  cases kind with
  | status => exact ⟨rfl, rfl, rfl⟩
  | directory => rfl

theorem shows_adopt_of_ne {kind other : Kind} (ne : other ≠ kind) (rank : Nat) (document : Json)
    (last : Option Json) :
    (x.adopt rank document kind).Shows other last ↔ x.Shows other last := by
  cases kind <;> cases other <;> first | rfl | exact (ne rfl).elim

end Frame

end Session
end ShowRemote
