import ShowRemote.Json.Record
import ShowRemote.Show.Command
import ShowRemote.Show.Failure

/-!
Values read straight from JSON text: identifiers, flags, actions, commands, failures, and the two
payloads of a player in the form in which it sends them.
-/

set_option autoImplicit false

namespace ShowRemote.Show

open Json (Reader)
open Json.Read (RecordField Form Missing)

def fieldDepth : Nat := Json.greatestDepth - 1

def mapDepth : Nat := Json.greatestDepth - 2

def ShowId.read : Reader ShowId :=
  fun s => do
    let (text, rest) ← Json.Read.text s
    .ok (⟨text⟩, rest)

def ShowId.toJson (id : ShowId) : Json :=
  .string id.text

def LoopFlag.read : Reader LoopFlag :=
  Json.Read.variant LoopFlag.names

def LoopFlag.toJson (flag : LoopFlag) : Json :=
  .string flag.text

def PlaybackAction.read : Reader PlaybackAction :=
  Json.Read.variant PlaybackAction.names

def PlaybackAction.toJson (action : PlaybackAction) : Json :=
  .string action.text

def FailureCode.read : Reader FailureCode :=
  Json.Read.variant FailureCode.names

def FailureCode.toJson (code : FailureCode) : Json :=
  .string code.text

def field {σ τ : Type} (name : String) (get : σ → Option τ) (set : τ → σ → σ) (reader : Reader τ) :
    RecordField σ :=
  { name := name
    isSet := fun held => (get held).isSome
    read := fun held s => do
      let (x, rest) ← reader s
      .ok (set x held, rest) }

structure CommandFields where
  selection : Option String
  action : Option (Option PlaybackAction)
  loopFlag : Option (Option LoopFlag)

/-- The selection must be there; the other fields may be absent or null. -/
def Command.form : Form CommandFields Command :=
  { name := "ShowCommand"
    start := ⟨none, none, none⟩
    fields :=
      [field "show" CommandFields.selection (fun x held => { held with selection := some x })
          Json.Read.text,
        field "status" CommandFields.action (fun x held => { held with action := some x })
          (Json.Read.optional PlaybackAction.read),
        field "loop" CommandFields.loopFlag (fun x held => { held with loopFlag := some x })
          (Json.Read.optional LoopFlag.read)]
    finish := fun held =>
      match held.selection with
      | none => .error ⟨0, "show"⟩
      | some selection => .ok ⟨selection, held.action.join, held.loopFlag.join⟩ }

def Command.read : Reader Command :=
  Command.form.read

structure FailureFields where
  code : Option FailureCode
  message : Option String

def Failure.form : Form FailureFields Failure :=
  { name := "ApiError"
    start := ⟨none, none⟩
    fields :=
      [field "code" FailureFields.code (fun x held => { held with code := some x })
          FailureCode.read,
        field "message" FailureFields.message (fun x held => { held with message := some x })
          Json.Read.text]
    finish := fun held =>
      match held.code, held.message with
      | none, _ => .error ⟨0, "code"⟩
      | some _, none => .error ⟨1, "message"⟩
      | some code, some message => .ok ⟨code, message⟩ }

def Failure.read : Reader Failure :=
  Failure.form.read

def Failure.toJson (f : Failure) : Json :=
  .object [("code", f.code.toJson), ("message", .string f.message)]

/-- A status as it is sent: any values, or none. -/
structure StatusPayload where
  current : Option Json
  text : Option Json
  loopFlag : Option Json

structure StatusFields where
  current : Option (Option Json)
  text : Option (Option Json)
  loopFlag : Option (Option Json)

/-- A value inside a record, or nothing for null. -/
def anyValue : Reader (Option Json) :=
  Json.Read.optional fun s => do
    let (x, rest) ← Json.Read.value fieldDepth s
    .ok (x.settle, rest)

def StatusPayload.form : Form StatusFields StatusPayload :=
  { name := "StatusPayload"
    start := ⟨none, none, none⟩
    fields :=
      [field "show" StatusFields.current (fun x held => { held with current := some x }) anyValue,
        field "status" StatusFields.text (fun x held => { held with text := some x }) anyValue,
        field "loop" StatusFields.loopFlag (fun x held => { held with loopFlag := some x })
          anyValue]
    finish := fun held => .ok ⟨held.current.join, held.text.join, held.loopFlag.join⟩ }

def StatusPayload.read : Reader StatusPayload :=
  StatusPayload.form.read

/-- A listing as it is sent: the mapping of shows, if there is one. -/
structure DirectoryPayload where
  shows : Option (List (String × Json))

structure DirectoryFields where
  shows : Option (Option (List (String × Json)))

/-- A mapping inside a record, with one value a key. -/
def mapping : Reader (List (String × Json)) :=
  fun s => do
    let (members, rest) ← Json.Read.map mapDepth s
    .ok (Json.settleMembers (Json.settleValues members), rest)

def DirectoryPayload.form : Form DirectoryFields DirectoryPayload :=
  { name := "DirectoryPayload"
    start := ⟨none⟩
    fields :=
      [field "shows" DirectoryFields.shows (fun x _ => ⟨some x⟩) (Json.Read.optional mapping)]
    finish := fun held => .ok ⟨held.shows.join⟩ }

def DirectoryPayload.read : Reader DirectoryPayload :=
  DirectoryPayload.form.read

end ShowRemote.Show
