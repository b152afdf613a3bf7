import ShowRemote.Show.Directory
import ShowRemote.Show.Status
import ShowRemote.Show.Wire

/-!
The payloads of a player, taken from a document that has been read, and what is decoded from them. A
payload can also be a list of its fields in order, so a document is decoded only if it is an object.
-/

set_option autoImplicit false

namespace ShowRemote

namespace Json

/-- The named fields that a document has for a record: the members of an object that have these
names, unless one comes twice, or the items of a list that is not too long. -/
def fields? (names : List String) : Json → Option (List (String × Json))
  | .object members =>
    let known := members.filter fun member => member.1 ∈ names
    if (known.map Prod.fst).Nodup then some known else none
  | .array items => if items.length ≤ names.length then some (names.zip items) else none
  | _ => none

def isObject : Json → Bool
  | .object _ => true
  | _ => false

def given? (name : String) (fields : List (String × Json)) : Option Json :=
  (fields.lookup name).filter fun value => !value.isNull

end Json

namespace Show

namespace StatusPayload

def absent : StatusPayload := ⟨none, none, none⟩

def ofJson? (document : Json) : Option StatusPayload :=
  (document.fields? ["show", "status", "loop"]).map fun fields =>
    ⟨Json.given? "show" fields, Json.given? "status" fields, Json.given? "loop" fields⟩

end StatusPayload

namespace Status

def ofPayload (payload : StatusPayload) : Status :=
  { current := payload.current.bind ShowId.ofJson?
    text := payload.text.bind statusText?
    looping := (payload.loopFlag.map isLooping).getD false }

/-- The status of the payload of a document, if that is an object and has one. -/
def decode (document : Json) : Status :=
  ofPayload <|
    if document.isObject then (StatusPayload.ofJson? document).getD .absent else .absent

end Status

def DirectoryPayload.ofJson? (document : Json) : Option DirectoryPayload :=
  (document.fields? ["shows"]).bind fun fields =>
    match Json.given? "shows" fields with
    | none => some ⟨none⟩
    | some (.object shows) => some ⟨some shows⟩
    | some _ => none

namespace Directory

/-- The directory of the payload of a document, if that is an object and has one. -/
def decode (document : Json) : Except ListingFault Directory :=
  if document.isObject then
    match (DirectoryPayload.ofJson? document).bind DirectoryPayload.shows with
    | some shows => .ok ⟨shows.filterMap entry?⟩
    | none => .error .missingShows
  else .error .notAnObject

end Directory
end Show
end ShowRemote
