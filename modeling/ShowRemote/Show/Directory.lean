import ShowRemote.Json.Printer
import ShowRemote.Show.Failure
import ShowRemote.Show.Number

/-!
The directory of shows, decoded from a listing. Entries stay in the order of the listing, and those
that name no show are left out.
-/

set_option autoImplicit false

namespace ShowRemote.Show

structure DirectoryEntry where
  key : String
  id : ShowId
  deriving DecidableEq, Repr

structure Directory where
  entries : List DirectoryEntry
  deriving DecidableEq, Repr

inductive ListingFault where
  | notAnObject
  | missingShows
  deriving DecidableEq, Repr

namespace ListingFault

def message : ListingFault → String
  | .notAnObject => "directory payload is not a json object"
  | .missingShows => "directory payload has no 'shows' mapping"

def failure (fault : ListingFault) : Failure :=
  ⟨.malformedBody, fault.message⟩

end ListingFault

namespace Directory

def empty : Directory := ⟨[]⟩

/-- An identifier is a string verbatim or the text of a number; no number is out of range here. -/
def listedId? : Json → Option ShowId
  | .string text => some ⟨text⟩
  | .number n => some ⟨n.text⟩
  | _ => none

def entry? (member : String × Json) : Option DirectoryEntry :=
  (listedId? member.2).map fun id => ⟨member.1, id⟩

def ofJson (document : Json) : Except ListingFault Directory :=
  match document with
  | .object members =>
    match members.lookup "shows" with
    | some (.object shows) => .ok ⟨shows.filterMap entry?⟩
    | _ => .error .missingShows
  | _ => .error .notAnObject

/-- Decode a listing, and take the empty directory for anything else. -/
def ofJsonOrEmpty (document : Json) : Directory :=
  match ofJson document with
  | .ok directory => directory
  | .error _ => empty

def ids (d : Directory) : List ShowId :=
  d.entries.map DirectoryEntry.id

end Directory
end ShowRemote.Show
