import Mathlib
import ShowRemote.Json.Document
import ShowRemote.Proofs.Show.Payload
import ShowRemote.Show.View

/-!
What a listing comes to, from its text to the options on offer. The text is read with every member
in its place (`Json.Read.value`), and the entries are told by that reading: the names of the mapping
as they came first, with the values that came last, less the names whose value is neither a string
nor a number (`Lists`).

Main statement: `listing_keeps_its_shows`.
-/

set_option autoImplicit false

namespace ShowRemote

namespace Json

theorem parse_eq_ok {s : List Text.Symbol} {document : Json} (parsed : parse s = .ok document) :
    ∃ raw, readWhole (Read.value greatestDepth) s = .ok raw ∧ document = raw.settle := by
  rw [parse] at parsed
  cases read : readWhole (Read.value greatestDepth) s with
  | error fault =>
    rw [read] at parsed
    cases parsed
  | ok raw =>
    rw [read] at parsed
    cases parsed
    exact ⟨raw, rfl, rfl⟩

end Json

namespace Show.Directory

open Json (last? names)

def namesShow : Json → Bool
  | .string _ | .number _ => true
  | _ => false

private theorem isSome_listedId? (value : Json) : (listedId? value).isSome = namesShow value := by
  cases value <;> rfl

private theorem listedId?_settle (value : Json) : listedId? value.settle = listedId? value := by
  cases value <;> rfl

private theorem listedId?_eq_some {value : Json} {id : ShowId}
    (listed : listedId? value = some id) :
    value = .string id.text ∨
      ∃ n : Json.Number, value = .number n ∧ id.text = (Json.number n).text := by
  cases value with
  | string text =>
    cases listed
    exact .inl rfl
  | number n =>
    cases listed
    exact .inr ⟨n, rfl, rfl⟩
  | null | bool | array | object => cases listed

def lastListed? (shows : List (String × Json)) (name : String) : Option DirectoryEntry :=
  (last? name shows).bind fun value => (listedId? value).map (DirectoryEntry.mk name)

private theorem filterMap_settle (shows : List (String × Json)) :
    (Json.settleMembers (Json.settleValues shows)).filterMap entry? =
      (names shows).eraseDups.filterMap (lastListed? shows) := by
  rw [Json.settleMembers_settleValues, List.filterMap_filterMap]
  apply List.filterMap_congr
  intro name _
  rw [lastListed?]
  cases last? name shows with
  | none => rfl
  | some value =>
    have listed := listedId?_settle value
    show (listedId? value.settle).map _ = _
    rw [listed]
    rfl

/-- Entries that a mapping lists, where a name may come more than once. -/
structure Lists (shows : List (String × Json)) (entries : List DirectoryEntry) : Prop where
  keys : entries.map DirectoryEntry.key =
    (names shows).eraseDups.filter fun name => (last? name shows).any namesShow
  distinct : (entries.map DirectoryEntry.key).Nodup
  ids : ∀ entry ∈ entries, last? entry.key shows = some (.string entry.id.text) ∨
    ∃ n : Json.Number, last? entry.key shows = some (.number n) ∧
      entry.id.text = (Json.number n).text

private theorem map_key_lastListed? (shows : List (String × Json)) (keys : List String) :
    (keys.filterMap (lastListed? shows)).map DirectoryEntry.key =
      keys.filter fun name => (last? name shows).any namesShow := by
  induction keys with
  | nil => rfl
  | cons name rest ih =>
    have named : ((last? name shows).any namesShow) = (lastListed? shows name).isSome := by
      rw [lastListed?]
      cases last? name shows with
      | none => rfl
      | some value =>
        rw [Option.any_some, Option.bind_some, Option.isSome_map, isSome_listedId?]
    cases found : lastListed? shows name with
    | none =>
      rw [found] at named
      rw [List.filterMap_cons_none found, List.filter_cons_of_neg (by simp [named]), ih]
    | some entry =>
      have key : entry.key = name := by
        obtain ⟨value, -, listed⟩ := Option.bind_eq_some_iff.mp found
        obtain ⟨id, -, rfl⟩ := Option.map_eq_some_iff.mp listed
        rfl
      rw [found] at named
      rw [List.filterMap_cons_some found, List.filter_cons_of_pos (by simp [named]), List.map_cons,
        key, ih]

private theorem lists_settled (shows : List (String × Json)) :
    Lists shows ((names shows).eraseDups.filterMap (lastListed? shows)) := by
  have keys := map_key_lastListed? shows (names shows).eraseDups
  refine ⟨keys, ?_, ?_⟩
  · rw [keys]
    exact (Json.nodup_eraseDups (names shows)).sublist List.filter_sublist
  · intro entry mem
    obtain ⟨name, -, found⟩ := List.mem_filterMap.mp mem
    obtain ⟨value, last, listed⟩ := Option.bind_eq_some_iff.mp found
    obtain ⟨id, named, rfl⟩ := Option.map_eq_some_iff.mp listed
    rw [last]
    rcases listedId?_eq_some named with rfl | ⟨n, rfl, text⟩
    · exact .inl rfl
    · exact .inr ⟨n, rfl, text⟩

section Decode

variable {raw : Json}

def mapping? : Option Json → Option (List (String × Json))
  | some (.object shows) => some shows
  | _ => none

private theorem mapping?_eq_some_iff {value : Option Json} {shows : List (String × Json)} :
    mapping? value = some shows ↔ value = some (.object shows) := by
  cases value with
  | none => exact iff_of_false nofun nofun
  | some value =>
    cases value with
    | object members => simp [mapping?]
    | null | bool | number | string | array => exact iff_of_false nofun nofun

private theorem mapping?_settle (value : Option Json) :
    mapping? (value.map Json.settle) =
      (mapping? value).map fun shows => Json.settleMembers (Json.settleValues shows) := by
  cases value with
  | none => rfl
  | some value => cases value <;> rfl

def ofMapping : Option (List (String × Json)) → Except ListingFault Directory
  | some shows => .ok ⟨shows.filterMap entry?⟩
  | none => .error .missingShows

private theorem ofJson_of_isObject {document : Json} (isObject : document.isObject) :
    ofJson document = ofMapping (mapping? (document.member? "shows")) := by
  cases document with
  | object members =>
    rw [ofJson, Json.member?]
    cases members.lookup "shows" with
    | none => rfl
    | some value => cases value <;> rfl
  | null | bool | number | string | array => cases isObject

theorem ofJson_of_not_isObject {document : Json} (other : ¬ document.isObject) :
    ofJson document = .error .notAnObject := by
  cases document with
  | object members => exact (other rfl).elim
  | null | bool | number | string | array => rfl

theorem ofJson_settle (isObject : raw.isObject) :
    ofJson raw.settle = ofMapping ((mapping? (raw.lastMember? "shows")).map fun shows =>
      Json.settleMembers (Json.settleValues shows)) := by
  rw [← Json.isObject_settle] at isObject
  rw [ofJson_of_isObject isObject, Json.member?_settle, mapping?_settle]

theorem ofJson_listed {shows : List (String × Json)}
    (last : raw.lastMember? "shows" = some (.object shows)) :
    ofJson raw.settle = .ok ⟨(names shows).eraseDups.filterMap (lastListed? shows)⟩ := by
  have isObject := Json.isObject_of_lastMember? last
  rw [ofJson_settle isObject, mapping?_eq_some_iff.mpr last, ← filterMap_settle]
  rfl

theorem ofJson_unlisted (isObject : raw.isObject)
    (missing : ∀ shows, raw.lastMember? "shows" ≠ some (.object shows)) :
    ofJson raw.settle = .error .missingShows := by
  have unmapped : mapping? (raw.lastMember? "shows") = none := by
    rw [Option.eq_none_iff_forall_ne_some]
    intro shows mapped
    exact missing shows (mapping?_eq_some_iff.mp mapped)
  rw [ofJson_settle isObject, unmapped]
  rfl

private theorem decode_of_isObject {document : Json} (isObject : document.isObject) :
    decode document =
      ofMapping ((DirectoryPayload.ofJson? document).bind DirectoryPayload.shows) := by
  rw [decode, if_pos isObject]
  cases (DirectoryPayload.ofJson? document).bind DirectoryPayload.shows <;> rfl

private theorem shows_payload_settle (isObject : raw.isObject) :
    (DirectoryPayload.ofJson? raw.settle).bind DirectoryPayload.shows =
      mapping? (raw.told? "shows") := by
  obtain ⟨fields, taken, given⟩ := Json.fields?_settle ["shows"] isObject
  rw [DirectoryPayload.ofJson?, taken, Option.bind_some, given "shows" (by simp)]
  cases raw.told? "shows" with
  | none => rfl
  | some value => cases value <;> rfl

private theorem mapping?_told? (name : String) (raw : Json) :
    mapping? (raw.told? name) = mapping? ((raw.lastMember? name).map Json.settle) := by
  rw [Json.told?]
  cases raw.lastMember? name with
  | none => rfl
  | some value => cases value <;> rfl

theorem decode_settle (raw : Json) : decode raw.settle = ofJson raw.settle := by
  by_cases isObject : raw.isObject
  · rw [decode_of_isObject (by rwa [Json.isObject_settle]), shows_payload_settle isObject,
      mapping?_told?, mapping?_settle, ofJson_settle isObject]
  · have other : ¬ raw.settle.isObject := by rwa [Json.isObject_settle]
    rw [decode, if_neg other, ofJson_of_not_isObject other]

end Decode

/-- How a document is decoded as a listing, where `raw` is the document as it stands in its text. -/
structure DecodesListing (raw document : Json) : Prop where
  notAnObject : ofJson document = .error .notAnObject ↔ ¬ raw.isObject
  missingShows : ofJson document = .error .missingShows ↔
    raw.isObject ∧ ∀ shows, raw.lastMember? "shows" ≠ some (.object shows)
  lists : ∀ shows, raw.lastMember? "shows" = some (.object shows) →
    ∃ directory, ofJson document = .ok directory ∧ Lists shows directory.entries
  orEmpty : ∀ directory, ofJsonOrEmpty document = directory ↔
    ofJson document = .ok directory ∨ directory = .empty ∧ ∃ fault, ofJson document = .error fault
  options : (ofJsonOrEmpty document).options =
    (ofJsonOrEmpty document).entries.map fun entry => ⟨entry.id.text, entry.id.text⟩
  payload : decode document = ofJson document

private theorem ofJson_cases (raw : Json) :
    (¬ raw.isObject ∧ ofJson raw.settle = .error .notAnObject) ∨
    (raw.isObject ∧ (∀ shows, raw.lastMember? "shows" ≠ some (.object shows)) ∧
      ofJson raw.settle = .error .missingShows) ∨
    ∃ shows, raw.isObject ∧ raw.lastMember? "shows" = some (.object shows) ∧
      ofJson raw.settle = .ok ⟨(names shows).eraseDups.filterMap (lastListed? shows)⟩ := by
  by_cases isObject : raw.isObject
  · right
    by_cases listed : ∃ shows, raw.lastMember? "shows" = some (.object shows)
    · obtain ⟨shows, last⟩ := listed
      exact .inr ⟨shows, isObject, last, ofJson_listed last⟩
    · have missing : ∀ shows, raw.lastMember? "shows" ≠ some (.object shows) :=
        fun shows last => listed ⟨shows, last⟩
      exact .inl ⟨isObject, missing, ofJson_unlisted isObject missing⟩
  · left
    refine ⟨isObject, ofJson_of_not_isObject ?_⟩
    rwa [Json.isObject_settle]

private theorem decodesListing_settle (raw : Json) : DecodesListing raw raw.settle := by
  constructor
  case notAnObject =>
    rcases ofJson_cases raw with
      ⟨other, failed⟩ | ⟨isObject, -, failed⟩ | ⟨shows, isObject, -, done⟩
    · exact iff_of_true failed other
    · rw [failed]
      exact iff_of_false nofun (not_not.mpr isObject)
    · rw [done]
      exact iff_of_false nofun (not_not.mpr isObject)
  case missingShows =>
    rcases ofJson_cases raw with
      ⟨other, failed⟩ | ⟨isObject, missing, failed⟩ | ⟨shows, -, last, done⟩
    · rw [failed]
      exact iff_of_false nofun fun missing => other missing.1
    · exact iff_of_true failed ⟨isObject, missing⟩
    · rw [done]
      exact iff_of_false nofun fun missing => missing.2 shows last
  case lists =>
    intro shows last
    exact ⟨_, ofJson_listed last, lists_settled shows⟩
  case orEmpty =>
    intro directory
    rw [ofJsonOrEmpty]
    cases ofJson raw.settle with
    | ok decoded => simp
    | error fault => simp [eq_comm]
  case options =>
    rw [options, ids, List.map_map]
    rfl
  case payload => exact decode_settle raw

/-- A text that parses is decoded by how it stands. -/
theorem listing_keeps_its_shows {s : List Text.Symbol} {document : Json}
    (parsed : Json.parse s = .ok document) :
    ∃ raw, Json.readWhole (Json.Read.value Json.greatestDepth) s = .ok raw ∧
      DecodesListing raw document := by
  obtain ⟨raw, read, rfl⟩ := Json.parse_eq_ok parsed
  exact ⟨raw, read, decodesListing_settle raw⟩

/-- The last mapping counts. A name in it that comes twice has the first place and the last value,
and a null between does not disturb the order. -/
theorem repeated_name_keeps_its_place :
    let text :=
      "\x7b\"shows\":null,\"shows\":\x7b\"b\":\"1\",\"a\":null,\"b\":7,\"c\":\" 700\"\x7d\x7d"
    let document : Json := .object
      [("shows", .object [("b", .number (.integer 7)), ("a", .null), ("c", .string " 700")])]
    Json.parse (Text.symbolsOf text) = .ok document ∧
      (∃ raw, Json.readWhole (Json.Read.value Json.greatestDepth) (Text.symbolsOf text) = .ok raw ∧
        DecodesListing raw document) ∧
      (ofJsonOrEmpty document).options = [⟨"7", "7"⟩, ⟨" 700", " 700"⟩] := by
  intro text document
  have parsed : Json.parse (Text.symbolsOf text) = .ok document := by cbv
  exact ⟨parsed, listing_keeps_its_shows parsed, by decide +kernel⟩

end Show.Directory
end ShowRemote
