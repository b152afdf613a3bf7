import ShowRemote.Proofs.Json.Depth
import ShowRemote.Proofs.Show.Listing
import ShowRemote.Proofs.Show.Wire

/-!
The payloads of a player, read straight from a text and read through the document that the text
spells. Straight from the text a field counts if its name comes once, and a list gives the fields in
order (`StatusPayload.Told`, `DirectoryPayload.Told`); through the document the last of several
members counts, and a list gives nothing. On an object with each name once the two are the same.

Main statement: `payloads_read_alike`.
-/

set_option autoImplicit false

namespace ShowRemote

namespace Json

def Repeats (name : String) : Json → Prop
  | .object members => 1 < (valuesOf name members).length
  | _ => False

private theorem last?_eq_getLast? (name : String) (members : List (String × Json)) :
    last? name members = (valuesOf name members).getLast? := by
  rw [last?, valuesOf, List.getLast?_map]

/-- What a value tells: itself, unless it is null. -/
def telling? (value : Option Json) : Option Json :=
  (value.filter fun value => !value.isNull).map settle

private theorem told?_eq_telling? (name : String) (members : List (String × Json)) :
    (Json.object members).told? name = telling? (valuesOf name members).getLast? := by
  rw [← last?_eq_getLast?]
  rfl

private theorem within_of_mem_valuesOf {depth : Nat} {name : String}
    {members : List (String × Json)} (parts : ∀ member ∈ members, Within depth member.2) :
    ∀ v ∈ valuesOf name members,
      Within depth v := by
  intro v mem
  obtain ⟨member, among, rfl⟩ := List.mem_map.mp mem
  exact parts member (List.mem_filter.mp among).1

end Json

namespace Show

open Json (Repeats telling? valuesOf Within readWhole greatestDepth)
open Json.Read (Follows Nullable Slot Slots Form)
open Text (Symbol)

private theorem given_valuesOf_iff {α : Type} {tells : Json → α → Prop}
    (meant : Option Json → Option α → Prop) (absent : ∀ x, meant none x ↔ x = none) {name : String}
    {members : List (String × Json)}
    (nullable : ∀ v ∈ valuesOf name members, ∀ x, Nullable tells v x ↔ meant (some v) x)
    {x : Option α} : Given tells (valuesOf name members) x ↔
      ¬ (Json.object members).Repeats name ∧ meant (valuesOf name members).getLast? x := by
  rw [Json.Repeats]
  generalize valuesOf name members = values at nullable ⊢
  cases values with
  | nil =>
    constructor
    · rintro ⟨⟩
      exact ⟨Nat.not_lt_zero 1, (absent none).mpr rfl⟩
    · rintro ⟨-, nothing⟩
      obtain rfl := (absent x).mp nothing
      exact .absent
  | cons v rest =>
    cases rest with
    | nil =>
      have alone := nullable v List.mem_cons_self x
      constructor
      · rintro (_ | given)
        exact ⟨Nat.lt_irrefl 1, alone.mp given⟩
      · rintro ⟨-, means⟩
        exact .told (alone.mpr means)
    | cons w rest =>
      constructor
      · rintro ⟨⟩
      · rintro ⟨once, -⟩
        exact (once (Nat.succ_lt_succ (Nat.succ_pos _))).elim

def Settles (v x : Json) : Prop :=
  Within fieldDepth v ∧ x = v.settle

private theorem follows_anyValue : Follows anyValue (Nullable Settles) := by
  have follows := (Json.Read.follows_value fieldDepth).map Json.settle
  simp only [and_assoc, exists_and_left, exists_eq_left] at follows
  exact follows.optional

private theorem nullable_settles_iff {v : Json} (within : Within fieldDepth v) {x : Option Json} :
    Nullable Settles v x ↔ x = telling? (some v) := by
  constructor
  · rintro (_ | ⟨other, -, rfl⟩)
    · rfl
    · cases v with
      | null => exact (other rfl).elim
      | bool | number | string | array | object => rfl
  · rintro rfl
    cases v with
    | null => exact .null
    | bool | number | string | array | object => exact .told nofun ⟨within, rfl⟩

private theorem given_settles_iff {name : String} {members : List (String × Json)}
    (parts : ∀ member ∈ members, Within fieldDepth member.2) {x : Option Json} :
    Given Settles (valuesOf name members) x ↔
      ¬ (Json.object members).Repeats name ∧ x = (Json.object members).told? name := by
  rw [Json.told?_eq_telling?]
  exact given_valuesOf_iff (fun value x => x = telling? value) (fun _ => Iff.rfl)
    fun v mem x => nullable_settles_iff (Json.within_of_mem_valuesOf parts v mem)

namespace StatusPayload

def fieldNames : List String := ["show", "status", "loop"]

def told (document : Json) : StatusPayload :=
  ⟨document.told? "show", document.told? "status", document.told? "loop"⟩

def toldInOrder (items : List Json) : StatusPayload :=
  ⟨telling? items[0]?, telling? items[1]?, telling? items[2]?⟩

/-- The documents whose text tells a status. -/
inductive Told : Json → StatusPayload → Prop
  | object {members : List (String × Json)}
      (once : ∀ name ∈ fieldNames, ¬ (Json.object members).Repeats name) :
      Told (.object members) (told (.object members))
  | array {items : List Json} (few : items.length ≤ fieldNames.length) :
      Told (.array items) (toldInOrder items)

def slots : List (Slot StatusFields) :=
  [⟨"show", StatusFields.current, fun x held => { held with current := some x }, anyValue, _,
      fun _ _ => rfl, follows_anyValue⟩,
    ⟨"status", StatusFields.text, fun x held => { held with text := some x }, anyValue, _,
      fun _ _ => rfl, follows_anyValue⟩,
    ⟨"loop", StatusFields.loopFlag, fun x held => { held with loopFlag := some x }, anyValue, _,
      fun _ _ => rfl, follows_anyValue⟩]

private theorem fields_form : form.fields = slots.map Slot.field := rfl

private theorem isSlots : Slots slots := by
  constructor
  case distinct => decide
  case get_set_other =>
    intro slot mem other mem' ne x held
    simp only [slots, List.mem_cons, List.not_mem_nil, or_false] at mem mem'
    rcases mem with rfl | rfl | rfl <;> rcases mem' with rfl | rfl | rfl <;>
      first | rfl | exact (ne rfl).elim
  case ext =>
    intro held held' same
    obtain ⟨current, same⟩ := List.forall_mem_cons.mp same
    obtain ⟨text, same⟩ := List.forall_mem_cons.mp same
    obtain ⟨loopFlag, -⟩ := List.forall_mem_cons.mp same
    cases held
    cases held'
    cases current
    cases text
    cases loopFlag
    rfl

private theorem told_form_object_iff {members : List (String × Json)}
    (parts : ∀ member ∈ members, Within fieldDepth member.2) {payload : StatusPayload} :
    form.Told slots (.object members) payload ↔
      (∀ name ∈ fieldNames, ¬ (Json.object members).Repeats name) ∧
        payload = told (.object members) := by
  constructor
  · rintro (@⟨_, held, _, fills, whole⟩)
    obtain ⟨shown, fills⟩ := List.forall_mem_cons.mp fills
    obtain ⟨texted, fills⟩ := List.forall_mem_cons.mp fills
    obtain ⟨looped, -⟩ := List.forall_mem_cons.mp fills
    obtain ⟨current, text, loopFlag⟩ := held
    cases whole
    obtain ⟨oneShow, current⟩ := (given_settles_iff parts).mp (given_iff.mpr ⟨current, rfl, shown⟩)
    obtain ⟨oneStatus, text⟩ := (given_settles_iff parts).mp (given_iff.mpr ⟨text, rfl, texted⟩)
    obtain ⟨oneLoop, loopFlag⟩ :=
      (given_settles_iff parts).mp (given_iff.mpr ⟨loopFlag, rfl, looped⟩)
    refine ⟨?_, by rw [told, current, text, loopFlag]⟩
    exact List.forall_mem_cons.mpr ⟨oneShow, List.forall_mem_cons.mpr ⟨oneStatus,
      List.forall_mem_cons.mpr ⟨oneLoop, nofun⟩⟩⟩
  · rintro ⟨once, rfl⟩
    obtain ⟨oneShow, once⟩ := List.forall_mem_cons.mp once
    obtain ⟨oneStatus, once⟩ := List.forall_mem_cons.mp once
    obtain ⟨oneLoop, -⟩ := List.forall_mem_cons.mp once
    obtain ⟨current, heldShow, shown⟩ := given_iff.mp ((given_settles_iff parts).mpr ⟨oneShow, rfl⟩)
    obtain ⟨text, heldStatus, texted⟩ :=
      given_iff.mp ((given_settles_iff parts).mpr ⟨oneStatus, rfl⟩)
    obtain ⟨loopFlag, heldLoop, looped⟩ :=
      given_iff.mp ((given_settles_iff parts).mpr ⟨oneLoop, rfl⟩)
    refine @Form.Told.object _ _ _ _ _ ⟨current, text, loopFlag⟩ _ ?_ ?_
    · exact List.forall_mem_cons.mpr ⟨shown, List.forall_mem_cons.mpr ⟨texted,
        List.forall_mem_cons.mpr ⟨looped, nofun⟩⟩⟩
    · rw [told, ← heldShow, ← heldStatus, ← heldLoop]
      rfl

private theorem told_form_array_iff {items : List Json} (parts : ∀ v ∈ items, Within fieldDepth v)
    {payload : StatusPayload} :
    form.Told slots (.array items) payload ↔
      items.length ≤ fieldNames.length ∧ payload = toldInOrder items := by
  constructor
  · rintro (_ | @⟨_, held, _, collects, whole⟩)
    unfold slots at collects
    cases collects with
    | done =>
      cases whole
      exact ⟨Nat.zero_le _, rfl⟩
    | item told others =>
      obtain ⟨within, parts⟩ := List.forall_mem_cons.mp parts
      cases (nullable_settles_iff within).mp told
      cases others with
      | done =>
        cases whole
        exact ⟨by simp [fieldNames], rfl⟩
      | item told others =>
        obtain ⟨within, parts⟩ := List.forall_mem_cons.mp parts
        cases (nullable_settles_iff within).mp told
        cases others with
        | done =>
          cases whole
          exact ⟨by simp [fieldNames], rfl⟩
        | item told others =>
          obtain ⟨within, parts⟩ := List.forall_mem_cons.mp parts
          cases (nullable_settles_iff within).mp told
          cases others
          cases whole
          exact ⟨by simp [fieldNames], rfl⟩
  · rintro ⟨few, rfl⟩
    have tells : ∀ v ∈ items, Nullable Settles v (telling? (some v)) := fun v mem =>
      (nullable_settles_iff (parts v mem)).mpr rfl
    match items with
    | [] => exact .array .done rfl
    | [u] => exact .array (.item (tells u (by simp)) .done) rfl
    | [u, v] => exact .array (.item (tells u (by simp)) (.item (tells v (by simp)) .done)) rfl
    | [u, v, w] =>
      exact .array (.item (tells u (by simp)) (.item (tells v (by simp))
        (.item (tells w (by simp)) .done))) rfl
    | _ :: _ :: _ :: _ :: _ => exact absurd few (by simp [fieldNames])

private theorem readWhole_iff {s : List Symbol} {raw : Json}
    (whole : readWhole (Json.Read.value greatestDepth) s = .ok raw) (payload : StatusPayload) :
    readWhole StatusPayload.read s = .ok payload ↔ Told raw payload := by
  obtain ⟨rest, read, -⟩ := Json.Read.readWhole_eq_ok_iff.mp whole
  refine ((isSlots.follows fields_form).readWhole_iff whole payload).trans ?_
  cases Json.Read.within_of_value read with
  | object parts =>
    refine (told_form_object_iff parts).trans ⟨?_, ?_⟩
    · rintro ⟨once, rfl⟩
      exact .object once
    · rintro ⟨once⟩
      exact ⟨once, rfl⟩
  | array parts =>
    refine (told_form_array_iff parts).trans ⟨?_, ?_⟩
    · rintro ⟨few, rfl⟩
      exact .array few
    · rintro (_ | few)
      exact ⟨few, rfl⟩
  | null | bool | number | string => exact iff_of_false nofun nofun

end StatusPayload

def Maps (v : Json) (shows : List (String × Json)) : Prop :=
  ∃ members, (Within fieldDepth v ∧ v = .object members) ∧
    shows = Json.settleMembers (Json.settleValues members)

private theorem follows_mapping : Follows mapping Maps :=
  (Json.Read.follows_map mapDepth).map fun members =>
    Json.settleMembers (Json.settleValues members)

namespace DirectoryPayload

/-- The payload of a listing by the value of its one field: a mapping, or nothing when the value is
null or left out. -/
def ofField? : Option Json → Option DirectoryPayload
  | none | some .null => some ⟨none⟩
  | some (.object shows) => some ⟨some shows⟩
  | some _ => none

private theorem nullable_maps_iff {v : Json} (within : Within fieldDepth v)
    {shows : Option (List (String × Json))} :
    Nullable Maps v shows ↔ ofField? (some v.settle) = some ⟨shows⟩ := by
  constructor
  · rintro (_ | ⟨-, members, ⟨-, rfl⟩, rfl⟩)
    · rfl
    · rfl
  · intro field
    cases v with
    | null =>
      cases field
      exact .null
    | object members =>
      cases field
      exact .told nofun ⟨members, ⟨within, rfl⟩, rfl⟩
    | bool | number | string | array => cases field

private theorem given_maps_iff {name : String} {members : List (String × Json)}
    (parts : ∀ member ∈ members, Within fieldDepth member.2)
    {shows : Option (List (String × Json))} :
    Given Maps (valuesOf name members) shows ↔
      ¬ (Json.object members).Repeats name ∧
        ofField? (((Json.object members).lastMember? name).map Json.settle) = some ⟨shows⟩ := by
  rw [Json.lastMember?, Json.last?_eq_getLast?]
  refine given_valuesOf_iff
    (fun value shows => ofField? (value.map Json.settle) = some ⟨shows⟩) (fun shows => ?_)
    fun v mem shows => nullable_maps_iff (Json.within_of_mem_valuesOf parts v mem)
  constructor
  · rintro ⟨⟩
    rfl
  · rintro rfl
    rfl

/-- The documents whose text tells a listing. -/
inductive Told : Json → DirectoryPayload → Prop
  | object {members : List (String × Json)} {payload : DirectoryPayload}
      (once : ¬ (Json.object members).Repeats "shows")
      (field : ofField? (((Json.object members).lastMember? "shows").map Json.settle) =
        some payload) : Told (.object members) payload
  | array {items : List Json} {payload : DirectoryPayload} (few : items.length ≤ 1)
      (field : ofField? (items[0]?.map Json.settle) = some payload) : Told (.array items) payload

def slots : List (Slot DirectoryFields) :=
  [⟨"shows", DirectoryFields.shows, fun x _ => ⟨some x⟩, Json.Read.optional mapping, _,
      fun _ _ => rfl, follows_mapping.optional⟩]

private theorem fields_form : form.fields = slots.map Slot.field := rfl

private theorem isSlots : Slots slots := by
  constructor
  case distinct => decide
  case get_set_other =>
    intro slot mem other mem' ne x held
    simp only [slots, List.mem_cons, List.not_mem_nil, or_false] at mem mem'
    subst mem mem'
    exact (ne rfl).elim
  case ext =>
    intro held held' same
    obtain ⟨shows, -⟩ := List.forall_mem_cons.mp same
    cases held
    cases held'
    cases shows
    rfl

private theorem told_form_object_iff {members : List (String × Json)}
    (parts : ∀ member ∈ members, Within fieldDepth member.2) {payload : DirectoryPayload} :
    form.Told slots (.object members) payload ↔
      ¬ (Json.object members).Repeats "shows" ∧
        ofField? (((Json.object members).lastMember? "shows").map Json.settle) = some payload := by
  obtain ⟨shows⟩ := payload
  rw [← given_maps_iff parts, given_iff]
  constructor
  · rintro (@⟨_, held, _, fills, whole⟩)
    obtain ⟨filled, -⟩ := List.forall_mem_cons.mp fills
    cases whole
    exact ⟨held.shows, rfl, filled⟩
  · rintro ⟨last, rfl, filled⟩
    refine @Form.Told.object _ _ _ _ _ ⟨last⟩ _ ?_ rfl
    exact List.forall_mem_cons.mpr ⟨filled, nofun⟩

private theorem told_form_array_iff {items : List Json} (parts : ∀ v ∈ items, Within fieldDepth v)
    {payload : DirectoryPayload} :
    form.Told slots (.array items) payload ↔
      items.length ≤ 1 ∧ ofField? (items[0]?.map Json.settle) = some payload := by
  obtain ⟨shows⟩ := payload
  constructor
  · rintro (_ | @⟨_, held, _, collects, whole⟩)
    unfold slots at collects
    cases collects with
    | done =>
      cases whole
      exact ⟨Nat.zero_le 1, rfl⟩
    | item told others =>
      have field := (nullable_maps_iff (parts _ List.mem_cons_self)).mp told
      cases others
      cases whole
      exact ⟨Nat.le_refl 1, field⟩
  · rintro ⟨few, field⟩
    match items with
    | [] =>
      cases field
      exact .array .done rfl
    | [v] =>
      exact .array (.item ((nullable_maps_iff (parts v List.mem_cons_self)).mpr field) .done) rfl
    | _ :: _ :: _ => exact absurd few (by simp)

private theorem readWhole_iff {s : List Symbol} {raw : Json}
    (whole : readWhole (Json.Read.value greatestDepth) s = .ok raw) (payload : DirectoryPayload) :
    readWhole DirectoryPayload.read s = .ok payload ↔ Told raw payload := by
  obtain ⟨rest, read, -⟩ := Json.Read.readWhole_eq_ok_iff.mp whole
  refine ((isSlots.follows fields_form).readWhole_iff whole payload).trans ?_
  cases Json.Read.within_of_value read with
  | object parts =>
    refine (told_form_object_iff parts).trans ⟨?_, ?_⟩
    · rintro ⟨once, field⟩
      exact .object once field
    · rintro ⟨once, field⟩
      exact ⟨once, field⟩
  | array parts =>
    refine (told_form_array_iff parts).trans ⟨?_, ?_⟩
    · rintro ⟨few, field⟩
      exact .array few field
    · rintro (_ | ⟨few, field⟩)
      exact ⟨few, field⟩
  | null | bool | number | string => exact iff_of_false nofun nofun

private theorem ofJson?_settle {raw : Json} (isObject : raw.isObject) :
    ofJson? raw.settle = ofField? ((raw.lastMember? "shows").map Json.settle) := by
  obtain ⟨fields, taken, given⟩ := Json.fields?_settle ["shows"] isObject
  rw [ofJson?, taken, Option.bind_some, given "shows" List.mem_cons_self, Json.told?]
  cases raw.lastMember? "shows" with
  | none => rfl
  | some value => cases value <;> rfl

private theorem isSome_ofField?_iff (field : Option Json) :
    (ofField? (field.map Json.settle)).isSome ↔
      field = none ∨ field = some .null ∨ ∃ shows, field = some (.object shows) := by
  cases field with
  | none => exact iff_of_true rfl (.inl rfl)
  | some value =>
    cases value with
    | null => exact iff_of_true rfl (.inr (.inl rfl))
    | object shows => exact iff_of_true rfl (.inr (.inr ⟨shows, rfl⟩))
    | bool | number | string | array => exact iff_of_false nofun (by rintro (⟨⟨⟩⟩ | ⟨⟨⟩⟩ | ⟨_, ⟨⟩⟩))

end DirectoryPayload

/-- A status read straight from a text and through its document. The document has each name once;
`raw` is the document as it stands in the text. -/
structure StatusReadings (s : List Symbol) (raw document : Json) : Prop where
  agree : raw.isObject → (∀ name ∈ StatusPayload.fieldNames, ¬ raw.Repeats name) →
    ∃ payload, readWhole StatusPayload.read s = .ok payload ∧
      StatusPayload.ofJson? document = some payload ∧ payload = .told raw
  repeated : raw.isObject → (∃ name ∈ StatusPayload.fieldNames, raw.Repeats name) →
    (∃ fault, readWhole StatusPayload.read s = .error fault) ∧
      StatusPayload.ofJson? document = some (.told raw)
  decoded : raw.isObject → Status.decode document = .ofPayload (.told raw)
  inOrder : ∀ items, raw = .array items → ∀ payload,
    readWhole StatusPayload.read s = .ok payload ↔
      items.length ≤ StatusPayload.fieldNames.length ∧ payload = .toldInOrder items
  blank : ¬ raw.isObject → Status.decode document = .blank
  member : Status.decode document = Status.ofJson document

/-- A listing read straight from a text and through its document. -/
structure ListingReadings (s : List Symbol) (raw document : Json) : Prop where
  agree : raw.isObject → ¬ raw.Repeats "shows" → ∀ payload,
    readWhole DirectoryPayload.read s = .ok payload ↔
      DirectoryPayload.ofJson? document = some payload
  accepted : raw.isObject → ((DirectoryPayload.ofJson? document).isSome ↔
    raw.lastMember? "shows" = none ∨ raw.lastMember? "shows" = some .null ∨
      ∃ shows, raw.lastMember? "shows" = some (.object shows))
  listed : ∀ shows, raw.lastMember? "shows" = some (.object shows) →
    DirectoryPayload.ofJson? document =
        some ⟨some (Json.settleMembers (Json.settleValues shows))⟩ ∧
      Directory.decode document =
        .ok ⟨(Json.settleMembers (Json.settleValues shows)).filterMap Directory.entry?⟩
  unlisted : raw.isObject → (∀ shows, raw.lastMember? "shows" ≠ some (.object shows)) →
    Directory.decode document = .error .missingShows
  repeated : raw.Repeats "shows" →
    ∃ fault, readWhole DirectoryPayload.read s = .error fault
  inOrder : ∀ items, raw = .array items → ∀ payload,
    readWhole DirectoryPayload.read s = .ok payload ↔ items.length ≤ 1 ∧
      DirectoryPayload.ofField? (items[0]?.map Json.settle) = some payload
  notAnObject : ¬ raw.isObject → Directory.decode document = .error .notAnObject
  member : Directory.decode document = Directory.ofJson document

section Whole

variable {s : List Symbol} {raw : Json}
  (whole : readWhole (Json.Read.value greatestDepth) s = .ok raw)

include whole

private theorem statusReadings_settle : StatusReadings s raw raw.settle := by
  have direct := StatusPayload.readWhole_iff whole
  constructor
  case agree =>
    intro isObject once
    refine ⟨.told raw, (direct _).mpr ?_, StatusPayload.ofJson?_settle isObject, rfl⟩
    cases raw with
    | object members => exact .object once
    | null | bool | number | string | array => cases isObject
  case repeated =>
    rintro isObject ⟨name, mem, twice⟩
    refine ⟨exists_error_of_ne_ok fun payload read => ?_, StatusPayload.ofJson?_settle isObject⟩
    cases (direct payload).mp read with
    | object once => exact once name mem twice
    | array => cases isObject
  case decoded =>
    intro isObject
    rw [Status.decode_settle, Status.ofJson_settle]
    rfl
  case inOrder =>
    rintro items rfl payload
    refine (direct payload).trans ⟨?_, ?_⟩
    · rintro (_ | few)
      exact ⟨few, rfl⟩
    · rintro ⟨few, rfl⟩
      exact .array few
  case blank =>
    intro other
    rw [Status.decode_settle, Status.ofJson_of_not_isObject]
    rwa [Json.isObject_settle]
  case member => exact Status.decode_settle raw

private theorem listingReadings_settle : ListingReadings s raw raw.settle := by
  have direct := DirectoryPayload.readWhole_iff whole
  constructor
  case agree =>
    intro isObject once payload
    rw [direct, DirectoryPayload.ofJson?_settle isObject]
    cases raw with
    | object members =>
      constructor
      · rintro ⟨-, field⟩
        exact field
      · exact .object once
    | null | bool | number | string | array => cases isObject
  case accepted =>
    intro isObject
    rw [DirectoryPayload.ofJson?_settle isObject]
    exact DirectoryPayload.isSome_ofField?_iff _
  case listed =>
    intro shows last
    have isObject := Json.isObject_of_lastMember? last
    rw [DirectoryPayload.ofJson?_settle isObject, Directory.decode_settle,
      Directory.ofJson_settle isObject, last]
    exact ⟨rfl, rfl⟩
  case unlisted =>
    intro isObject missing
    rw [Directory.decode_settle]
    exact Directory.ofJson_unlisted isObject missing
  case repeated =>
    intro twice
    refine exists_error_of_ne_ok fun payload read => ?_
    cases (direct payload).mp read with
    | object once => exact once twice
    | array => exact twice
  case inOrder =>
    rintro items rfl payload
    refine (direct payload).trans ⟨?_, ?_⟩
    · rintro (_ | ⟨few, field⟩)
      exact ⟨few, field⟩
    · rintro ⟨few, field⟩
      exact .array few field
  case notAnObject =>
    intro other
    rw [Directory.decode_settle, Directory.ofJson_of_not_isObject]
    rwa [Json.isObject_settle]
  case member => exact Directory.decode_settle raw

end Whole

/-- The payloads that are read straight from a text that parses are those of its document, but for
a name that is repeated and for a list. -/
theorem payloads_read_alike {s : List Symbol} {document : Json}
    (parsed : Json.parse s = .ok document) :
    ∃ raw, readWhole (Json.Read.value greatestDepth) s = .ok raw ∧
      StatusReadings s raw document ∧ ListingReadings s raw document := by
  obtain ⟨raw, whole, rfl⟩ := Json.parse_eq_ok parsed
  exact ⟨raw, whole, statusReadings_settle whole, listingReadings_settle whole⟩

/-- A listing is taken from a text although the status in it is repeated. -/
theorem repeated_status_beside_a_listing :
    let text :=
      "\x7b\"loop\":\"0\",\"shows\":\x7b\"b\":1,\"a\":2,\"b\":3\x7d,\"loop\":\"1\"\x7d"
    let document : Json := .object [("loop", .string "1"),
      ("shows", .object [("b", .number (.integer 3)), ("a", .number (.integer 2))])]
    Json.parse (Text.symbolsOf text) = .ok document ∧
      ∃ raw, readWhole (Json.Read.value greatestDepth) (Text.symbolsOf text) = .ok raw ∧
        StatusReadings (Text.symbolsOf text) raw document ∧
          ListingReadings (Text.symbolsOf text) raw document := by
  intro text document
  have parsed : Json.parse (Text.symbolsOf text) = .ok document := by cbv
  exact ⟨parsed, payloads_read_alike parsed⟩

/-- A name of the mapping that comes twice has one place, straight from the text too. -/
example : ((readWhole DirectoryPayload.read (Text.symbolsOf
      "\x7b\"shows\":\x7b\"b\":1,\"a\":2,\"b\":3\x7d\x7d")).toOption.bind
        DirectoryPayload.shows).map Json.names = some ["b", "a"] := by
  decide +kernel

end Show
end ShowRemote
