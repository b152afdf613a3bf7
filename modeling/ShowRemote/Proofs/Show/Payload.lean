import Mathlib
import ShowRemote.Proofs.Json.Members
import ShowRemote.Show.Payload

/-!
Decoding the payloads of a player. A document that has been read has no name twice, so the payload
of an object is always there, with a value for each field that the object tells (`told?`); what is
decoded from it is what is decoded from the document member by member (`decode_settle`).

Main statement: `status_decodes_field_by_field`.
-/

set_option autoImplicit false

namespace ShowRemote

namespace Json

@[simp] theorem isNull_settle (document : Json) : document.settle.isNull = document.isNull := by
  cases document <;> rfl

@[simp] theorem isObject_settle (document : Json) :
    document.settle.isObject = document.isObject := by
  cases document <;> rfl

theorem isObject_of_lastMember? {name : String} {document value : Json}
    (last : document.lastMember? name = some value) : document.isObject := by
  cases document with
  | object members => rfl
  | null | bool | number | string | array => cases last

/-- What a document tells under a name: the value of the last member, unless that is null. -/
def told? (name : String) (document : Json) : Option Json :=
  ((document.lastMember? name).filter fun value => !value.isNull).map settle

private theorem filter_member?_settle (name : String) (document : Json) :
    (document.settle.member? name).filter (fun value => !value.isNull) = document.told? name := by
  rw [member?_settle, told?]
  cases document.lastMember? name with
  | none => rfl
  | some value =>
    rw [Option.map_some, Option.filter_some, Option.filter_some, isNull_settle]
    split <;> rfl

private theorem told?_of_isNull {name : String} {document : Json}
    (untold : document.lastMember? name = none ∨ document.lastMember? name = some .null) :
    document.told? name = none := by
  rcases untold with untold | untold
  · rw [told?, untold]
    rfl
  · rw [told?, untold]
    rfl

private theorem told?_of_not_isNull {name : String} {document value : Json}
    (last : document.lastMember? name = some value) (told : ¬ value.isNull) :
    document.told? name = some value.settle := by
  have holds : (!value.isNull) = true := by simpa using told
  rw [told?, last, Option.filter_some, if_pos holds]
  rfl

private theorem lookup_filter {wanted : List String} {name : String} (mem : name ∈ wanted)
    (members : List (String × Json)) :
    (members.filter fun member => member.1 ∈ wanted).lookup name = members.lookup name := by
  induction members with
  | nil => rfl
  | cons member rest ih =>
    obtain ⟨key, value⟩ := member
    by_cases same : name = key
    · subst same
      simp [mem]
    · by_cases known : key ∈ wanted
      · rw [List.filter_cons_of_pos (by simpa using known), List.lookup_cons, List.lookup_cons, ih]
      · rw [List.filter_cons_of_neg (by simpa using known), List.lookup_cons,
          beq_false_of_ne same, ih]

private theorem fields?_object (wanted : List String) {members : List (String × Json)}
    (nodup : (names members).Nodup) :
    (Json.object members).fields? wanted =
      some (members.filter fun member => member.1 ∈ wanted) := by
  have known : ((members.filter fun member => member.1 ∈ wanted).map Prod.fst).Nodup :=
    nodup.sublist (List.filter_sublist.map Prod.fst)
  show (if _ then _ else _) = _
  rw [if_pos known]

theorem fields?_settle (wanted : List String) {document : Json} (isObject : document.isObject) :
    ∃ fields, document.settle.fields? wanted = some fields ∧
      ∀ name ∈ wanted, given? name fields = document.told? name := by
  cases document with
  | object members =>
    refine ⟨_, fields?_object wanted (nodup_names_settleMembers (settleValues members)), ?_⟩
    intro name mem
    rw [given?, lookup_filter mem, ← filter_member?_settle]
    rfl
  | null | bool | number | string | array => cases isObject

end Json

namespace Show

open Json (told?)

private theorem bind_filter_isNull {α : Type} {use : Json → Option α} (unused : use .null = none)
    (value : Option Json) : (value.filter fun x => !x.isNull).bind use = value.bind use := by
  cases value with
  | none => rfl
  | some x =>
    cases x with
    | null => exact unused.symm
    | bool | number | string | array | object => rfl

private theorem getD_filter_isNull (value : Option Json) :
    ((value.filter fun x => !x.isNull).map isLooping).getD false =
      (value.map isLooping).getD false := by
  cases value with
  | none => rfl
  | some x => cases x <;> rfl

namespace StatusPayload

theorem ofJson?_settle {document : Json} (isObject : document.isObject) :
    ofJson? document.settle =
      some ⟨document.told? "show", document.told? "status", document.told? "loop"⟩ := by
  obtain ⟨fields, taken, given⟩ :=
    Json.fields?_settle ["show", "status", "loop"] isObject
  rw [ofJson?, taken, Option.map_some, given "show" (by simp), given "status" (by simp),
    given "loop" (by simp)]

end StatusPayload

namespace Status

private theorem member?_of_not_isObject {document : Json} (other : ¬ document.isObject)
    (name : String) :
    document.member? name = none := by
  cases document with
  | object members => exact (other rfl).elim
  | null | bool | number | string | array => rfl

theorem ofJson_of_not_isObject {document : Json} (other : ¬ document.isObject) :
    ofJson document = .blank := by
  rw [ofJson, member?_of_not_isObject other, member?_of_not_isObject other,
    member?_of_not_isObject other]
  rfl

theorem ofJson_settle (document : Json) :
    ofJson document.settle =
      ofPayload ⟨document.told? "show", document.told? "status", document.told? "loop"⟩ := by
  rw [ofJson, ofPayload, ← Json.filter_member?_settle, ← Json.filter_member?_settle,
    ← Json.filter_member?_settle, bind_filter_isNull rfl, bind_filter_isNull rfl,
    getD_filter_isNull]

theorem decode_settle (document : Json) : decode document.settle = ofJson document.settle := by
  rw [decode, Json.isObject_settle]
  by_cases isObject : document.isObject
  · rw [if_pos isObject, StatusPayload.ofJson?_settle isObject, ofJson_settle]
    rfl
  · have other : ¬ document.settle.isObject := by simpa using isObject
    rw [if_neg isObject, ofJson_of_not_isObject other]
    rfl

section Text

variable {document value : Json}

private theorem text_settle (document : Json) :
    (ofJson document.settle).text = (document.told? "status").bind statusText? := by
  rw [ofJson_settle]
  rfl

private theorem text_of_string {text : String}
    (last : document.lastMember? "status" = some (.string text)) :
    (ofJson document.settle).text = some text := by
  rw [text_settle, Json.told?_of_not_isNull last (by simp [Json.isNull])]
  rfl

private theorem text_of_other (last : document.lastMember? "status" = some value)
    (told : ¬ value.isNull) (other : ∀ text, value ≠ .string text) :
    (ofJson document.settle).text = some value.settle.text := by
  rw [text_settle, Json.told?_of_not_isNull last told]
  cases value with
  | null => exact (told rfl).elim
  | string text => exact (other text rfl).elim
  | bool | number | array | object => rfl

private theorem text_eq_none_iff (document : Json) :
    (ofJson document.settle).text = none ↔
      document.lastMember? "status" = none ∨ document.lastMember? "status" = some .null := by
  constructor
  · intro textless
    cases last : document.lastMember? "status" with
    | none => exact .inl rfl
    | some value =>
      right
      by_contra told
      have told : ¬ value.isNull := by
        intro isNull
        cases value <;> first | exact told rfl | cases isNull
      by_cases string : ∃ text, value = .string text
      · obtain ⟨text, rfl⟩ := string
        rw [text_of_string last] at textless
        cases textless
      · rw [text_of_other last told fun text same => string ⟨text, same⟩] at textless
        cases textless
  · intro untold
    rw [text_settle, Json.told?_of_isNull untold]
    rfl

end Text

private theorem looping_settle_iff (document : Json) :
    (ofJson document.settle).looping = true ↔
      document.lastMember? "loop" = some (.string "1") := by
  have member : (ofJson document.settle).looping =
      ((document.lastMember? "loop").map fun value => isLooping value.settle).getD false := by
    show ((document.settle.member? "loop").map isLooping).getD false = _
    rw [Json.member?_settle, Option.map_map]
    rfl
  rw [member]
  cases document.lastMember? "loop" with
  | none => exact iff_of_false nofun nofun
  | some value =>
    cases value with
    | string flag =>
      show decide (flag = "1") = true ↔ _
      rw [decide_eq_true_iff]
      constructor
      · rintro rfl
        rfl
      · rintro ⟨⟩
        rfl
    | null | bool | number | array | object => exact iff_of_false nofun nofun

/-- Decoding a status from a document as it stands in a text, where a name may come more than once.
Each of the three fields goes by what the document tells under its own name. -/
structure FieldByField (document : Json) : Prop where
  payload : decode document.settle = ofJson document.settle
  taken : document.isObject → (StatusPayload.ofJson? document.settle).isSome
  blank : ¬ document.isObject → ofJson document.settle = .blank
  current : ∀ other : Json, other.told? "show" = document.told? "show" →
    (ofJson other.settle).current = (ofJson document.settle).current
  text : ∀ other : Json, other.told? "status" = document.told? "status" →
    (ofJson other.settle).text = (ofJson document.settle).text
  looping : ∀ other : Json, other.told? "loop" = document.told? "loop" →
    (ofJson other.settle).looping = (ofJson document.settle).looping
  textless : (ofJson document.settle).text = none ↔
    document.lastMember? "status" = none ∨ document.lastMember? "status" = some .null
  verbatim : ∀ text, document.lastMember? "status" = some (.string text) →
    (ofJson document.settle).text = some text
  compact : ∀ value, document.lastMember? "status" = some value → ¬ value.isNull →
    (∀ text, value ≠ .string text) → (ofJson document.settle).text = some value.settle.text
  repeated : (ofJson document.settle).looping = true ↔
    document.lastMember? "loop" = some (.string "1")

theorem status_decodes_field_by_field (document : Json) : FieldByField document := by
  constructor
  case payload => exact decode_settle document
  case taken =>
    intro isObject
    rw [StatusPayload.ofJson?_settle isObject]
    rfl
  case blank =>
    intro other
    apply ofJson_of_not_isObject
    rwa [Json.isObject_settle]
  case current =>
    intro other same
    rw [ofJson_settle, ofJson_settle, ofPayload, ofPayload, same]
  case text =>
    intro other same
    rw [text_settle, text_settle, same]
  case looping =>
    intro other same
    rw [ofJson_settle, ofJson_settle, ofPayload, ofPayload, same]
  case textless => exact text_eq_none_iff document
  case verbatim => exact fun text last => text_of_string last
  case compact => exact fun value last told other => text_of_other last told other
  case repeated => exact looping_settle_iff document

/-- A show that is a list does not cost the other fields, and a flag that comes twice counts as it
came last. -/
example : ofJson (.settle (.object
      [("loop", .string "0"), ("show", .array [.string "5"]), ("status", .array [.null]),
        ("loop", .string "1")])) = ⟨none, some "[null]", true⟩ := by
  decide +kernel

/-- A list of fields is a payload in order, and is decoded as nothing all the same. -/
example : (StatusPayload.ofJson? (.array [.string "5"])).isSome ∧
    ofJson (.array [.string "5"]) = .blank := by
  decide

end Status

end Show
end ShowRemote
