import ShowRemote.Proofs.Json.Follow
import ShowRemote.Proofs.Show.Command

/-!
The texts that identifiers, flags, actions, failure codes, commands and failures are read from. They
are those of the documents that tell such a value (`Command.Told`, `Failure.Told`), in any spelling;
and of all the texts of a value one is written, which is read as the value again (`Format`).

Main statement: `wire_formats`.
-/

set_option autoImplicit false

namespace ShowRemote.Show

open Json (Reader valuesOf SpellsDocument greatestDepth readWhole)
open Json.Read (Follows Named Nullable Slot Slots Form)
open Text (Symbol)

section Format

variable {α : Type} (read : Reader α) (write : α → List Char)

def respell (s : List Symbol) : Except Json.ReadError (List Char) :=
  (readWhole read s).map write

/-- What a type is read from and written to. The document in a text is taken as it stands there,
where a name may come more than once. -/
structure Format (tells : Json → α → Prop) : Prop where
  accepts : ∀ (s : List Symbol) (document : Json),
    readWhole (Json.Read.value greatestDepth) s = .ok document →
      ∀ a, readWhole read s = .ok a ↔ tells document a
  written : ∀ a, readWhole read ((write a).map .char) = .ok a
  injective : Function.Injective write
  respelled : ∀ (s : List Symbol) (text : List Char),
    respell read write s = .ok text → respell read write (text.map .char) = .ok text

variable {read write} {tells : Json → α → Prop}

private theorem Format.of_follows (follows : Follows read tells) {document : α → Json}
    (spells : ∀ a, SpellsDocument (write a) (document a)) (told : ∀ a, tells (document a) a) :
    Format read write tells := by
  have written : ∀ a, readWhole read ((write a).map .char) = .ok a := fun a =>
    (follows.readWhole_iff (Json.readWhole_of_spells (spells a)) a).mpr (told a)
  constructor
  case accepts => exact fun s document whole a => follows.readWhole_iff whole a
  case written => exact written
  case injective =>
    intro a b same
    have read := written a
    rw [same, written b] at read
    exact (Except.ok.inj read).symm
  case respelled =>
    intro s text done
    unfold respell at done
    cases outcome : readWhole read s with
    | error fault =>
      rw [outcome] at done
      cases done
    | ok a =>
      rw [outcome] at done
      cases done
      rw [respell, written a]
      rfl

private theorem spells_document_string (s : String) :
    SpellsDocument (Json.string s).write (.string s) :=
  .bare (Json.spells_string greatestDepth s)

end Format

private theorem ShowId.follows : Follows ShowId.read fun v id => v = .string id.text := by
  intro depth s v rest read id left
  constructor
  · intro taken
    obtain ⟨⟨text, behind⟩, inside, taken⟩ := exists_of_bind_ok taken
    cases taken
    exact (Json.Read.follows_text read _ _).mp inside
  · intro told
    have inside := (Json.Read.follows_text read _ _).mpr told
    show (Json.Read.text s >>= _) = _
    rw [inside]
    rfl

private theorem eq_text_of_lookup {α : Type} {text : α → String} {as : List α} {s : String} {a : α}
    (found : (as.map fun a => (text a, a)).lookup s = some a) : s = text a := by
  obtain ⟨before, behind, same, -⟩ := List.lookup_eq_some_iff.mp found
  have mem : (s, a) ∈ as.map fun a => (text a, a) := by
    rw [same]
    exact List.mem_append_right _ List.mem_cons_self
  obtain ⟨b, -, pair⟩ := List.mem_map.mp mem
  cases pair
  rfl

private theorem LoopFlag.follows : Follows LoopFlag.read (Named LoopFlag.text) := by
  refine Json.Read.follows_variant fun s flag => ⟨eq_text_of_lookup, ?_⟩
  rintro rfl
  cases flag <;> rfl

private theorem PlaybackAction.follows :
    Follows PlaybackAction.read (Named PlaybackAction.text) := by
  refine Json.Read.follows_variant fun s action => ⟨eq_text_of_lookup, ?_⟩
  rintro rfl
  cases action <;> rfl

private theorem FailureCode.follows : Follows FailureCode.read (Named FailureCode.text) := by
  refine Json.Read.follows_variant fun s code => ⟨eq_text_of_lookup, ?_⟩
  rintro rfl
  cases code <;> rfl

/-- The values of a member that may be left out or null. -/
inductive Given {α : Type} (tells : Json → α → Prop) : List Json → Option α → Prop
  | absent : Given tells [] none
  | told {v : Json} {a : Option α} (nullable : Nullable tells v a) : Given tells [v] a

theorem given_iff {α : Type} {tells : Json → α → Prop} {values : List Json} {a : Option α} :
    Given tells values a ↔ ∃ last : Option (Option α), last.join = a ∧
      ((values = [] ∧ last = none) ∨ (none : Option (Option α)) = none ∧
        ∃ v x, values = [v] ∧ Nullable tells v x ∧ last = some x) := by
  constructor
  · rintro (_ | nullable)
    · exact ⟨none, rfl, .inl ⟨rfl, rfl⟩⟩
    · exact ⟨some a, rfl, .inr ⟨rfl, _, a, rfl, nullable, rfl⟩⟩
  · rintro ⟨_, rfl, ⟨rfl, rfl⟩ | ⟨-, v, x, rfl, nullable, rfl⟩⟩
    · exact .absent
    · exact .told nullable

private theorem given_toList {α : Type} (text : α → String) (a : Option α) :
    Given (Named text) (a.toList.map fun a => .string (text a)) a := by
  cases a with
  | none => exact .absent
  | some a => exact .told (.told nofun (.string a))

namespace Command

/-- The documents that tell a command: objects, with any members besides its own, and lists of its
first fields. -/
inductive Told : Json → Command → Prop
  | object {members : List (String × Json)} {selection : String} {action : Option PlaybackAction}
      {loopFlag : Option LoopFlag} (selected : valuesOf "show" members = [.string selection])
      (acting : Given (Named PlaybackAction.text) (valuesOf "status" members) action)
      (looping : Given (Named LoopFlag.text) (valuesOf "loop" members) loopFlag) :
      Told (.object members) ⟨selection, action, loopFlag⟩
  | one (selection : String) : Told (.array [.string selection]) ⟨selection, none, none⟩
  | two (selection : String) {v : Json} {action : Option PlaybackAction}
      (acting : Nullable (Named PlaybackAction.text) v action) :
      Told (.array [.string selection, v]) ⟨selection, action, none⟩
  | three (selection : String) {v w : Json} {action : Option PlaybackAction}
      {loopFlag : Option LoopFlag} (acting : Nullable (Named PlaybackAction.text) v action)
      (looping : Nullable (Named LoopFlag.text) w loopFlag) :
      Told (.array [.string selection, v, w]) ⟨selection, action, loopFlag⟩

def slots : List (Slot CommandFields) :=
  [⟨"show", CommandFields.selection, fun x held => { held with selection := some x },
      Json.Read.text, _, fun _ _ => rfl, Json.Read.follows_text⟩,
    ⟨"status", CommandFields.action, fun x held => { held with action := some x },
      Json.Read.optional PlaybackAction.read, _, fun _ _ => rfl,
      PlaybackAction.follows.optional⟩,
    ⟨"loop", CommandFields.loopFlag, fun x held => { held with loopFlag := some x },
      Json.Read.optional LoopFlag.read, _, fun _ _ => rfl, LoopFlag.follows.optional⟩]

private theorem fields_form : form.fields = slots.map Slot.field := rfl

private theorem isSlots : Slots slots := by
  constructor
  case distinct => decide
  case get_set_other =>
    intro slot mem other mem' ne x held
    simp only [slots, List.mem_cons, List.not_mem_nil, or_false] at mem mem'
    rcases mem with rfl | rfl | rfl <;> rcases mem' with rfl | rfl | rfl <;>
      first | rfl | exact (ne rfl).elim
  case ext =>
    intro held held' same
    obtain ⟨selection, same⟩ := List.forall_mem_cons.mp same
    obtain ⟨action, same⟩ := List.forall_mem_cons.mp same
    obtain ⟨loopFlag, -⟩ := List.forall_mem_cons.mp same
    cases held
    cases held'
    cases selection
    cases action
    cases loopFlag
    rfl

private theorem told_form_iff {v : Json} {c : Command} : form.Told slots v c ↔ Told v c := by
  constructor
  · rintro (@⟨members, held, _, fills, whole⟩ | @⟨items, held, _, collects, whole⟩)
    · obtain ⟨selected, fills⟩ := List.forall_mem_cons.mp fills
      obtain ⟨acting, fills⟩ := List.forall_mem_cons.mp fills
      obtain ⟨looping, -⟩ := List.forall_mem_cons.mp fills
      obtain ⟨selection, action, loopFlag⟩ := held
      rcases selected with ⟨-, missing⟩ | ⟨-, _, selection', one, rfl, taken⟩
      · cases missing
        cases whole
      · cases taken
        cases whole
        exact .object one (given_iff.mpr ⟨action, rfl, acting⟩)
          (given_iff.mpr ⟨loopFlag, rfl, looping⟩)
    · -- An empty list tells no selection, and a fourth element has no slot.
      unfold slots at collects
      cases collects with
      | done => cases whole
      | item told others =>
        cases told
        cases others with
        | done =>
          cases whole
          exact .one _
        | item acting others =>
          cases others with
          | done =>
            cases whole
            exact .two _ acting
          | item looping others =>
            cases others
            cases whole
            exact .three _ acting looping
  · rintro (⟨selected, acting, looping⟩ | selection | ⟨selection, acting⟩ |
      ⟨selection, acting, looping⟩)
    · obtain ⟨action, rfl, acts⟩ := given_iff.mp acting
      obtain ⟨loopFlag, rfl, loops⟩ := given_iff.mp looping
      refine @Form.Told.object _ _ _ _ _ ⟨some _, action, loopFlag⟩ _ ?_ rfl
      refine List.forall_mem_cons.mpr ⟨.inr ⟨rfl, _, _, selected, rfl, rfl⟩, ?_⟩
      exact List.forall_mem_cons.mpr ⟨acts, List.forall_mem_cons.mpr ⟨loops, nofun⟩⟩
    · exact .array (.item rfl .done) rfl
    · exact .array (.item rfl (.item acting .done)) rfl
    · exact .array (.item rfl (.item acting (.item looping .done))) rfl

private theorem follows : Follows Command.read Command.Told := by
  intro depth s v rest read c left
  exact (isSlots.follows fields_form read c left).trans (and_congr_right fun _ => told_form_iff)

private theorem told_toJson (c : Command) : Told c.toJson c := by
  obtain ⟨selection, action, loopFlag⟩ := c
  have acting := given_toList PlaybackAction.text action
  have looping := given_toList LoopFlag.text loopFlag
  rw [toJson_eq]
  cases action <;> cases loopFlag <;> exact .object rfl acting looping

end Command

namespace Failure

/-- The documents that tell a failure: objects, with any members besides its own, and lists of its
two fields. -/
inductive Told : Json → Failure → Prop
  | object {members : List (String × Json)} {v : Json} {code : FailureCode} {message : String}
      (coded : valuesOf "code" members = [v]) (named : Named FailureCode.text v code)
      (described : valuesOf "message" members = [.string message]) :
      Told (.object members) ⟨code, message⟩
  | array {v : Json} {code : FailureCode} (named : Named FailureCode.text v code)
      (message : String) : Told (.array [v, .string message]) ⟨code, message⟩

def slots : List (Slot FailureFields) :=
  [⟨"code", FailureFields.code, fun x held => { held with code := some x }, FailureCode.read, _,
      fun _ _ => rfl, FailureCode.follows⟩,
    ⟨"message", FailureFields.message, fun x held => { held with message := some x },
      Json.Read.text, _, fun _ _ => rfl, Json.Read.follows_text⟩]

private theorem fields_form : form.fields = slots.map Slot.field := rfl

private theorem isSlots : Slots slots := by
  constructor
  case distinct => decide
  case get_set_other =>
    intro slot mem other mem' ne x held
    simp only [slots, List.mem_cons, List.not_mem_nil, or_false] at mem mem'
    rcases mem with rfl | rfl <;> rcases mem' with rfl | rfl <;>
      first | rfl | exact (ne rfl).elim
  case ext =>
    intro held held' same
    obtain ⟨code, same⟩ := List.forall_mem_cons.mp same
    obtain ⟨message, -⟩ := List.forall_mem_cons.mp same
    cases held
    cases held'
    cases code
    cases message
    rfl

private theorem told_form_iff {v : Json} {f : Failure} : form.Told slots v f ↔ Told v f := by
  constructor
  · rintro (@⟨members, held, _, fills, whole⟩ | @⟨items, held, _, collects, whole⟩)
    · obtain ⟨coded, fills⟩ := List.forall_mem_cons.mp fills
      obtain ⟨described, -⟩ := List.forall_mem_cons.mp fills
      obtain ⟨code, message⟩ := held
      rcases coded with ⟨-, missing⟩ | ⟨-, v, code', one, named, taken⟩
      · cases missing
        cases whole
      cases taken
      rcases described with ⟨-, missing⟩ | ⟨-, _, message', one', rfl, taken⟩
      · cases missing
        cases whole
      cases taken
      cases whole
      exact .object one named one'
    · unfold slots at collects
      cases collects with
      | done => cases whole
      | item named others =>
        cases others with
        | done => cases whole
        | item told others =>
          cases told
          cases others
          cases whole
          exact .array named _
  · rintro (⟨coded, named, described⟩ | ⟨named, message⟩)
    · refine @Form.Told.object _ _ _ _ _ ⟨some _, some _⟩ _ ?_ rfl
      refine List.forall_mem_cons.mpr ⟨.inr ⟨rfl, _, _, coded, named, rfl⟩, ?_⟩
      exact List.forall_mem_cons.mpr ⟨.inr ⟨rfl, _, _, described, rfl, rfl⟩, nofun⟩
    · exact .array (.item named (.item rfl .done)) rfl

private theorem follows : Follows Failure.read Failure.Told := by
  intro depth s v rest read f left
  exact (isSlots.follows fields_form read f left).trans (and_congr_right fun _ => told_form_iff)

private theorem spells_write (f : Failure) : SpellsDocument f.toJson.write f.toJson := by
  refine .bare (Json.spells_object fun member mem => ?_)
  simp only [List.mem_cons, List.not_mem_nil, or_false] at mem
  rcases mem with rfl | rfl
  · exact Json.spells_string _ _
  · exact Json.spells_string _ _

private theorem told_toJson (f : Failure) : Told f.toJson f :=
  .object rfl (.string f.code) rfl

end Failure

/-- What the types of the wire are read from and written to. -/
structure WireFormats : Prop where
  showId : Format ShowId.read (fun id => id.toJson.write) fun v id => v = .string id.text
  loopFlag : Format LoopFlag.read (fun flag => flag.toJson.write) (Named LoopFlag.text)
  action : Format PlaybackAction.read (fun action => action.toJson.write)
    (Named PlaybackAction.text)
  code : Format FailureCode.read (fun code => code.toJson.write) (Named FailureCode.text)
  command : Format Command.read Command.write Command.Told
  failure : Format Failure.read (fun f => f.toJson.write) Failure.Told
  loopFlags : LoopFlag.names = [("0", .off), ("1", .on)]
  actions : PlaybackAction.names = [("start", .start), ("stop", .stop), ("resume", .resume)]
  codes : FailureCode.names =
    [("transport", .transport), ("http_status", .httpStatus), ("malformed_body", .malformedBody),
      ("internal", .internal)]

theorem wire_formats : WireFormats := by
  constructor
  case showId =>
    exact .of_follows ShowId.follows (fun id => spells_document_string id.text) fun _ => rfl
  case loopFlag =>
    exact .of_follows LoopFlag.follows (fun flag => spells_document_string flag.text) .string
  case action =>
    exact .of_follows PlaybackAction.follows (fun action => spells_document_string action.text)
      .string
  case code =>
    exact .of_follows FailureCode.follows (fun code => spells_document_string code.text) .string
  case command => exact .of_follows Command.follows Command.spells_write Command.told_toJson
  case failure => exact .of_follows Failure.follows Failure.spells_write Failure.told_toJson
  case loopFlags => rfl
  case actions => rfl
  case codes => rfl

/-- Members in another order and among others, a name with an escape, and a status as an object. -/
example : (readWhole Command.read
      (("\x7b\"loop\":null,\"x\":[1],\"st\\u0061tus\":\x7b\"stop\":null\x7d," ++
        "\"show\":\"5\"\x7d").toList.map .char)).toOption = some ⟨"5", some .stop, none⟩ := by
  decide +kernel

end ShowRemote.Show
