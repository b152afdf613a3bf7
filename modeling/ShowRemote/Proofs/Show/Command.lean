import ShowRemote.Proofs.Json.Compact
import ShowRemote.Proofs.Json.Record
import ShowRemote.Proofs.Session.Turn
import ShowRemote.Show.Wire

/-!
The text of a command. It has the fields that are set and no other, it is the same whether the
command is written straight or made into a document before, and the command is read back from it
(`Command.canonical`). So the body that is posted for an intent tells the intent.

Main statement: `bodies_tell_their_intents`.
-/

set_option autoImplicit false

namespace ShowRemote.Show

open Json (Spells IsBlank names)
open Json.Read (Form)
open Text (Symbol)

private theorem field_takes {σ τ : Type} {name : String} {get : σ → Option τ} {set : τ → σ → σ}
    {reader : Json.Reader τ} {held : σ} {v : Json} {x : τ} (unset : get held = none)
    (reads : ∀ {depth : Nat} {front : List Char}, Spells depth front v → ∀ {b : List Char},
      IsBlank b → ∀ rest : List Symbol,
        reader (b.map .char ++ (front.map .char ++ rest)) = .ok (x, rest)) :
    (field name get set reader).Takes held v (set x held) := by
  constructor
  case isFresh =>
    show (get held).isSome = false
    rw [unset]
    rfl
  case reads =>
    intro depth front spells b blank rest _
    show (reader _ >>= _) = _
    rw [reads spells blank rest]
    rfl

namespace Command

def members (c : Command) : List (String × Json) :=
  ("show", .string c.selection) ::
    ((c.action.toList.map fun action => ("status", .string action.text)) ++
      c.loopFlag.toList.map fun flag => ("loop", .string flag.text))

theorem toJson_eq (c : Command) : c.toJson = .object c.members := by
  obtain ⟨selection, action, loopFlag⟩ := c
  cases action <;> cases loopFlag <;> rfl

private theorem names_members (c : Command) :
    names c.members =
      "show" :: ((c.action.toList.map fun _ => "status") ++
        c.loopFlag.toList.map fun _ => "loop") := by
  simp [members, names, Function.comp_def]

private theorem nodup_names_members (c : Command) : (names c.members).Nodup := by
  rw [names_members]
  cases c.action <;> cases c.loopFlag <;> simp

private theorem exists_string_of_mem {c : Command} {member : String × Json}
    (mem : member ∈ c.members) :
    ∃ s, member.2 = .string s := by
  rcases List.mem_cons.mp mem with rfl | mem
  · exact ⟨_, rfl⟩
  rcases List.mem_append.mp mem with mem | mem
  · obtain ⟨action, -, rfl⟩ := List.mem_map.mp mem
    exact ⟨_, rfl⟩
  · obtain ⟨flag, -, rfl⟩ := List.mem_map.mp mem
    exact ⟨_, rfl⟩

theorem write_toJson (c : Command) : c.toJson.write = c.write := by
  have selection : Json.quote "show" = "\"show\"".toList := by simp [Json.quote, Json.escape]
  have action : Json.quote "status" = "\"status\"".toList := by simp [Json.quote, Json.escape]
  have loopFlag : Json.quote "loop" = "\"loop\"".toList := by simp [Json.quote, Json.escape]
  rw [toJson_eq, Json.write, Json.writeMembers_eq_map]
  unfold write members
  cases c.action <;> cases c.loopFlag <;>
    simp [Json.write, Json.commaSeparated, selection, action, loopFlag]

private theorem spells_members {c : Command} (depth : Nat) {member : String × Json}
    (mem : member ∈ c.members) : Spells depth member.2.write member.2 := by
  obtain ⟨s, same⟩ := exists_string_of_mem mem
  rw [same]
  exact Json.spells_string depth s

theorem spells_write (c : Command) : Json.SpellsDocument c.write c.toJson := by
  have spells := Json.SpellsDocument.bare
    (Json.spells_object fun _ mem => spells_members (c := c) _ mem)
  rwa [← toJson_eq, write_toJson] at spells

theorem parse_write (c : Command) : Json.parse (c.write.map .char) = .ok (.object c.members) := by
  rw [← write_toJson, toJson_eq]
  refine Json.parse_write c.nodup_names_members ?_ fun _ mem => spells_members _ mem
  intro member mem
  obtain ⟨s, same⟩ := exists_string_of_mem mem
  rw [same]
  rfl

section Fields

variable (held : CommandFields)

private theorem takes_selection (unset : held.selection = none) (s : String) :
    (field "show" CommandFields.selection (fun x held => { held with selection := some x })
      Json.Read.text).Takes held (.string s) { held with selection := some s } :=
  field_takes unset fun spells _ blank rest => Json.Read.text_of_spells spells blank rest

private theorem takes_action (unset : held.action = none) (action : PlaybackAction) :
    (field "status" CommandFields.action (fun x held => { held with action := some x })
      (Json.Read.optional PlaybackAction.read)).Takes held (.string action.text)
        { held with action := some (some action) } := by
  have known : PlaybackAction.names.lookup action.text = some action := by cases action <;> rfl
  exact field_takes unset fun spells _ blank rest =>
    Json.Read.optional_variant_of_spells known spells blank rest

private theorem takes_loopFlag (unset : held.loopFlag = none) (flag : LoopFlag) :
    (field "loop" CommandFields.loopFlag (fun x held => { held with loopFlag := some x })
      (Json.Read.optional LoopFlag.read)).Takes held (.string flag.text)
        { held with loopFlag := some (some flag) } := by
  have known : LoopFlag.names.lookup flag.text = some flag := by cases flag <;> rfl
  exact field_takes unset fun spells _ blank rest =>
    Json.Read.optional_variant_of_spells known spells blank rest

end Fields

private theorem gathers_loopFlag (s : String) (action : Option (Option PlaybackAction))
    (loopFlag : Option LoopFlag) :
    form.Gathers ⟨some s, action, none⟩
      (loopFlag.toList.map fun flag => ("loop", .string flag.text))
      ⟨some s, action, loopFlag.map some⟩ := by
  cases loopFlag with
  | none => exact .nil
  | some flag => exact .cons rfl (takes_loopFlag _ rfl flag) .nil

private theorem gathers_members (c : Command) :
    form.Gathers form.start c.members
      ⟨some c.selection, c.action.map some, c.loopFlag.map some⟩ := by
  obtain ⟨s, action, loopFlag⟩ := c
  refine .cons rfl (takes_selection _ rfl s) ?_
  cases action with
  | none => exact gathers_loopFlag s none loopFlag
  | some action =>
    exact .cons rfl (takes_action _ rfl action) (gathers_loopFlag s (some (some action)) loopFlag)

private theorem readWhole_write (c : Command) :
    Json.readWhole read (c.write.map .char) = .ok c := by
  have spells := c.spells_write
  rw [toJson_eq] at spells
  refine Json.Read.readWhole_of_gathers spells c.gathers_members ?_
  obtain ⟨selection, action, loopFlag⟩ := c
  cases action <;> cases loopFlag <;> rfl

/-- What the text of a command says. -/
structure Canonical (c : Command) : Prop where
  /-- It is the same by way of a document. -/
  written : c.toJson.write = c.write
  decoded : Json.readWhole read (c.write.map .char) = .ok c
  /-- A field that is not set does not appear in it, and no field is null. -/
  fields : ∃ members, Json.parse (c.write.map .char) = .ok (.object members) ∧
    names members = "show" :: ((c.action.toList.map fun _ => "status") ++
      c.loopFlag.toList.map fun _ => "loop") ∧
    ∀ member ∈ members, member.2.isNull = false

theorem canonical (c : Command) : c.Canonical := by
  refine ⟨c.write_toJson, c.readWhole_write, c.members, c.parse_write, c.names_members, ?_⟩
  intro member mem
  obtain ⟨s, same⟩ := exists_string_of_mem mem
  rw [same]
  rfl

private theorem write_injective {c c' : Command} (same : c.write = c'.write) : c = c' := by
  have read := c.readWhole_write
  rw [same, c'.readWhole_write] at read
  exact (Except.ok.inj read).symm

end Command

namespace Intent

private theorem command_injective {intent other : Intent} (same : intent.command = other.command) :
    intent = other := by
  cases intent with
  | playback action => cases other <;> simp_all [command]
  | selectShow id =>
    obtain ⟨text⟩ := id
    cases other with
    | selectShow id =>
      obtain ⟨text'⟩ := id
      simp_all [command]
    | playback action | toggleLoop next => simp [command] at same
  | toggleLoop next => cases other <;> simp_all [command]

/-- What the body that is posted for an intent says. -/
structure Identified (intent : Intent) : Prop where
  /-- Whatever the session, its body is the text of the command. -/
  posted : ∀ (d : Desk) (c : Call), c.intent d.session.loopNext = some intent →
    ∃ number body, (d.step (.call c)).2.sent = some ⟨number, .post d.endpoints.command body⟩ ∧
      body.write = intent.command.write
  decoded : Json.readWhole Command.read (intent.command.write.map .char) = .ok intent.command
  unique : ∀ other : Intent, other.command.write = intent.command.write → other = intent
  /-- A status or a flag, but not both. -/
  exclusive : ∃ body, Json.parse (intent.command.write.map .char) = .ok body ∧
    (body.member? "status" = none ∨ body.member? "loop" = none)
  selects : ∀ id, intent = .selectShow id →
    Json.parse (intent.command.write.map .char) = .ok (.object [("show", .string id.text)])
  /-- An intent that selects no show leaves the selection empty. -/
  unselected : (∀ id, intent ≠ .selectShow id) →
    ∃ body, Json.parse (intent.command.write.map .char) = .ok body ∧
      body.member? "show" = some (.string "")

private theorem identified (intent : Intent) : intent.Identified := by
  constructor
  case posted =>
    intro d c carried
    rw [Desk.step_post carried]
    exact ⟨_, _, rfl, intent.command.write_toJson⟩
  case decoded => exact intent.command.readWhole_write
  case unique =>
    intro other same
    exact command_injective (Command.write_injective same)
  case exclusive =>
    refine ⟨_, intent.command.parse_write, ?_⟩
    cases intent with
    | playback action => exact .inr rfl
    | selectShow id => exact .inl rfl
    | toggleLoop next => exact .inl rfl
  case selects =>
    rintro id rfl
    exact (selectShow id).command.parse_write
  case unselected =>
    intro other
    refine ⟨_, intent.command.parse_write, ?_⟩
    cases intent with
    | playback action => rfl
    | selectShow id => exact (other id rfl).elim
    | toggleLoop next => rfl

end Intent

/-- The text of a command is read back as the command, and the body that is posted for an intent
tells the intent. -/
theorem bodies_tell_their_intents (c : Command) (intent : Intent) :
    c.Canonical ∧ intent.Identified :=
  ⟨c.canonical, intent.identified⟩

end ShowRemote.Show
