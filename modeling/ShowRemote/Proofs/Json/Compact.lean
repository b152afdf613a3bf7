import ShowRemote.Json.Printer
import ShowRemote.Proofs.Json.Grammar
import ShowRemote.Proofs.Json.Members

/-!
The compact text of an object spells it, if the text of each of its values spells that value.
Members with names of their own are settled already, so such an object is read as it was written
(`parse_write`).
-/

set_option autoImplicit false

namespace ShowRemote.Json

section Sequence

variable {α : Type} {close : Char} {item : List Char → α → Prop}

private theorem onward_commaSeparated {texts : List (List Char)} {as : List α}
    (each : List.Forall₂ item texts as) (front : List Char) :
    ∃ rest, commaSeparated (front :: texts) ++ [close] = front ++ rest ∧
      Onward close item rest as := by
  induction each generalizing front with
  | nil => exact ⟨[close], rfl, .close Read.isBlank_nil⟩
  | @cons text a texts as first others ih =>
    obtain ⟨rest, same, onward⟩ := ih text
    refine ⟨',' :: (text ++ rest), ?_, .item Read.isBlank_nil Read.isBlank_nil first onward⟩
    rw [← same, commaSeparated, List.append_assoc, List.cons_append]
    exact List.cons_ne_nil _ _

private theorem sequence_commaSeparated {texts : List (List Char)} {as : List α}
    (each : List.Forall₂ item texts as) :
    Sequence close item (commaSeparated texts ++ [close]) as := by
  cases each with
  | nil => exact .empty Read.isBlank_nil
  | cons first others =>
    obtain ⟨rest, same, onward⟩ := onward_commaSeparated others _
    rw [same]
    exact .items Read.isBlank_nil first onward

end Sequence

theorem writeMembers_eq_map (members : List (String × Json)) :
    writeMembers members = members.map fun member => quote member.1 ++ ':' :: member.2.write := by
  induction members with
  | nil => rfl
  | cons member rest ih =>
    obtain ⟨key, value⟩ := member
    rw [writeMembers, ih, List.map_cons]

theorem spells_string (depth : Nat) (s : String) :
    Spells depth (Json.string s).write (.string s) := by
  cases depth <;> exact .string (spells_quoted s.toList)

private theorem spellsMember_write {depth : Nat} {member : String × Json}
    (spells : Spells depth member.2.write member.2) :
    SpellsMember (Spells depth) (quote member.1 ++ ':' :: member.2.write) member := by
  have written : quote member.1 ++ ':' :: member.2.write =
      '"' :: (member.1.toList.flatMap escape ++ '"' :: ([] ++ ':' :: ([] ++ member.2.write))) := by
    simp [quote]
  rw [written]
  exact .mk (spells_quoted _) Read.isBlank_nil Read.isBlank_nil spells

theorem spells_object {depth : Nat} {members : List (String × Json)}
    (each : ∀ member ∈ members, Spells depth member.2.write member.2) :
    Spells (depth + 1) (Json.object members).write (.object members) := by
  refine .object rfl (sequence_commaSeparated ?_)
  rw [writeMembers_eq_map, List.forall₂_map_left_iff, List.forall₂_same]
  exact fun member mem => spellsMember_write (each member mem)

theorem parse_write {members : List (String × Json)} (nodup : (names members).Nodup)
    (settled : ∀ member ∈ members, member.2.settle = member.2)
    (each : ∀ member ∈ members, Spells (greatestDepth - 1) member.2.write member.2) :
    parse ((Json.object members).write.map .char) = .ok (.object members) := by
  have values : settleValues members = members := by
    have same : ∀ member ∈ members, (member.1, member.2.settle) = member := by
      intro member mem
      rw [settled member mem]
    rw [settleValues_eq_map, List.map_congr_left same, List.map_id']
  rw [parse_of_spells (.bare (spells_object each)), settle, values, settleMembers_of_nodup nodup]

end ShowRemote.Json
