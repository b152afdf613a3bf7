import ShowRemote.Proofs.Json.Follow

/-!
How deep a document is. A reader of values has a limit to the lists and objects that are open at one
point, and the limit does not matter otherwise: what is read within one limit is read within every
other that the document keeps to (`value_of_within`), and it keeps to the limit it is read within
(`within_of_value`). So a reader with a limit of its own follows a reader with another one
(`follows_value`).
-/

set_option autoImplicit false

namespace ShowRemote.Json

open Text (Symbol)

/-- Documents with at most so many open lists and objects at any point. -/
inductive Within : Nat → Json → Prop
  | null {depth : Nat} : Within depth .null
  | bool {depth : Nat} (b : Bool) : Within depth (.bool b)
  | number {depth : Nat} (n : Number) : Within depth (.number n)
  | string {depth : Nat} (s : String) : Within depth (.string s)
  | array {depth : Nat} {items : List Json} (parts : ∀ v ∈ items, Within depth v) :
      Within (depth + 1) (.array items)
  | object {depth : Nat} {members : List (String × Json)}
      (parts : ∀ member ∈ members, Within depth member.2) : Within (depth + 1) (.object members)

private theorem Within.mono {depth depth' : Nat} {v : Json} (within : Within depth v)
    (le : depth ≤ depth') : Within depth' v := by
  induction within generalizing depth' with
  | null => exact .null
  | bool b => exact .bool b
  | number n => exact .number n
  | string s => exact .string s
  | array parts ih =>
    cases depth' with
    | zero => cases le
    | succ depth' => exact .array fun v mem => ih v mem (Nat.le_of_succ_le_succ le)
  | object parts ih =>
    cases depth' with
    | zero => cases le
    | succ depth' => exact .object fun member mem => ih member mem (Nat.le_of_succ_le_succ le)

namespace Read

private theorem value_of_opens {depth : Nat} {s rest : List Symbol} {v : Json}
    (opens : Opens depth s v rest) : value depth s = .ok (v, rest) := by
  obtain ⟨inner, parts, same⟩ := exists_valueWith depth s
  cases opens with
  | null starts word | true starts word | false starts word =>
    rw [same, valueWith, starts]
    show (finishWord _ _ >>= _) = _
    rw [word]
    rfl
  | negative starts numeral =>
    rw [same, valueWith, starts]
    show (number true _ >>= _) = _
    rw [numeral]
    rfl
  | natural starts digit numeral =>
    obtain ⟨c, rfl, isDigit⟩ := exists_char_of_isDigit digit
    rw [← value_skipSpaces, starts]
    obtain ⟨inner, -, same⟩ := exists_valueWith depth (.char c :: _)
    rw [same, valueWith_digit inner _ isDigit, numeral]
    rfl
  | string starts inside =>
    rw [same, valueWith, starts]
    show (Read.string _ >>= _) = _
    rw [inside]
    rfl
  | array deeper starts inside =>
    subst deeper
    rw [value, valueWith, starts]
    show (elements _ _ _ _ >>= _) = _
    rw [inside]
    rfl
  | object deeper starts inside =>
    subst deeper
    rw [value, valueWith, starts]
    show (members _ _ _ _ >>= _) = _
    rw [inside]
    rfl

section Parts

variable {reader reader' : Reader Json}

private theorem ElementsRun.exists_of_mem {first : Bool} {s rest : List Symbol} {vs : List Json}
    (run : ElementsRun reader first s vs rest) :
    ∀ v ∈ vs, ∃ t behind, reader t = .ok (v, behind) := by
  induction run with
  | close next => exact nofun
  | item next one others ih => exact List.forall_mem_cons.mpr ⟨⟨_, _, one⟩, ih⟩

private theorem MembersRun.exists_of_mem {fuel : Nat} {first : Bool} {s rest : List Symbol}
    {ms : List (String × Json)} (run : MembersRun reader fuel first s ms rest) :
    ∀ member ∈ ms, ∃ t behind, reader t = .ok (member.2, behind) := by
  induction run with
  | close next => exact nofun
  | item next named separated one others ih => exact List.forall_mem_cons.mpr ⟨⟨_, _, one⟩, ih⟩

variable {P : Json → Prop}
  (agrees : ∀ {s rest : List Symbol} {v : Json}, reader s = .ok (v, rest) → P v →
    reader' s = .ok (v, rest))

include agrees

private theorem elements_congr {fuel : Nat} {first : Bool} {s rest : List Symbol} {vs : List Json}
    (read : elements reader fuel first s = .ok (vs, rest)) (all : ∀ v ∈ vs, P v) :
    elements reader' fuel first s = .ok (vs, rest) := by
  induction fuel generalizing first s vs with
  | zero => cases read
  | succ fuel ih =>
    rw [elements] at read
    obtain ⟨step, next, read⟩ := exists_of_bind_ok read
    cases step with
    | close left =>
      cases read
      exact elements_close next fuel
    | item t =>
      obtain ⟨⟨v, behind⟩, one, read⟩ := exists_of_bind_ok read
      obtain ⟨⟨vs, left⟩, others, read⟩ := exists_of_bind_ok read
      cases read
      obtain ⟨holds, all⟩ := List.forall_mem_cons.mp all
      exact elements_item next (agrees one holds) (ih others all)

private theorem members_congr {fuel : Nat} {first : Bool} {s rest : List Symbol}
    {ms : List (String × Json)} (read : members reader fuel first s = .ok (ms, rest))
    (all : ∀ member ∈ ms, P member.2) : members reader' fuel first s = .ok (ms, rest) := by
  induction fuel generalizing first s ms with
  | zero => cases read
  | succ fuel ih =>
    rw [members] at read
    obtain ⟨step, next, read⟩ := exists_of_bind_ok read
    cases step with
    | close left =>
      cases read
      exact members_close next fuel
    | item t =>
      obtain ⟨⟨key, u⟩, named, read⟩ := exists_of_bind_ok read
      obtain ⟨w, separated, read⟩ := exists_of_bind_ok read
      obtain ⟨⟨v, behind⟩, one, read⟩ := exists_of_bind_ok read
      obtain ⟨⟨ms, left⟩, others, read⟩ := exists_of_bind_ok read
      cases read
      obtain ⟨holds, all⟩ := List.forall_mem_cons.mp all
      exact members_item next named separated (agrees one holds) (ih others all)

end Parts

section Value

variable {depth limit : Nat} {s rest left : List Symbol} {v w : Json}

theorem within_of_value (read : value depth s = .ok (v, rest)) : Within depth v := by
  induction depth generalizing s rest v with
  | zero =>
    cases opens_of_value read with
    | null => exact .null
    | true | false => exact .bool _
    | negative | natural => exact .number _
    | string => exact .string _
    | array deeper | object deeper => cases deeper
  | succ depth ih =>
    cases opens_of_value read with
    | null => exact .null
    | true | false => exact .bool _
    | negative | natural => exact .number _
    | string => exact .string _
    | array deeper starts inside =>
      cases deeper
      refine .array fun v mem => ?_
      obtain ⟨t, behind, one⟩ := (elementsRun_of_read inside).exists_of_mem v mem
      exact ih one
    | object deeper starts inside =>
      cases deeper
      refine .object fun member mem => ?_
      obtain ⟨t, behind, one⟩ := (membersRun_of_read inside).exists_of_mem member mem
      exact ih one

theorem value_of_within (read : value depth s = .ok (v, rest)) (within : Within limit v) :
    value limit s = .ok (v, rest) := by
  induction depth using Nat.strong_induction_on generalizing limit s rest v with
  | _ depth ih =>
    apply value_of_opens
    cases opens_of_value read with
    | null starts word => exact .null starts word
    | true starts word => exact .true starts word
    | false starts word => exact .false starts word
    | negative starts numeral => exact .negative starts numeral
    | natural starts digit numeral => exact .natural starts digit numeral
    | string starts inside => exact .string starts inside
    | @array below _ _ _ deeper starts inside =>
      cases within with
      | array parts =>
        refine .array rfl starts ?_
        exact elements_congr (fun one holds => ih below (by omega) one holds) inside parts
    | @object below _ _ _ deeper starts inside =>
      cases within with
      | object parts =>
        refine .object rfl starts ?_
        exact members_congr (fun one holds => ih below (by omega) one holds) inside parts

end Value

theorem follows_value (limit : Nat) :
    Follows (value limit) fun v x => Within limit v ∧ x = v := by
  intro depth s v rest read x left
  constructor
  · intro taken
    have within := within_of_value taken
    -- Both limits are below the greater one, and there is one reading within that.
    have read' := value_of_within read ((within_of_value read).mono (Nat.le_max_left depth limit))
    have taken' := value_of_within taken (within.mono (Nat.le_max_right depth limit))
    rw [taken'] at read'
    cases read'
    exact ⟨rfl, within, rfl⟩
  · rintro ⟨rfl, within, rfl⟩
    exact value_of_within read within

theorem follows_map (depth : Nat) :
    Follows (map depth) fun v ms => Within (depth + 1) v ∧ v = .object ms := by
  intro limit s v rest read ms left
  constructor
  · intro taken
    unfold map at taken
    split at taken
    · next starts =>
      have whole := value_of_opens (.object rfl starts taken)
      obtain ⟨rfl, within, rfl⟩ := (follows_value (depth + 1) read _ _).mp whole
      exact ⟨rfl, within, rfl⟩
    · exact (unexpected_ne_ok _ _ _ taken).elim
  · rintro ⟨rfl, within, rfl⟩
    cases opens_of_value (value_of_within read within) with
    | object deeper starts inside =>
      cases deeper
      rw [map, starts]
      exact inside

end Read
end ShowRemote.Json
