import ShowRemote.Proofs.Json.Ignored
import ShowRemote.Proofs.Json.Record

/-!
Readers of an expected form against the reader of any value. Where a text has a value, a reader of a
form takes it exactly when the value is of the form, and it stops behind the value (`Follows`). So
which texts it takes is a matter of the documents they spell, and not of how they spell them.

A record is read into slots, one for each of its fields. Its members may come in any order, among
any other members, and fill a slot each; as a list it gives the values of its first slots.

Main statements: `Slots.follows`, `Follows.readWhole_iff`.
-/

set_option autoImplicit false

namespace ShowRemote.Json

open Text (Symbol)

def valuesOf (name : String) (members : List (String × Json)) : List Json :=
  (members.filter fun member => member.1 = name).map Prod.snd

private theorem valuesOf_cons_self (name : String) (v : Json) (members : List (String × Json)) :
    valuesOf name ((name, v) :: members) = v :: valuesOf name members := by
  rw [valuesOf, List.filter_cons_of_pos (by simp), List.map_cons]
  rfl

private theorem valuesOf_cons_of_ne {name key : String} (ne : key ≠ name) (v : Json)
    (members : List (String × Json)) :
    valuesOf name ((key, v) :: members) = valuesOf name members := by
  rw [valuesOf, List.filter_cons_of_neg (by simpa using ne)]
  rfl

namespace Read

def Follows {α : Type} (reader : Reader α) (tells : Json → α → Prop) : Prop :=
  ∀ ⦃depth : Nat⦄ ⦃s : List Symbol⦄ ⦃v : Json⦄ ⦃rest : List Symbol⦄,
    value depth s = .ok (v, rest) →
      ∀ (x : α) (left : List Symbol), reader s = .ok (x, left) ↔ left = rest ∧ tells v x

section First

variable {depth : Nat} {s t rest : List Symbol} {v : Json}
  (read : value depth s = .ok (v, rest))

include read

private theorem value_null (starts : skipSpaces s = .char 'n' :: t) :
    v = .null ∧ finishWord ['u', 'l', 'l'] t = .ok rest := by
  obtain ⟨inner, -, same⟩ := exists_valueWith depth s
  rw [same, valueWith, starts] at read
  obtain ⟨left, word, read⟩ := exists_of_bind_ok read
  cases read
  exact ⟨rfl, word⟩

private theorem value_string (starts : skipSpaces s = .char '"' :: t) :
    ∃ text, v = .string text ∧ string t = .ok (text, rest) := by
  obtain ⟨inner, -, same⟩ := exists_valueWith depth s
  rw [same, valueWith, starts] at read
  obtain ⟨⟨text, left⟩, inside, read⟩ := exists_of_bind_ok read
  cases read
  exact ⟨text, rfl, inside⟩

private theorem value_array (starts : skipSpaces s = .char '[' :: t) :
    ∃ below items, v = .array items ∧
      elements (value below) (t.length + 1) true t = .ok (items, rest) := by
  obtain ⟨inner, parts, same⟩ := exists_valueWith depth s
  rw [same, valueWith, starts] at read
  cases inner with
  | none => cases read
  | some item =>
    obtain ⟨below, -, rfl⟩ := parts item rfl
    obtain ⟨⟨items, left⟩, inside, read⟩ := exists_of_bind_ok read
    cases read
    exact ⟨below, items, rfl, inside⟩

private theorem value_object (starts : skipSpaces s = .char '{' :: t) :
    ∃ below items, v = .object items ∧
      members (value below) (t.length + 1) true t = .ok (items, rest) := by
  obtain ⟨inner, parts, same⟩ := exists_valueWith depth s
  rw [same, valueWith, starts] at read
  cases inner with
  | none => cases read
  | some item =>
    obtain ⟨below, -, rfl⟩ := parts item rfl
    obtain ⟨⟨items, left⟩, inside, read⟩ := exists_of_bind_ok read
    cases read
    exact ⟨below, items, rfl, inside⟩

end First

theorem readWhole_eq_ok_iff {α : Type} {reader : Reader α} {s : List Symbol} {a : α} :
    readWhole reader s = .ok a ↔ ∃ rest, reader s = .ok (a, rest) ∧ skipSpaces rest = [] := by
  constructor
  · intro whole
    unfold readWhole at whole
    cases outcome : reader s with
    | error fault =>
      simp only [bind, Except.bind, outcome] at whole
      cases whole
    | ok read =>
      obtain ⟨x, rest⟩ := read
      simp only [bind, Except.bind, outcome] at whole
      split at whole
      · next ended =>
        cases whole
        exact ⟨rest, rfl, ended⟩
      · cases whole
  · rintro ⟨rest, read, ended⟩
    exact readWhole_of_read read ended

theorem Follows.readWhole_iff {α : Type} {reader : Reader α} {tells : Json → α → Prop}
    (follows : Follows reader tells) {s : List Symbol} {document : Json}
    (whole : readWhole (value greatestDepth) s = .ok document) (a : α) :
    readWhole reader s = .ok a ↔ tells document a := by
  obtain ⟨rest, read, ended⟩ := readWhole_eq_ok_iff.mp whole
  rw [readWhole_eq_ok_iff]
  constructor
  · rintro ⟨left, taken, -⟩
    exact ((follows read a left).mp taken).2
  · intro told
    exact ⟨rest, (follows read a rest).mpr ⟨rfl, told⟩, ended⟩

theorem value_skipSpaces (depth : Nat) (s : List Symbol) :
    value depth (skipSpaces s) = value depth s := by
  cases depth with
  | zero => rw [value, valueWith, valueWith, skipSpaces_skipSpaces]
  | succ depth => rw [value, valueWith, valueWith, skipSpaces_skipSpaces]

theorem unexpected_ne_ok {α : Type} (expected : String) (s : List Symbol) (a : α) :
    unexpected expected s ≠ .ok a := by
  intro read
  unfold unexpected at read
  simp only at read
  split at read
  · cases read
  · obtain ⟨_, -, read⟩ := exists_of_bind_ok read
    cases read
  · obtain ⟨_, -, read⟩ := exists_of_bind_ok read
    cases read
  · obtain ⟨_, -, read⟩ := exists_of_bind_ok read
    cases read
  · obtain ⟨_, -, read⟩ := exists_of_bind_ok read
    cases read
  · obtain ⟨_, -, read⟩ := exists_of_bind_ok read
    cases read
  · cases read
  · cases read
  · split at read
    · obtain ⟨_, -, read⟩ := exists_of_bind_ok read
      cases read
    · cases read

theorem follows_text : Follows text fun v x => v = .string x := by
  intro depth s v rest read x left
  constructor
  · intro taken
    unfold text at taken
    split at taken
    · next starts =>
      obtain ⟨text, rfl, inside⟩ := value_string read starts
      rw [inside] at taken
      cases taken
      exact ⟨rfl, rfl⟩
    · exact (unexpected_ne_ok _ _ _ taken).elim
  · rintro ⟨rfl, rfl⟩
    cases opens_of_value read with
    | string starts inside =>
      rw [text, starts]
      exact inside

private theorem follows_unit : Follows unit fun v _ => v = .null := by
  intro depth s v rest read x left
  constructor
  · intro taken
    unfold unit at taken
    split at taken
    · next starts =>
      obtain ⟨rfl, word⟩ := value_null read starts
      obtain ⟨_, word', taken⟩ := exists_of_bind_ok taken
      rw [word] at word'
      cases word'
      cases taken
      exact ⟨rfl, rfl⟩
    · exact (unexpected_ne_ok _ _ _ taken).elim
  · rintro ⟨rfl, rfl⟩
    cases opens_of_value read with
    | null starts word =>
      rw [unit, starts]
      show (finishWord _ _ >>= _) = _
      rw [word]
      rfl

/-- A value that is told as something, or null. -/
inductive Nullable {α : Type} (tells : Json → α → Prop) : Json → Option α → Prop
  | null : Nullable tells .null none
  | told {v : Json} {a : α} (other : v ≠ .null) (told : tells v a) : Nullable tells v (some a)

theorem Follows.optional {α : Type} {reader : Reader α} {tells : Json → α → Prop}
    (follows : Follows reader tells) : Follows (optional reader) (Nullable tells) := by
  intro depth s v rest read x left
  have skipped := read
  rw [← value_skipSpaces] at skipped
  constructor
  · intro taken
    unfold Read.optional at taken
    split at taken
    · next starts =>
      obtain ⟨rfl, word⟩ := value_null read starts
      obtain ⟨_, word', taken⟩ := exists_of_bind_ok taken
      rw [word] at word'
      cases word'
      cases taken
      exact ⟨rfl, .null⟩
    · next other =>
      obtain ⟨⟨a, behind⟩, inside, taken⟩ := exists_of_bind_ok taken
      cases taken
      obtain ⟨rfl, told⟩ := (follows skipped _ _).mp inside
      refine ⟨rfl, .told ?_ told⟩
      rintro rfl
      cases opens_of_value read with
      | null starts _ => exact other _ starts
  · rintro ⟨rfl, nullable⟩
    cases nullable with
    | null =>
      cases opens_of_value read with
      | null starts word =>
        rw [Read.optional, starts]
        show (finishWord _ _ >>= _) = _
        rw [word]
        rfl
    | told other told =>
      have inside := (follows skipped _ _).mpr ⟨rfl, told⟩
      unfold Read.optional
      split
      · next starts => exact (other (value_null read starts).1).elim
      · rw [inside]
        rfl

theorem Follows.map {α β : Type} {reader : Reader α} {tells : Json → α → Prop}
    (follows : Follows reader tells) (f : α → β) :
    Follows (fun s => do
      let (x, rest) ← reader s
      .ok (f x, rest)) fun v y => ∃ x, tells v x ∧ y = f x := by
  intro depth s v rest read y left
  constructor
  · intro taken
    obtain ⟨⟨x, behind⟩, inside, taken⟩ := exists_of_bind_ok taken
    cases taken
    obtain ⟨rfl, told⟩ := (follows read _ _).mp inside
    exact ⟨rfl, x, told, rfl⟩
  · rintro ⟨rfl, x, told, rfl⟩
    have inside := (follows read _ _).mpr ⟨rfl, told⟩
    show (reader s >>= _) = _
    rw [inside]
    rfl

section Runs

variable (inner : Reader Json)

/-- How the elements of a list are read, one after another. -/
inductive ElementsRun : Bool → List Symbol → List Json → List Symbol → Prop
  | close {first : Bool} {s rest : List Symbol} (next : nextElement first s = .ok (.close rest)) :
      ElementsRun first s [] rest
  | item {first : Bool} {s t behind rest : List Symbol} {v : Json} {vs : List Json}
      (next : nextElement first s = .ok (.item t)) (one : inner t = .ok (v, behind))
      (others : ElementsRun false behind vs rest) : ElementsRun first s (v :: vs) rest

/-- How the members of an object are read, with a unit of fuel for each. -/
inductive MembersRun : Nat → Bool → List Symbol → List (String × Json) → List Symbol → Prop
  | close {fuel : Nat} {first : Bool} {s rest : List Symbol}
      (next : nextKey first s = .ok (.close rest)) : MembersRun (fuel + 1) first s [] rest
  | item {fuel : Nat} {first : Bool} {s t u w behind rest : List Symbol} {key : String} {v : Json}
      {ms : List (String × Json)} (next : nextKey first s = .ok (.item t))
      (named : string t = .ok (key, u)) (separated : colon u = .ok w)
      (one : inner w = .ok (v, behind)) (others : MembersRun fuel false behind ms rest) :
      MembersRun (fuel + 1) first s ((key, v) :: ms) rest

variable {inner}

theorem elementsRun_of_read {fuel : Nat} {first : Bool} {s rest : List Symbol} {vs : List Json}
    (read : elements inner fuel first s = .ok (vs, rest)) : ElementsRun inner first s vs rest := by
  induction fuel generalizing first s vs with
  | zero => cases read
  | succ fuel ih =>
    rw [elements] at read
    obtain ⟨step, next, read⟩ := exists_of_bind_ok read
    cases step with
    | close left =>
      cases read
      exact .close next
    | item t =>
      obtain ⟨⟨v, behind⟩, one, read⟩ := exists_of_bind_ok read
      obtain ⟨⟨vs, left⟩, others, read⟩ := exists_of_bind_ok read
      cases read
      exact .item next one (ih others)

theorem membersRun_of_read {fuel : Nat} {first : Bool} {s rest : List Symbol}
    {ms : List (String × Json)} (read : members inner fuel first s = .ok (ms, rest)) :
    MembersRun inner fuel first s ms rest := by
  induction fuel generalizing first s ms with
  | zero => cases read
  | succ fuel ih =>
    rw [members] at read
    obtain ⟨step, next, read⟩ := exists_of_bind_ok read
    cases step with
    | close left =>
      cases read
      exact .close next
    | item t =>
      obtain ⟨⟨key, u⟩, named, read⟩ := exists_of_bind_ok read
      obtain ⟨w, separated, read⟩ := exists_of_bind_ok read
      obtain ⟨⟨v, behind⟩, one, read⟩ := exists_of_bind_ok read
      obtain ⟨⟨ms, left⟩, others, read⟩ := exists_of_bind_ok read
      cases read
      exact .item next named separated one (ih others)

end Runs

/-- A value of an enumeration: its name, or an object with its name as the only member and nothing
under it. -/
inductive Named {α : Type} (name : α → String) : Json → α → Prop
  | string (a : α) : Named name (.string (name a)) a
  | object (a : α) : Named name (.object [(name a, .null)]) a

section Variant

variable {α : Type} {names : List (String × α)} {name : α → String}
  (known_iff : ∀ (s : String) (a : α), names.lookup s = some a ↔ s = name a)

include known_iff

private theorem knownName_eq_ok_iff {s rest : List Symbol} {key : String}
    (inside : string s = .ok (key, rest)) (a : α) (left : List Symbol) :
    knownName names s = .ok (a, left) ↔ left = rest ∧ key = name a := by
  simp only [knownName, bind, Except.bind, inside]
  cases known : names.lookup key with
  | none =>
    constructor
    · rintro ⟨⟩
    · rintro ⟨-, same⟩
      rw [(known_iff key a).mpr same] at known
      cases known
  | some b =>
    simp only
    rw [Except.ok.injEq, Prod.mk.injEq, ← known_iff, known, Option.some.injEq]
    constructor
    · rintro ⟨rfl, rfl⟩
      exact ⟨rfl, rfl⟩
    · rintro ⟨rfl, rfl⟩
      exact ⟨rfl, rfl⟩

private theorem variant_object {below fuel : Nat} {s t rest : List Symbol}
    {items : List (String × Json)} (starts : skipSpaces s = .char '{' :: t)
    (run : MembersRun (value below) fuel true t items rest) (a : α) (left : List Symbol) :
    variant names s = .ok (a, left) ↔ left = rest ∧ items = [(name a, .null)] := by
  rw [variant, starts]
  simp only
  cases run with
  | close next =>
    rw [skipSpaces_of_closeKey next]
    constructor
    · rintro ⟨⟩
    · rintro ⟨-, ⟨⟩⟩
  | @item fuel _ _ t' u w behind _ key v ms next named separated one others =>
    obtain ⟨-, quoted⟩ | ⟨⟨⟩, -⟩ := skipSpaces_of_key next
    rw [quoted]
    constructor
    · intro taken
      obtain ⟨⟨a', u'⟩, known, taken⟩ := exists_of_bind_ok taken
      obtain ⟨rfl, rfl⟩ := (knownName_eq_ok_iff known_iff named _ _).mp known
      obtain ⟨w', separated', taken⟩ := exists_of_bind_ok taken
      rw [separated] at separated'
      cases separated'
      obtain ⟨⟨_, behind'⟩, nothing, taken⟩ := exists_of_bind_ok taken
      obtain ⟨rfl, rfl⟩ := (follows_unit one _ _).mp nothing
      simp only at taken
      split at taken
      · cases taken
      · next closes =>
        cases taken
        cases others with
        | close next =>
          rw [skipSpaces_of_closeKey next] at closes
          cases closes
          exact ⟨rfl, rfl⟩
        | item next =>
          obtain ⟨⟨⟩, -⟩ | ⟨-, _, comma, -⟩ := skipSpaces_of_key next
          rw [comma] at closes
          cases closes
      · cases taken
    · rintro ⟨rfl, same⟩
      obtain ⟨member, rfl⟩ := List.cons.inj same
      obtain ⟨rfl, rfl⟩ := Prod.mk.inj member
      have known := (knownName_eq_ok_iff known_iff named a u).mpr ⟨rfl, rfl⟩
      have nothing := (follows_unit one () behind).mpr ⟨rfl, rfl⟩
      cases others with
      | close next =>
        show (knownName names _ >>= _) = _
        rw [known]
        show (colon u >>= _) = _
        rw [separated]
        show (unit w >>= _) = _
        rw [nothing]
        simp only [bind, Except.bind, skipSpaces_of_closeKey next]

theorem follows_variant : Follows (variant names) (Named name) := by
  intro depth s v rest read a left
  constructor
  · intro taken
    have whole := taken
    unfold variant at taken
    split at taken
    · cases taken
    · next starts =>
      obtain ⟨key, rfl, inside⟩ := value_string read starts
      obtain ⟨rfl, rfl⟩ := (knownName_eq_ok_iff known_iff inside a left).mp taken
      exact ⟨rfl, .string a⟩
    · next starts =>
      obtain ⟨below, items, rfl, inside⟩ := value_object read starts
      obtain ⟨rfl, rfl⟩ :=
        (variant_object known_iff starts (membersRun_of_read inside) a left).mp whole
      exact ⟨rfl, .object a⟩
    · cases taken
  · rintro ⟨rfl, named⟩
    cases named with
    | string =>
      cases opens_of_value read with
      | string starts inside =>
        rw [variant, starts]
        exact (knownName_eq_ok_iff known_iff inside a _).mpr ⟨rfl, rfl⟩
    | object =>
      cases opens_of_value read with
      | object deeper starts inside =>
        exact (variant_object known_iff starts (membersRun_of_read inside) a _).mpr ⟨rfl, rfl⟩

end Variant

/-- A field of a record that is held in a place of its own and empty until it is read. -/
structure Slot (σ : Type) where
  {τ : Type}
  name : String
  get : σ → Option τ
  set : τ → σ → σ
  reader : Reader τ
  tells : Json → τ → Prop
  get_set : ∀ x held, get (set x held) = some x
  follows : Follows reader tells

namespace Slot

variable {σ : Type}

def field (slot : Slot σ) : RecordField σ :=
  { name := slot.name
    isSet := fun held => (slot.get held).isSome
    read := fun held s => do
      let (x, rest) ← slot.reader s
      .ok (slot.set x held, rest) }

private theorem isSet_eq_false_iff (slot : Slot σ) {held : σ} :
    slot.field.isSet held = false ↔ slot.get held = none :=
  Option.isSome_eq_false_iff.trans Option.isNone_iff_eq_none

private theorem field_read (slot : Slot σ) {depth : Nat} {s rest : List Symbol} {v : Json}
    (read : value depth s = .ok (v, rest)) (held next : σ) (left : List Symbol) :
    slot.field.read held s = .ok (next, left) ↔
      left = rest ∧ ∃ x, slot.tells v x ∧ next = slot.set x held := by
  constructor
  · intro taken
    obtain ⟨⟨x, behind⟩, inside, taken⟩ := exists_of_bind_ok taken
    cases taken
    obtain ⟨rfl, told⟩ := (slot.follows read _ _).mp inside
    exact ⟨rfl, x, told, rfl⟩
  · rintro ⟨rfl, x, told, rfl⟩
    show (slot.reader s >>= _) = _
    rw [(slot.follows read _ _).mpr ⟨rfl, told⟩]
    rfl

/-- What members make of a slot: it is left alone by other names and filled by its own, once. -/
def Fills (slot : Slot σ) (held : σ) (members : List (String × Json)) (last : σ) : Prop :=
  (valuesOf slot.name members = [] ∧ slot.get last = slot.get held) ∨
    (slot.get held = none ∧ ∃ v x, valuesOf slot.name members = [v] ∧ slot.tells v x ∧
      slot.get last = some x)

end Slot

/-- Slots with names and places of their own, which hold a whole record together. -/
structure Slots {σ : Type} (slots : List (Slot σ)) : Prop where
  distinct : (slots.map Slot.name).Nodup
  get_set_other : ∀ slot ∈ slots, ∀ other ∈ slots, other.name ≠ slot.name → ∀ x held,
    other.get (slot.set x held) = other.get held
  ext : ∀ held held', (∀ slot ∈ slots, slot.get held = slot.get held') → held = held'

section Slots

variable {σ : Type} (slots : List (Slot σ))

/-- The members of an object, taken in one after another. -/
inductive Collects : σ → List (String × Json) → σ → Prop
  | nil {held : σ} : Collects held [] held
  | unknown {held last : σ} {key : String} {v : Json} {members : List (String × Json)}
      (unknown : ∀ slot ∈ slots, slot.name ≠ key) (others : Collects held members last) :
      Collects held ((key, v) :: members) last
  | known {held last : σ} {slot : Slot σ} {v : Json} {x : slot.τ}
      {members : List (String × Json)} (mem : slot ∈ slots) (unset : slot.get held = none)
      (told : slot.tells v x) (others : Collects (slot.set x held) members last) :
      Collects held ((slot.name, v) :: members) last

/-- The elements of a list, taken in by the first slots. -/
inductive CollectsList : List (Slot σ) → σ → List Json → σ → Prop
  | done {slots : List (Slot σ)} {held : σ} : CollectsList slots held [] held
  | item {slot : Slot σ} {slots : List (Slot σ)} {held last : σ} {v : Json} {x : slot.τ}
      {vs : List Json} (told : slot.tells v x)
      (others : CollectsList slots (slot.set x held) vs last) :
      CollectsList (slot :: slots) held (v :: vs) last

variable {slots}

private theorem collects_nil_iff {held last : σ} : Collects slots held [] last ↔ last = held := by
  constructor
  · rintro ⟨⟩
    rfl
  · rintro rfl
    exact .nil

private theorem collects_cons_iff {held last : σ} {key : String} {v : Json}
    {members : List (String × Json)} :
    Collects slots held ((key, v) :: members) last ↔
      (∃ slot ∈ slots, slot.name = key ∧ slot.get held = none ∧
        ∃ x, slot.tells v x ∧ Collects slots (slot.set x held) members last) ∨
      (∀ slot ∈ slots, slot.name ≠ key) ∧ Collects slots held members last := by
  constructor
  · intro collects
    cases collects with
    | unknown unknown others => exact .inr ⟨unknown, others⟩
    | known mem unset told others => exact .inl ⟨_, mem, rfl, unset, _, told, others⟩
  · rintro (⟨slot, mem, rfl, unset, x, told, others⟩ | ⟨unknown, others⟩)
    · exact .known mem unset told others
    · exact .unknown unknown others

/-- In whatever order the members come, each slot is filled by the values of its name. -/
private theorem Slots.collects_iff (isSlots : Slots slots) {held last : σ}
    {members : List (String × Json)} :
    Collects slots held members last ↔ ∀ slot ∈ slots, slot.Fills held members last := by
  constructor
  · intro collects
    induction collects with
    | nil => exact fun slot _ => .inl ⟨rfl, rfl⟩
    | unknown unknown others ih =>
      intro slot mem
      have same := valuesOf_cons_of_ne (unknown slot mem).symm
      rw [Slot.Fills, same]
      exact ih slot mem
    | @known held last slot v x members mem unset told others ih =>
      intro other mem'
      by_cases named : other.name = slot.name
      · obtain rfl : other = slot := List.inj_on_of_nodup_map isSlots.distinct mem' mem named
        have set := other.get_set x held
        rcases ih other mem with ⟨none, kept⟩ | ⟨empty, -⟩
        · exact .inr ⟨unset, v, x, by rw [valuesOf_cons_self, none], told, by rw [kept, set]⟩
        · rw [set] at empty
          cases empty
      · have set := isSlots.get_set_other slot mem other mem' named x held
        rw [Slot.Fills, valuesOf_cons_of_ne (Ne.symm named), ← set]
        exact ih other mem'
  · -- Each member fills its own slot, and what the others are filled by stays as it was.
    intro fills
    induction members generalizing held with
    | nil =>
      obtain rfl : held = last := by
        refine isSlots.ext _ _ fun slot mem => ?_
        rcases fills slot mem with ⟨-, kept⟩ | ⟨-, _, _, one, -⟩
        · exact kept.symm
        · cases one
      exact .nil
    | cons member members ih =>
      obtain ⟨key, v⟩ := member
      by_cases known : ∃ slot ∈ slots, slot.name = key
      · obtain ⟨slot, mem, rfl⟩ := known
        rcases fills slot mem with ⟨none, -⟩ | ⟨unset, w, x, one, told, filled⟩
        · rw [valuesOf_cons_self] at none
          cases none
        · rw [valuesOf_cons_self] at one
          obtain ⟨rfl, none⟩ := List.cons.inj one
          refine .known mem unset told (ih fun other mem' => ?_)
          by_cases named : other.name = slot.name
          · obtain rfl : other = slot := List.inj_on_of_nodup_map isSlots.distinct mem' mem named
            exact .inl ⟨none, by rw [filled, other.get_set]⟩
          · have others := fills other mem'
            rw [Slot.Fills, valuesOf_cons_of_ne (Ne.symm named)] at others
            rw [Slot.Fills, isSlots.get_set_other slot mem other mem' named x held]
            exact others
      · have unknown : ∀ slot ∈ slots, slot.name ≠ key := fun slot mem same =>
          known ⟨slot, mem, same⟩
        refine .unknown unknown (ih fun slot mem => ?_)
        have same := fills slot mem
        rwa [Slot.Fills, valuesOf_cons_of_ne (unknown slot mem).symm] at same

end Slots

namespace Form

variable {σ α : Type} {form : Form σ α} {slots : List (Slot σ)}

private theorem find?_field_unknown {key : String} (unknown : ∀ slot ∈ slots, slot.name ≠ key) :
    (slots.map Slot.field).find? (fun f => f.name = key) = none := by
  rw [List.find?_eq_none]
  intro field mem
  obtain ⟨slot, member, rfl⟩ := List.mem_map.mp mem
  rw [decide_eq_true_eq]
  exact unknown slot member

private theorem find?_field_known (distinct : (slots.map Slot.name).Nodup) {slot : Slot σ}
    (mem : slot ∈ slots) :
    (slots.map Slot.field).find? (fun f => f.name = slot.name) = some slot.field := by
  induction slots with
  | nil => cases mem
  | cons other slots ih =>
    rw [List.map_cons]
    by_cases named : other.name = slot.name
    · obtain rfl : other = slot :=
        List.inj_on_of_nodup_map distinct List.mem_cons_self mem named
      exact List.find?_cons_of_pos (decide_eq_true rfl)
    · rw [List.find?_cons_of_neg (by rw [decide_eq_true_eq]; exact named)]
      refine ih (List.nodup_cons.mp distinct).2 ?_
      rcases List.mem_cons.mp mem with rfl | later
      · exact (named rfl).elim
      · exact later

section Member

variable {fuel : Nat} {first : Bool} {s t u w : List Symbol} {key : String}
  (next : nextKey first s = .ok (.item t)) (named : string t = .ok (key, u))
  (separated : colon u = .ok w)

include next named separated

private theorem readMembers_unknown {behind : List Symbol}
    (unknown : form.fields.find? (fun f => f.name = key) = none)
    (passed : ignored w = .ok behind) (held : σ) :
    form.readMembers (fuel + 1) first held s = form.readMembers fuel false held behind := by
  simp only [readMembers, bind, Except.bind, next, named, unknown, separated, passed]

private theorem fresh_of_readMembers {field : RecordField σ}
    (known : form.fields.find? (fun f => f.name = key) = some field) {held : σ}
    {read : σ × List Symbol} (taken : form.readMembers (fuel + 1) first held s = .ok read) :
    field.isSet held = false ∧ ∃ held' behind, field.read held w = .ok (held', behind) ∧
      form.readMembers fuel false held' behind = .ok read := by
  simp only [readMembers, bind, Except.bind, next, named, known, separated] at taken
  split at taken
  · cases taken
  · next fresh =>
    obtain ⟨⟨held', behind⟩, inside, others⟩ := exists_of_bind_ok taken
    exact ⟨Bool.eq_false_iff.mpr fresh, held', behind, inside, others⟩

end Member

private theorem readMembers_iff (fields : form.fields = slots.map Slot.field)
    (isSlots : Slots slots) {depth fuel : Nat} {first : Bool} {s rest : List Symbol}
    {ms : List (String × Json)} (run : MembersRun (value depth) fuel first s ms rest)
    (held last : σ) (left : List Symbol) :
    form.readMembers fuel first held s = .ok (last, left) ↔
      left = rest ∧ Collects slots held ms last := by
  induction run generalizing held with
  | close next =>
    rw [readMembers_close next, collects_nil_iff, Except.ok.injEq, Prod.mk.injEq,
      eq_comm (a := left), eq_comm (a := last), and_comm]
  | @item fuel first s t u w behind rest key v ms next named separated one others ih =>
    rw [collects_cons_iff]
    by_cases known : ∃ slot ∈ slots, slot.name = key
    · obtain ⟨slot, mem, rfl⟩ := known
      have found := find?_field_known isSlots.distinct mem
      rw [← fields] at found
      constructor
      · intro taken
        obtain ⟨fresh, held', behind', inside, others⟩ :=
          fresh_of_readMembers next named separated found taken
        obtain ⟨rfl, x, told, rfl⟩ := (slot.field_read one held held' behind').mp inside
        obtain ⟨same, others⟩ := (ih _).mp others
        exact ⟨same, .inl ⟨slot, mem, rfl, slot.isSet_eq_false_iff.mp fresh, x, told, others⟩⟩
      · rintro ⟨rfl, ⟨other, mem', same, unset, x, told, others⟩ | ⟨unknown, -⟩⟩
        · obtain rfl : other = slot := List.inj_on_of_nodup_map isSlots.distinct mem' mem same
          rw [readMembers_item next named found (other.isSet_eq_false_iff.mpr unset) separated
            ((other.field_read one held _ behind).mpr ⟨rfl, x, told, rfl⟩)]
          exact (ih _).mpr ⟨rfl, others⟩
        · exact (unknown slot mem rfl).elim
    · have unknown : ∀ slot ∈ slots, slot.name ≠ key := fun slot mem same =>
        known ⟨slot, mem, same⟩
      have missing := find?_field_unknown unknown
      rw [← fields] at missing
      rw [readMembers_unknown next named separated missing (ignored_of_value one)]
      refine (ih held).trans (and_congr_right fun _ => ?_)
      constructor
      · exact fun others => .inr ⟨unknown, others⟩
      · rintro (⟨slot, mem, same, -⟩ | ⟨-, others⟩)
        · exact (unknown slot mem same).elim
        · exact others

private theorem endList_ne_ok {first : Bool} {s t rest : List Symbol}
    (next : nextElement first s = .ok (.item t)) :
    endList s ≠ .ok rest := by
  intro ended
  unfold endList at ended
  split at ended
  · cases ended
  · next closes =>
    rw [nextElement, closes] at next
    cases next
  · split at ended <;> cases ended
  · cases ended

private theorem readElements_iff {depth : Nat} {first : Bool} {s rest : List Symbol}
    {vs : List Json} (run : ElementsRun (value depth) first s vs rest) (held last : σ)
    (left : List Symbol) :
    readElements (slots.map Slot.field) first held s = .ok (last, left) ↔
      left = rest ∧ CollectsList slots held vs last := by
  induction run generalizing slots held with
  | @close first s rest next =>
    have empty : CollectsList slots held [] last ↔ last = held := by
      constructor
      · rintro ⟨⟩
        rfl
      · rintro rfl
        exact .done
    have read : readElements (slots.map Slot.field) first held s = .ok (held, rest) := by
      cases slots with
      | nil =>
        show (endList s >>= _) = _
        rw [endList, skipSpaces_of_close next]
        rfl
      | cons slot slots =>
        rw [List.map_cons, readElements, next]
        rfl
    rw [read, empty, Except.ok.injEq, Prod.mk.injEq, eq_comm (a := left), eq_comm (a := last),
      and_comm]
  | @item first s t behind rest v vs next one others ih =>
    cases slots with
    | nil =>
      -- There is an element more than there are slots.
      refine iff_of_false ?_ ?_
      · intro taken
        obtain ⟨left', ended, -⟩ := exists_of_bind_ok taken
        exact endList_ne_ok next ended
      · rintro ⟨-, ⟨⟩⟩
    | cons slot slots =>
      rw [List.map_cons, readElements, next]
      show (slot.field.read held t >>= _) = _ ↔ _
      constructor
      · intro taken
        obtain ⟨⟨held', behind'⟩, inside, taken⟩ := exists_of_bind_ok taken
        obtain ⟨rfl, x, told, rfl⟩ := (slot.field_read one held held' behind').mp inside
        obtain ⟨same, others⟩ := (ih _).mp taken
        exact ⟨same, .item told others⟩
      · rintro ⟨rfl, collects⟩
        cases collects with
        | item told others =>
          rw [(slot.field_read one held _ behind).mpr ⟨rfl, _, told, rfl⟩]
          exact (ih _).mpr ⟨rfl, others⟩

/-- What a record is told by. -/
inductive Told (form : Form σ α) (slots : List (Slot σ)) : Json → α → Prop
  | object {ms : List (String × Json)} {held : σ} {a : α}
      (fills : ∀ slot ∈ slots, slot.Fills form.start ms held) (whole : form.finish held = .ok a) :
      Told form slots (.object ms) a
  | array {items : List Json} {held : σ} {a : α}
      (collects : CollectsList slots form.start items held) (whole : form.finish held = .ok a) :
      Told form slots (.array items) a

end Form

theorem Slots.follows {σ α : Type} {form : Form σ α} {slots : List (Slot σ)}
    (isSlots : Slots slots) (fields : form.fields = slots.map Slot.field) :
    Follows form.read (form.Told slots) := by
  intro depth s v rest read a left
  constructor
  · intro taken
    unfold Form.read at taken
    split at taken
    · next t starts =>
      obtain ⟨below, items, rfl, inside⟩ := value_object read starts
      obtain ⟨⟨held, behind⟩, gathered, taken⟩ := exists_of_bind_ok taken
      obtain ⟨rfl, collects⟩ :=
        (Form.readMembers_iff fields isSlots (membersRun_of_read inside) _ _ _).mp gathered
      simp only at taken
      split at taken
      · next whole =>
        cases taken
        exact ⟨rfl, .object (isSlots.collects_iff.mp collects) whole⟩
      · cases taken
    · next t starts =>
      obtain ⟨below, items, rfl, inside⟩ := value_array read starts
      obtain ⟨⟨held, behind⟩, gathered, taken⟩ := exists_of_bind_ok taken
      rw [fields] at gathered
      obtain ⟨rfl, collects⟩ :=
        (Form.readElements_iff (elementsRun_of_read inside) _ _ _).mp gathered
      simp only at taken
      split at taken
      · next whole =>
        cases taken
        exact ⟨rfl, .array collects whole⟩
      · cases taken
    · exact (unexpected_ne_ok _ _ _ taken).elim
  · rintro ⟨rfl, told⟩
    cases told with
    | object fills whole =>
      cases opens_of_value read with
      | object deeper starts inside =>
        have gathered := (Form.readMembers_iff fields isSlots (membersRun_of_read inside)
          _ _ left).mpr ⟨rfl, isSlots.collects_iff.mpr fills⟩
        rw [Form.read, starts]
        show (form.readMembers _ true form.start _ >>= _) = _
        rw [gathered]
        simp only [bind, Except.bind, whole]
    | array collects whole =>
      cases opens_of_value read with
      | array deeper starts inside =>
        have gathered := (Form.readElements_iff (elementsRun_of_read inside)
          _ _ left).mpr ⟨rfl, collects⟩
        rw [Form.read, starts]
        show (Form.readElements form.fields true form.start _ >>= _) = _
        rw [fields, gathered]
        simp only [bind, Except.bind, whole]

end Read
end ShowRemote.Json
