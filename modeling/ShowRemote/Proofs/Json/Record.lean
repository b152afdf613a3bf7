import ShowRemote.Json.Record
import ShowRemote.Proofs.Json.Grammar

/-!
Records read from the objects that spell them. The members of an object are gathered one after
another into the fields of a record (`Gathers`), and a text of the object is read as the record that
they make up, however it is spelled (`readWhole_of_gathers`).
-/

set_option autoImplicit false

namespace ShowRemote.Json.Read

open Text (Symbol)

section Leaves

variable {depth : Nat} {front : List Char} {s : String}

private theorem exists_of_spells_string (spells : Spells depth front (.string s)) :
    ∃ inside, front = '"' :: (inside ++ ['"']) ∧ SpellsString inside s.toList := by
  cases depth with
  | zero =>
    cases spells with
    | string inner => exact ⟨_, rfl, inner⟩
  | succ depth =>
    cases spells with
    | string inner => exact ⟨_, rfl, inner⟩

private theorem skipSpaces_string (spells : Spells depth front (.string s)) {b : List Char}
    (blank : IsBlank b) (rest : List Symbol) :
    ∃ tail, skipSpaces (b.map .char ++ (front.map .char ++ rest)) = .char '"' :: tail ∧
      string tail = .ok (s, rest) := by
  obtain ⟨inside, rfl, inner⟩ := exists_of_spells_string spells
  rw [List.map_cons, List.map_append, List.cons_append, List.append_assoc,
    skipSpaces_blank_cons blank (by decide)]
  exact ⟨_, rfl, string_of_spells inner rest⟩

theorem text_of_spells (spells : Spells depth front (.string s)) {b : List Char}
    (blank : IsBlank b) (rest : List Symbol) :
    text (b.map .char ++ (front.map .char ++ rest)) = .ok (s, rest) := by
  obtain ⟨tail, skipped, read⟩ := skipSpaces_string spells blank rest
  rw [text, skipped]
  exact read

variable {α : Type} {names : List (String × α)} {a : α}

theorem optional_variant_of_spells (known : names.lookup s = some a)
    (spells : Spells depth front (.string s)) {b : List Char} (blank : IsBlank b)
    (rest : List Symbol) :
    optional (variant names) (b.map .char ++ (front.map .char ++ rest)) = .ok (some a, rest) := by
  obtain ⟨tail, skipped, read⟩ := skipSpaces_string spells blank rest
  have unspaced : skipSpaces (.char '"' :: tail) = .char '"' :: tail :=
    skipSpaces_cons (by decide) tail
  have name : knownName names tail = .ok (a, rest) := by
    simp only [knownName, bind, Except.bind, read, known]
  rw [optional, skipped]
  show (variant names (.char '"' :: tail) >>= _) = _
  rw [variant, unspaced]
  show (knownName names tail >>= _) = _
  rw [name]
  rfl

end Leaves

/-- A field takes in a value, however that is spelled. -/
structure RecordField.Takes {σ : Type} (field : RecordField σ) (held : σ) (v : Json) (next : σ) :
    Prop where
  isFresh : field.isSet held = false
  reads : ∀ {depth : Nat} {front : List Char}, Spells depth front v → ∀ {b : List Char},
    IsBlank b → ∀ {rest : List Symbol}, Ends rest →
      field.read held (b.map .char ++ (front.map .char ++ rest)) = .ok (next, rest)

namespace Form

variable {σ α : Type} (form : Form σ α)

/-- The members of an object, taken in one after another. -/
inductive Gathers : σ → List (String × Json) → σ → Prop
  | nil {held : σ} : Gathers held [] held
  | cons {held next last : σ} {field : RecordField σ} {key : String} {v : Json}
      {members : List (String × Json)}
      (known : form.fields.find? (fun f => f.name = key) = some field)
      (takes : field.Takes held v next) (others : Gathers next members last) :
      Gathers held ((key, v) :: members) last

variable {form}

theorem readMembers_close {first : Bool} {s rest : List Symbol}
    (next : nextKey first s = .ok (.close rest)) (held : σ) (fuel : Nat) :
    form.readMembers (fuel + 1) first held s = .ok (held, rest) := by
  rw [readMembers, next]
  rfl

theorem readMembers_item {first : Bool} {s t u w x : List Symbol} {key : String} {held held' : σ}
    {field : RecordField σ} {fuel : Nat} (next : nextKey first s = .ok (.item t))
    (named : string t = .ok (key, u))
    (known : form.fields.find? (fun f => f.name = key) = some field)
    (isFresh : field.isSet held = false) (colon : colon u = .ok w)
    (read : field.read held w = .ok (held', x)) :
    form.readMembers (fuel + 1) first held s = form.readMembers fuel false held' x := by
  simp only [readMembers, bind, Except.bind, next, named, known, isFresh, colon, read,
    Bool.false_eq_true, if_false]

variable {depth : Nat} {front : List Char} {members : List (String × Json)} {held last : σ}

private theorem readMembers_of_onward
    (spells : Onward '}' (SpellsMember (Spells depth)) front members)
    (gathers : form.Gathers held members last) (rest : List Symbol) {fuel : Nat}
    (lasts : front.length ≤ fuel) :
    form.readMembers fuel false held (front.map .char ++ rest) = .ok (last, rest) := by
  refine spells.fueled (P := fun fuel front members => ∀ held, form.Gathers held members last →
    form.readMembers fuel false held (front.map .char ++ rest) = .ok (last, rest))
    ?_ ?_ lasts held gathers
  · rintro fuel b blank held ⟨⟩
    rw [List.map_append, List.append_assoc]
    exact readMembers_close (nextKey_close blank false rest) _ fuel
  · intro fuel before behind front others member members blank blank' first onward ih held gathers
    obtain ⟨named, blankName, blankValue, has⟩ := first
    obtain - | ⟨known, takes, further⟩ := gathers
    have read := takes.reads has blankValue (ends_onward (by decide) onward rest)
    simp only [List.map_append, List.map_cons, List.cons_append, List.append_assoc]
    rw [readMembers_item (nextKey_comma blank blank' _) (string_of_spells named _) known
      takes.isFresh (colon_blank blankName _) read]
    exact ih _ further

private theorem readMembers_of_sequence
    (spells : Sequence '}' (SpellsMember (Spells depth)) front members)
    (gathers : form.Gathers held members last) (rest : List Symbol) {fuel : Nat}
    (lasts : front.length ≤ fuel) :
    form.readMembers (fuel + 1) true held (front.map .char ++ rest) = .ok (last, rest) := by
  cases spells with
  | empty blank =>
    cases gathers
    rw [List.map_append, List.append_assoc]
    exact readMembers_close (nextKey_close blank true rest) held fuel
  | @items b front others member members blank first onward =>
    obtain ⟨named, blankName, blankValue, has⟩ := first
    obtain - | ⟨known, takes, further⟩ := gathers
    have read := takes.reads has blankValue (ends_onward (by decide) onward rest)
    have left : others.length ≤ fuel := by
      simp only [List.length_append, List.length_cons] at lasts
      omega
    simp only [List.map_append, List.map_cons, List.cons_append, List.append_assoc]
    rw [readMembers_item (nextKey_first blank _) (string_of_spells named _) known
      takes.isFresh (colon_blank blankName _) read]
    exact readMembers_of_onward onward further rest left

end Form

theorem readWhole_of_gathers {σ α : Type} {form : Form σ α} {front : List Char}
    {members : List (String × Json)} {last : σ} {a : α}
    (spells : SpellsDocument front (.object members))
    (gathers : form.Gathers form.start members last) (whole : form.finish last = .ok a) :
    readWhole form.read (front.map .char) = .ok a := by
  obtain @⟨before, front, behind, _, blank, spells, blank'⟩ := spells
  obtain ⟨depth, inside, rfl, inner⟩ : ∃ depth inside, front = '{' :: inside ∧
      Sequence '}' (SpellsMember (Spells depth)) inside members := by
    cases spells with
    | object parts inner =>
      cases parts
      exact ⟨greatestDepth - 1, _, rfl, inner⟩
  have read : form.read ((before ++ ('{' :: inside ++ behind)).map .char) =
      .ok (a, behind.map .char) := by
    rw [List.map_append, List.map_append, List.map_cons, List.cons_append, Form.read,
      skipSpaces_blank_cons blank (by decide)]
    have lasts : inside.length ≤ (inside.map Symbol.char ++ behind.map Symbol.char).length := by
      simp
    have gathered := Form.readMembers_of_sequence inner gathers (behind.map Symbol.char) lasts
    simp only [bind, Except.bind, gathered, whole]
  have skipped := skipSpaces_blank blank' []
  rw [List.append_nil] at skipped
  exact readWhole_of_read read skipped

end ShowRemote.Json.Read
