import ShowRemote.Json.Document
import ShowRemote.Proofs.Json.Spelling
import ShowRemote.Proofs.Text.Numeral

/-!
The texts that spell a document. A value is a word, a number, a string in any spelling, or a list or
an object of such values, with blanks between its parts; `Spells depth` holds the texts of values
with at most so many open lists and objects at any point. Each of them is read as the document that
it spells, with every member in its place.

Main statement: `readWhole_of_spells`.
-/

set_option autoImplicit false

namespace ShowRemote.Json

open Text (Symbol)

def IsBlank (b : List Char) : Prop :=
  ∀ c ∈ b, c ∈ [' ', '\n', '\t', '\r']

section Sequence

variable {α : Type} (close : Char) (item : List Char → α → Prop)

/-- A list of items from behind one of them on, up to the closing character. -/
inductive Onward : List Char → List α → Prop
  | close {b : List Char} (blank : IsBlank b) : Onward (b ++ [close]) []
  | item {before behind front rest : List Char} {a : α} {as : List α} (blank : IsBlank before)
      (blank' : IsBlank behind) (first : item front a) (others : Onward rest as) :
      Onward (before ++ ',' :: (behind ++ (front ++ rest))) (a :: as)

/-- A list of items with commas between them, up to the closing character. -/
inductive Sequence : List Char → List α → Prop
  | empty {b : List Char} (blank : IsBlank b) : Sequence (b ++ [close]) []
  | items {b front rest : List Char} {a : α} {as : List α} (blank : IsBlank b)
      (first : item front a) (others : Onward close item rest as) :
      Sequence (b ++ (front ++ rest)) (a :: as)

variable {close item}

/-- What holds at the closing character and comes back over every item holds of a list, with a unit
of fuel for each. The fuel lasts, since every further item has a comma. -/
theorem Onward.fueled {P : Nat → List Char → List α → Prop}
    (closes : ∀ (fuel : Nat) {b : List Char}, IsBlank b → P (fuel + 1) (b ++ [close]) [])
    (goesOn : ∀ (fuel : Nat) {before behind front rest : List Char} {a : α} {as : List α},
      IsBlank before → IsBlank behind → item front a → Onward close item rest as → P fuel rest as →
        P (fuel + 1) (before ++ ',' :: (behind ++ (front ++ rest))) (a :: as))
    {front : List Char} {as : List α} (spells : Onward close item front as) {fuel : Nat}
    (lasts : front.length ≤ fuel) : P fuel front as := by
  induction spells generalizing fuel with
  | close blank =>
    rw [List.length_append, List.length_singleton] at lasts
    obtain ⟨fuel, rfl⟩ : ∃ n, fuel = n + 1 := ⟨fuel - 1, by omega⟩
    exact closes fuel blank
  | item blank blank' first others ih =>
    simp only [List.length_append, List.length_cons] at lasts
    obtain ⟨fuel, rfl⟩ : ∃ n, fuel = n + 1 := ⟨fuel - 1, by omega⟩
    exact goesOn fuel blank blank' first others (ih (by omega))

end Sequence

/-- A name in quotes, a colon, and a value. -/
inductive SpellsMember (value : List Char → Json → Prop) : List Char → String × Json → Prop
  | mk {name before behind front : List Char} {key : String} {v : Json}
      (named : SpellsString name key.toList) (blank : IsBlank before) (blank' : IsBlank behind)
      (has : value front v) :
      SpellsMember value ('"' :: (name ++ '"' :: (before ++ ':' :: (behind ++ front)))) (key, v)

/-- A number is a text that is taken whole as one. -/
inductive SpellsNumber : List Char → Number → Prop
  | natural {c : Char} {digits : List Char} {n : Number} (digit : c.isDigit)
      (whole : Read.number false ((c :: digits).map .char) = .ok (n, [])) :
      SpellsNumber (c :: digits) n
  | negative {digits : List Char} {n : Number}
      (whole : Read.number true (digits.map .char) = .ok (n, [])) :
      SpellsNumber ('-' :: digits) n

/-- A value whose parts, if it may have any, are spelled by `inner`. -/
inductive SpellsWith (inner : Option (List Char → Json → Prop)) : List Char → Json → Prop
  | null : SpellsWith inner ['n', 'u', 'l', 'l'] .null
  | true : SpellsWith inner ['t', 'r', 'u', 'e'] (.bool true)
  | false : SpellsWith inner ['f', 'a', 'l', 's', 'e'] (.bool false)
  | number {front : List Char} {n : Number} (spells : SpellsNumber front n) :
      SpellsWith inner front (.number n)
  | string {front : List Char} {s : String} (spells : SpellsString front s.toList) :
      SpellsWith inner ('"' :: (front ++ ['"'])) (.string s)
  | array {value : List Char → Json → Prop} (parts : inner = some value) {front : List Char}
      {items : List Json} (spells : Sequence ']' value front items) :
      SpellsWith inner ('[' :: front) (.array items)
  | object {value : List Char → Json → Prop} (parts : inner = some value) {front : List Char}
      {members : List (String × Json)} (spells : Sequence '}' (SpellsMember value) front members) :
      SpellsWith inner ('{' :: front) (.object members)

def Spells : Nat → List Char → Json → Prop
  | 0 => SpellsWith none
  | depth + 1 => SpellsWith (some (Spells depth))

/-- A text that spells a document: a value between blanks. -/
inductive SpellsDocument : List Char → Json → Prop
  | mk {before front behind : List Char} {document : Json} (blank : IsBlank before)
      (spells : Spells greatestDepth front document) (blank' : IsBlank behind) :
      SpellsDocument (before ++ (front ++ behind)) document

namespace Read

private theorem isSpace_of_mem {c : Char} (mem : c ∈ [' ', '\n', '\t', '\r']) :
    isSpace (.char c) := by
  simp only [List.mem_cons, List.not_mem_nil, or_false] at mem
  rcases mem with rfl | rfl | rfl | rfl <;> rfl

theorem skipSpaces_blank {b : List Char} (blank : IsBlank b) (s : List Symbol) :
    skipSpaces (b.map .char ++ s) = skipSpaces s := by
  induction b with
  | nil => rfl
  | cons c b ih =>
    have space := isSpace_of_mem (blank c List.mem_cons_self)
    rw [List.map_cons, List.cons_append, skipSpaces, List.dropWhile_cons_of_pos space]
    exact ih fun c mem => blank c (List.mem_cons_of_mem _ mem)

theorem skipSpaces_cons {x : Symbol} (other : ¬ isSpace x) (s : List Symbol) :
    skipSpaces (x :: s) = x :: s :=
  List.dropWhile_cons_of_neg other

theorem exists_char_of_isDigit {x : Symbol} (digit : isDigit x) :
    ∃ c : Char, x = .char c ∧ c.isDigit := by
  cases x with
  | char c =>
    refine ⟨c, rfl, ?_⟩
    by_contra other
    rw [isDigit, digit?, Text.digitValue?_of_not_isDigit other] at digit
    cases digit
  | stray b => cases digit

def Ends (s : List Symbol) : Prop :=
  ∀ x ∈ s.head?, digit? x = none ∧ x ≠ .char '.' ∧ x ≠ .char 'e' ∧ x ≠ .char 'E'

private theorem finishDouble_append {negative : Bool} {significand : Nat} {exponent : Int}
    {n : Number} {s left : List Symbol}
    (read : finishDouble negative significand exponent s = .ok (n, left)) (rest : List Symbol) :
    finishDouble negative significand exponent (s ++ rest) = .ok (n, left ++ rest) := by
  unfold finishDouble at read ⊢
  split at read
  · cases read
    rfl
  · cases read

theorem finishExponent_unsigned {negative : Bool} {significand : Nat} {exponent : Int} {x : Symbol}
    (plus : x ≠ .char '+') (minus : x ≠ .char '-') (s : List Symbol) :
    finishExponent negative significand exponent (x :: s) =
      if isDigit x then do
        let (power, rest) ← exponentDigits (!false && significand ≠ 0) 0 (x :: s)
        finishDouble negative significand
          (if false then exponent - power else exponent + power) rest
      else Fault.next .invalidNumber (x :: s) := by
  rw [finishExponent]
  · exact fun digits same => plus (List.cons.inj same).1
  · exact fun digits same => minus (List.cons.inj same).1

private theorem Ends.not_isDigit {x : Symbol} {rest : List Symbol} (ends : Ends (x :: rest)) :
    ¬ isDigit x := by
  simp [isDigit, (ends x rfl).1]

section Numbers

variable {rest : List Symbol} (ends : Ends rest)

include ends

private theorem Ends.append_ne {x : Symbol} (mark : x = .char '.' ∨ x = .char 'e' ∨ x = .char 'E')
    {s : List Symbol} (other : ∀ power, s ≠ x :: power) (power : List Symbol) :
    s ++ rest ≠ x :: power := by
  intro same
  cases s with
  | nil =>
    obtain ⟨-, point, small, capital⟩ := ends x (by rw [List.nil_append] at same; rw [same]; rfl)
    rcases mark with mark | mark | mark
    · exact point mark
    · exact small mark
    · exact capital mark
  | cons y s =>
    obtain ⟨rfl, -⟩ := List.cons.inj same
    exact other s rfl

private theorem gatherDigits_append (total : Nat) (s : List Symbol) :
    gatherDigits total (s ++ rest) =
      ((gatherDigits total s).1, (gatherDigits total s).2 ++ rest) := by
  induction s generalizing total with
  | nil =>
    cases rest with
    | nil => rfl
    | cons x rest =>
      have undigit := (ends x rfl).1
      simp only [List.nil_append, gatherDigits, undigit]
  | cons x s ih =>
    simp only [List.cons_append, gatherDigits]
    cases digit? x with
    | none => rfl
    | some d =>
      simp only
      split
      · exact ih _
      · rfl

private theorem Ends.dropWhile_isDigit : rest.dropWhile isDigit = rest := by
  cases rest with
  | nil => rfl
  | cons x rest => exact List.dropWhile_cons_of_neg ends.not_isDigit

private theorem Ends.takeWhile_isDigit : rest.takeWhile isDigit = [] := by
  cases rest with
  | nil => rfl
  | cons x rest => exact List.takeWhile_cons_of_neg ends.not_isDigit

private theorem dropWhile_isDigit_append (s : List Symbol) :
    (s ++ rest).dropWhile isDigit = s.dropWhile isDigit ++ rest := by
  rw [List.dropWhile_append, ends.dropWhile_isDigit]
  split
  · next digits => rw [List.isEmpty_iff.mp digits, List.nil_append]
  · rfl

private theorem takeWhile_isDigit_append (s : List Symbol) :
    (s ++ rest).takeWhile isDigit = s.takeWhile isDigit := by
  rw [List.takeWhile_append, ends.takeWhile_isDigit]
  split
  · next digits =>
    rw [List.append_nil, (List.takeWhile_prefix isDigit).eq_of_length digits]
  · rfl

private theorem exponentDigits_append {strict : Bool} {total power : Nat} {s left : List Symbol}
    (read : exponentDigits strict total s = .ok (power, left)) :
    exponentDigits strict total (s ++ rest) = .ok (power, left ++ rest) := by
  induction s generalizing total with
  | nil =>
    cases read
    cases rest with
    | nil => rfl
    | cons x rest =>
      have undigit := (ends x rfl).1
      simp only [List.nil_append, exponentDigits, undigit]
  | cons x s ih =>
    simp only [List.cons_append, exponentDigits] at read ⊢
    cases digit : digit? x with
    | none =>
      rw [digit] at read
      cases read
      rfl
    | some d =>
      rw [digit] at read
      simp only at read ⊢
      split at read
      · cases read
      · next reach =>
        rw [if_neg reach]
        exact ih read

private theorem exponent_append {negative : Bool} {significand : Nat} {exponent : Int} {n : Number}
    {x : Symbol} {s left : List Symbol} (minus : Bool)
    (read : (if isDigit x then do
          let (power, rest) ← exponentDigits (!minus && significand ≠ 0) 0 (x :: s)
          finishDouble negative significand
            (if minus then exponent - power else exponent + power) rest
        else Fault.next .invalidNumber (x :: s)) = .ok (n, left)) :
    (if isDigit x then do
        let (power, rest) ← exponentDigits (!minus && significand ≠ 0) 0 (x :: (s ++ rest))
        finishDouble negative significand
          (if minus then exponent - power else exponent + power) rest
      else Fault.next .invalidNumber (x :: (s ++ rest))) = .ok (n, left ++ rest) := by
  split at read
  · next digit =>
    rw [if_pos digit]
    cases digits : exponentDigits (!minus && significand ≠ 0) 0 (x :: s) with
    | error fault =>
      rw [digits] at read
      cases read
    | ok gathered =>
      rw [digits] at read
      rw [← List.cons_append, exponentDigits_append ends digits]
      exact finishDouble_append read rest
  · cases read

private theorem finishExponent_append {negative : Bool} {significand : Nat} {exponent : Int}
    {n : Number} {s left : List Symbol}
    (read : finishExponent negative significand exponent s = .ok (n, left)) :
    finishExponent negative significand exponent (s ++ rest) = .ok (n, left ++ rest) := by
  cases s with
  | nil => cases read
  | cons x s =>
    by_cases plus : x = .char '+'
    · subst plus
      cases s with
      | nil => cases read
      | cons x s => exact exponent_append ends false read
    by_cases minus : x = .char '-'
    · subst minus
      cases s with
      | nil => cases read
      | cons x s => exact exponent_append ends true read
    rw [finishExponent_unsigned plus minus] at read
    rw [List.cons_append, finishExponent_unsigned plus minus]
    exact exponent_append ends false read

private theorem finishFraction_append {negative : Bool} {significand : Nat} {exponent : Int}
    {n : Number} {s left : List Symbol}
    (read : finishFraction negative significand exponent s = .ok (n, left)) :
    finishFraction negative significand exponent (s ++ rest) = .ok (n, left ++ rest) := by
  cases s with
  | nil => cases read
  | cons x s =>
    simp only [finishFraction, List.cons_append] at read ⊢
    rw [← List.cons_append, gatherDigits_append ends, dropWhile_isDigit_append ends]
    have behind :
        ((x :: s) ++ rest).length - ((gatherDigits significand (x :: s)).2 ++ rest).length =
          (x :: s).length - (gatherDigits significand (x :: s)).2.length := by
      simp only [List.length_append]
      omega
    split at read
    · next digit =>
      rw [if_pos digit, behind]
      split at read
      · next power same =>
        rw [same]
        exact finishExponent_append ends read
      · next power same =>
        rw [same]
        exact finishExponent_append ends read
      · next small capital =>
        split
        · next power same => exact (ends.append_ne (.inr (.inl rfl)) small power same).elim
        · next power same => exact (ends.append_ne (.inr (.inr rfl)) capital power same).elim
        · exact finishDouble_append read rest
    · cases read

private theorem finishNumber_append {negative : Bool} {significand excess : Nat} {n : Number}
    {s left : List Symbol} (read : finishNumber negative significand excess s = .ok (n, left)) :
    finishNumber negative significand excess (s ++ rest) = .ok (n, left ++ rest) := by
  unfold finishNumber at read ⊢
  split at read
  · exact finishFraction_append ends read
  · exact finishExponent_append ends read
  · exact finishExponent_append ends read
  · next point small capital =>
    split
    · next power same => exact (ends.append_ne (.inl rfl) point power same).elim
    · next power same => exact (ends.append_ne (.inr (.inl rfl)) small power same).elim
    · next power same => exact (ends.append_ne (.inr (.inr rfl)) capital power same).elim
    · split at read
      · next more =>
        rw [if_pos more]
        exact finishDouble_append read rest
      · next fits =>
        rw [if_neg fits]
        split at read
        · next positive =>
          cases read
          rw [if_pos positive]
        · next minus =>
          rw [if_neg minus]
          split at read
          · next inside =>
            cases read
            rw [if_pos inside]
          · next outside =>
            rw [if_neg outside]
            exact finishDouble_append read rest

private theorem number_append {negative : Bool} {n : Number} {s left : List Symbol}
    (read : number negative s = .ok (n, left)) :
    number negative (s ++ rest) = .ok (n, left ++ rest) := by
  cases s with
  | nil => cases read
  | cons x s =>
    simp only [number, List.cons_append] at read ⊢
    cases digit : digit? x with
    | none =>
      rw [digit] at read
      cases read
    | some d =>
      rw [digit] at read
      cases d with
      | zero =>
        cases s with
        | nil =>
          cases rest with
          | nil => exact finishNumber_append ends read
          | cons y rest =>
            simp only [List.nil_append, if_neg ends.not_isDigit]
            exact finishNumber_append ends read
        | cons y s =>
          simp only [List.cons_append] at read ⊢
          split at read
          · cases read
          · next undigit =>
            rw [if_neg undigit]
            exact finishNumber_append ends read
      | succ d =>
        simp only at read ⊢
        rw [gatherDigits_append ends, takeWhile_isDigit_append ends, dropWhile_isDigit_append ends]
        exact finishNumber_append ends read

end Numbers

abbrev StartsValue (c : Char) : Prop :=
  c ∉ [' ', '\n', '\t', '\r', ',', ']']

/-- Values that a reader takes off the front of a text, behind blanks. -/
structure IsReadBy (value : List Char → Json → Prop) (reader : Reader Json) : Prop where
  starts : ∀ {front : List Char} {v : Json}, value front v →
    ∃ c s, front = c :: s ∧ StartsValue c
  reads : ∀ {front : List Char} {v : Json}, value front v → ∀ {b : List Char}, IsBlank b →
    ∀ {rest : List Symbol}, Ends rest →
      reader (b.map .char ++ (front.map .char ++ rest)) = .ok (v, rest)

theorem isBlank_nil : IsBlank [] :=
  nofun

private theorem ends_of_mem {c : Char} (mem : c ∈ [' ', '\n', '\t', '\r', ',', ']', '}'])
    (rest : List Symbol) : Ends (.char c :: rest) := by
  rintro _ ⟨⟩
  simp only [List.mem_cons, List.not_mem_nil, or_false] at mem
  rcases mem with rfl | rfl | rfl | rfl | rfl | rfl | rfl <;> exact ⟨rfl, by decide⟩

private theorem ends_blank {b : List Char} (blank : IsBlank b) {rest : List Symbol}
    (ends : Ends rest) :
    Ends (b.map .char ++ rest) := by
  cases b with
  | nil => exact ends
  | cons c b =>
    have mem := blank c List.mem_cons_self
    refine ends_of_mem ?_ _
    simp only [List.mem_cons, List.not_mem_nil, or_false] at mem ⊢
    tauto

theorem ends_onward {α : Type} {close : Char} (closes : close ∈ [']', '}'])
    {item : List Char → α → Prop} {front : List Char} {as : List α}
    (spells : Onward close item front as) (rest : List Symbol) :
    Ends (front.map .char ++ rest) := by
  cases spells with
  | close blank =>
    rw [List.map_append, List.append_assoc]
    refine ends_blank blank (ends_of_mem ?_ _)
    simp only [List.mem_cons, List.not_mem_nil, or_false] at closes ⊢
    tauto
  | item blank blank' first others =>
    rw [List.map_append, List.append_assoc]
    exact ends_blank blank (ends_of_mem (by decide) _)

theorem skipSpaces_blank_cons {b : List Char} (blank : IsBlank b) {c : Char}
    (other : c ∉ [' ', '\n', '\t', '\r']) (rest : List Symbol) :
    skipSpaces (b.map .char ++ .char c :: rest) = .char c :: rest := by
  rw [skipSpaces_blank blank]
  refine skipSpaces_cons ?_ rest
  simp only [List.mem_cons, List.not_mem_nil, or_false, not_or] at other
  obtain ⟨space, line, tab, carriage⟩ := other
  simp [isSpace, space, line, tab, carriage]

private theorem StartsValue.not_mem {c : Char} (starts : StartsValue c) :
    c ∉ [' ', '\n', '\t', '\r'] ∧ c ≠ ',' ∧ c ≠ ']' := by
  simp only [StartsValue, List.mem_cons, List.not_mem_nil, or_false, not_or] at starts ⊢
  tauto

section Lists

variable {value : List Char → Json → Prop} {reader : Reader Json}

private theorem nextElement_close {b : List Char} (blank : IsBlank b) (first : Bool)
    (rest : List Symbol) :
    nextElement first (b.map .char ++ .char ']' :: rest) = .ok (.close rest) := by
  rw [nextElement, skipSpaces_blank_cons blank (by decide)]
  rfl

private theorem nextElement_comma {before behind : List Char} (blank : IsBlank before)
    (blank' : IsBlank behind) {c : Char} (starts : StartsValue c) (rest : List Symbol) :
    nextElement false (before.map .char ++ .char ',' :: (behind.map .char ++ .char c :: rest)) =
      .ok (.item (.char c :: rest)) := by
  obtain ⟨unblank, -, unclosed⟩ := starts.not_mem
  rw [nextElement, skipSpaces_blank_cons blank (by decide)]
  simp only [Bool.false_eq_true, if_false]
  rw [skipSpaces_blank_cons blank' unblank]
  split
  · next same => cases same
  · next same =>
    cases same
    exact (unclosed rfl).elim
  · rfl

private theorem nextElement_first {b : List Char} (blank : IsBlank b) {c : Char}
    (starts : StartsValue c) (rest : List Symbol) :
    nextElement true (b.map .char ++ .char c :: rest) = .ok (.item (.char c :: rest)) := by
  obtain ⟨unblank, uncomma, unclosed⟩ := starts.not_mem
  rw [nextElement, skipSpaces_blank_cons blank unblank]
  split
  · next same => cases same
  · next same =>
    cases same
    exact (unclosed rfl).elim
  · next same =>
    cases same
    exact (uncomma rfl).elim
  · rfl

theorem elements_close {first : Bool} {s rest : List Symbol}
    (next : nextElement first s = .ok (.close rest)) (fuel : Nat) :
    elements reader (fuel + 1) first s = .ok ([], rest) := by
  rw [elements, next]
  rfl

theorem elements_item {first : Bool} {s t u rest : List Symbol} {v : Json} {vs : List Json}
    {fuel : Nat} (next : nextElement first s = .ok (.item t)) (read : reader t = .ok (v, u))
    (others : elements reader fuel false u = .ok (vs, rest)) :
    elements reader (fuel + 1) first s = .ok (v :: vs, rest) := by
  rw [elements, next]
  show (reader t >>= _) = _
  rw [read]
  show (elements reader fuel false u >>= _) = _
  rw [others]
  rfl

private theorem elements_of_onward (isRead : IsReadBy value reader) {front : List Char}
    {items : List Json} (spells : Onward ']' value front items) (rest : List Symbol) {fuel : Nat}
    (lasts : front.length ≤ fuel) :
    elements reader fuel false (front.map .char ++ rest) = .ok (items, rest) := by
  refine spells.fueled (P := fun fuel front items =>
    elements reader fuel false (front.map .char ++ rest) = .ok (items, rest)) ?_ ?_ lasts
  · intro fuel b blank
    rw [List.map_append, List.append_assoc]
    exact elements_close (nextElement_close blank false rest) fuel
  · intro fuel before behind front others v vs blank blank' first onward further
    obtain ⟨c, s, rfl, starts⟩ := isRead.starts first
    have read := isRead.reads first isBlank_nil (ends_onward (by decide) onward rest)
    simp only [List.map_append, List.map_cons, List.cons_append, List.append_assoc]
    exact elements_item (nextElement_comma blank blank' starts _) read further

private theorem elements_of_sequence (isRead : IsReadBy value reader) {front : List Char}
    {items : List Json} (spells : Sequence ']' value front items) (rest : List Symbol) {fuel : Nat}
    (lasts : front.length ≤ fuel) :
    elements reader (fuel + 1) true (front.map .char ++ rest) = .ok (items, rest) := by
  cases spells with
  | empty blank =>
    rw [List.map_append, List.append_assoc]
    exact elements_close (nextElement_close blank true rest) fuel
  | @items b front others v vs blank first onward =>
    obtain ⟨c, s, rfl, starts⟩ := isRead.starts first
    have read := isRead.reads first isBlank_nil (ends_onward (by decide) onward rest)
    have further : others.length ≤ fuel := by
      simp only [List.length_append, List.length_cons] at lasts
      omega
    simp only [List.map_append, List.map_cons, List.cons_append, List.append_assoc]
    exact elements_item (nextElement_first blank starts _) read
      (elements_of_onward isRead onward rest further)

end Lists

section Objects

variable {value : List Char → Json → Prop} {reader : Reader Json}

theorem nextKey_close {b : List Char} (blank : IsBlank b) (first : Bool) (rest : List Symbol) :
    nextKey first (b.map .char ++ .char '}' :: rest) = .ok (.close rest) := by
  rw [nextKey, skipSpaces_blank_cons blank (by decide)]
  rfl

theorem nextKey_comma {before behind : List Char} (blank : IsBlank before)
    (blank' : IsBlank behind) (rest : List Symbol) :
    nextKey false (before.map .char ++ .char ',' :: (behind.map .char ++ .char '"' :: rest)) =
      .ok (.item rest) := by
  rw [nextKey, skipSpaces_blank_cons blank (by decide)]
  simp only [Bool.false_eq_true, if_false]
  rw [skipSpaces_blank_cons blank' (by decide)]
  rfl

theorem nextKey_first {b : List Char} (blank : IsBlank b) (rest : List Symbol) :
    nextKey true (b.map .char ++ .char '"' :: rest) = .ok (.item rest) := by
  rw [nextKey, skipSpaces_blank_cons blank (by decide)]
  rfl

theorem colon_blank {b : List Char} (blank : IsBlank b) (rest : List Symbol) :
    colon (b.map .char ++ .char ':' :: rest) = .ok rest := by
  rw [colon, skipSpaces_blank_cons blank (by decide)]
  rfl

theorem members_close {first : Bool} {s rest : List Symbol}
    (next : nextKey first s = .ok (.close rest)) (fuel : Nat) :
    members reader (fuel + 1) first s = .ok ([], rest) := by
  rw [members, next]
  rfl

theorem members_item {first : Bool} {s t u w x rest : List Symbol} {key : String} {v : Json}
    {vs : List (String × Json)} {fuel : Nat} (next : nextKey first s = .ok (.item t))
    (named : string t = .ok (key, u)) (colon : colon u = .ok w) (read : reader w = .ok (v, x))
    (others : members reader fuel false x = .ok (vs, rest)) :
    members reader (fuel + 1) first s = .ok ((key, v) :: vs, rest) := by
  rw [members, next]
  show (string t >>= _) = _
  rw [named]
  show (Read.colon u >>= _) = _
  rw [colon]
  show (reader w >>= _) = _
  rw [read]
  show (members reader fuel false x >>= _) = _
  rw [others]
  rfl

private theorem members_of_onward (isRead : IsReadBy value reader) {front : List Char}
    {items : List (String × Json)} (spells : Onward '}' (SpellsMember value) front items)
    (rest : List Symbol) {fuel : Nat} (lasts : front.length ≤ fuel) :
    members reader fuel false (front.map .char ++ rest) = .ok (items, rest) := by
  refine spells.fueled (P := fun fuel front items =>
    members reader fuel false (front.map .char ++ rest) = .ok (items, rest)) ?_ ?_ lasts
  · intro fuel b blank
    rw [List.map_append, List.append_assoc]
    exact members_close (nextKey_close blank false rest) fuel
  · intro fuel before behind front others v vs blank blank' first onward further
    obtain ⟨named, blankName, blankValue, has⟩ := first
    have read := isRead.reads has blankValue (ends_onward (by decide) onward rest)
    simp only [List.map_append, List.map_cons, List.cons_append, List.append_assoc]
    exact members_item (nextKey_comma blank blank' _) (string_of_spells named _)
      (colon_blank blankName _) read further

private theorem members_of_sequence (isRead : IsReadBy value reader) {front : List Char}
    {items : List (String × Json)} (spells : Sequence '}' (SpellsMember value) front items)
    (rest : List Symbol) {fuel : Nat} (lasts : front.length ≤ fuel) :
    members reader (fuel + 1) true (front.map .char ++ rest) = .ok (items, rest) := by
  cases spells with
  | empty blank =>
    rw [List.map_append, List.append_assoc]
    exact members_close (nextKey_close blank true rest) fuel
  | @items b front others v vs blank first onward =>
    obtain ⟨named, blankName, blankValue, has⟩ := first
    have read := isRead.reads has blankValue (ends_onward (by decide) onward rest)
    have further : others.length ≤ fuel := by
      simp only [List.length_append, List.length_cons] at lasts
      omega
    simp only [List.map_append, List.map_cons, List.cons_append, List.append_assoc]
    exact members_item (nextKey_first blank _) (string_of_spells named _)
      (colon_blank blankName _) read (members_of_onward isRead onward rest further)

end Objects

private theorem SpellsNumber.starts {front : List Char} {n : Number}
    (spells : SpellsNumber front n) :
    ∃ c s, front = c :: s ∧ StartsValue c := by
  cases spells with
  | natural digit whole =>
    refine ⟨_, _, rfl, ?_⟩
    intro blank
    simp only [List.mem_cons, List.not_mem_nil, or_false] at blank
    rcases blank with rfl | rfl | rfl | rfl | rfl | rfl <;> cases digit
  | negative whole => exact ⟨_, _, rfl, by decide⟩

private theorem SpellsWith.starts {inner : Option (List Char → Json → Prop)} {front : List Char}
    {v : Json} (spells : SpellsWith inner front v) : ∃ c s, front = c :: s ∧ StartsValue c := by
  cases spells with
  | null | true | false | string | array | object => exact ⟨_, _, rfl, by decide⟩
  | number spells => exact SpellsNumber.starts spells

section Values

variable (reader : Option (Reader Json)) {b : List Char} (blank : IsBlank b) (s : List Symbol)

private theorem valueWith_blank {b : List Char} (blank : IsBlank b) :
    valueWith reader (b.map .char ++ s) = valueWith reader s := by
  rw [valueWith, valueWith, skipSpaces_blank blank]

theorem valueWith_digit {c : Char} (digit : c.isDigit) :
    valueWith reader (.char c :: s) =
      (number false (.char c :: s)).map fun read => (.number read.1, read.2) := by
  have isDigit : isDigit (.char c) := by
    rw [Read.isDigit, digit?, Text.digitValue?_of_isDigit digit]
    rfl
  have other : ¬ isSpace (.char c) := by
    intro space
    simp only [isSpace, Bool.or_eq_true, decide_eq_true_eq] at space
    rcases space with ((rfl | rfl) | rfl) | rfl <;> cases digit
  rw [valueWith, skipSpaces_cons other]
  split
  · next same => cases same
  · next same => cases same; cases digit
  · next same => cases same; cases digit
  · next same => cases same; cases digit
  · next same => cases same; cases digit
  · next same => cases same; cases digit
  · next same => cases same; cases digit
  · next same => cases same; cases digit
  · next same =>
    cases same
    rw [if_pos isDigit]
    cases number false (.char c :: s) <;> rfl

end Values

private theorem isReadBy_with {inner : Option (List Char → Json → Prop)}
    {reader : Option (Reader Json)}
    (parts : ∀ value, inner = some value → ∃ item, reader = some item ∧ IsReadBy value item) :
    IsReadBy (SpellsWith inner) (valueWith reader) := by
  constructor
  case starts => exact SpellsWith.starts
  case reads =>
    intro front v spells b blank rest ends
    rw [valueWith_blank reader _ blank]
    cases spells with
    | null => rfl
    | true => rfl
    | false => rfl
    | number spells =>
      cases spells with
      | natural digit whole =>
        have read := number_append ends whole
        rw [List.map_cons, List.cons_append] at read ⊢
        rw [valueWith_digit reader _ digit, read]
        rfl
      | negative whole =>
        have read := number_append ends whole
        rw [List.map_cons, List.cons_append]
        show (number true (_ ++ rest) >>= _) = _
        rw [read]
        rfl
    | string spells =>
      rw [List.map_cons, List.map_append, List.cons_append, List.append_assoc]
      show (string _ >>= _) = _
      rw [show (['"'].map Symbol.char ++ rest) = .char '"' :: rest from rfl,
        string_of_spells spells]
      rfl
    | array inside spells =>
      obtain ⟨item, rfl, isRead⟩ := parts _ inside
      rw [List.map_cons, List.cons_append]
      show (elements item ((_ ++ rest).length + 1) true (_ ++ rest) >>= _) = _
      rw [elements_of_sequence isRead spells rest (by simp)]
      rfl
    | object inside spells =>
      obtain ⟨item, rfl, isRead⟩ := parts _ inside
      rw [List.map_cons, List.cons_append]
      show (members item ((_ ++ rest).length + 1) true (_ ++ rest) >>= _) = _
      rw [members_of_sequence isRead spells rest (by simp)]
      rfl

private theorem isReadBy_value (depth : Nat) : IsReadBy (Spells depth) (value depth) := by
  induction depth with
  | zero => exact isReadBy_with nofun
  | succ depth ih =>
    apply isReadBy_with
    rintro _ ⟨⟩
    exact ⟨_, rfl, ih⟩

end Read

theorem readWhole_of_read {α : Type} {reader : Reader α} {s left : List Symbol} {x : α}
    (read : reader s = .ok (x, left)) (skipped : Read.skipSpaces left = []) :
    readWhole reader s = .ok x := by
  simp only [readWhole, bind, Except.bind, read, skipped, Except.mapError]

theorem SpellsDocument.bare {front : List Char} {document : Json}
    (spells : Spells greatestDepth front document) : SpellsDocument front document := by
  have between := SpellsDocument.mk Read.isBlank_nil spells Read.isBlank_nil
  rwa [List.nil_append, List.append_nil] at between

/-- A text is read as the document that it spells. -/
theorem readWhole_of_spells {front : List Char} {document : Json}
    (spells : SpellsDocument front document) :
    readWhole (Read.value greatestDepth) (front.map .char) = .ok document := by
  obtain ⟨blank, spells, blank'⟩ := spells
  have nothing : Read.Ends [] := nofun
  have read := (Read.isReadBy_value greatestDepth).reads spells blank
    (Read.ends_blank blank' nothing)
  have skipped := Read.skipSpaces_blank blank' []
  rw [List.append_nil] at read skipped
  rw [List.map_append, List.map_append]
  exact readWhole_of_read read skipped

theorem parse_of_spells {front : List Char} {document : Json}
    (spells : SpellsDocument front document) :
    parse (front.map .char) = .ok document.settle := by
  rw [parse, readWhole_of_spells spells]
  rfl

end ShowRemote.Json
