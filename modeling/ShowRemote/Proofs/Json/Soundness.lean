import ShowRemote.Proofs.Json.Cut
import ShowRemote.Proofs.Json.Follow
import ShowRemote.Proofs.Text.Utf8

/-!
What a reader takes off the front of a text is characters that spell what it gives. Blanks, words
and strings with their escapes come first; lists and objects follow along the runs of their parts.
So the texts of a document are those that spell it, and there is no stray byte in them.

Main statement: `readWhole_eq_ok_iff_spells`.
-/

set_option autoImplicit false

namespace ShowRemote.Json

open Text (Symbol)

namespace Read

private theorem exists_blank_skipSpaces (s : List Symbol) :
    ∃ b, IsBlank b ∧ s = b.map .char ++ skipSpaces s := by
  induction s with
  | nil => exact ⟨[], isBlank_nil, rfl⟩
  | cons x s ih =>
    by_cases space : isSpace x
    · cases x with
      | stray byte => cases space
      | char c =>
        obtain ⟨b, blank, same⟩ := ih
        refine ⟨c :: b, ?_, ?_⟩
        · refine List.forall_mem_cons.mpr ⟨?_, blank⟩
          simp only [isSpace, Bool.or_eq_true, decide_eq_true_eq] at space
          simp only [List.mem_cons, List.not_mem_nil, or_false]
          tauto
        · have skipped : skipSpaces (.char c :: s) = skipSpaces s :=
            List.dropWhile_cons_of_pos space
          rw [skipped, List.map_cons, List.cons_append, ← same]
    · exact ⟨[], isBlank_nil, (skipSpaces_cons space s).symm⟩

private theorem isBlank_append {b b' : List Char} (blank : IsBlank b) (blank' : IsBlank b') :
    IsBlank (b ++ b') := by
  intro c mem
  rcases List.mem_append.mp mem with mem | mem
  · exact blank c mem
  · exact blank' c mem

private theorem eq_of_finishWord {word : List Char} {s rest : List Symbol}
    (read : finishWord word s = .ok rest) : s = word.map .char ++ rest := by
  induction word generalizing s with
  | nil =>
    cases read
    rfl
  | cons c word ih =>
    cases s with
    | nil => cases read
    | cons x s =>
      rw [finishWord] at read
      split at read
      · next same => rw [same, ih read, List.map_cons, List.cons_append]
      · cases read

private theorem isHexDigit_of_hexValue? {x : Symbol} {n : Nat} (value : hexValue? x = some n) :
    ∃ c, x = .char c ∧ IsHexDigit c n := by
  cases x with
  | stray b => cases value
  | char c =>
    refine ⟨c, rfl, ?_⟩
    obtain ⟨k, point⟩ : ∃ k, c.toNat = k := ⟨_, rfl⟩
    obtain rfl : c = Char.ofNat k := by rw [← point, Char.ofNat_toNat]
    have val : (Char.ofNat k).val.toNat = k := point
    simp only [hexValue?, Char.le_def, UInt32.le_iff_toNat_le, val, point, Char.reduceVal,
      UInt32.reduceToNat] at value
    split_ifs at value with decimal small capital
    · cases value
      obtain ⟨low, high⟩ := decimal
      interval_cases k <;> exact ⟨by decide, .inl rfl⟩
    · cases value
      obtain ⟨low, high⟩ := small
      interval_cases k <;> exact ⟨by decide, .inl rfl⟩
    · cases value
      obtain ⟨low, high⟩ := capital
      interval_cases k <;> exact ⟨by decide, .inr rfl⟩

private theorem exists_spellsUnit {s rest : List Symbol} {unit : Nat}
    (read : codeUnit s = .ok (unit, rest)) :
    ∃ digits : List Char, s = digits.map .char ++ rest ∧ SpellsUnit digits unit := by
  unfold codeUnit at read
  split at read
  · split at read
    · next first second third fourth =>
      cases read
      obtain ⟨a, rfl, isFirst⟩ := isHexDigit_of_hexValue? first
      obtain ⟨b, rfl, isSecond⟩ := isHexDigit_of_hexValue? second
      obtain ⟨c, rfl, isThird⟩ := isHexDigit_of_hexValue? third
      obtain ⟨d, rfl, isFourth⟩ := isHexDigit_of_hexValue? fourth
      exact ⟨[a, b, c, d], rfl, .digits isFirst isSecond isThird isFourth⟩
    · cases read
  · split at read <;> cases read

private theorem lt_of_spellsUnit {digits : List Char} {unit : Nat}
    (spells : SpellsUnit digits unit) :
    unit < 0x10000 := by
  cases spells with
  | digits first second third fourth =>
    have := first.1
    have := second.1
    have := third.1
    have := fourth.1
    omega

private theorem exists_spellsChar_of_unicodeEscape {s rest : List Symbol} {c : Char}
    (whole : unicodeEscape s = .ok (c, rest)) :
    ∃ front : List Char, s = front.map .char ++ rest ∧ SpellsChar ('\\' :: 'u' :: front) c := by
  obtain ⟨⟨unit, behind⟩, first, read⟩ := exists_of_bind_ok whole
  clear whole
  obtain ⟨digits, rfl, spells⟩ := exists_spellsUnit first
  have small := lt_of_spellsUnit spells
  simp only at read
  split at read
  · cases read
  · next notLow =>
    split at read
    · next notHigh =>
      cases read
      have point : (Char.ofNat unit).toNat = unit :=
        Text.toNat_ofNat_of_scalar (by omega) (by omega)
      rw [← point] at spells
      exact ⟨digits, rfl, .unit spells⟩
    · next surrogate =>
      split at read
      · cases read
      · next low =>
        split at read
        · cases read
        · next low =>
          obtain ⟨⟨second, behind⟩, next, read'⟩ := exists_of_bind_ok read
          clear read
          obtain ⟨digits', rfl, spells'⟩ := exists_spellsUnit next
          simp only at read'
          split at read'
          · cases read'
          · next paired =>
            obtain ⟨rfl, rfl⟩ := Prod.mk.inj (Except.ok.inj read')
            refine ⟨digits ++ '\\' :: 'u' :: digits', by simp, ?_⟩
            exact .pair spells spells' (by omega) (by omega)
              (Text.toNat_ofNat_of_scalar (by omega) (by omega))
        · cases read
      · cases read

private theorem exists_spellsChar_of_escaped {s rest : List Symbol} {c : Char}
    (read : escaped s = .ok (c, rest)) :
    ∃ front : List Char, s = front.map .char ++ rest ∧ SpellsChar ('\\' :: front) c := by
  unfold escaped at read
  split at read
  · cases read
  · obtain ⟨front, rfl, spells⟩ := exists_spellsChar_of_unicodeEscape read
    exact ⟨'u' :: front, rfl, spells⟩
  · next letter tail other =>
    split at read
    · next stands =>
      cases read
      refine ⟨[letter], rfl, .letter ?_⟩
      unfold shortEscape? at stands
      split at stands <;> cases stands <;> decide
    · cases read
  · cases read

private theorem exists_spellsString_of_contents {fuel : Nat} {s rest : List Symbol} {cs : List Char}
    (read : stringContents fuel s = .ok (cs.map .char, rest)) :
    ∃ front : List Char, s = front.map .char ++ .char '"' :: rest ∧ SpellsString front cs := by
  induction fuel generalizing s cs with
  | zero => cases read
  | succ fuel ih =>
    -- One spelled character in front of the others, whose contents have been read.
    have cons : ∀ {front : List Char} {e : Char} {behind tail : List Symbol},
        SpellsChar front e → stringContents fuel behind = .ok (tail, rest) →
        .char e :: tail = cs.map Symbol.char →
        ∃ front' : List Char, front.map .char ++ behind = front'.map .char ++ .char '"' :: rest ∧
          SpellsString front' cs := by
      intro front e behind tail spells others same
      cases cs with
      | nil => cases same
      | cons c cs =>
        obtain ⟨first, rfl⟩ := List.cons.inj same
        cases first
        obtain ⟨front', rfl, spells'⟩ := ih others
        exact ⟨front ++ front', by simp, .cons spells spells'⟩
    cases s with
    | nil => cases read
    | cons x s =>
      cases x with
      | stray b =>
        obtain ⟨⟨tail, behind⟩, others, read⟩ := exists_of_bind_ok read
        cases cs with
        | nil => cases read
        | cons c cs =>
          obtain ⟨same, -⟩ := Prod.mk.inj (Except.ok.inj read)
          cases same
      | char c =>
        rw [stringContents] at read
        split at read
        · next quote =>
          obtain ⟨same, rfl⟩ := Prod.mk.inj (Except.ok.inj read)
          cases cs with
          | nil => exact ⟨[], by rw [quote]; rfl, .nil⟩
          | cons c cs => cases same
        · next quote =>
          split at read
          · next backslash =>
            obtain ⟨⟨e, behind⟩, escapes, read⟩ := exists_of_bind_ok read
            obtain ⟨⟨tail, left⟩, others, read⟩ := exists_of_bind_ok read
            obtain ⟨same, rfl⟩ := Prod.mk.inj (Except.ok.inj read)
            obtain ⟨front, rfl, spells⟩ := exists_spellsChar_of_escaped escapes
            rw [backslash]
            exact cons spells others same
          · next backslash =>
            split at read
            · cases read
            · next control =>
              obtain ⟨⟨tail, left⟩, others, read⟩ := exists_of_bind_ok read
              obtain ⟨same, rfl⟩ := Prod.mk.inj (Except.ok.inj read)
              exact cons (.plain quote backslash (by omega)) others same

private theorem exists_spellsString {s rest : List Symbol} {text : String}
    (read : string s = .ok (text, rest)) :
    ∃ front : List Char, s = front.map .char ++ .char '"' :: rest ∧
      SpellsString front text.toList := by
  obtain ⟨⟨contents, left⟩, inside, read⟩ := exists_of_bind_ok read
  simp only at read
  split at read
  · next spelled =>
    cases read
    rw [Text.textOf?_eq_some_iff] at spelled
    rw [spelled] at inside
    exact exists_spellsString_of_contents inside
  · cases read

private theorem skipSpaces_of_element {first : Bool} {s t : List Symbol}
    (next : nextElement first s = .ok (.item t)) :
    (first = true ∧ t = skipSpaces s) ∨
      (first = false ∧ ∃ u, skipSpaces s = .char ',' :: u ∧ t = skipSpaces u) := by
  unfold nextElement at next
  split at next
  · cases next
  · cases next
  · next u same =>
    split at next
    · next isFirst =>
      cases next
      exact .inl ⟨isFirst, same.symm⟩
    · next further =>
      refine .inr ⟨by simpa using further, u, same, ?_⟩
      split at next
      · cases next
      · cases next
      · cases next
        rfl
  · split at next
    · next isFirst =>
      cases next
      exact .inl ⟨isFirst, rfl⟩
    · cases next

private theorem exists_colon {s rest : List Symbol} (read : colon s = .ok rest) :
    ∃ b, IsBlank b ∧ s = b.map .char ++ .char ':' :: rest := by
  obtain ⟨b, blank, same⟩ := exists_blank_skipSpaces s
  unfold colon at read
  split at read
  · cases read
  · next starts =>
    cases read
    rw [starts] at same
    exact ⟨b, blank, same⟩
  · cases read

def TakesSpelled (value : List Char → Json → Prop) (reader : Reader Json) : Prop :=
  ∀ ⦃s : List Symbol⦄ ⦃v : Json⦄ ⦃rest : List Symbol⦄, reader s = .ok (v, rest) →
    ∃ b front : List Char, IsBlank b ∧ s = b.map .char ++ (front.map .char ++ rest) ∧
      value front v

section Runs

variable {value : List Char → Json → Prop} {reader : Reader Json}
  (takes : TakesSpelled value reader)

include takes

private theorem exists_onward_of_elements {s rest : List Symbol} {vs : List Json}
    (run : ElementsRun reader false s vs rest) :
    ∃ front : List Char, s = front.map .char ++ rest ∧ Onward ']' value front vs := by
  generalize first : false = isFirst at run
  induction run with
  | @close _ s rest next =>
    obtain ⟨b, blank, same⟩ := exists_blank_skipSpaces s
    rw [skipSpaces_of_close next] at same
    exact ⟨b ++ [']'], by simpa using same, .close blank⟩
  | @item _ s t behind rest v vs next one others ih =>
    subst first
    obtain ⟨⟨⟩, -⟩ | ⟨-, u, comma, rfl⟩ := skipSpaces_of_element next
    obtain ⟨before, blank, same⟩ := exists_blank_skipSpaces s
    obtain ⟨b, blank', same'⟩ := exists_blank_skipSpaces u
    obtain ⟨b', front, blank'', read, spells⟩ := takes one
    obtain ⟨front', rfl, spells'⟩ := ih rfl
    rw [read] at same'
    rw [comma, same'] at same
    refine ⟨before ++ ',' :: ((b ++ b') ++ (front ++ front')), by simpa using same, ?_⟩
    exact .item blank (isBlank_append blank' blank'') spells spells'

private theorem exists_sequence_of_elements {s rest : List Symbol} {vs : List Json}
    (run : ElementsRun reader true s vs rest) :
    ∃ front : List Char, s = front.map .char ++ rest ∧ Sequence ']' value front vs := by
  obtain ⟨b, blank, same⟩ := exists_blank_skipSpaces s
  cases run with
  | close next =>
    rw [skipSpaces_of_close next] at same
    exact ⟨b ++ [']'], by simpa using same, .empty blank⟩
  | item next one others =>
    obtain ⟨-, rfl⟩ | ⟨⟨⟩, -⟩ := skipSpaces_of_element next
    obtain ⟨b', front, blank', read, spells⟩ := takes one
    obtain ⟨front', rfl, spells'⟩ := exists_onward_of_elements takes others
    rw [read] at same
    refine ⟨(b ++ b') ++ (front ++ front'), by simpa using same, ?_⟩
    exact .items (isBlank_append blank blank') spells spells'

private theorem exists_spellsMember {t u w rest : List Symbol} {key : String} {v : Json}
    (named : string t = .ok (key, u)) (separated : colon u = .ok w)
    (one : reader w = .ok (v, rest)) :
    ∃ front : List Char, .char '"' :: t = front.map Symbol.char ++ rest ∧
      SpellsMember value front (key, v) := by
  obtain ⟨name, rfl, spelled⟩ := exists_spellsString named
  obtain ⟨before, blank, rfl⟩ := exists_colon separated
  obtain ⟨behind, front, blank', rfl, spells⟩ := takes one
  exact ⟨_, by simp, .mk spelled blank blank' spells⟩

private theorem exists_onward_of_members {fuel : Nat} {s rest : List Symbol}
    {ms : List (String × Json)} (run : MembersRun reader fuel false s ms rest) :
    ∃ front : List Char, s = front.map .char ++ rest ∧
      Onward '}' (SpellsMember value) front ms := by
  generalize first : false = isFirst at run
  induction run with
  | @close _ _ s rest next =>
    obtain ⟨b, blank, same⟩ := exists_blank_skipSpaces s
    rw [skipSpaces_of_closeKey next] at same
    exact ⟨b ++ ['}'], by simpa using same, .close blank⟩
  | @item _ _ s t u w behind rest key v ms next named separated one others ih =>
    subst first
    obtain ⟨⟨⟩, -⟩ | ⟨-, u', comma, quoted⟩ := skipSpaces_of_key next
    obtain ⟨before, blank, same⟩ := exists_blank_skipSpaces s
    obtain ⟨b, blank', same'⟩ := exists_blank_skipSpaces u'
    obtain ⟨front, read, spells⟩ := exists_spellsMember takes named separated one
    obtain ⟨front', rfl, spells'⟩ := ih rfl
    rw [quoted, read] at same'
    rw [comma, same'] at same
    exact ⟨before ++ ',' :: (b ++ (front ++ front')), by simpa using same,
      .item blank blank' spells spells'⟩

private theorem exists_sequence_of_members {fuel : Nat} {s rest : List Symbol}
    {ms : List (String × Json)} (run : MembersRun reader fuel true s ms rest) :
    ∃ front : List Char, s = front.map .char ++ rest ∧
      Sequence '}' (SpellsMember value) front ms := by
  obtain ⟨b, blank, same⟩ := exists_blank_skipSpaces s
  cases run with
  | close next =>
    rw [skipSpaces_of_closeKey next] at same
    exact ⟨b ++ ['}'], by simpa using same, .empty blank⟩
  | item next named separated one others =>
    obtain ⟨-, quoted⟩ | ⟨⟨⟩, -⟩ := skipSpaces_of_key next
    obtain ⟨front, read, spells⟩ := exists_spellsMember takes named separated one
    obtain ⟨front', rfl, spells'⟩ := exists_onward_of_members takes others
    rw [quoted, read] at same
    exact ⟨b ++ (front ++ front'), by simpa using same, .items blank spells spells'⟩

end Runs

private theorem exists_spellsWith (depth : Nat) : ∃ inner, Spells depth = SpellsWith inner := by
  cases depth with
  | zero => exact ⟨none, rfl⟩
  | succ depth => exact ⟨some (Spells depth), rfl⟩

private theorem takesSpelled_value (depth : Nat) : TakesSpelled (Spells depth) (value depth) := by
  induction depth using Nat.strong_induction_on with
  | _ depth ih =>
    intro s v rest read
    obtain ⟨b, blank, same⟩ := exists_blank_skipSpaces s
    obtain ⟨inner, leaf⟩ := exists_spellsWith depth
    cases opens_of_value read with
    | null starts word =>
      rw [starts, eq_of_finishWord word] at same
      exact ⟨b, ['n', 'u', 'l', 'l'], blank, same, by rw [leaf]; exact .null⟩
    | true starts word =>
      rw [starts, eq_of_finishWord word] at same
      exact ⟨b, ['t', 'r', 'u', 'e'], blank, same, by rw [leaf]; exact .true⟩
    | false starts word =>
      rw [starts, eq_of_finishWord word] at same
      exact ⟨b, ['f', 'a', 'l', 's', 'e'], blank, same, by rw [leaf]; exact .false⟩
    | negative starts numeral =>
      obtain ⟨front, rfl, alike⟩ := cuts_number numeral
      rw [starts] at same
      exact ⟨b, '-' :: front, blank, same, by rw [leaf]; exact .number (.negative alike)⟩
    | natural starts digit numeral =>
      obtain ⟨front, whole, alike⟩ := cuts_number numeral
      rw [starts, whole] at same
      refine ⟨b, front, blank, same, ?_⟩
      cases front with
      | nil => cases alike
      | cons c front =>
        obtain ⟨rfl, -⟩ := List.cons.inj whole
        obtain ⟨c', first, isDigit⟩ := exists_char_of_isDigit digit
        cases first
        rw [leaf]
        exact .number (.natural isDigit alike)
    | string starts inside =>
      obtain ⟨front, rfl, spells⟩ := exists_spellsString inside
      rw [starts] at same
      exact ⟨b, '"' :: (front ++ ['"']), blank, by simpa using same,
        by rw [leaf]; exact .string spells⟩
    | @array below _ _ _ deeper starts inside =>
      subst deeper
      obtain ⟨front, rfl, spells⟩ := exists_sequence_of_elements (ih below (Nat.lt_succ_self below))
        (elementsRun_of_read inside)
      rw [starts] at same
      exact ⟨b, '[' :: front, blank, same, .array rfl spells⟩
    | @object below _ _ _ deeper starts inside =>
      subst deeper
      obtain ⟨front, rfl, spells⟩ := exists_sequence_of_members (ih below (Nat.lt_succ_self below))
        (membersRun_of_read inside)
      rw [starts] at same
      exact ⟨b, '{' :: front, blank, same, .object rfl spells⟩

end Read

/-- The texts of a document are those that spell it. -/
theorem readWhole_eq_ok_iff_spells {s : List Symbol} {document : Json} :
    readWhole (Read.value greatestDepth) s = .ok document ↔
      ∃ front : List Char, s = front.map .char ∧ SpellsDocument front document := by
  constructor
  · intro whole
    obtain ⟨rest, read, ended⟩ := Read.readWhole_eq_ok_iff.mp whole
    obtain ⟨before, front, blank, same, spells⟩ := Read.takesSpelled_value greatestDepth read
    obtain ⟨behind, blank', same'⟩ := Read.exists_blank_skipSpaces rest
    rw [ended, List.append_nil] at same'
    rw [same'] at same
    exact ⟨before ++ (front ++ behind), by simpa using same, .mk blank spells blank'⟩
  · rintro ⟨front, rfl, spells⟩
    exact readWhole_of_spells spells

end ShowRemote.Json
