import ShowRemote.Json.Printer
import ShowRemote.Json.Scalar
import ShowRemote.Proofs.Text.Utf8

/-!
How a string is spelled inside quotes. Every character may stand for itself, unless it is a quote, a
backslash or a control, and every character may be escaped, by a letter that stands for it or by the
four hexadecimal digits of each of its code units. Whatever spelling is chosen, reading it gives the
string (`string_of_spells`); and the printer has chosen one (`spells_escape`).
-/

set_option autoImplicit false

namespace ShowRemote.Json

open Text (Symbol)

def IsHexDigit (c : Char) (n : Nat) : Prop :=
  n < 16 ∧ (c = Nat.digitChar n ∨ c = (Nat.digitChar n).toUpper)

/-- The four hexadecimal digits of a code unit. -/
inductive SpellsUnit : List Char → Nat → Prop
  | digits {a b c d : Char} {w x y z : Nat} (first : IsHexDigit a w) (second : IsHexDigit b x)
      (third : IsHexDigit c y) (fourth : IsHexDigit d z) :
      SpellsUnit [a, b, c, d] (((w * 16 + x) * 16 + y) * 16 + z)

def letters : List (Char × Char) :=
  [('"', '"'), ('\\', '\\'), ('/', '/'), ('b', Char.ofNat 8), ('f', Char.ofNat 12), ('n', '\n'),
    ('r', '\r'), ('t', '\t')]

/-- The spellings of a character inside quotes. -/
inductive SpellsChar : List Char → Char → Prop
  | plain {c : Char} (quote : c ≠ '"') (backslash : c ≠ '\\') (control : 32 ≤ c.toNat) :
      SpellsChar [c] c
  | letter {letter c : Char} (stands : (letter, c) ∈ letters) : SpellsChar ['\\', letter] c
  | unit {digits : List Char} {c : Char} (unit : SpellsUnit digits c.toNat) :
      SpellsChar ('\\' :: 'u' :: digits) c
  | pair {front back : List Char} {c : Char} {high low : Nat} (first : SpellsUnit front high)
      (second : SpellsUnit back low) (isHigh : 0xD800 ≤ high ∧ high ≤ 0xDBFF)
      (isLow : 0xDC00 ≤ low ∧ low ≤ 0xDFFF)
      (point : c.toNat = (high - 0xD800) * 1024 + (low - 0xDC00) + 0x10000) :
      SpellsChar ('\\' :: 'u' :: (front ++ '\\' :: 'u' :: back)) c

/-- The spellings of a string inside quotes. -/
inductive SpellsString : List Char → List Char → Prop
  | nil : SpellsString [] []
  | cons {front rest : List Char} {c : Char} {cs : List Char} (first : SpellsChar front c)
      (others : SpellsString rest cs) : SpellsString (front ++ rest) (c :: cs)

private theorem SpellsChar.length_pos {front : List Char} {c : Char} (spells : SpellsChar front c) :
    0 < front.length := by
  cases spells <;> exact Nat.succ_pos _

private theorem hexDigit_eq {n : Nat} (lt : n < 16) : hexDigit n = Nat.digitChar n := by
  interval_cases n <;> rfl

private theorem isHexDigit_hexDigit {n : Nat} (lt : n < 16) : IsHexDigit (hexDigit n) n :=
  ⟨lt, .inl (hexDigit_eq lt)⟩

theorem spells_escape (c : Char) : SpellsChar (escape c) c := by
  unfold escape
  split_ifs with quote backslash line carriage tab back form control
  · subst quote
    exact .letter (by decide)
  · subst backslash
    exact .letter (by decide)
  · subst line
    exact .letter (by decide)
  · subst carriage
    exact .letter (by decide)
  · subst tab
    exact .letter (by decide)
  · obtain rfl : c = Char.ofNat 8 := by rw [← back, Char.ofNat_toNat]
    exact .letter (by decide)
  · obtain rfl : c = Char.ofNat 12 := by rw [← form, Char.ofNat_toNat]
    exact .letter (by decide)
  · have zero := isHexDigit_hexDigit (n := 0) (by omega)
    have unit := SpellsUnit.digits zero zero (isHexDigit_hexDigit (n := c.toNat / 16) (by omega))
      (isHexDigit_hexDigit (n := c.toNat % 16) (by omega))
    have value : ((0 * 16 + 0) * 16 + c.toNat / 16) * 16 + c.toNat % 16 = c.toNat := by omega
    rw [value] at unit
    exact .unit unit
  · exact .plain quote backslash (by omega)

theorem spells_quoted (cs : List Char) : SpellsString (cs.flatMap escape) cs := by
  induction cs with
  | nil => exact .nil
  | cons c cs ih => exact .cons (spells_escape c) ih

namespace Read

private theorem hexValue?_of_isHexDigit {c : Char} {n : Nat} (digit : IsHexDigit c n) :
    hexValue? (.char c) = some n := by
  obtain ⟨lt, rfl | rfl⟩ := digit
  · interval_cases n <;> rfl
  · interval_cases n <;> rfl

private theorem codeUnit_of_spells {digits : List Char} {n : Nat} (spells : SpellsUnit digits n)
    (rest : List Symbol) : codeUnit (digits.map .char ++ rest) = .ok (n, rest) := by
  cases spells with
  | digits first second third fourth =>
    simp only [List.map_cons, List.map_nil, List.cons_append, List.nil_append, codeUnit,
      hexValue?_of_isHexDigit first, hexValue?_of_isHexDigit second,
      hexValue?_of_isHexDigit third, hexValue?_of_isHexDigit fourth]

private theorem shortEscape?_of_letter {letter c : Char} (stands : (letter, c) ∈ letters) :
    letter ≠ 'u' ∧ shortEscape? letter = some c := by
  simp only [letters, List.mem_cons, Prod.mk.injEq, List.not_mem_nil, or_false] at stands
  rcases stands with ⟨rfl, rfl⟩ | ⟨rfl, rfl⟩ | ⟨rfl, rfl⟩ | ⟨rfl, rfl⟩ | ⟨rfl, rfl⟩ | ⟨rfl, rfl⟩ |
    ⟨rfl, rfl⟩ | ⟨rfl, rfl⟩ <;> exact ⟨by decide, rfl⟩

private theorem unicodeEscape_of_unit {digits : List Char} {c : Char}
    (spells : SpellsUnit digits c.toNat) (rest : List Symbol) :
    unicodeEscape (digits.map .char ++ rest) = .ok (c, rest) := by
  have scalar := (Text.scalar_toNat c).1
  have low : ¬ (0xDC00 ≤ c.toNat ∧ c.toNat ≤ 0xDFFF) := by omega
  have high : c.toNat < 0xD800 ∨ 0xDBFF < c.toNat := by omega
  rw [unicodeEscape, codeUnit_of_spells spells]
  show (if _ then _ else _) = _
  rw [if_neg low, if_pos high, Char.ofNat_toNat]

private theorem unicodeEscape_of_pair {front back : List Char} {c : Char} {high low : Nat}
    (first : SpellsUnit front high) (second : SpellsUnit back low)
    (isHigh : 0xD800 ≤ high ∧ high ≤ 0xDBFF) (isLow : 0xDC00 ≤ low ∧ low ≤ 0xDFFF)
    (point : c.toNat = (high - 0xD800) * 1024 + (low - 0xDC00) + 0x10000) (rest : List Symbol) :
    unicodeEscape (front.map .char ++ .char '\\' :: .char 'u' :: (back.map .char ++ rest)) =
      .ok (c, rest) := by
  have notLow : ¬ (0xDC00 ≤ high ∧ high ≤ 0xDFFF) := by omega
  have surrogate : ¬ (high < 0xD800 ∨ 0xDBFF < high) := by omega
  have paired : ¬ (low < 0xDC00 ∨ 0xDFFF < low) := by omega
  rw [unicodeEscape, codeUnit_of_spells first]
  show (if _ then _ else if _ then _ else _) = _
  rw [if_neg notLow, if_neg surrogate]
  show (codeUnit (back.map .char ++ rest) >>= _) = _
  rw [codeUnit_of_spells second]
  show (if _ then _ else _) = _
  rw [if_neg paired, ← point, Char.ofNat_toNat]

private theorem escaped_of_letter {letter c : Char} (stands : (letter, c) ∈ letters)
    (rest : List Symbol) : escaped (.char letter :: rest) = .ok (c, rest) := by
  obtain ⟨other, short⟩ := shortEscape?_of_letter stands
  unfold escaped
  split
  · next same => cases same
  · next same =>
    cases same
    exact (other rfl).elim
  · next same =>
    cases same
    rw [short]
  · next none => exact (none _ _ rfl).elim

section Contents

variable {rest left contents : List Symbol} {c : Char} {fuel : Nat}

private theorem stringContents_of_escaped {tail : List Symbol}
    (escapes : escaped tail = .ok (c, rest))
    (others : stringContents fuel rest = .ok (contents, left)) :
    stringContents (fuel + 1) (.char '\\' :: tail) = .ok (.char c :: contents, left) := by
  show (escaped tail >>= _) = _
  rw [escapes]
  show (stringContents fuel rest >>= _) = _
  rw [others]
  rfl

private theorem stringContents_of_spells {front : List Char} (spells : SpellsChar front c)
    (others : stringContents fuel rest = .ok (contents, left)) :
    stringContents (fuel + 1) (front.map .char ++ rest) = .ok (.char c :: contents, left) := by
  cases spells with
  | plain quote backslash control =>
    show (if _ then _ else if _ then _ else if _ then _ else stringContents fuel rest >>= _) = _
    rw [if_neg quote, if_neg backslash, if_neg (by omega), others]
    rfl
  | letter stands => exact stringContents_of_escaped (escaped_of_letter stands rest) others
  | unit spells =>
    have read := unicodeEscape_of_unit spells rest
    exact stringContents_of_escaped (show escaped (.char 'u' :: _) = _ from read) others
  | pair first second isHigh isLow point =>
    have read := unicodeEscape_of_pair first second isHigh isLow point rest
    simp only [List.map_cons, List.map_append, List.cons_append, List.append_assoc]
    exact stringContents_of_escaped (show escaped (.char 'u' :: _) = _ from read) others

end Contents

/-- The contents of a string, up to its closing quote. The fuel lasts, since no character is spelled
by nothing. -/
private theorem stringContents_of_string {front cs : List Char} (spells : SpellsString front cs)
    (rest : List Symbol) {fuel : Nat} (lasts : front.length < fuel) :
    stringContents fuel (front.map .char ++ .char '"' :: rest) = .ok (cs.map .char, rest) := by
  induction spells generalizing fuel with
  | nil =>
    obtain ⟨fuel, rfl⟩ := Nat.exists_eq_add_of_lt lasts
    rfl
  | @cons front others c cs first spells ih =>
    have positive := first.length_pos
    rw [List.length_append] at lasts
    obtain ⟨fuel, rfl⟩ : ∃ n, fuel = n + 1 := ⟨fuel - 1, by omega⟩
    rw [List.map_append, List.append_assoc, List.map_cons]
    exact stringContents_of_spells first (ih (by omega))

/-- A string is read behind its opening quote, however it is spelled. -/
theorem string_of_spells {front : List Char} {s : String} (spells : SpellsString front s.toList)
    (rest : List Symbol) :
    string (front.map .char ++ .char '"' :: rest) = .ok (s, rest) := by
  have lasts : front.length < (front.map Symbol.char ++ .char '"' :: rest).length + 1 := by
    simp only [List.length_append, List.length_map]
    omega
  simp only [string, bind, Except.bind, stringContents_of_string spells rest lasts,
    Text.textOf?_map_char, String.ofList_toList]

end Read
end ShowRemote.Json
