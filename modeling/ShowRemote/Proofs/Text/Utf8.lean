import Mathlib
import ShowRemote.Text.Utf8

/-!
Text that is sent as bytes is read from them again. A character is told by its lead byte, by how
many bytes that announces, and by their six low bits each (`leadingChar?_encode`); the ranges that
the first continuation byte must be in leave out no character, since none is a surrogate or lies
beyond the last plane. The other way, the ranges keep out every second spelling of a character
(`encode_of_leadingChar?`), so that bytes are read as one text at most, the one they are the bytes
of.

Main statements: `symbolsOfBytes_utf8Bytes`, `decodeText?_eq_some_iff`.
-/

set_option autoImplicit false

namespace ShowRemote.Text

section Lead

variable {n : Nat} (rest : List UInt8)

private theorem continues_ofNat {low high m : Nat} (least : low ≤ m) (greatest : m ≤ high)
    (byte : high < 256) : continues low high (UInt8.ofNat m) = true := by
  rw [continues, UInt8.toNat_ofNat_of_lt' (Nat.lt_of_le_of_lt greatest byte)]
  simp [least, greatest]

private theorem leadingChar?_one (narrow : n ≤ 0x7F) :
    leadingChar? (UInt8.ofNat n :: rest) = some (Char.ofNat n, 1) := by
  have lead : (UInt8.ofNat n).toNat = n := UInt8.toNat_ofNat_of_lt' (by show n < 256; omega)
  simp only [leadingChar?, lead]
  rw [if_pos (by omega)]

private theorem leadingChar?_two (wide : 0x7F < n) (narrow : n ≤ 0x7FF) :
    leadingChar? (UInt8.ofNat (n / 64 % 32 + 192) :: UInt8.ofNat (n % 64 + 128) :: rest) =
      some (Char.ofNat n, 2) := by
  have lead : (UInt8.ofNat (n / 64 % 32 + 192)).toNat = n / 64 % 32 + 192 :=
    UInt8.toNat_ofNat_of_lt' (by show _ < 256; omega)
  have last : (UInt8.ofNat (n % 64 + 128)).toNat = n % 64 + 128 :=
    UInt8.toNat_ofNat_of_lt' (by show _ < 256; omega)
  have point : (n / 64 % 32 + 192) % 32 * 64 + (n % 64 + 128) % 64 = n := by omega
  simp only [leadingChar?, lead, last, point]
  rw [if_neg (by omega), if_pos (by omega),
    if_pos (continues_ofNat (by omega) (by omega) (by decide))]

private theorem leadingChar?_three (wide : 0x7FF < n) (narrow : n ≤ 0xFFFF)
    (scalar : n < 0xD800 ∨ 0xDFFF < n) :
    leadingChar? (UInt8.ofNat (n / 4096 % 16 + 224) :: UInt8.ofNat (n / 64 % 64 + 128) ::
      UInt8.ofNat (n % 64 + 128) :: rest) = some (Char.ofNat n, 3) := by
  have lead : (UInt8.ofNat (n / 4096 % 16 + 224)).toNat = n / 4096 % 16 + 224 :=
    UInt8.toNat_ofNat_of_lt' (by show _ < 256; omega)
  have middle : (UInt8.ofNat (n / 64 % 64 + 128)).toNat = n / 64 % 64 + 128 :=
    UInt8.toNat_ofNat_of_lt' (by show _ < 256; omega)
  have last : (UInt8.ofNat (n % 64 + 128)).toNat = n % 64 + 128 :=
    UInt8.toNat_ofNat_of_lt' (by show _ < 256; omega)
  have point : ((n / 4096 % 16 + 224) % 16 * 64 + (n / 64 % 64 + 128) % 64) * 64 +
      (n % 64 + 128) % 64 = n := by omega
  simp only [leadingChar?, lead, middle, last, point]
  rw [if_neg (by omega), if_neg (by omega), if_pos (by omega), if_pos]
  rw [Bool.and_eq_true]
  refine ⟨continues_ofNat ?_ ?_ ?_, continues_ofNat (by omega) (by omega) (by decide)⟩ <;>
    split <;> omega

private theorem leadingChar?_four (wide : 0xFFFF < n) (narrow : n ≤ 0x10FFFF) :
    leadingChar? (UInt8.ofNat (n / 262144 % 8 + 240) :: UInt8.ofNat (n / 4096 % 64 + 128) ::
      UInt8.ofNat (n / 64 % 64 + 128) :: UInt8.ofNat (n % 64 + 128) :: rest) =
        some (Char.ofNat n, 4) := by
  have lead : (UInt8.ofNat (n / 262144 % 8 + 240)).toNat = n / 262144 % 8 + 240 :=
    UInt8.toNat_ofNat_of_lt' (by show _ < 256; omega)
  have second : (UInt8.ofNat (n / 4096 % 64 + 128)).toNat = n / 4096 % 64 + 128 :=
    UInt8.toNat_ofNat_of_lt' (by show _ < 256; omega)
  have third : (UInt8.ofNat (n / 64 % 64 + 128)).toNat = n / 64 % 64 + 128 :=
    UInt8.toNat_ofNat_of_lt' (by show _ < 256; omega)
  have last : (UInt8.ofNat (n % 64 + 128)).toNat = n % 64 + 128 :=
    UInt8.toNat_ofNat_of_lt' (by show _ < 256; omega)
  have point : (((n / 262144 % 8 + 240) % 8 * 64 + (n / 4096 % 64 + 128) % 64) * 64 +
      (n / 64 % 64 + 128) % 64) * 64 + (n % 64 + 128) % 64 = n := by omega
  simp only [leadingChar?, lead, second, third, last, point]
  rw [if_neg (by omega), if_neg (by omega), if_neg (by omega), if_pos (by omega), if_pos]
  rw [Bool.and_eq_true, Bool.and_eq_true]
  refine ⟨⟨continues_ofNat ?_ ?_ ?_, continues_ofNat (by omega) (by omega) (by decide)⟩,
    continues_ofNat (by omega) (by omega) (by decide)⟩ <;>
    split <;> omega

end Lead

theorem scalar_toNat (c : Char) :
    (c.toNat < 0xD800 ∨ 0xDFFF < c.toNat) ∧ c.toNat ≤ 0x10FFFF := by
  have valid := c.valid
  simp only [UInt32.isValidChar, Nat.isValidChar] at valid
  show (c.val.toNat < _ ∨ _ < c.val.toNat) ∧ c.val.toNat ≤ _
  omega

theorem leadingChar?_encode (c : Char) (rest : List UInt8) :
    leadingChar? (String.utf8EncodeChar c ++ rest) =
      some (c, (String.utf8EncodeChar c).length) := by
  obtain ⟨scalar, last⟩ : (c.val.toNat < 0xD800 ∨ 0xDFFF < c.val.toNat) ∧
    c.val.toNat ≤ 0x10FFFF := scalar_toNat c
  have same : Char.ofNat c.val.toNat = c := Char.ofNat_toNat c
  unfold String.utf8EncodeChar
  simp only
  split_ifs with one two three
  · rw [List.singleton_append, leadingChar?_one rest one, same]
    rfl
  · rw [List.cons_append, List.singleton_append, leadingChar?_two rest (by omega) two, same]
    rfl
  · rw [List.cons_append, List.cons_append, List.singleton_append,
      leadingChar?_three rest (by omega) three scalar, same]
    rfl
  · rw [List.cons_append, List.cons_append, List.cons_append, List.singleton_append,
      leadingChar?_four rest (by omega) last, same]
    rfl

private theorem symbolsOfBytes_encode (c : Char) (rest : List UInt8) :
    symbolsOfBytes (String.utf8EncodeChar c ++ rest) = .char c :: symbolsOfBytes rest := by
  have lead := leadingChar?_encode c rest
  cases bytes : String.utf8EncodeChar c with
  | nil => exact (String.utf8EncodeChar_ne_nil bytes).elim
  | cons b others =>
    rw [bytes] at lead
    rw [List.cons_append] at lead ⊢
    rw [symbolsOfBytes, lead]
    simp

/-- Text that is sent as bytes is read from them again. -/
theorem symbolsOfBytes_utf8Bytes (cs : List Char) :
    symbolsOfBytes (utf8Bytes cs) = cs.map .char := by
  induction cs with
  | nil => rw [utf8Bytes, List.flatMap_nil, symbolsOfBytes, List.map_nil]
  | cons c cs ih =>
    rw [utf8Bytes, List.flatMap_cons, symbolsOfBytes_encode, List.map_cons]
    exact congrArg (Symbol.char c :: ·) ih

section Encode

variable {b b1 b2 b3 : UInt8}

theorem toNat_ofNat_of_scalar {n : Nat} (scalar : n < 0xD800 ∨ 0xDFFF < n) (last : n ≤ 0x10FFFF) :
    (Char.ofNat n).val.toNat = n := by
  have valid : n.isValidChar := by
    unfold Nat.isValidChar
    omega
  show (Char.ofNat n).toNat = n
  rw [Char.toNat_ofNat, if_pos valid]

private theorem ofNat_eq_of_toNat {m : Nat} (same : b.toNat = m) : UInt8.ofNat m = b := by
  rw [← same, UInt8.ofNat_toNat]

private theorem encode_one (lead : b.toNat < 0x80) :
    String.utf8EncodeChar (Char.ofNat b.toNat) = [b] := by
  have point := toNat_ofNat_of_scalar (n := b.toNat) (by omega) (by omega)
  unfold String.utf8EncodeChar
  simp only [point]
  rw [if_pos (by omega), ofNat_eq_of_toNat rfl]

private theorem encode_two (lead : 0xC2 ≤ b.toNat ∧ b.toNat ≤ 0xDF)
    (first : 0x80 ≤ b1.toNat ∧ b1.toNat ≤ 0xBF) :
    String.utf8EncodeChar (Char.ofNat (b.toNat % 32 * 64 + b1.toNat % 64)) = [b, b1] := by
  have point := toNat_ofNat_of_scalar (n := b.toNat % 32 * 64 + b1.toNat % 64) (by omega)
    (by omega)
  unfold String.utf8EncodeChar
  simp only [point]
  rw [if_neg (by omega), if_pos (by omega), ofNat_eq_of_toNat (b := b) (by omega),
    ofNat_eq_of_toNat (b := b1) (by omega)]

private theorem encode_three (lead : 0xE0 ≤ b.toNat ∧ b.toNat ≤ 0xEF)
    (first : (if b.toNat = 0xE0 then 0xA0 else 0x80) ≤ b1.toNat ∧
      b1.toNat ≤ if b.toNat = 0xED then 0x9F else 0xBF)
    (second : 0x80 ≤ b2.toNat ∧ b2.toNat ≤ 0xBF) :
    String.utf8EncodeChar
      (Char.ofNat ((b.toNat % 16 * 64 + b1.toNat % 64) * 64 + b2.toNat % 64)) = [b, b1, b2] := by
  -- What two bytes could tell is kept out, and so are surrogates.
  have narrowed : (0x80 ≤ b1.toNat ∧ b1.toNat ≤ 0xBF) ∧ (b.toNat = 0xE0 → 0xA0 ≤ b1.toNat) ∧
      (b.toNat = 0xED → b1.toNat ≤ 0x9F) := by
    split_ifs at first <;> omega
  have point := toNat_ofNat_of_scalar
    (n := (b.toNat % 16 * 64 + b1.toNat % 64) * 64 + b2.toNat % 64) (by omega) (by omega)
  unfold String.utf8EncodeChar
  simp only [point]
  rw [if_neg (by omega), if_neg (by omega), if_pos (by omega),
    ofNat_eq_of_toNat (b := b) (by omega), ofNat_eq_of_toNat (b := b1) (by omega),
    ofNat_eq_of_toNat (b := b2) (by omega)]

private theorem encode_four (lead : 0xF0 ≤ b.toNat ∧ b.toNat ≤ 0xF4)
    (first : (if b.toNat = 0xF0 then 0x90 else 0x80) ≤ b1.toNat ∧
      b1.toNat ≤ if b.toNat = 0xF4 then 0x8F else 0xBF)
    (second : 0x80 ≤ b2.toNat ∧ b2.toNat ≤ 0xBF) (third : 0x80 ≤ b3.toNat ∧ b3.toNat ≤ 0xBF) :
    String.utf8EncodeChar
      (Char.ofNat (((b.toNat % 8 * 64 + b1.toNat % 64) * 64 + b2.toNat % 64) * 64 +
        b3.toNat % 64)) = [b, b1, b2, b3] := by
  have narrowed : (0x80 ≤ b1.toNat ∧ b1.toNat ≤ 0xBF) ∧ (b.toNat = 0xF0 → 0x90 ≤ b1.toNat) ∧
      (b.toNat = 0xF4 → b1.toNat ≤ 0x8F) := by
    split_ifs at first <;> omega
  have point := toNat_ofNat_of_scalar
    (n := ((b.toNat % 8 * 64 + b1.toNat % 64) * 64 + b2.toNat % 64) * 64 + b3.toNat % 64)
    (by omega) (by omega)
  unfold String.utf8EncodeChar
  simp only [point]
  rw [if_neg (by omega), if_neg (by omega), if_neg (by omega),
    ofNat_eq_of_toNat (b := b) (by omega), ofNat_eq_of_toNat (b := b1) (by omega),
    ofNat_eq_of_toNat (b := b2) (by omega), ofNat_eq_of_toNat (b := b3) (by omega)]

end Encode

/-- The character that is read off the front of some bytes is encoded by these bytes. -/
theorem encode_of_leadingChar? {b : UInt8} {rest : List UInt8} {c : Char} {width : Nat}
    (lead : leadingChar? (b :: rest) = some (c, width)) :
    String.utf8EncodeChar c ++ rest.drop (width - 1) = b :: rest := by
  unfold leadingChar? at lead
  simp only [continues] at lead
  by_cases one : b.toNat < 0x80
  · rw [if_pos one] at lead
    obtain ⟨rfl, rfl⟩ := Prod.mk.inj (Option.some.inj lead)
    rw [encode_one one]
    rfl
  rw [if_neg one] at lead
  by_cases two : 0xC2 ≤ b.toNat ∧ b.toNat ≤ 0xDF
  · rw [if_pos two] at lead
    match rest, lead with
    | [], lead => cases lead
    | b1 :: rest, lead =>
      simp only [Option.ite_none_right_eq_some, Bool.and_eq_true, decide_eq_true_eq] at lead
      obtain ⟨first, same⟩ := lead
      obtain ⟨rfl, rfl⟩ := Prod.mk.inj (Option.some.inj same)
      rw [encode_two two first]
      rfl
  rw [if_neg two] at lead
  by_cases three : 0xE0 ≤ b.toNat ∧ b.toNat ≤ 0xEF
  · rw [if_pos three] at lead
    match rest, lead with
    | [], lead => cases lead
    | [_], lead => cases lead
    | b1 :: b2 :: rest, lead =>
      simp only [Option.ite_none_right_eq_some, Bool.and_eq_true, decide_eq_true_eq] at lead
      obtain ⟨⟨first, second⟩, same⟩ := lead
      obtain ⟨rfl, rfl⟩ := Prod.mk.inj (Option.some.inj same)
      rw [encode_three three first second]
      rfl
  rw [if_neg three] at lead
  by_cases four : 0xF0 ≤ b.toNat ∧ b.toNat ≤ 0xF4
  · rw [if_pos four] at lead
    match rest, lead with
    | [], lead => cases lead
    | [_], lead => cases lead
    | [_, _], lead => cases lead
    | b1 :: b2 :: b3 :: rest, lead =>
      simp only [Option.ite_none_right_eq_some, Bool.and_eq_true, decide_eq_true_eq] at lead
      obtain ⟨⟨⟨first, second⟩, third⟩, same⟩ := lead
      obtain ⟨rfl, rfl⟩ := Prod.mk.inj (Option.some.inj same)
      rw [encode_four four first second third]
      rfl
  · rw [if_neg four] at lead
    cases lead

/-- Characters outside ASCII begin with a byte of their own range. -/
theorem toNat_lt_of_utf8EncodeChar_lt {c : Char}
    (low : ∀ b ∈ String.utf8EncodeChar c, b.toNat < 0x80) : c.toNat < 0x80 := by
  have lead := leadingChar?_encode c []
  cases bytes : String.utf8EncodeChar c with
  | nil => exact (String.utf8EncodeChar_ne_nil bytes).elim
  | cons b rest =>
    rw [bytes] at low lead
    have narrow : b.toNat < 0x80 := low b List.mem_cons_self
    unfold leadingChar? at lead
    simp only [List.append_nil, narrow, if_true, Option.some.injEq, Prod.mk.injEq] at lead
    have value : (Char.ofNat b.toNat).val.toNat = b.toNat :=
      toNat_ofNat_of_scalar (.inl (by omega)) (by omega)
    show c.val.toNat < 0x80
    rw [← lead.1, value]
    exact narrow

theorem bytesOf_symbolsOfBytes (bytes : List UInt8) : bytesOf (symbolsOfBytes bytes) = bytes := by
  induction bytes using symbolsOfBytes.induct with
  | case1 =>
    rw [symbolsOfBytes]
    rfl
  | case2 b rest c width lead ih =>
    rw [symbolsOfBytes, lead]
    show String.utf8EncodeChar c ++ bytesOf _ = _
    rw [ih, encode_of_leadingChar? lead]
  | case3 b rest lead ih =>
    rw [symbolsOfBytes, lead]
    show b :: bytesOf _ = _
    rw [ih]

theorem textOf?_map_char (cs : List Char) : textOf? (cs.map .char) = some (String.ofList cs) := by
  have chars : (cs.map Symbol.char).mapM Symbol.char? = some cs := by
    induction cs with
    | nil => rfl
    | cons c cs ih =>
      rw [List.map_cons, List.mapM_cons, ih]
      rfl
  rw [textOf?, chars]
  rfl

private theorem eq_map_char_of_mapM {symbols : List Symbol} {cs : List Char}
    (chars : symbols.mapM Symbol.char? = some cs) : symbols = cs.map .char := by
  induction symbols generalizing cs with
  | nil =>
    cases chars
    rfl
  | cons symbol symbols ih =>
    rw [List.mapM_cons] at chars
    cases symbol with
    | stray byte => cases chars
    | char c =>
      obtain ⟨_, ⟨⟩, chars⟩ := Option.bind_eq_some_iff.mp chars
      obtain ⟨rest, others, same⟩ := Option.bind_eq_some_iff.mp chars
      obtain rfl : c :: rest = cs := Option.some.inj same
      rw [ih others, List.map_cons]

theorem textOf?_eq_some_iff {symbols : List Symbol} {text : String} :
    textOf? symbols = some text ↔ symbols = symbolsOf text := by
  constructor
  · intro read
    obtain ⟨cs, chars, rfl⟩ := Option.map_eq_some_iff.mp read
    rw [symbolsOf, String.toList_ofList]
    exact eq_map_char_of_mapM chars
  · rintro rfl
    rw [symbolsOf, textOf?_map_char, String.ofList_toList]

/-- Bytes are read as a text when they are its bytes. -/
theorem decodeText?_eq_some_iff {bytes : List UInt8} {text : String} :
    decodeText? bytes = some text ↔ bytes = utf8Bytes text.toList := by
  rw [decodeText?, textOf?_eq_some_iff]
  constructor
  · intro same
    rw [← bytesOf_symbolsOfBytes bytes, same, symbolsOf, bytesOf, utf8Bytes, List.flatMap_map]
    rfl
  · rintro rfl
    exact symbolsOfBytes_utf8Bytes _

end ShowRemote.Text
