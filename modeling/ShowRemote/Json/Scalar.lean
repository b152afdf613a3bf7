import ShowRemote.Json.Fault
import ShowRemote.Text.Numeral

/-!
The leaves of a JSON text: blanks, words, numbers and strings. Each reader takes its leaf off the
front of the text and tells the first byte that does not fit.

A number that is not an integer of 64 bits is a double: its digits are gathered into a significand
of 64 bits and a power of ten, and the two are combined by rounded products and quotients.
-/

set_option autoImplicit false

namespace ShowRemote.Json.Read

open Text (Symbol)
open Decimal (Binary64)

def isSpace : Symbol → Bool
  | .char c => c = ' ' || c = '\n' || c = '\t' || c = '\r'
  | .stray _ => false

def skipSpaces (s : List Symbol) : List Symbol :=
  s.dropWhile isSpace

def digit? : Symbol → Option Nat
  | .char c => Text.digitValue? c
  | .stray _ => none

def isDigit (x : Symbol) : Bool :=
  (digit? x).isSome

def finishWord : List Char → List Symbol → Except Fault (List Symbol)
  | [], s => .ok s
  | _ :: _, [] => Fault.here .endInValue []
  | c :: word, x :: rest =>
    if x = .char c then finishWord word rest else Fault.next .expectedLiteral (x :: rest)

def greatestSignificand : Nat := Nat.pow 2 64 - 1

/-- The greatest power of ten that is still told from a greater one. -/
def greatestExponent : Nat := Nat.pow 2 31 - 1

/-- Read digits onto a total for as long as it stays a significand. -/
def gatherDigits : Nat → List Symbol → Nat × List Symbol
  | total, [] => (total, [])
  | total, x :: rest =>
    match digit? x with
    | none => (total, x :: rest)
    | some d =>
      if total * 10 + d ≤ greatestSignificand then gatherDigits (total * 10 + d) rest
      else (total, x :: rest)

/-- Read the digits of an exponent. A power of ten out of reach is refused as soon as it shows,
unless it cannot matter. -/
def exponentDigits (strict : Bool) : Nat → List Symbol → Except Fault (Nat × List Symbol)
  | total, [] => .ok (total, [])
  | total, x :: rest =>
    match digit? x with
    | none => .ok (total, x :: rest)
    | some d =>
      if strict ∧ greatestExponent < total * 10 + d then Fault.here .numberOutOfRange rest
      else exponentDigits strict (total * 10 + d) rest

/-- The powers of ten that one product or quotient covers. -/
def longestStride : Nat := 308

def powerOfTen (n : Nat) : Binary64 :=
  (Binary64.ofNat? (Nat.pow 10 n)).getD .zero

/-- Multiply or divide a magnitude by a power of ten, rounding at every stride. -/
def scaleByTen? : Nat → Binary64 → Int → Option Binary64
  | 0, x, _ => some x
  | strides + 1, x, exponent =>
    if exponent.natAbs ≤ longestStride then
      if 0 ≤ exponent then x.mul? (powerOfTen exponent.natAbs)
      else x.div? (powerOfTen exponent.natAbs)
    else if x.significand = 0 then some x
    else if 0 ≤ exponent then none
    else
      match x.div? (powerOfTen longestStride) with
      | some y => scaleByTen? strides y (exponent + longestStride)
      | none => none

/-- The magnitude of `significand · 10 ^ exponent`. Three strides take every significand to zero. -/
def magnitude? (significand : Nat) (exponent : Int) : Option Binary64 :=
  match Binary64.ofNat? significand with
  | some x => scaleByTen? 4 x exponent
  | none => none

def finishDouble (negative : Bool) (significand : Nat) (exponent : Int) : Reader Number :=
  fun s =>
    match magnitude? significand exponent with
    | some m => .ok (.double negative m, s)
    | none => Fault.here .numberOutOfRange s

def finishExponent (negative : Bool) (significand : Nat) (exponent : Int) : Reader Number :=
  fun s =>
    let (minus, digits) : Bool × List Symbol :=
      match s with
      | .char '+' :: rest => (false, rest)
      | .char '-' :: rest => (true, rest)
      | _ => (false, s)
    match digits with
    | [] => Fault.here .endInValue []
    | x :: _ =>
      if isDigit x then do
        let (power, rest) ← exponentDigits (!minus && significand ≠ 0) 0 digits
        finishDouble negative significand (if minus then exponent - power else exponent + power)
          rest
      else Fault.next .invalidNumber digits

/-- A fraction behind its point. Digits that no longer fit add nothing. -/
def finishFraction (negative : Bool) (significand : Nat) (exponent : Int) : Reader Number :=
  fun s =>
    match s with
    | [] => Fault.here .endInValue []
    | x :: _ =>
      if isDigit x then
        let (total, rest) := gatherDigits significand s
        let scaled := exponent - ((s.length - rest.length : Nat) : Int)
        match rest.dropWhile isDigit with
        | .char 'e' :: power => finishExponent negative total scaled power
        | .char 'E' :: power => finishExponent negative total scaled power
        | behind => finishDouble negative total scaled behind
      else Fault.next .invalidNumber s

/-- What follows the digits before the point, `excess` of which did not fit the significand. -/
def finishNumber (negative : Bool) (significand excess : Nat) : Reader Number :=
  fun s =>
    match s with
    | .char '.' :: rest => finishFraction negative significand excess rest
    | .char 'e' :: rest => finishExponent negative significand excess rest
    | .char 'E' :: rest => finishExponent negative significand excess rest
    | _ =>
      if 0 < excess then finishDouble negative significand excess s
      else if negative = false then .ok (.integer significand, s)
      else if 0 < significand ∧ significand ≤ Nat.pow 2 63 then .ok (.integer (-significand), s)
      else finishDouble true significand 0 s

def number (negative : Bool) : Reader Number :=
  fun s =>
    match s with
    | [] => Fault.here .endInValue []
    | x :: rest =>
      match digit? x with
      | none => Fault.next .invalidNumber s
      | some 0 =>
        match rest with
        | y :: _ => if isDigit y then Fault.next .invalidNumber rest
          else finishNumber negative 0 0 rest
        | [] => finishNumber negative 0 0 rest
      | some d =>
        let (significand, behind) := gatherDigits d rest
        let excess := behind.takeWhile isDigit
        finishNumber negative significand excess.length (behind.dropWhile isDigit)

def hexValue? : Symbol → Option Nat
  | .char c =>
    if '0' ≤ c ∧ c ≤ '9' then some (c.toNat - 48)
    else if 'a' ≤ c ∧ c ≤ 'f' then some (c.toNat - 87)
    else if 'A' ≤ c ∧ c ≤ 'F' then some (c.toNat - 55)
    else none
  | .stray _ => none

def codeUnit : Reader Nat
  | a :: b :: c :: d :: rest =>
    match hexValue? a, hexValue? b, hexValue? c, hexValue? d with
    | some w, some x, some y, some z => .ok (((w * 16 + x) * 16 + y) * 16 + z, rest)
    | _, _, _, _ => .error ⟨.invalidEscape, a :: b :: c :: d :: rest, 4⟩
  | s =>
    if (Text.bytesOf s).length < 4 then Fault.here .endInString []
    else .error ⟨.invalidEscape, s, 4⟩

/-- The character behind `\u`: one code unit, or a surrogate pair of two. -/
def unicodeEscape : Reader Char :=
  fun s => do
    let (unit, rest) ← codeUnit s
    if 0xDC00 ≤ unit ∧ unit ≤ 0xDFFF then Fault.here .loneSurrogate rest
    else if unit < 0xD800 ∨ 0xDBFF < unit then .ok (Char.ofNat unit, rest)
    else
      match rest with
      | [] => Fault.here .endInString []
      | .char '\\' :: behind =>
        match behind with
        | [] => Fault.here .endInString []
        | .char 'u' :: low => do
          let (second, rest) ← codeUnit low
          if second < 0xDC00 ∨ 0xDFFF < second then Fault.here .loneSurrogate rest
          else .ok (Char.ofNat ((unit - 0xD800) * 1024 + (second - 0xDC00) + 0x10000), rest)
        | _ => Fault.next .unfinishedSurrogatePair behind
      | _ => Fault.next .unfinishedSurrogatePair rest

def shortEscape? : Char → Option Char
  | '"' => some '"'
  | '\\' => some '\\'
  | '/' => some '/'
  | 'b' => some (Char.ofNat 8)
  | 'f' => some (Char.ofNat 12)
  | 'n' => some '\n'
  | 'r' => some '\r'
  | 't' => some '\t'
  | _ => none

def escaped : Reader Char
  | [] => Fault.here .endInString []
  | .char 'u' :: rest => unicodeEscape rest
  | .char c :: rest =>
    match shortEscape? c with
    | some e => .ok (e, rest)
    | none => Fault.next .invalidEscape (.char c :: rest)
  | s => Fault.next .invalidEscape s

/-- The contents of a string up to its closing quote. The fuel bounds the symbols in it. -/
def stringContents : Nat → Reader (List Symbol)
  | 0, _ => Fault.here .endInString []
  | _ + 1, [] => Fault.here .endInString []
  | fuel + 1, .char c :: rest =>
    if c = '"' then .ok ([], rest)
    else if c = '\\' then do
      let (e, rest) ← escaped rest
      let (tail, rest) ← stringContents fuel rest
      .ok (.char e :: tail, rest)
    else if c.toNat < 32 then Fault.next .controlCharacter (.char c :: rest)
    else do
      let (tail, rest) ← stringContents fuel rest
      .ok (.char c :: tail, rest)
  | fuel + 1, .stray b :: rest => do
    let (tail, rest) ← stringContents fuel rest
    .ok (.stray b :: tail, rest)

def string : Reader String :=
  fun s => do
    let (contents, rest) ← stringContents (s.length + 1) s
    match Text.textOf? contents with
    | some text => .ok (text, rest)
    | none => Fault.here .invalidCodePoint rest

end ShowRemote.Json.Read
