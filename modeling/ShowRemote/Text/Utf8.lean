/-!
Text as bytes. A sequence of bytes is read as characters where it is well-formed UTF-8 and as stray
bytes elsewhere, so that no byte is lost and places can be counted in bytes.
-/

set_option autoImplicit false

namespace ShowRemote.Text

inductive Symbol where
  | char (c : Char)
  | stray (byte : UInt8)
  deriving DecidableEq, Repr

namespace Symbol

def bytes : Symbol → List UInt8
  | .char c => String.utf8EncodeChar c
  | .stray b => [b]

def char? : Symbol → Option Char
  | .char c => some c
  | .stray _ => none

end Symbol

def symbolsOf (s : String) : List Symbol :=
  s.toList.map .char

def bytesOf (symbols : List Symbol) : List UInt8 :=
  symbols.flatMap Symbol.bytes

def utf8Bytes (s : List Char) : List UInt8 :=
  s.flatMap String.utf8EncodeChar

def continues (low high : Nat) (b : UInt8) : Bool :=
  low ≤ b.toNat && b.toNat ≤ high

/-- The character at the front of a sequence of bytes, with the number of its bytes. -/
def leadingChar? : List UInt8 → Option (Char × Nat)
  | [] => none
  | b :: rest =>
    let lead := b.toNat
    let tail (x : UInt8) : Nat := x.toNat % 64
    if lead < 0x80 then some (Char.ofNat lead, 1)
    else if 0xC2 ≤ lead ∧ lead ≤ 0xDF then
      match rest with
      | b1 :: _ =>
        if continues 0x80 0xBF b1 then some (Char.ofNat (lead % 32 * 64 + tail b1), 2) else none
      | _ => none
    else if 0xE0 ≤ lead ∧ lead ≤ 0xEF then
      match rest with
      | b1 :: b2 :: _ =>
        let low := if lead = 0xE0 then 0xA0 else 0x80
        let high := if lead = 0xED then 0x9F else 0xBF
        if continues low high b1 && continues 0x80 0xBF b2 then
          some (Char.ofNat ((lead % 16 * 64 + tail b1) * 64 + tail b2), 3)
        else none
      | _ => none
    else if 0xF0 ≤ lead ∧ lead ≤ 0xF4 then
      match rest with
      | b1 :: b2 :: b3 :: _ =>
        let low := if lead = 0xF0 then 0x90 else 0x80
        let high := if lead = 0xF4 then 0x8F else 0xBF
        if continues low high b1 && continues 0x80 0xBF b2 && continues 0x80 0xBF b3 then
          some (Char.ofNat (((lead % 8 * 64 + tail b1) * 64 + tail b2) * 64 + tail b3), 4)
        else none
      | _ => none
    else none

def symbolsOfBytes : List UInt8 → List Symbol
  | [] => []
  | b :: rest =>
    match leadingChar? (b :: rest) with
    | some (c, width) => .char c :: symbolsOfBytes (rest.drop (width - 1))
    | none => .stray b :: symbolsOfBytes rest
  termination_by bytes => bytes.length
  decreasing_by all_goals simp only [List.length_cons, List.length_drop]; omega

def textOf? (symbols : List Symbol) : Option String :=
  (symbols.mapM Symbol.char?).map String.ofList

def decodeText? (bytes : List UInt8) : Option String :=
  textOf? (symbolsOfBytes bytes)

end ShowRemote.Text
