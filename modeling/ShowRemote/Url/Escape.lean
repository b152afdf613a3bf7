import ShowRemote.Text.Utf8

/-!
Percent escapes. Each part of a URL has its own set of characters that are written as the bytes of
their UTF-8 encoding, two hexadecimal digits a byte; controls and characters outside ASCII always
are. A percent sign is kept as it stands.
-/

set_option autoImplicit false

namespace ShowRemote.Url

def hexUpper (n : Nat) : Char :=
  if n < 10 then Char.ofNat (48 + n) else Char.ofNat (55 + n)

def escapeByte (b : UInt8) : List Char :=
  ['%', hexUpper (b.toNat / 16), hexUpper (b.toNat % 16)]

def isControl (c : Char) : Bool :=
  c.toNat < 0x20 || 0x7F ≤ c.toNat

def among (members : List Char) (c : Char) : Bool :=
  members.contains c

def pathSet : Char → Bool :=
  among [' ', '"', '<', '>', '`', '#', '?', '{', '}']

def userInfoSet (c : Char) : Bool :=
  pathSet c || among ['/', ':', ';', '=', '@', '[', '\\', ']', '^', '|'] c

def querySet (special : Bool) (c : Char) : Bool :=
  among [' ', '"', '#', '<', '>'] c || (special && c = '\'')

def fragmentSet : Char → Bool :=
  among [' ', '"', '<', '>', '`']

def controlSet : Char → Bool :=
  fun _ => false

def escapeChar (set : Char → Bool) (c : Char) : List Char :=
  if isControl c || set c then (String.utf8EncodeChar c).flatMap escapeByte else [c]

def escape (set : Char → Bool) (s : List Char) : List Char :=
  s.flatMap (escapeChar set)

def hexValue? (c : Char) : Option Nat :=
  if '0' ≤ c ∧ c ≤ '9' then some (c.toNat - 48)
  else if 'a' ≤ c ∧ c ≤ 'f' then some (c.toNat - 87)
  else if 'A' ≤ c ∧ c ≤ 'F' then some (c.toNat - 55)
  else none

/-- The bytes of a text whose escapes are undone. A percent sign without two digits stands for
itself. -/
def unescape : List Char → List UInt8
  | '%' :: a :: b :: rest =>
    match hexValue? a, hexValue? b with
    | some x, some y => UInt8.ofNat (x * 16 + y) :: unescape rest
    | _, _ => 37 :: unescape (a :: b :: rest)
  | c :: rest => String.utf8EncodeChar c ++ unescape rest
  | [] => []

end ShowRemote.Url
