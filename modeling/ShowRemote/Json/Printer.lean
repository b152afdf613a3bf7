import ShowRemote.Json.Basic

/-!
The compact text of a document: no blanks, members in order, and in strings only the escapes that
JSON demands, each in its shortest form.
-/

set_option autoImplicit false

namespace ShowRemote.Json

def hexDigit (n : Nat) : Char :=
  if n < 10 then Char.ofNat (48 + n) else Char.ofNat (87 + n)

def escape (c : Char) : List Char :=
  if c = '"' then ['\\', '"']
  else if c = '\\' then ['\\', '\\']
  else if c = '\n' then ['\\', 'n']
  else if c = '\r' then ['\\', 'r']
  else if c = '\t' then ['\\', 't']
  else if c.toNat = 8 then ['\\', 'b']
  else if c.toNat = 12 then ['\\', 'f']
  else if c.toNat < 32 then ['\\', 'u', '0', '0', hexDigit (c.toNat / 16), hexDigit (c.toNat % 16)]
  else [c]

def quote (s : String) : List Char :=
  '"' :: (s.toList.flatMap escape ++ ['"'])

def writeInt (n : Int) : List Char :=
  if n < 0 then '-' :: Nat.toDigits 10 n.natAbs else Nat.toDigits 10 n.natAbs

def Number.write : Number → List Char
  | .integer n => writeInt n
  | .double negative magnitude => (if negative then ['-'] else []) ++ magnitude.write

def commaSeparated : List (List Char) → List Char
  | [] => []
  | [x] => x
  | x :: rest => x ++ ',' :: commaSeparated rest

mutual

def write : Json → List Char
  | .null => ['n', 'u', 'l', 'l']
  | .bool true => ['t', 'r', 'u', 'e']
  | .bool false => ['f', 'a', 'l', 's', 'e']
  | .number n => n.write
  | .string s => quote s
  | .array items => '[' :: (commaSeparated (writeAll items) ++ [']'])
  | .object members => '{' :: (commaSeparated (writeMembers members) ++ ['}'])

def writeAll : List Json → List (List Char)
  | [] => []
  | x :: rest => write x :: writeAll rest

def writeMembers : List (String × Json) → List (List Char)
  | [] => []
  | (k, v) :: rest => (quote k ++ ':' :: write v) :: writeMembers rest

end

def Number.text (n : Number) : String :=
  String.ofList n.write

def text (document : Json) : String :=
  String.ofList document.write

end ShowRemote.Json
