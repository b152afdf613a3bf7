import ShowRemote.Json.Printer
import ShowRemote.Text.Numeral

/-!
Flat tables in TOML: lines of a simple key and a string or an integer. Every other value, a repeated
key and every breach of the grammar make the text no table.
-/

set_option autoImplicit false

namespace ShowRemote.Settings

inductive Entry where
  | text (content : String)
  | integer (value : Int)
  deriving DecidableEq, Repr

/-- A value as text: an integer stands for its decimal numeral. -/
def Entry.content : Entry → String
  | .text content => content
  | .integer value => String.ofList (Json.writeInt value)

abbrev Table : Type :=
  List (String × Entry)

namespace Table

abbrev Taker (α : Type) : Type :=
  List Char → Option (α × List Char)

def isGap (c : Char) : Bool :=
  c = ' ' || c = '\t'

def skipGaps (s : List Char) : List Char :=
  s.dropWhile isGap

/-- Characters that may stand in comments and strings: all but controls, the tab excepted. -/
def isText (c : Char) : Bool :=
  c = '\t' || (0x20 ≤ c.toNat && c.toNat ≠ 0x7F)

def lineEnd? : List Char → Option (List Char)
  | '\n' :: rest => some rest
  | '\r' :: '\n' :: rest => some rest
  | _ => none

def hexDigit? (c : Char) : Option Nat :=
  if '0' ≤ c ∧ c ≤ '9' then some (c.toNat - 48)
  else if 'a' ≤ c ∧ c ≤ 'f' then some (c.toNat - 87)
  else if 'A' ≤ c ∧ c ≤ 'F' then some (c.toNat - 55)
  else none

def hexNumber : Nat → Nat → Taker Nat
  | 0, total, s => some (total, s)
  | n + 1, total, c :: rest =>
    match hexDigit? c with
    | some d => hexNumber n (total * 16 + d) rest
    | none => none
  | _ + 1, _, [] => none

def scalar? (n : Nat) : Option Char :=
  if n < 0xD800 ∨ (0xDFFF < n ∧ n ≤ 0x10FFFF) then some (Char.ofNat n) else none

def codePoint (width : Nat) : Taker Char :=
  fun s =>
    match hexNumber width 0 s with
    | some (n, rest) => (scalar? n).map fun c => (c, rest)
    | none => none

def escaped : Taker Char
  | 'b' :: rest => some (Char.ofNat 8, rest)
  | 't' :: rest => some ('\t', rest)
  | 'n' :: rest => some ('\n', rest)
  | 'f' :: rest => some (Char.ofNat 12, rest)
  | 'r' :: rest => some ('\r', rest)
  | '"' :: rest => some ('"', rest)
  | '\\' :: rest => some ('\\', rest)
  | 'u' :: rest => codePoint 4 rest
  | 'U' :: rest => codePoint 8 rest
  | _ => none

/-- A string on one line up to its closing quote. Only between double quotes are there escapes. -/
def lineString (mark : Char) : Nat → Taker (List Char)
  | 0, _ => none
  | _ + 1, [] => none
  | fuel + 1, c :: rest =>
    if c = mark then some ([], rest)
    else if c = '\\' ∧ mark = '"' then
      match escaped rest with
      | some (e, rest) => (lineString mark fuel rest).map fun r => (e :: r.1, r.2)
      | none => none
    else if isText c then (lineString mark fuel rest).map fun r => (c :: r.1, r.2)
    else none

/-- The text behind a backslash that ends a line: the line end and all blanks are skipped. -/
def joinedLine? (s : List Char) : Option (List Char) :=
  match lineEnd? (skipGaps s) with
  | some rest => some (skipBlankLines (rest.length + 1) rest)
  | none => none
where
  skipBlankLines : Nat → List Char → List Char
    | 0, s => s
    | fuel + 1, s =>
      match lineEnd? (skipGaps s) with
      | some rest => skipBlankLines fuel rest
      | none => skipGaps s

/-- A string over several lines up to its three closing quotes, before which two more may stand. -/
def blockString (mark : Char) : Nat → Taker (List Char)
  | 0, _ => none
  | _ + 1, [] => none
  | fuel + 1, c :: rest =>
    let keep (kept : List Char) (rest : List Char) : Option (List Char × List Char) :=
      (blockString mark fuel rest).map fun r => (kept ++ r.1, r.2)
    if c = mark then
      let run := (c :: rest).takeWhile fun x => x = mark
      if run.length < 3 then keep run (rest.drop (run.length - 1))
      else
        let extra := min (run.length - 3) 2
        some (List.replicate extra mark, rest.drop (extra + 2))
    else
      match lineEnd? (c :: rest) with
      | some behind => keep ['\n'] behind
      | none =>
        if c = '\\' ∧ mark = '"' then
          match joinedLine? rest with
          | some behind => keep [] behind
          | none =>
            match escaped rest with
            | some (e, behind) => keep [e] behind
            | none => none
        else if isText c then keep [c] rest
        else none

/-- A string of any kind. A line end right behind three opening quotes is dropped. -/
def string : Taker String :=
  fun s =>
    let made : Option (List Char × List Char) :=
      match s with
      | '"' :: '"' :: '"' :: rest =>
        blockString '"' (rest.length + 1) ((lineEnd? rest).getD rest)
      | '\'' :: '\'' :: '\'' :: rest =>
        blockString '\'' (rest.length + 1) ((lineEnd? rest).getD rest)
      | '"' :: rest => lineString '"' (rest.length + 1) rest
      | '\'' :: rest => lineString '\'' (rest.length + 1) rest
      | _ => none
    made.map fun r => (String.ofList r.1, r.2)

/-- Digits of a base; between two digits may stand an underscore. -/
def digitsValue? (base : Nat) : Nat → Bool → List Char → Option Nat
  | total, true, [] => some total
  | _, false, [] => none
  | total, behindDigit, c :: rest =>
    if c = '_' then if behindDigit ∧ rest ≠ [] then digitsValue? base total false rest else none
    else
      match hexDigit? c with
      | some d => if d < base then digitsValue? base (total * base + d) true rest else none
      | none => none

def decimalValue? (s : List Char) : Option Nat :=
  match s with
  | '0' :: _ :: _ => none
  | _ => digitsValue? 10 0 false s

def integerValue? : List Char → Option Int
  | '0' :: 'x' :: digits => (digitsValue? 16 0 false digits).map Int.ofNat
  | '0' :: 'o' :: digits => (digitsValue? 8 0 false digits).map Int.ofNat
  | '0' :: 'b' :: digits => (digitsValue? 2 0 false digits).map Int.ofNat
  | '+' :: digits => (decimalValue? digits).map Int.ofNat
  | '-' :: digits => (decimalValue? digits).map fun n => -Int.ofNat n
  | digits => (decimalValue? digits).map Int.ofNat

def isWordChar (c : Char) : Bool :=
  !(isGap c || c = '#' || c = '\n' || c = '\r')

def integer : Taker Int :=
  fun s =>
    match integerValue? (s.takeWhile isWordChar) with
    | some n =>
      if Text.IntegerRange.signed64.least ≤ n ∧ n ≤ Text.IntegerRange.signed64.greatest then
        some (n, s.dropWhile isWordChar)
      else none
    | none => none

def isBareKeyChar (c : Char) : Bool :=
  c.isAlphanum || c = '_' || c = '-'

def key : Taker String :=
  fun s =>
    match s with
    | '"' :: rest => (lineString '"' (rest.length + 1) rest).map fun r => (String.ofList r.1, r.2)
    | '\'' :: rest => (lineString '\'' (rest.length + 1) rest).map fun r => (String.ofList r.1, r.2)
    | _ =>
      let name := s.takeWhile isBareKeyChar
      if name = [] then none else some (String.ofList name, s.dropWhile isBareKeyChar)

def value : Taker Entry :=
  fun s =>
    match s with
    | '"' :: _ => (string s).map fun r => (.text r.1, r.2)
    | '\'' :: _ => (string s).map fun r => (.text r.1, r.2)
    | _ => (integer s).map fun r => (.integer r.1, r.2)

def member : Taker (String × Entry) :=
  fun s =>
    match key s with
    | none => none
    | some (name, rest) =>
      match skipGaps rest with
      | '=' :: rest => (value (skipGaps rest)).map fun r => ((name, r.1), r.2)
      | _ => none

def finishLine? (s : List Char) : Option (List Char) :=
  let behind (t : List Char) : Option (List Char) := if t = [] then some [] else lineEnd? t
  match skipGaps s with
  | '#' :: rest => behind (rest.dropWhile isText)
  | t => behind t

/-- The lines of a table. The fuel bounds their number. -/
def lines : Nat → Table → List Char → Option Table
  | 0, _, _ => none
  | fuel + 1, held, s =>
    match skipGaps s with
    | [] => some held
    | t =>
      match finishLine? t with
      | some rest => lines fuel held rest
      | none =>
        match member t with
        | none => none
        | some ((name, entry), rest) =>
          if (held.lookup name).isSome then none
          else
            match finishLine? rest with
            | some rest => lines fuel (held ++ [(name, entry)]) rest
            | none => none

/-- Read a table. A mark of the byte order may stand before it. -/
def parse? (text : String) : Option Table :=
  let s := text.toList
  let s := if s.head? = some (Char.ofNat 0xFEFF) then s.tail else s
  lines (s.length + 1) [] s

end Table
end ShowRemote.Settings
