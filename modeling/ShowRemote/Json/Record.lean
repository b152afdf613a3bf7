import ShowRemote.Json.Ignored

/-!
Values of an expected form, read straight from text: strings, names out of a list, maps, and records
with named fields. A record may also be written as a list of its fields in order.
-/

set_option autoImplicit false

namespace ShowRemote.Json.Read

open Text (Symbol)

/-- Refuse a value that has not the expected form, told by its kind. -/
def unexpected {α : Type} (expected : String) (s : List Symbol) : Except Fault α :=
  let tell (found : Found) (rest : List Symbol) : Except Fault α :=
    Fault.here (.unexpectedKind found expected) rest
  match skipSpaces s with
  | [] => Fault.here .endInValue []
  | .char 'n' :: rest => do
    let rest ← finishWord ['u', 'l', 'l'] rest
    tell .null rest
  | .char 't' :: rest => do
    let rest ← finishWord ['r', 'u', 'e'] rest
    tell (.bool true) rest
  | .char 'f' :: rest => do
    let rest ← finishWord ['a', 'l', 's', 'e'] rest
    tell (.bool false) rest
  | .char '-' :: rest => do
    let (n, rest) ← number true rest
    tell (.number n) rest
  | .char '"' :: rest => do
    let (text, rest) ← string rest
    tell (.string text) rest
  | .char '[' :: rest => tell .array (.char '[' :: rest)
  | .char '{' :: rest => tell .object (.char '{' :: rest)
  | x :: rest =>
    if isDigit x then do
      let (n, rest) ← number false (x :: rest)
      tell (.number n) rest
    else Fault.next .expectedValue (x :: rest)

def text : Reader String :=
  fun s =>
    match skipSpaces s with
    | .char '"' :: rest => string rest
    | t => unexpected "a string" t

def unit : Reader Unit :=
  fun s =>
    match skipSpaces s with
    | .char 'n' :: rest => do
      let rest ← finishWord ['u', 'l', 'l'] rest
      .ok ((), rest)
    | t => unexpected "unit" t

/-- A value, or nothing when the word for it stands there. -/
def optional {α : Type} (reader : Reader α) : Reader (Option α) :=
  fun s =>
    match skipSpaces s with
    | .char 'n' :: rest => do
      let rest ← finishWord ['u', 'l', 'l'] rest
      .ok (none, rest)
    | t => do
      let (x, rest) ← reader t
      .ok (some x, rest)

def map (depth : Nat) : Reader (List (String × Json)) :=
  fun s =>
    match skipSpaces s with
    | .char '{' :: rest => members (value depth) (rest.length + 1) true rest
    | t => unexpected "a map" t

def knownName {α : Type} (names : List (String × α)) : Reader α :=
  fun s => do
    let (name, rest) ← string s
    match names.lookup name with
    | some a => .ok (a, rest)
    | none => Fault.here (.unknownVariant name (names.map Prod.fst)) rest

/-- A name out of a list, written as a string or as the key of an object with nothing as its only
member. -/
def variant {α : Type} (names : List (String × α)) : Reader α :=
  fun s =>
    match skipSpaces s with
    | [] => Fault.here .endInValue []
    | .char '"' :: rest => knownName names rest
    | .char '{' :: rest =>
      match skipSpaces rest with
      | [] => Fault.here .endInObject []
      | .char '"' :: rest => do
        let (a, rest) ← knownName names rest
        let rest ← colon rest
        let (_, rest) ← unit rest
        match skipSpaces rest with
        | [] => Fault.here .endInObject []
        | .char '}' :: rest => .ok (a, rest)
        | t => Fault.here .expectedValue t
      | .char '}' :: rest => Fault.next .expectedValue (.char '}' :: rest)
      | t => Fault.next .keyNotString t
    | t => Fault.next .expectedValue t

/-- A field of a record that is gathered in a value of type `σ`: whether it has been read, and how
it is read. -/
structure RecordField (σ : Type) where
  name : String
  isSet : σ → Bool
  read : σ → Reader σ

/-- Why a record is incomplete: the place of the missing field among the fields, and its name. -/
structure Missing where
  position : Nat
  name : String

/-- A record: its name, its fields in order, and the value that they make up. -/
structure Form (σ α : Type) where
  name : String
  start : σ
  fields : List (RecordField σ)
  finish : σ → Except Missing α

namespace Form

variable {σ α : Type}

def expected (form : Form σ α) : String :=
  "struct " ++ form.name

def pastEnd (s : List Symbol) : List Symbol :=
  match skipSpaces s with
  | .char '}' :: rest => rest
  | t => t

/-- The members of a record written as an object. Unknown members are passed over. -/
def readMembers (form : Form σ α) : Nat → Bool → σ → Reader σ
  | 0, _, _, _ => Fault.here .endInObject []
  | fuel + 1, first, held, s => do
    match ← nextKey first s with
    | .close rest => .ok (held, rest)
    | .item s => do
      let (key, rest) ← string s
      match form.fields.find? (fun f => f.name = key) with
      | none => do
        let rest ← colon rest
        let rest ← ignored rest
        readMembers form fuel false held rest
      | some field =>
        if field.isSet held then Fault.here (.duplicateField field.name) (pastEnd rest)
        else do
          let rest ← colon rest
          let (held, rest) ← field.read held rest
          readMembers form fuel false held rest

def endList (s : List Symbol) : Except Fault (List Symbol) :=
  match skipSpaces s with
  | [] => Fault.here .endInList []
  | .char ']' :: rest => .ok rest
  | .char ',' :: rest =>
    match skipSpaces rest with
    | .char ']' :: behind => Fault.next .trailingComma (.char ']' :: behind)
    | t => Fault.next .trailingCharacters t
  | t => Fault.next .trailingCharacters t

/-- The fields of a record written as a list. The list may end before its last fields. -/
def readElements : List (RecordField σ) → Bool → σ → Reader σ
  | [], _, held, s => do
    let rest ← endList s
    .ok (held, rest)
  | field :: fields, first, held, s => do
    match ← nextElement first s with
    | .close rest => .ok (held, rest)
    | .item s => do
      let (held, rest) ← field.read held s
      readElements fields false held rest

def read (form : Form σ α) : Reader α :=
  fun s =>
    match skipSpaces s with
    | .char '{' :: rest => do
      let (held, rest) ← form.readMembers (rest.length + 1) true form.start rest
      match form.finish held with
      | .ok a => .ok (a, rest)
      | .error missing => Fault.here (.missingField missing.name) rest
    | .char '[' :: rest => do
      let (held, rest) ← readElements form.fields true form.start rest
      match form.finish held with
      | .ok a => .ok (a, rest)
      | .error missing =>
        Fault.here
          (.wrongLength missing.position
            (form.expected ++ " with " ++ (Number.integer form.fields.length).text ++ " elements"))
          rest
    | t => unexpected form.expected t

end Form
end ShowRemote.Json.Read
