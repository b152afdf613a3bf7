import ShowRemote.Json.Scalar

/-!
Documents: values nested in lists and objects, up to a fixed depth. One level is read with a reader
for the level inside it.
-/

set_option autoImplicit false

namespace ShowRemote.Json

open Text (Symbol)

namespace Read

/-- How a list or an object goes on: with a further item, or behind its end. -/
inductive Step where
  | item (s : List Symbol)
  | close (rest : List Symbol)
  deriving DecidableEq, Repr

def nextElement (first : Bool) (s : List Symbol) : Except Fault Step :=
  match skipSpaces s with
  | [] => Fault.here .endInList []
  | .char ']' :: rest => .ok (.close rest)
  | .char ',' :: rest =>
    if first then .ok (.item (.char ',' :: rest))
    else
      match skipSpaces rest with
      | [] => Fault.here .endInValue []
      | .char ']' :: behind => Fault.next .trailingComma (.char ']' :: behind)
      | behind => .ok (.item behind)
  | t => if first then .ok (.item t) else Fault.next .expectedListCommaOrEnd t

def nextKey (first : Bool) (s : List Symbol) : Except Fault Step :=
  match skipSpaces s with
  | [] => Fault.here .endInObject []
  | .char '}' :: rest => .ok (.close rest)
  | .char ',' :: rest =>
    if first then Fault.next .keyNotString (.char ',' :: rest)
    else
      match skipSpaces rest with
      | [] => Fault.here .endInValue []
      | .char '"' :: behind => .ok (.item behind)
      | .char '}' :: behind => Fault.next .trailingComma (.char '}' :: behind)
      | behind => Fault.next .keyNotString behind
  | .char '"' :: rest =>
    if first then .ok (.item rest) else Fault.next .expectedObjectCommaOrEnd (.char '"' :: rest)
  | t => if first then Fault.next .keyNotString t else Fault.next .expectedObjectCommaOrEnd t

def colon (s : List Symbol) : Except Fault (List Symbol) :=
  match skipSpaces s with
  | [] => Fault.here .endInObject []
  | .char ':' :: rest => .ok rest
  | t => Fault.next .expectedColon t

/-- The elements of a list up to its end. The fuel bounds their number. -/
def elements (inner : Reader Json) : Nat → Bool → Reader (List Json)
  | 0, _, _ => Fault.here .endInList []
  | fuel + 1, first, s => do
    match ← nextElement first s with
    | .close rest => .ok ([], rest)
    | .item s => do
      let (x, rest) ← inner s
      let (xs, rest) ← elements inner fuel false rest
      .ok (x :: xs, rest)

/-- The members of an object up to its end. The fuel bounds their number. -/
def members (inner : Reader Json) : Nat → Bool → Reader (List (String × Json))
  | 0, _, _ => Fault.here .endInObject []
  | fuel + 1, first, s => do
    match ← nextKey first s with
    | .close rest => .ok ([], rest)
    | .item s => do
      let (key, rest) ← string s
      let rest ← colon rest
      let (x, rest) ← inner rest
      let (xs, rest) ← members inner fuel false rest
      .ok ((key, x) :: xs, rest)

/-- A value whose parts, if it may have any, are read by `inner`. -/
def valueWith (inner : Option (Reader Json)) : Reader Json :=
  fun s =>
    match skipSpaces s with
    | [] => Fault.here .endInValue []
    | .char 'n' :: rest => do
      let rest ← finishWord ['u', 'l', 'l'] rest
      .ok (.null, rest)
    | .char 't' :: rest => do
      let rest ← finishWord ['r', 'u', 'e'] rest
      .ok (.bool true, rest)
    | .char 'f' :: rest => do
      let rest ← finishWord ['a', 'l', 's', 'e'] rest
      .ok (.bool false, rest)
    | .char '-' :: rest => do
      let (n, rest) ← number true rest
      .ok (.number n, rest)
    | .char '"' :: rest => do
      let (text, rest) ← string rest
      .ok (.string text, rest)
    | .char '[' :: rest =>
      match inner with
      | none => Fault.next .depthExceeded (.char '[' :: rest)
      | some item => do
        let (items, rest) ← elements item (rest.length + 1) true rest
        .ok (.array items, rest)
    | .char '{' :: rest =>
      match inner with
      | none => Fault.next .depthExceeded (.char '{' :: rest)
      | some item => do
        let (items, rest) ← members item (rest.length + 1) true rest
        .ok (.object items, rest)
    | x :: rest =>
      if isDigit x then do
        let (n, rest) ← number false (x :: rest)
        .ok (.number n, rest)
      else Fault.next .expectedValue (x :: rest)

def value : Nat → Reader Json
  | 0 => valueWith none
  | depth + 1 => valueWith (some (value depth))

end Read

def greatestDepth : Nat := 127

def readWhole {α : Type} (reader : Reader α) (s : List Symbol) : Except ReadError α :=
  let outcome : Except Fault α := do
    let (x, rest) ← reader s
    match Read.skipSpaces rest with
    | [] => .ok x
    | t => Fault.next .trailingCharacters t
  outcome.mapError fun fault => ⟨fault.cause, fault.place s⟩

/-- The document that a text spells, with one member a name in every object. -/
def parse (s : List Symbol) : Except ReadError Json :=
  (readWhole (Read.value greatestDepth) s).map settle

end ShowRemote.Json
