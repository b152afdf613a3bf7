import ShowRemote.Json.Document

/-!
Values that are passed over. Only their shape is looked at: numbers may be out of range, strings may
hold half a surrogate pair or stray bytes, and nesting has no limit.
-/

set_option autoImplicit false

namespace ShowRemote.Json.Read

open Text (Symbol)

/-- Take a value off the front of a text and keep nothing of it. -/
abbrev Skipper : Type :=
  List Symbol → Except Fault (List Symbol)

def skipExponent : Skipper :=
  fun s =>
    let digits : List Symbol :=
      match s with
      | .char '+' :: rest => rest
      | .char '-' :: rest => rest
      | _ => s
    match digits with
    | [] => Fault.here .invalidNumber []
    | x :: rest =>
      if isDigit x then .ok (rest.dropWhile isDigit) else Fault.next .invalidNumber (x :: rest)

def skipFraction : Skipper :=
  fun s =>
    match s with
    | [] => Fault.here .invalidNumber []
    | x :: rest =>
      if isDigit x then
        match rest.dropWhile isDigit with
        | .char 'e' :: power => skipExponent power
        | .char 'E' :: power => skipExponent power
        | behind => .ok behind
      else Fault.next .invalidNumber (x :: rest)

def skipNumber : Skipper :=
  fun s =>
    let finish : Skipper := fun t =>
      match t with
      | .char '.' :: rest => skipFraction rest
      | .char 'e' :: rest => skipExponent rest
      | .char 'E' :: rest => skipExponent rest
      | _ => .ok t
    match s with
    | [] => Fault.here .invalidNumber []
    | x :: rest =>
      match digit? x with
      | none => Fault.next .invalidNumber s
      | some 0 =>
        match rest with
        | y :: _ => if isDigit y then Fault.next .invalidNumber rest else finish rest
        | [] => finish rest
      | some _ => finish (rest.dropWhile isDigit)

def skipEscaped : Skipper
  | [] => Fault.here .endInString []
  | .char 'u' :: rest => (codeUnit rest).map Prod.snd
  | .char c :: rest =>
    if (shortEscape? c).isSome then .ok rest else Fault.next .invalidEscape (.char c :: rest)
  | s => Fault.next .invalidEscape s

/-- A string behind its opening quote. The fuel bounds the symbols in it. -/
def skipString : Nat → Skipper
  | 0, _ => Fault.here .endInString []
  | _ + 1, [] => Fault.here .endInString []
  | fuel + 1, .char c :: rest =>
    if c = '"' then .ok rest
    else if c = '\\' then do
      let rest ← skipEscaped rest
      skipString fuel rest
    else if c.toNat < 32 then Fault.here .controlCharacter (.char c :: rest)
    else skipString fuel rest
  | fuel + 1, .stray _ :: rest => skipString fuel rest

def skipToElement (first : Bool) (s : List Symbol) : Except Fault Step :=
  match skipSpaces s with
  | [] => Fault.here .endInList []
  | .char ']' :: rest => .ok (.close rest)
  | .char ',' :: rest => .ok (.item (if first then .char ',' :: rest else rest))
  | t => if first then .ok (.item t) else Fault.next .expectedListCommaOrEnd t

def skipToKey (first : Bool) (s : List Symbol) : Except Fault Step :=
  let key (t : List Symbol) : Except Fault Step :=
    match skipSpaces t with
    | [] => Fault.here .endInObject []
    | .char '"' :: rest => .ok (.item rest)
    | u => Fault.next .keyNotString u
  match skipSpaces s with
  | [] => Fault.here .endInObject []
  | .char '}' :: rest => .ok (.close rest)
  | .char ',' :: rest => key (if first then .char ',' :: rest else rest)
  | t => if first then key t else Fault.next .expectedObjectCommaOrEnd t

def skipElements (inner : Skipper) : Nat → Bool → Skipper
  | 0, _, _ => Fault.here .endInList []
  | fuel + 1, first, s => do
    match ← skipToElement first s with
    | .close rest => .ok rest
    | .item s => do
      let rest ← inner s
      skipElements inner fuel false rest

def skipMembers (inner : Skipper) : Nat → Bool → Skipper
  | 0, _, _ => Fault.here .endInObject []
  | fuel + 1, first, s => do
    match ← skipToKey first s with
    | .close rest => .ok rest
    | .item s => do
      let rest ← skipString (s.length + 1) s
      let rest ← colon rest
      let rest ← inner rest
      skipMembers inner fuel false rest

def skipValue : Nat → Skipper
  | 0, _ => Fault.here .endInValue []
  | fuel + 1, s =>
    match skipSpaces s with
    | [] => Fault.here .endInValue []
    | .char 'n' :: rest => finishWord ['u', 'l', 'l'] rest
    | .char 't' :: rest => finishWord ['r', 'u', 'e'] rest
    | .char 'f' :: rest => finishWord ['a', 'l', 's', 'e'] rest
    | .char '-' :: rest => skipNumber rest
    | .char '"' :: rest => skipString (rest.length + 1) rest
    | .char '[' :: rest => skipElements (skipValue fuel) (rest.length + 1) true rest
    | .char '{' :: rest => skipMembers (skipValue fuel) (rest.length + 1) true rest
    | x :: rest =>
      if isDigit x then skipNumber (x :: rest) else Fault.next .expectedValue (x :: rest)

def ignored : Skipper :=
  fun s => skipValue (s.length + 1) s

end ShowRemote.Json.Read
