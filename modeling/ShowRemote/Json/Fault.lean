import ShowRemote.Json.Printer
import ShowRemote.Text.Quoted
import ShowRemote.Text.Utf8

/-!
Why a text is no document, or no document of an expected form, and where in the text that shows.
Lines are counted from one and columns in bytes.
-/

set_option autoImplicit false

namespace ShowRemote.Json

open Text (Symbol)

/-- A value met where another form was expected. -/
inductive Found where
  | null
  | bool (value : Bool)
  | number (value : Number)
  | string (text : String)
  | array
  | object
  deriving DecidableEq, Repr

def Found.describe : Found → String
  | .null => "null"
  | .bool b => "boolean `" ++ (if b then "true" else "false") ++ "`"
  | .number (.integer n) => "integer `" ++ (Number.integer n).text ++ "`"
  | .number (.double s m) => "floating point `" ++ (Number.double s m).text ++ "`"
  | .string s => "string " ++ Text.quoted s
  | .array => "sequence"
  | .object => "map"

inductive Cause where
  | endInValue
  | endInList
  | endInObject
  | endInString
  | expectedColon
  | expectedListCommaOrEnd
  | expectedObjectCommaOrEnd
  | expectedValue
  | expectedLiteral
  | keyNotString
  | trailingComma
  | trailingCharacters
  | depthExceeded
  | invalidNumber
  | numberOutOfRange
  | invalidEscape
  | loneSurrogate
  | unfinishedSurrogatePair
  | controlCharacter
  | invalidCodePoint
  | unexpectedKind (found : Found) (expected : String)
  | unknownVariant (name : String) (known : List String)
  | missingField (name : String)
  | duplicateField (name : String)
  | wrongLength (count : Nat) (expected : String)
  deriving DecidableEq, Repr

def oneOf : List String → String
  | [] => "there are no variants"
  | [a] => "expected `" ++ a ++ "`"
  | [a, b] => "expected `" ++ a ++ "` or `" ++ b ++ "`"
  | names => "expected one of " ++ ", ".intercalate (names.map fun n => "`" ++ n ++ "`")

def Cause.message : Cause → String
  | .endInValue => "EOF while parsing a value"
  | .endInList => "EOF while parsing a list"
  | .endInObject => "EOF while parsing an object"
  | .endInString => "EOF while parsing a string"
  | .expectedColon => "expected `:`"
  | .expectedListCommaOrEnd => "expected `,` or `]`"
  | .expectedObjectCommaOrEnd => "expected `,` or `\x7d`"
  | .expectedValue => "expected value"
  | .expectedLiteral => "expected ident"
  | .keyNotString => "key must be a string"
  | .trailingComma => "trailing comma"
  | .trailingCharacters => "trailing characters"
  | .depthExceeded => "recursion limit exceeded"
  | .invalidNumber => "invalid number"
  | .numberOutOfRange => "number out of range"
  | .invalidEscape => "invalid escape"
  | .loneSurrogate => "lone leading surrogate in hex escape"
  | .unfinishedSurrogatePair => "unexpected end of hex escape"
  | .controlCharacter => "control character (\\u0000-\\u001F) found while parsing a string"
  | .invalidCodePoint => "invalid unicode code point"
  | .unexpectedKind found expected =>
    "invalid type: " ++ found.describe ++ ", expected " ++ expected
  | .unknownVariant name known => "unknown variant `" ++ name ++ "`, " ++ oneOf known
  | .missingField name => "missing field `" ++ name ++ "`"
  | .duplicateField name => "duplicate field `" ++ name ++ "`"
  | .wrongLength count expected =>
    "invalid length " ++ (Number.integer count).text ++ ", expected " ++ expected

/-- A fault, placed by the text that was left and a number of bytes beyond its start. -/
structure Fault where
  cause : Cause
  left : List Symbol
  beyond : Nat
  deriving DecidableEq, Repr

/-- A place in a text: a line and the number of bytes before the place on that line. -/
structure Place where
  line : Nat
  column : Nat
  deriving DecidableEq, Repr

def Place.after (bytes : List UInt8) : Place :=
  bytes.foldl
    (fun place b => if b.toNat = 10 then ⟨place.line + 1, 0⟩ else ⟨place.line, place.column + 1⟩)
    ⟨1, 0⟩

def Fault.place (whole : List Symbol) (fault : Fault) : Place :=
  let bytes := Text.bytesOf whole
  let offset := bytes.length - (Text.bytesOf fault.left).length + fault.beyond
  .after (bytes.take offset)

structure ReadError where
  cause : Cause
  place : Place
  deriving DecidableEq, Repr

def ReadError.message (e : ReadError) : String :=
  e.cause.message ++ " at line " ++ (Number.integer e.place.line).text ++ " column " ++
    (Number.integer e.place.column).text

abbrev Reader (α : Type) : Type :=
  List Symbol → Except Fault (α × List Symbol)

def Fault.here {α : Type} (cause : Cause) (left : List Symbol) : Except Fault α :=
  .error ⟨cause, left, 0⟩

def Fault.next {α : Type} (cause : Cause) (left : List Symbol) : Except Fault α :=
  .error ⟨cause, left, 1⟩

end ShowRemote.Json
