import ShowRemote.Text.Blank
import ShowRemote.Text.Pieces
import ShowRemote.Unicode.Mapping
import ShowRemote.Url.Escape
import ShowRemote.Url.Label

/-!
Hosts: domain names in lower case, and addresses of four bytes or of eight pieces. A name whose last
label is a number must be an address.
-/

set_option autoImplicit false

namespace ShowRemote

inductive UrlFault where
  | emptyHost
  | invalidDomain
  | invalidPort
  | invalidIpv4
  | invalidIpv6
  | invalidHostCharacter
  | relativeWithoutBase
  | relativeToText
  deriving DecidableEq, Repr

def UrlFault.message : UrlFault → String
  | .emptyHost => "empty host"
  | .invalidDomain => "invalid international domain name"
  | .invalidPort => "invalid port number"
  | .invalidIpv4 => "invalid IPv4 address"
  | .invalidIpv6 => "invalid IPv6 address"
  | .invalidHostCharacter => "invalid domain character"
  | .relativeWithoutBase => "relative URL without a base"
  | .relativeToText => "relative URL with a cannot-be-a-base base"

namespace Url

inductive Host where
  | domain (name : List Char)
  | ipv4 (address : Nat)
  | ipv6 (pieces : List Nat)
  deriving DecidableEq, Repr

namespace Host

def readDigits (base : Nat) (digits : List Char) : Option Nat :=
  digits.foldl
    (fun total c =>
      match total, hexValue? c with
      | some n, some d => if d < base then some (n * base + d) else none
      | _, _ => none)
    (some 0)

/-- A number in decimal, octal or hexadecimal notation. A mark without digits is zero. -/
def ipv4Number? : List Char → Option Nat
  | [] => none
  | '0' :: 'x' :: digits => readDigits 16 digits
  | '0' :: 'X' :: digits => readDigits 16 digits
  | '0' :: d :: digits => readDigits 8 (d :: digits)
  | digits => readDigits 10 digits

/-- The labels of a name, without an empty one at its end. -/
def labels (name : List Char) : List (List Char) :=
  let all := Text.pieces (fun c => c = '.') name
  match all.getLast? with
  | some [] => if 1 < all.length then all.dropLast else all
  | _ => all

def isDecimal (s : List Char) : Bool :=
  s ≠ [] && s.all fun c => '0' ≤ c && c ≤ '9'

def endsInNumber (name : List Char) : Bool :=
  match (labels name).getLast? with
  | some last => isDecimal last || (ipv4Number? last).isSome
  | none => false

/-- Up to four numbers. The last one fills all bytes that are left. -/
def ipv4? (name : List Char) : Option Nat :=
  match (labels name).mapM ipv4Number? with
  | none => none
  | some numbers =>
    match numbers.getLast? with
    | none => none
    | some last =>
      let leading := numbers.dropLast
      let room := Nat.pow 256 (4 - leading.length)
      if 3 < leading.length ∨ room ≤ last ∨ leading.any (255 < ·) then none
      else some (leading.zipIdx.foldl (fun sum n => sum + n.1 * Nat.pow 256 (3 - n.2)) last)

def writeIpv4 (address : Nat) : List Char :=
  Nat.toDigits 10 (address / Nat.pow 256 3 % 256) ++ '.' ::
    Nat.toDigits 10 (address / Nat.pow 256 2 % 256) ++ '.' ::
    Nat.toDigits 10 (address / 256 % 256) ++ '.' :: Nat.toDigits 10 (address % 256)

/-- A piece of at most four hexadecimal digits. -/
def piece? (s : List Char) : Option Nat :=
  if s = [] ∨ 4 < s.length then none else readDigits 16 s

/-- A byte in decimal, without leading zeros. -/
def byte? (s : List Char) : Option Nat :=
  if isDecimal s ∧ (s.length = 1 ∨ s.head? ≠ some '0') ∧ s.length ≤ 3 then
    match readDigits 10 s with
    | some n => if n < 256 then some n else none
    | none => none
  else none

/-- Two pieces as four bytes. -/
def dottedPieces? (s : List Char) : Option (List Nat) :=
  match (Text.pieces (fun c => c = '.') s).map byte? with
  | [some a, some b, some c, some d] => some [a * 256 + b, c * 256 + d]
  | _ => none

/-- Pieces between colons. The last two may be written as four bytes. -/
def pieceRun? (dotted : Bool) : List (List Char) → Option (List Nat)
  | [] => some []
  | [last] =>
    if dotted && last.contains '.' then dottedPieces? last else (piece? last).map fun n => [n]
  | s :: rest =>
    match piece? s, pieceRun? dotted rest with
    | some n, some ns => some (n :: ns)
    | _, _ => none

/-- The text before the first gap and the text behind it. -/
def splitGap? : List Char → Option (List Char × List Char)
  | ':' :: ':' :: behind => some ([], behind)
  | c :: rest => (splitGap? rest).map fun parts => (c :: parts.1, parts.2)
  | [] => none

def pieceList? (dotted : Bool) (s : List Char) : Option (List Nat) :=
  if s = [] then some [] else pieceRun? dotted (Text.pieces (fun c => c = ':') s)

def ipv6? (s : List Char) : Option (List Nat) :=
  match splitGap? s with
  | some (before, behind) =>
    match pieceList? false before, pieceList? true behind with
    | some front, some back =>
      if front.length + back.length < 8 then
        some (front ++ List.replicate (8 - front.length - back.length) 0 ++ back)
      else none
    | _, _ => none
  | none =>
    match pieceRun? true (Text.pieces (fun c => c = ':') s) with
    | some all => if all.length = 8 then some all else none
    | none => none

/-- The longest run of at least two zeros, as its start and its length; the first of several. -/
def longestGap (ns : List Nat) : Option (Nat × Nat) :=
  (List.range ns.length).foldl
    (fun best start =>
      let run := ((ns.drop start).takeWhile (· = 0)).length
      match best with
      | some (s, n) => if n < run then some (start, run) else some (s, n)
      | none => if 2 ≤ run then some (start, run) else none)
    none

def writePieces (ns : List Nat) : List Char :=
  [':'].intercalate (ns.map fun n => Nat.toDigits 16 n)

def writeIpv6 (ns : List Nat) : List Char :=
  match longestGap ns with
  | some (start, run) =>
    writePieces (ns.take start) ++ ':' :: ':' :: writePieces (ns.drop (start + run))
  | none => writePieces ns

def write : Host → List Char
  | .domain name => name
  | .ipv4 address => writeIpv4 address
  | .ipv6 pieces => '[' :: (writeIpv6 pieces ++ [']'])

/-- The characters that no host holds. -/
def forbidden : Char → Bool :=
  among ['\x00', '\t', '\n', '\r', ' ', '#', '/', ':', '<', '>', '?', '@', '[', '\\', ']', '^', '|']

def forbiddenInName (c : Char) : Bool :=
  forbidden c || isControl c || c = '%'

/-- An address in brackets. -/
def bracketed (s : List Char) : Except UrlFault Host :=
  match s.getLast? with
  | some ']' =>
    match ipv6? s.tail.dropLast with
    | some pieces => .ok (.ipv6 pieces)
    | none => .error .invalidIpv6
  | _ => .error .invalidIpv6

/-- Whether a text in ASCII is a name that stands for itself. -/
def isName (s : List Char) : Bool :=
  Text.lowerAscii s = s && !s.any forbiddenInName
    && Label.agree (Text.pieces (fun c => c = '.') s)

/-- A text in ASCII: letters in lower case, and labels outside ASCII as codes of what their
characters stand for. -/
def asciiName? (s : List Char) : Option (List Char) :=
  let shown :=
    if s.all fun c => c.toNat < 0x80 then Text.lowerAscii s
    else Unicode.composed (s.flatMap Unicode.plain)
  ((Text.pieces (fun c => c = '.') shown).mapM Label.written?).map (['.'].intercalate ·)

/-- A host of a special scheme: escapes are undone, and what is left is written as a name. -/
def parse (s : List Char) : Except UrlFault Host :=
  if s.head? = some '[' then bracketed s
  else
    match ((Text.decodeText? (unescape s)).bind fun t => asciiName? t.toList).filter isName with
    | none => .error .invalidDomain
    | some name =>
      if name = [] then .error .emptyHost
      else if endsInNumber name then
        match ipv4? name with
        | some address => .ok (.ipv4 address)
        | none => .error .invalidIpv4
      else .ok (.domain name)

/-- A host of another scheme: kept as it stands, with escapes for what is not printable ASCII. -/
def parseOther (s : List Char) : Except UrlFault Host :=
  if s.head? = some '[' then bracketed s
  else if s.any forbidden then .error .invalidHostCharacter
  else .ok (.domain (escape controlSet s))

end Host
end Url
end ShowRemote
