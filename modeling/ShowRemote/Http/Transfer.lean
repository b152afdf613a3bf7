import ShowRemote.Http.Exchange
import ShowRemote.Json.Scalar

/-!
The bytes of a request and of its answer on a connection of their own. An answer is complete when
its head and the announced body are there; without an announcement the body ends with the
connection. A body that is not read is not waited for.
-/

set_option autoImplicit false

namespace ShowRemote.Http

def base64Digit (n : Nat) : Char :=
  if n < 26 then Char.ofNat (65 + n)
  else if n < 52 then Char.ofNat (71 + n)
  else if n < 62 then Char.ofNat (n - 4)
  else if n = 62 then '+' else '/'

def base64Group (a b c : UInt8) : List Char :=
  let n := (a.toNat * 256 + b.toNat) * 256 + c.toNat
  [n / 262144, n / 4096 % 64, n / 64 % 64, n % 64].map base64Digit

def base64 : List UInt8 → List Char
  | a :: b :: c :: rest => base64Group a b c ++ base64 rest
  | [a, b] => (base64Group a b 0).take 3 ++ ['=']
  | [a] => (base64Group a 0 0).take 2 ++ ['=', '=']
  | [] => []

/-- The credentials that are sent apart from the URL. -/
def credentials? (url : Url) : Option (List Char) :=
  match url.authority.bind Url.Authority.user with
  | some user =>
    if Outgoing.takesCredentials user then
      some (base64 (Url.unescape user.name ++ 58 :: (user.password.map Url.unescape).getD []))
    else none
  | none => none

/-- The host of a URL, with its port if that is not the default one. -/
def hostText (url : Url) : List Char :=
  url.authority.elim [] fun a => { a with user := none }.write

def resourceText (url : Url) : List Char :=
  url.path.write true ++ (url.query.elim [] fun q => '?' :: q)

def headLines (o : Outgoing) (length : Nat) : List (List Char) :=
  let common : List (List Char) :=
    ["accept: */*".toList, "host: ".toList ++ hostText o.url, "connection: close".toList]
      ++ ((credentials? o.url).map fun c => "authorization: Basic ".toList ++ c).toList
  match o.message with
  | .get _ => ("GET ".toList ++ resourceText o.url ++ " HTTP/1.1".toList) :: common
  | .post _ _ =>
    ("POST ".toList ++ resourceText o.url ++ " HTTP/1.1".toList) :: common ++
      ["content-type: application/json".toList,
        "content-length: ".toList ++ Nat.toDigits 10 length]

def Outgoing.bytes (o : Outgoing) : List UInt8 :=
  let body : List UInt8 :=
    match o.message with
    | .get _ => []
    | .post _ body => Text.utf8Bytes body.write
  Text.utf8Bytes ((headLines o body.length).flatMap (fun line => line ++ ['\r', '\n']) ++
    ['\r', '\n']) ++ body

def takeLine? : List UInt8 → Option (List Char × List UInt8)
  | [] => none
  | 13 :: 10 :: rest => some ([], rest)
  | 10 :: rest => some ([], rest)
  | b :: rest => (takeLine? rest).map fun line => (Char.ofNat b.toNat :: line.1, line.2)

def takeHead? : Nat → List UInt8 → Option (List (List Char) × List UInt8)
  | 0, _ => none
  | fuel + 1, bytes =>
    match takeLine? bytes with
    | none => none
    | some ([], rest) => some ([], rest)
    | some (line, rest) => (takeHead? fuel rest).map fun head => (line :: head.1, head.2)

def status? (line : List Char) : Option Nat :=
  match line with
  | 'H' :: 'T' :: 'T' :: 'P' :: '/' :: '1' :: '.' :: _ :: ' ' :: a :: b :: c :: _ =>
    match Text.digitValue? a, Text.digitValue? b, Text.digitValue? c with
    | some x, some y, some z => some ((x * 10 + y) * 10 + z)
    | _, _, _ => none
  | _ => none

def header? (name : List Char) (lines : List (List Char)) : Option (List Char) :=
  lines.findSome? fun line =>
    match Text.splitFirst? ':' line with
    | some (n, value) =>
      if Text.lowerAscii (Text.trimBlanks n) = name then some (Text.trimBlanks value) else none
    | none => none

def chunks? : Nat → List UInt8 → Option (List UInt8)
  | 0, _ => none
  | fuel + 1, bytes =>
    match takeLine? bytes with
    | none => none
    | some (line, rest) =>
      match Url.Host.readDigits 16 (Text.trimBlanks (line.takeWhile fun c => c ≠ ';')) with
      | none => none
      | some 0 => some []
      | some n =>
        if rest.length < n then none
        else
          match takeLine? (rest.drop n) with
          | some ([], behind) => (chunks? fuel behind).map fun tail => rest.take n ++ tail
          | _ => none

def replyOf? (ended : Bool) (status : Nat) (lines : List (List Char)) (rest : List UInt8) :
    Option Reply :=
  if status = 204 ∨ status = 304 then some ⟨status, [], true⟩
  else if (header? "transfer-encoding".toList lines).isSome then
    match chunks? (rest.length + 1) rest with
    | some body => some ⟨status, body, true⟩
    | none => if ended then some ⟨status, rest, false⟩ else none
  else
    match (header? "content-length".toList lines).bind (Url.Host.readDigits 10) with
    | some n =>
      if n ≤ rest.length then some ⟨status, rest.take n, true⟩
      else if ended then some ⟨status, rest, false⟩ else none
    | none => if ended then some ⟨status, rest, true⟩ else none

/-- What has become of a request after some bytes, if that is certain. Interim answers are passed
over, and the body of an answer is waited for when its status says that it is read. -/
def receive? (reads : Nat → Bool) (ended : Bool) : Nat → List UInt8 → Option Exchange
  | 0, _ => some .closed
  | fuel + 1, bytes =>
    match takeHead? (bytes.length + 1) bytes with
    | none => if ended then some .closed else none
    | some ([], _) => some .closed
    | some (first :: lines, rest) =>
      match status? first with
      | none => some .closed
      | some status =>
        if status < 200 then receive? reads ended fuel rest
        else (replyOf? (ended || !reads status) status lines rest).map .answered

end ShowRemote.Http
