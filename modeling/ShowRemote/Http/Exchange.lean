import ShowRemote.Http.Base
import ShowRemote.Json.Document
import ShowRemote.Session.Desk

/-!
Requests over HTTP and what becomes of them. A request succeeds when the answer has a status of
success; a request for a document also needs the whole body, and a document in it.
-/

set_option autoImplicit false

namespace ShowRemote.Http

open Show (TransportFault)

structure Reply where
  status : Nat
  body : List UInt8
  /-- Whether the body has the announced length. -/
  whole : Bool
  deriving DecidableEq, Repr

inductive Exchange where
  /-- Nothing could be sent. -/
  | unreachable
  /-- The connection closed without an answer. -/
  | closed
  /-- No answer came in time. -/
  | silent
  | answered (reply : Reply)
  deriving DecidableEq, Repr, Inhabited

structure Outgoing where
  url : Url
  message : Message
  deriving Repr

namespace Outgoing

/-- Whether a part of a URL can be read as text. -/
def isReadable (s : List Char) : Bool :=
  (Text.decodeText? (Url.unescape s)).isSome

/-- Whether the credentials in a URL are sent apart from it. -/
def takesCredentials (u : Url.UserInfo) : Bool :=
  isReadable u.name && (u.name ≠ [] || u.password.any isReadable)

/-- The URL that is requested, without the credentials that are sent apart. -/
def target (url : Url) : Url :=
  { url with
    authority := url.authority.map fun a =>
      if a.user.any takesCredentials then { a with user := none } else a }

/-- The characters of a host that a request cannot carry. -/
def unsendable : Char → Bool :=
  Url.among ['"', '`', '{', '}']

def greatestLength : Nat := 65534

def isSendable (url : Url) : Bool :=
  (url.scheme = "http".toList || url.scheme = "https".toList)
    && (target url).write.length ≤ greatestLength
    && url.authority.all fun a => !a.host.write.any unsendable

def reason (what : String) (url : Url) : String :=
  what ++ " for url (" ++ (target url).text ++ ")"

def prepare (base : Url) (message : Message) : Except TransportFault Outgoing :=
  let path : String :=
    match message with
    | .get path => path
    | .post path _ => path
  match resolve base path with
  | .error fault => .error fault
  | .ok url =>
    if isSendable url then .ok ⟨url, message⟩
    else .error (.request url.text (reason "builder error" url))

def isSuccess (status : Nat) : Bool :=
  200 ≤ status && status ≤ 299

/-- Whether the body of an answer with a status is waited for. -/
def readsBody (o : Outgoing) (status : Nat) : Bool :=
  match o.message with
  | .get _ => isSuccess status
  | .post _ _ => false

def document (url : Url) (reply : Reply) : Except TransportFault Json :=
  if reply.whole then
    match Json.parse (Text.symbolsOfBytes reply.body) with
    | .ok document => .ok document
    | .error e => .error (.body url.text e.message)
  else .error (.request url.text "error decoding response body")

/-- What an exchange brings. The body of an answer to a post does not count. -/
def settle (o : Outgoing) : Exchange → Except TransportFault Json
  | .unreachable => .error (.request o.url.text (reason "error sending request" o.url))
  | .closed => .error (.request o.url.text (reason "error sending request" o.url))
  | .silent => .error (.timeout o.url.text)
  | .answered reply =>
    if isSuccess reply.status then
      match o.message with
      | .get _ => document o.url reply
      | .post _ _ => .ok .null
    else .error (.status o.url.text reply.status)

end Outgoing
end ShowRemote.Http
