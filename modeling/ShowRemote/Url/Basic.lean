import ShowRemote.Url.Host
import ShowRemote.Url.Path

/-!
URLs in parts, and their text. Every part holds its text as it is written, with escapes.
-/

set_option autoImplicit false

namespace ShowRemote

namespace Url

structure UserInfo where
  name : List Char
  password : Option (List Char)
  deriving DecidableEq, Repr

structure Authority where
  user : Option UserInfo
  host : Host
  port : Option Nat
  deriving DecidableEq, Repr

end Url

structure Url where
  scheme : List Char
  authority : Option Url.Authority
  path : Url.Path
  query : Option (List Char)
  fragment : Option (List Char)
  deriving DecidableEq, Repr

namespace Url

/-- How a scheme is read: with drives, with a host and a port, or without assumptions. -/
inductive SchemeKind where
  | file
  | web
  | other
  deriving DecidableEq, Repr

def kindOf (scheme : List Char) : SchemeKind :=
  if scheme = "file".toList then .file
  else if ["http".toList, "https".toList, "ws".toList, "wss".toList, "ftp".toList].contains scheme
  then .web
  else .other

def SchemeKind.isSpecial : SchemeKind → Bool
  | .other => false
  | _ => true

def defaultPort? (scheme : List Char) : Option Nat :=
  if scheme = "http".toList ∨ scheme = "ws".toList then some 80
  else if scheme = "https".toList ∨ scheme = "wss".toList then some 443
  else if scheme = "ftp".toList then some 21
  else none

def UserInfo.write (u : UserInfo) : List Char :=
  u.name ++ (u.password.elim [] fun p => ':' :: p) ++ ['@']

def Authority.write (a : Authority) : List Char :=
  (a.user.elim [] UserInfo.write) ++ a.host.write
    ++ (a.port.elim [] fun p => ':' :: Nat.toDigits 10 p)

/-- The text of a path. Without an authority, a path that starts with two slashes is told from one
by a dot. -/
def Path.write (hasAuthority : Bool) : Path → List Char
  | .text content => content
  | .empty => []
  | .rooted trail =>
    match hasAuthority, trail.folders with
    | false, [] :: _ => '/' :: '.' :: trail.write
    | _, _ => trail.write

def write (u : Url) : List Char :=
  u.scheme ++ ':' :: (u.authority.elim [] fun a => '/' :: '/' :: a.write)
    ++ u.path.write u.authority.isSome
    ++ (u.query.elim [] fun q => '?' :: q) ++ (u.fragment.elim [] fun f => '#' :: f)

def text (u : Url) : String :=
  String.ofList u.write

/-- Whether references cannot be resolved against the URL. -/
def isText (u : Url) : Bool :=
  match u.path with
  | .text _ => true
  | _ => false

end Url
end ShowRemote
