import ShowRemote.Url.Basic

/-!
The parts of a URL behind its scheme, and references to a base that is no file.
-/

set_option autoImplicit false

namespace ShowRemote.Url

def isSlash (c : Char) : Bool :=
  c = '/' || c = '\\'

/-- Slashes separate segments; in special schemes backslashes do too. -/
def separates (special : Bool) (c : Char) : Bool :=
  c = '/' || (special && c = '\\')

def endsAuthority (special : Bool) (c : Char) : Bool :=
  separates special c || c = '?' || c = '#'

def endsPath (c : Char) : Bool :=
  c = '?' || c = '#'

def readUserInfo (s : List Char) : Option UserInfo :=
  let info : UserInfo :=
    match Text.splitFirst? ':' s with
    | none => ⟨escape userInfoSet s, none⟩
    | some (name, []) => ⟨escape userInfoSet name, none⟩
    | some (name, password) => ⟨escape userInfoSet name, some (escape userInfoSet password)⟩
  if info.name = [] ∧ info.password = none then none else some info

/-- The text of a host. A colon inside brackets does not end it. -/
def takeHost (special : Bool) : Bool → List Char → List Char × List Char
  | _, [] => ([], [])
  | inside, c :: rest =>
    if (c = ':' && !inside) || endsAuthority special c then ([], c :: rest)
    else
      let (host, behind) :=
        takeHost special (if c = '[' then true else if c = ']' then false else inside) rest
      (c :: host, behind)

/-- A port behind its colon. The default port of the scheme is left out. -/
def readPort (scheme : List Char) (s : List Char) : Except UrlFault (Option Nat × List Char) :=
  let digits := s.takeWhile Char.isDigit
  let rest := s.dropWhile Char.isDigit
  let port := digits.foldl (fun n c => n * 10 + (c.toNat - 48)) 0
  let ended : Bool :=
    match rest with
    | [] => true
    | c :: _ => endsAuthority true c
  if 65535 < port ∨ !ended then .error .invalidPort
  else if digits = [] ∨ defaultPort? scheme = some port then .ok (none, rest)
  else .ok (some port, rest)

def readHost (special : Bool) (s : List Char) : Except UrlFault Host :=
  if special then
    if s = [] then .error .emptyHost else Host.parse s
  else Host.parseOther s

def readAuthority (scheme : List Char) (s : List Char) :
    Except UrlFault (Authority × List Char) := do
  let special := (kindOf scheme).isSpecial
  let (user, s) ←
    match Text.splitLast? '@' (s.takeWhile fun c => !endsAuthority special c) with
    | none => .ok (none, s)
    | some (info, _) =>
      let rest := s.drop (info.length + 1)
      if info = [] ∧ (rest.head?.map (endsAuthority special)) = some true then
        .error UrlFault.emptyHost
      else .ok (readUserInfo info, rest)
  let (hostText, rest) := takeHost special false s
  let host ← readHost special hostText
  if host = .domain [] ∧ rest.head? = some ':' then .error .emptyHost
  else
    let (port, rest) ←
      match rest with
      | ':' :: behind => readPort scheme behind
      | _ => .ok (none, rest)
    if host = .domain [] ∧ user.isSome then .error .emptyHost
    else .ok (⟨user, host, port⟩, rest)

def withoutSlash (special : Bool) (s : List Char) : List Char :=
  match s with
  | c :: rest => if separates special c then rest else s
  | [] => []

def follow (kind : SchemeKind) (folders : List (List Char)) (s : List Char) : Trail :=
  Trail.climb (fun _ => Trail.Step.ofSegment) folders
    (Text.pieces (separates kind.isSpecial) (escape pathSet s))

def readPath (kind : SchemeKind) (s : List Char) : Path :=
  if s = [] ∧ kind = .other then .empty
  else .rooted (follow kind [] (withoutSlash kind.isSpecial s))

def readTail (kind : SchemeKind) (s : List Char) : Option (List Char) × Option (List Char) :=
  let fragment (t : List Char) : Option (List Char) :=
    match t with
    | '#' :: f => some (escape fragmentSet f)
    | _ => none
  match s with
  | '?' :: q =>
    (some (escape (querySet kind.isSpecial) (q.takeWhile fun c => c ≠ '#')),
      fragment (q.dropWhile fun c => c ≠ '#'))
  | _ => (none, fragment s)

def withRest (scheme : List Char) (authority : Option Authority) (path : List Char → Path)
    (s : List Char) : Url :=
  let (query, fragment) := readTail (kindOf scheme) (s.dropWhile fun c => !endsPath c)
  ⟨scheme, authority, path (s.takeWhile fun c => !endsPath c), query, fragment⟩

def fromAuthority (scheme : List Char) (s : List Char) : Except UrlFault Url := do
  let (authority, rest) ← readAuthority scheme s
  .ok (withRest scheme (some authority) (readPath (kindOf scheme)) rest)

/-- The URL with another fragment. -/
def withFragment (base : Url) (s : List Char) : Url :=
  { base with fragment := (readTail .other s).2 }

/-- The folders that a reference without a slash starts from. -/
def baseFolders (base : Url) : List (List Char) :=
  match base.path with
  | .rooted trail => trail.folders
  | _ => []

def fromFolder (base : Url) (folders : List (List Char)) (s : List Char) : Url :=
  withRest base.scheme base.authority (fun p => .rooted (follow (kindOf base.scheme) folders p)) s

def relative (base : Url) (s : List Char) : Except UrlFault Url :=
  match s with
  | [] => .ok { base with fragment := none }
  | '?' :: _ =>
    let (query, fragment) := readTail (kindOf base.scheme) s
    .ok { base with query := query, fragment := fragment }
  | '#' :: _ => .ok (base.withFragment s)
  | a :: rest =>
    if isSlash a then
      match rest with
      | b :: behind =>
        if isSlash b then
          fromAuthority base.scheme
            (if a = '/' ∧ b = '/' then behind else behind.dropWhile isSlash)
        else .ok (fromFolder base [] rest)
      | [] => .ok (fromFolder base [] rest)
    else .ok (fromFolder base base.baseFolders s)

end ShowRemote.Url
