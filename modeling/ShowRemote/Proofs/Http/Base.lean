import ShowRemote.Http.Transfer
import ShowRemote.Proofs.Url.Plain

/-!
What becomes of a path under a base. A base of the web is a server and a folder on it, whatever it
was given with; a plain path goes down from that folder, so that the URL of a request is the text of
the base with the path behind it.

Main statement: `plain_path_is_appended`.
-/

set_option autoImplicit false

namespace ShowRemote.Http

open Show (TransportFault)
open Url (PlainPath Trail belowFolders)

/-- What stands behind the slashes at the start of a path. -/
def unslashed (path : String) : List Char :=
  path.toList.dropWhile fun c => c = '/'

theorem resolve_eq_ok_iff {base url : Url} {path : String} :
    resolve base path = .ok url ↔ base.join (unslashed path) = .ok url := by
  rw [resolve, ← unslashed]
  cases base.join (unslashed path) with
  | ok joined => rw [Except.ok.injEq, Except.ok.injEq]
  | error fault => exact iff_of_false nofun nofun

theorem head?_unslashed (path : String) : (unslashed path).head? ≠ some '/' := by
  intro head
  have other := Text.head?_dropWhile path.toList '/' head
  cases other

private theorem plainPath_unslashed {path : String} (plain : PlainPath path.toList) :
    PlainPath (unslashed path) := by
  constructor
  case chars => exact fun c mem => plain.chars c ((List.dropWhile_sublist _).mem mem)
  case steps =>
    exact fun segment mem => plain.steps segment (Text.pieces_dropWhile_subset '/' _ mem)

def allFolders (t : Trail) : List (List Char) :=
  t.folders ++ [t.leaf].filter fun leaf => leaf ≠ []

private theorem asFolder_eq (t : Trail) : t.asFolder = ⟨allFolders t, []⟩ := by
  obtain ⟨folders, leaf⟩ := t
  cases leaf with
  | nil => simp [Trail.asFolder, allFolders]
  | cons c leaf => simp [Trail.asFolder, allFolders]

theorem exists_of_readBase {raw : String} {base : Url} (accepted : readBase raw = .ok base) :
    ∃ parsed, Url.parse (Text.trimBlanks raw.toList) = .ok parsed ∧ base = asBase parsed := by
  unfold readBase at accepted
  split at accepted
  · cases accepted
  · next parsed same =>
    split at accepted
    · cases accepted
    · cases accepted
      exact ⟨parsed, same, rfl⟩

/-- A base of the web: a server and a folder on it, and nothing else. -/
structure IsFolder (base : Url) (folders : List (List Char)) : Prop where
  web : Url.kindOf base.scheme = .web
  server : base.authority.isSome
  path : base.path = .rooted ⟨folders, []⟩
  query : base.query = none
  fragment : base.fragment = none

theorem isFolder_asBase {raw : List Char} {parsed : Url} (read : Url.parse raw = .ok parsed)
    (web : Url.kindOf parsed.scheme = .web) :
    ∃ trail, parsed.path = .rooted trail ∧ IsFolder (asBase parsed) (allFolders trail) := by
  obtain ⟨⟨authority, server⟩, trail, path⟩ := Url.parse_web read web
  refine ⟨trail, path, ?_⟩
  constructor
  case web => exact web
  case server =>
    show parsed.authority.isSome
    rw [server]
    rfl
  case path =>
    show basePath (Url.kindOf parsed.scheme) parsed.path = _
    rw [path, web, ← asFolder_eq]
    rfl
  case query => rfl
  case fragment => rfl

/-- The URL of a path below a folder. -/
def below (base : Url) (folders : List (List Char)) (path : String) : Url :=
  { base with path := .rooted (belowFolders folders (unslashed path)) }

section Folder

variable {base : Url} {folders : List (List Char)} (isFolder : IsFolder base folders)
  {path : String}

include isFolder

private theorem IsFolder.resolve_eq (plain : PlainPath path.toList) :
    resolve base path = .ok (below base folders path) :=
  resolve_eq_ok_iff.mpr (Url.join_plain isFolder.web isFolder.path isFolder.query isFolder.fragment
    (plainPath_unslashed plain) (head?_unslashed path))

private theorem IsFolder.write_path (path : String) :
    (below base folders path).path.write true = base.path.write true ++ unslashed path := by
  rw [isFolder.path]
  exact Url.write_belowFolders folders (unslashed path)

private theorem IsFolder.text_below (path : String) :
    (below base folders path).text = base.text ++ String.ofList (unslashed path) := by
  have written : (below base folders path).write = base.write ++ unslashed path := by
    have grown : (below base folders path).path.write (below base folders path).authority.isSome =
        base.path.write base.authority.isSome ++ unslashed path := by
      show (below base folders path).path.write base.authority.isSome = _
      rw [isFolder.server]
      exact isFolder.write_path path
    have query : (below base folders path).query = none := isFolder.query
    have fragment : (below base folders path).fragment = none := isFolder.fragment
    rw [Url.write, Url.write, grown, query, fragment, isFolder.query, isFolder.fragment]
    simp only [Option.elim_none, List.append_nil, List.append_assoc]
    rfl
  rw [Url.text, Url.text, written, String.ofList_append]

end Folder

def sendTo (url : Url) (message : Message) : Except TransportFault Outgoing :=
  if Outgoing.isSendable url then .ok ⟨url, message⟩
  else .error (.request url.text (Outgoing.reason "builder error" url))

/-- A path appended to a base that was given as `raw`. -/
structure Appends (raw : String) (base : Url) (path : String) (url : Url) : Prop where
  resolved : resolve base path = .ok url
  text : url.text = base.text ++ String.ofList (unslashed path)
  resource : resourceText url = base.path.write true ++ unslashed path
  get : Outgoing.prepare base (.get path) = sendTo url (.get path)
  post : ∀ body, Outgoing.prepare base (.post path body) = sendTo url (.post path body)
  kept : ∃ given trail, Url.parse (Text.trimBlanks raw.toList) = .ok given ∧
    given.path = .rooted trail ∧ url.authority = given.authority ∧
    url.path = .rooted (belowFolders (allFolders trail) (unslashed path))
  bare : url.query = none ∧ url.fragment = none
  slashes : ∀ other, unslashed other = unslashed path → resolve base other = .ok url ∧
    (Outgoing.prepare base (.get other)).map Outgoing.bytes =
      (Outgoing.prepare base (.get path)).map Outgoing.bytes ∧
    ∀ body, (Outgoing.prepare base (.post other body)).map Outgoing.bytes =
      (Outgoing.prepare base (.post path body)).map Outgoing.bytes

section Prepare

variable {base url : Url} {path : String} (resolved : resolve base path = .ok url)

include resolved

theorem prepare_get_of_resolve : Outgoing.prepare base (.get path) = sendTo url (.get path) := by
  simp only [Outgoing.prepare, resolved]
  rfl

theorem prepare_post_of_resolve (body : Json) :
    Outgoing.prepare base (.post path body) = sendTo url (.post path body) := by
  simp only [Outgoing.prepare, resolved]
  rfl

end Prepare

private theorem map_bytes_sendTo_get (url : Url) (path other : String) :
    (sendTo url (.get path)).map Outgoing.bytes = (sendTo url (.get other)).map Outgoing.bytes := by
  unfold sendTo
  split <;> rfl

private theorem map_bytes_sendTo_post (url : Url) (path other : String) (body : Json) :
    (sendTo url (.post path body)).map Outgoing.bytes =
      (sendTo url (.post other body)).map Outgoing.bytes := by
  unfold sendTo
  split <;> rfl

/-- A plain path is appended to a base of the web, less the slashes at its start. -/
theorem plain_path_is_appended {raw : String} {base : Url} (accepted : readBase raw = .ok base)
    (web : base.scheme = "http".toList ∨ base.scheme = "https".toList) {path : String}
    (plain : PlainPath path.toList) : ∃ url, Appends raw base path url := by
  obtain ⟨given, read, rfl⟩ := exists_of_readBase accepted
  have isWeb : Url.kindOf given.scheme = .web := by
    rcases web with http | https
    · exact (congrArg Url.kindOf http).trans rfl
    · exact (congrArg Url.kindOf https).trans rfl
  obtain ⟨trail, rooted, isFolder⟩ := isFolder_asBase read isWeb
  have resolved := isFolder.resolve_eq plain
  refine ⟨below (asBase given) (allFolders trail) path, ?_⟩
  constructor
  case resolved => exact resolved
  case text => exact isFolder.text_below path
  case resource =>
    have query : (below (asBase given) (allFolders trail) path).query = none := isFolder.query
    rw [resourceText, query, isFolder.write_path]
    exact List.append_nil _
  case get => exact prepare_get_of_resolve resolved
  case post => exact prepare_post_of_resolve resolved
  case kept => exact ⟨given, trail, read, rooted, rfl, rfl⟩
  case bare => exact ⟨rfl, rfl⟩
  case slashes =>
    intro other same
    have resolved' : resolve (asBase given) other =
        .ok (below (asBase given) (allFolders trail) path) := by
      rw [resolve_eq_ok_iff, same, ← resolve_eq_ok_iff]
      exact resolved
    refine ⟨resolved', ?_, fun body => ?_⟩
    · rw [prepare_get_of_resolve resolved', prepare_get_of_resolve resolved]
      exact map_bytes_sendTo_get _ _ _
    · rw [prepare_post_of_resolve resolved', prepare_post_of_resolve resolved]
      exact map_bytes_sendTo_post _ _ _ _

/-- A base with a name and a password, a host outside ASCII, a dot segment, an escape, a query and a
fragment. -/
theorem path_under_a_base_with_everything :
    let raw := " http://op:pw@Bücher.example:8080/a/../Stage%20One?x=1#f\t"
    let base : Url := ⟨"http".toList, some ⟨some ⟨"op".toList, some "pw".toList⟩,
      .domain "xn--bcher-kva.example".toList, some 8080⟩,
      .rooted ⟨["Stage%20One".toList], []⟩, none, none⟩
    (readBase raw = .ok base ∧ base.scheme = "http".toList ∧
      PlainPath "//showfile//status".toList) ∧
      ∃ url, Appends raw base "//showfile//status" url := by
  intro raw base
  have accepted : readBase raw = .ok base := by decide +kernel
  have plain : PlainPath "//showfile//status".toList :=
    ⟨List.all_eq_true.mp (by decide +kernel), by simp [Text.pieces]⟩
  exact ⟨⟨accepted, rfl, plain⟩, plain_path_is_appended accepted (.inl rfl) plain⟩

end ShowRemote.Http
