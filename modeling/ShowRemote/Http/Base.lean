import ShowRemote.Show.Failure
import ShowRemote.Url.Parse

/-!
The base resource of a player. A base ends with a slash and has neither query nor fragment, so that
a path is appended to it and replaces nothing of it.
-/

set_option autoImplicit false

namespace ShowRemote.Http

open Show (TransportFault)

/-- The path of a base: every path from the root, closed with a slash. -/
def basePath (kind : Url.SchemeKind) : Url.Path → Url.Path
  | .rooted trail => .rooted (if kind = .file then Url.FilePath.asFolder trail else trail.asFolder)
  | _ => .rooted .root

def asBase (url : Url) : Url :=
  { url with path := basePath (Url.kindOf url.scheme) url.path, query := none, fragment := none }

private theorem basePath_basePath (kind : Url.SchemeKind) (path : Url.Path) :
    basePath kind (basePath kind path) = basePath kind path := by
  cases path with
  | rooted trail =>
    by_cases h : kind = .file
    · simp [basePath, h, Url.FilePath.asFolder_asFolder]
    · simp [basePath, h, Url.Trail.asFolder_asFolder]
  | text content => by_cases h : kind = .file <;> simp [basePath, h] <;> rfl
  | empty => by_cases h : kind = .file <;> simp [basePath, h] <;> rfl

theorem asBase_asBase (url : Url) : asBase (asBase url) = asBase url := by
  simp [asBase, basePath_basePath]

/-- Read a base. A text that is no base is reported as it was given. -/
def readBase (raw : String) : Except TransportFault Url :=
  match Url.parse (Text.trimBlanks raw.toList) with
  | .error fault => .error (.invalidBaseUrl raw fault.message)
  | .ok url =>
    if url.isText then .error (.invalidBaseUrl raw "url cannot be used as a base")
    else .ok (asBase url)

/-- The URL of a path under a base. Slashes at the start of the path do not count. -/
def resolve (base : Url) (path : String) : Except TransportFault Url :=
  match base.join (path.toList.dropWhile fun c => c = '/') with
  | .ok url => .ok url
  | .error fault => .error (.invalidBaseUrl (base.text ++ path) fault.message)

end ShowRemote.Http
