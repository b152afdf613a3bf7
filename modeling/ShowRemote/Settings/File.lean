import ShowRemote.Text.Pieces
import ShowRemote.Text.Utf8

/-!
Files as far as settings need them: a reader of whole files, what can stand against reading one, and
a small tree of files to read from.
-/

set_option autoImplicit false

namespace ShowRemote.Settings

inductive FileFault where
  | notFound
  | notADirectory
  | isADirectory
  | nameTooLong
  | nulInName
  | notText
  | other (message : String)
  deriving DecidableEq, Repr

def FileFault.message : FileFault → String
  | .notFound => "No such file or directory (os error 2)"
  | .notADirectory => "Not a directory (os error 20)"
  | .isADirectory => "Is a directory (os error 21)"
  | .nameTooLong => "File name too long (os error 36)"
  | .nulInName => "file name contained an unexpected NUL byte"
  | .notText => "stream did not contain valid UTF-8"
  | .other message => message

abbrev FileReader : Type :=
  String → Except FileFault (List UInt8)

inductive FileNode where
  | file (content : List UInt8)
  | folder
  deriving DecidableEq, Repr

abbrev Place : Type :=
  List (List Char)

structure FileTree where
  entries : List (Place × FileNode)
  here : Place
  deriving DecidableEq, Repr

namespace FileTree

/-- The greatest length of a name, in bytes. -/
def greatestName : Nat := 255

/-- The greatest length of a path, in bytes. -/
def greatestPath : Nat := 4095

/-- The names on the way of a path. -/
def names (path : List Char) : List (List Char) :=
  Text.pieces (fun c => c = '/') path

def start (tree : FileTree) (path : List Char) : Place :=
  if path.head? = some '/' then [] else tree.here

/-- The place behind a name. The root has no place above it. -/
def next (place : Place) (name : List Char) : Place :=
  if name = [] ∨ name = ['.'] then place
  else if name = ['.', '.'] then place.dropLast
  else place ++ [name]

def put (tree : FileTree) (path : List Char) (node : FileNode) : FileTree :=
  { tree with entries := ((names path).foldl next (tree.start path), node) :: tree.entries }

/-- What stands at a place. Folders on the way to an entry stand there too. -/
def node? (tree : FileTree) (place : Place) : Option FileNode :=
  match tree.entries.lookup place with
  | some node => some node
  | none =>
    if place.isPrefixOf tree.here ∨ tree.entries.any (fun e => place.isPrefixOf e.1) then
      some .folder
    else none

def follow (tree : FileTree) (place : Place) : List (List Char) → Except FileFault (List UInt8)
  | [] =>
    match tree.node? place with
    | some (.file content) => .ok content
    | some .folder => .error .isADirectory
    | none => .error .notFound
  | name :: rest =>
    match tree.node? place with
    | none => .error .notFound
    | some (.file _) => .error .notADirectory
    | some .folder =>
      if greatestName < (Text.utf8Bytes name).length then .error .nameTooLong
      else tree.follow (next place name) rest

def read (tree : FileTree) : FileReader :=
  fun path =>
    let s := path.toList
    if s.contains '\x00' then .error .nulInName
    else if s = [] then .error .notFound
    else if greatestPath < (Text.utf8Bytes s).length then .error .nameTooLong
    else tree.follow (tree.start s) (names s)

end FileTree
end ShowRemote.Settings
