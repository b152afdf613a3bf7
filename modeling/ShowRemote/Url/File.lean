import ShowRemote.Url.Reference

/-!
URLs of files. Their paths know drives: a drive at the root is written with a colon, is not left
again, and stands without a host. Tabs and line ends do not count, except for the segment of a
drive, which ends at one.
-/

set_option autoImplicit false

namespace ShowRemote.Url

def isBreak (c : Char) : Bool :=
  c = '\t' || c = '\n' || c = '\r'

def withoutBreaks (s : List Char) : List Char :=
  s.filter fun c => !isBreak c

def behind : Nat → List Char → List Char
  | 0, s => s
  | n + 1, s =>
    match s.dropWhile isBreak with
    | [] => []
    | _ :: rest => behind n rest

namespace FilePath

def isWrittenDrive (s : List Char) : Bool :=
  Trail.isDrive s && s.getLast? = some ':'

/-- A drive and the text behind the breaks that end it, if there is any. -/
def partedDrive? (segment : List Char) : Option (List Char × List Char) :=
  let drive := (withoutBreaks segment).take 2
  let rest := behind 2 segment
  if isWrittenDrive drive && rest.head?.any isBreak && withoutBreaks rest ≠ [] then
    some (drive, escape pathSet (withoutBreaks rest))
  else none

def drive? (segment : List Char) : Option (List Char) :=
  match withoutBreaks segment with
  | [letter, mark] => if Trail.isDrive [letter, mark] then some [letter, ':'] else none
  | _ => none

def step (folders : List (List Char)) (segment : List Char) : Trail.Step :=
  let plain := Trail.Step.ofSegment (escape pathSet (withoutBreaks segment))
  if folders = [] then
    match partedDrive? segment, drive? segment with
    | some (drive, name), _ => .down [drive] name
    | none, some drive => .down [] drive
    | none, none => plain
  else plain

def meetsDrive (folders : List (List Char)) : List (List Char) → Bool
  | [] => false
  | s :: rest =>
    (folders = [] && (partedDrive? s).isNone && (drive? s).isSome)
      || meetsDrive (Trail.enter folders (step folders s)) rest

/-- Follow segments from a folder. There are no empty folders at the root. -/
def follow (folders segments : List (List Char)) : Trail :=
  (Trail.climb step folders segments).trimmed

def segments (s : List Char) : List (List Char) :=
  Text.pieces (separates true) (s.takeWhile fun c => !endsPath c)

def asFolder (t : Trail) : Trail :=
  if t.leaf = [] then t else follow [] (t.folders ++ [t.leaf, []])

private theorem leaf_climb_step (folders segments : List (List Char)) :
    (Trail.climb step folders (segments ++ [[]])).leaf = [] := by
  induction segments generalizing folders with
  | nil =>
    have h : step folders [] = .down [] [] := by
      unfold step
      split <;> rfl
    simp [Trail.climb, h, Trail.finish]
  | cons s rest ih =>
    cases rest with
    | nil => exact ih _
    | cons t more => exact ih _

private theorem leaf_asFolder (t : Trail) : (asFolder t).leaf = [] := by
  unfold asFolder
  split
  · assumption
  · simpa [follow, Trail.trimmed] using leaf_climb_step [] (t.folders ++ [t.leaf])

theorem asFolder_asFolder (t : Trail) : asFolder (asFolder t) = asFolder t := by
  rw [asFolder, if_pos (leaf_asFolder t)]

end FilePath

def fileScheme : List Char := "file".toList

def noHost : Authority := ⟨none, .domain [], none⟩

/-- A file with a path that is followed from a folder, and the query and the fragment behind it. -/
def fileAt (authority : Authority) (folders segments : List (List Char)) (s : List Char) : Url :=
  let (query, fragment) := readTail .file (withoutBreaks (s.dropWhile fun c => !endsPath c))
  ⟨fileScheme, some authority, .rooted (FilePath.follow folders segments), query, fragment⟩

/-- A file with its host. The host does not count if it names this machine or if the path meets a
drive. -/
def fileFromHost (s : List Char) : Except UrlFault Url := do
  let raw := s.takeWhile fun c => !endsAuthority true c
  let name := withoutBreaks raw
  if Trail.isDrive name then .ok (fileAt noHost [] (FilePath.segments s) s)
  else
    let rest := s.drop raw.length
    let host ← if name = [] then .ok (Host.domain []) else Host.parse name
    if host = .domain [] ∨ host = .domain "localhost".toList then
      .ok (fileAt noHost [] (FilePath.segments rest) rest)
    else
      let segments := FilePath.segments (withoutSlash true rest)
      let authority := if FilePath.meetsDrive [] segments then noHost else ⟨none, host, none⟩
      .ok (fileAt authority [] segments rest)

def startsWithDrive (s : List Char) : Bool :=
  Trail.isDrive (withoutBreaks (s.takeWhile fun c => !endsAuthority true c))

/-- A file from the root. The drive or else the host of the base is kept. -/
def fileFromRoot (base : Option Url) (s : List Char) : Url :=
  let kept : Authority × List (List Char) :=
    match base with
    | some b =>
      match b.path with
      | .rooted trail =>
        if startsWithDrive s then (noHost, [])
        else if FilePath.isWrittenDrive trail.first then (noHost, [trail.first])
        else (b.authority.getD noHost, [])
      | _ => (noHost, [])
    | none => (noHost, [])
  fileAt kept.1 kept.2 (FilePath.segments s) s

def readFile (base : Option Url) (s : List Char) : Except UrlFault Url :=
  let text := withoutBreaks s
  match ((text.take 2).takeWhile isSlash).length with
  | 0 =>
    match base with
    | none => .ok (fileAt noHost [] (FilePath.segments s) s)
    | some b =>
      if text = [] ∨ text.head?.any endsPath then b.relative text
      else if startsWithDrive s then .ok (fileAt noHost [] (FilePath.segments s) s)
      else .ok (fileAt (b.authority.getD noHost) b.baseFolders (FilePath.segments s) s)
  | 1 => .ok (fileFromRoot base (behind 1 s))
  | _ => fileFromHost (behind 2 s)

end ShowRemote.Url
