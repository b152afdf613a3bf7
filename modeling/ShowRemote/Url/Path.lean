import ShowRemote.Text.Blank
import ShowRemote.Text.Pieces
import ShowRemote.Url.Escape

/-!
Paths. A path from the root is a list of folders and a leaf, which is empty when the path ends with
a slash. Segments of one dot stay where they are, segments of two dots go up a folder, and neither
is kept.
-/

set_option autoImplicit false

namespace ShowRemote.Url

structure Trail where
  folders : List (List Char)
  leaf : List Char
  deriving DecidableEq, Repr

inductive Path where
  /-- The text behind a scheme that has no hierarchy. -/
  | text (content : List Char)
  | empty
  | rooted (trail : Trail)
  deriving DecidableEq, Repr

namespace Trail

def root : Trail := ⟨[], []⟩

def write (t : Trail) : List Char :=
  '/' :: (t.folders.flatMap (fun f => f ++ ['/']) ++ t.leaf)

def asFolder (t : Trail) : Trail :=
  if t.leaf = [] then t else ⟨t.folders ++ [t.leaf], []⟩

theorem leaf_asFolder (t : Trail) : t.asFolder.leaf = [] := by
  unfold asFolder
  split
  · assumption
  · rfl

theorem asFolder_asFolder (t : Trail) : t.asFolder.asFolder = t.asFolder := by
  rw [asFolder, if_pos (leaf_asFolder t)]

def isSingleDot (s : List Char) : Bool :=
  [['.'], ['%', '2', 'e']].contains (Text.lowerAscii s)

def isDoubleDot (s : List Char) : Bool :=
  [['.', '.'], ['.', '%', '2', 'e'], ['%', '2', 'e', '.'], ['%', '2', 'e', '%', '2', 'e']].contains
    (Text.lowerAscii s)

/-- A letter and a colon or a bar behind it. -/
def isDrive : List Char → Bool
  | [a, b] => a.isAlpha && (b = ':' || b = '|')
  | _ => false

/-- A folder that is never left: a drive, and whatever starts with one and a backslash. -/
def isGuarded (folder : List Char) : Bool :=
  isDrive (folder.take 2) && (folder.drop 2).head?.all fun c => c = '\\'

/-- The folder above; the root and a guarded folder have none. -/
def above (folders : List (List Char)) : List (List Char) :=
  match folders.getLast? with
  | some last => if isGuarded last then folders else folders.dropLast
  | none => []

/-- What a segment does: it stays, goes up, or goes down, sometimes through more folders. -/
inductive Step where
  | stay
  | up
  | down (through : List (List Char)) (name : List Char)
  deriving DecidableEq, Repr

def Step.ofSegment (s : List Char) : Step :=
  if isDoubleDot s then .up else if isSingleDot s then .stay else .down [] s

def enter (folders : List (List Char)) : Step → List (List Char)
  | .stay => folders
  | .up => above folders
  | .down through name => folders ++ through ++ [name]

/-- The trail behind a last step. Only a step down leaves a leaf. -/
def finish (folders : List (List Char)) : Step → Trail
  | .down through name => ⟨folders ++ through, name⟩
  | step => ⟨enter folders step, []⟩

/-- Follow segments from folder to folder, where the step of a segment may depend on its folders.
The last segment is the leaf. -/
def climb (step : List (List Char) → List Char → Step) (folders : List (List Char)) :
    List (List Char) → Trail
  | [] => ⟨folders, []⟩
  | [last] => finish folders (step folders last)
  | s :: rest => climb step (enter folders (step folders s)) rest

def first (t : Trail) : List Char :=
  t.folders.head?.getD t.leaf

def trimmed (t : Trail) : Trail :=
  ⟨t.folders.dropWhile List.isEmpty, t.leaf⟩

end Trail
end ShowRemote.Url
