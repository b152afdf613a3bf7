import ShowRemote.Text.Pieces

/-!
Text in ASCII letters and digits. A code gives the ASCII characters of a text, a hyphen and, for
every other character in the order of the code points, how far it lies behind the one before. That
distance counts the places of the text for each code point, and is a number with variable places.
-/

set_option autoImplicit false

namespace ShowRemote.Url.Punycode

/-- The value of a digit: letters come before digits. -/
def digit? (c : Char) : Option Nat :=
  if 'a' ≤ c ∧ c ≤ 'z' then some (c.toNat - 97)
  else if '0' ≤ c ∧ c ≤ '9' then some (c.toNat - 22)
  else none

/-- The least digit at a position that is not the last of its number. -/
def threshold (bias position : Nat) : Nat :=
  if position ≤ bias then 1 else min 26 (position - bias)

/-- Halve a distance until it is small, counting positions of a number. -/
def settle (distance position : Nat) : Nat :=
  if 455 < distance then settle (distance / 35) (position + 36)
  else position + 36 * distance / (distance + 38)
termination_by distance

/-- The bias for the number behind a distance. -/
def nextBias (first : Bool) (distance count : Nat) : Nat :=
  let start := if first then distance / 700 else distance / 2
  settle (start + start / count) 0

/-- A text that has been read so far, the code point and the place of the next character unless its
distance moves them on, and the part of that distance that has been read. -/
structure Reading where
  shown : List Char
  codePoint : Nat
  place : Nat
  bias : Nat
  distance : Nat
  weight : Nat
  position : Nat
  deriving Repr

namespace Reading

def start (basic : List Char) : Reading :=
  ⟨basic, 128, 0, 72, 0, 1, 36⟩

def insert? (r : Reading) (distance : Nat) : Option Reading :=
  let count := r.shown.length + 1
  let reached := r.place + distance
  let codePoint := r.codePoint + reached / count
  let place := reached % count
  if codePoint.isValidChar then
    some ⟨r.shown.insertIdx place (Char.ofNat codePoint), codePoint, place + 1,
      nextBias (r.place = 0) distance count, 0, 1, 36⟩
  else none

def next? (r : Reading) (c : Char) : Option Reading :=
  match digit? c with
  | none => none
  | some digit =>
    let least := threshold r.bias r.position
    let distance := r.distance + digit * r.weight
    if digit < least then r.insert? distance
    else
      some { r with
        distance := distance, weight := r.weight * (36 - least), position := r.position + 36 }

def text? (r : Reading) : Option (List Char) :=
  if r.position = 36 then some r.shown else none

end Reading

def decode? (code : List Char) : Option (List Char) :=
  match Text.splitLast? '-' code with
  | none => (code.foldlM Reading.next? (Reading.start [])) >>= Reading.text?
  | some ([], _) => none
  | some (basic, digits) => (digits.foldlM Reading.next? (Reading.start basic)) >>= Reading.text?

def digit (d : Nat) : Char :=
  if d < 26 then Char.ofNat (d + 97) else Char.ofNat (d + 22)

private theorem one_le_threshold (bias position : Nat) : 1 ≤ threshold bias position := by
  unfold threshold
  split <;> omega

def writeNumber (bias position distance : Nat) : List Char :=
  let least := threshold bias position
  if distance < least then [digit distance]
  else
    digit (least + (distance - least) % (36 - least)) ::
      writeNumber bias (position + 36) ((distance - least) / (36 - least))
termination_by distance
decreasing_by
  have positive : 1 ≤ threshold bias position := one_le_threshold bias position
  calc (distance - threshold bias position) / (36 - threshold bias position)
      ≤ distance - threshold bias position := Nat.div_le_self _ _
    _ < distance := by omega

/-- The numbers that have been written, the distance that has been passed since the last one, the
least code point that is to come, and how many characters of the text have been told. -/
structure Writing where
  digits : List Char
  distance : Nat
  codePoint : Nat
  bias : Nat
  count : Nat
  deriving Repr

namespace Writing

/-- Pass a character of the text while those with the code point `n` are told. -/
def pass (basic n : Nat) (w : Writing) (c : Char) : Writing :=
  if c.toNat < n then { w with distance := w.distance + 1 }
  else if c.toNat = n then
    { w with
      digits := w.digits ++ writeNumber w.bias 36 w.distance, distance := 0,
      bias := nextBias (w.count = basic) w.distance (w.count + 1), count := w.count + 1 }
  else w

def tell (s : List Char) (basic : Nat) (w : Writing) (n : Nat) : Writing :=
  let distance := w.distance + (n - w.codePoint) * (w.count + 1)
  let told := s.foldl (pass basic n) { w with distance := distance }
  { told with distance := told.distance + 1, codePoint := n + 1 }

end Writing

/-- Put a number into an ascending list that does not hold it yet. -/
def insertOnce (n : Nat) : List Nat → List Nat
  | [] => [n]
  | m :: rest =>
    if n < m then n :: m :: rest else if n = m then m :: rest else m :: insertOnce n rest

def encode (s : List Char) : List Char :=
  let basic := s.filter fun c => c.toNat < 128
  let others := (s.filter fun c => 128 ≤ c.toNat).map Char.toNat
  let written := (others.foldr insertOnce []).foldl (Writing.tell s basic.length)
    ⟨[], 0, 128, 72, basic.length⟩
  (if basic = [] then [] else basic ++ ['-']) ++ written.digits

end ShowRemote.Url.Punycode
