import ShowRemote.Unicode.Ranges

/-!
Blank characters: the Unicode property White_Space, and the text between the blanks at its two ends.
-/

set_option autoImplicit false

namespace ShowRemote.Text

def blankRanges : List (Nat × Nat) :=
  [(0x09, 0x0D), (0x20, 0x20), (0x85, 0x85), (0xA0, 0xA0), (0x1680, 0x1680), (0x2000, 0x200A),
    (0x2028, 0x2029), (0x202F, 0x202F), (0x205F, 0x205F), (0x3000, 0x3000)]

def isBlank (c : Char) : Bool :=
  Unicode.isIn blankRanges c

def trimEnds (p : Char → Bool) (s : List Char) : List Char :=
  ((s.dropWhile p).reverse.dropWhile p).reverse

def trimBlanks (s : List Char) : List Char :=
  trimEnds isBlank s

def lowerAscii (s : List Char) : List Char :=
  s.map Char.toLower

end ShowRemote.Text
