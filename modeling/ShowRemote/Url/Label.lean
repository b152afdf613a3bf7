import ShowRemote.Unicode.Composition
import ShowRemote.Unicode.Direction
import ShowRemote.Unicode.Joining
import ShowRemote.Url.LabelChar
import ShowRemote.Url.Punycode

/-!
Labels of domain names. A label outside ASCII is written as a code behind a mark, and only a text
that is written in no other way counts.
-/

set_option autoImplicit false

namespace ShowRemote.Url.Label

/-- The longest code that is read. -/
def maxCodeLength : Nat := 2000

/-- The longest text that is written as a code. -/
def maxTextLength : Nat := 1000

/-- Whether a text outside ASCII may be a label. -/
def isProper (s : List Char) : Bool :=
  s.any (fun c => 0x80 ≤ c.toNat) && s.all isLabelChar && !s.head?.any Unicode.isMark
    && Unicode.isComposed s && Unicode.joinersShow s

/-- What a label in lower case shows. -/
def shown? : List Char → Option (List Char)
  | 'x' :: 'n' :: '-' :: '-' :: code => (Punycode.decode? code).filter isProper
  | label => some label

def isShort : List Char → Bool
  | 'x' :: 'n' :: '-' :: '-' :: code => code.length ≤ maxCodeLength
  | _ => true

/-- A label in ASCII. What is written as a code may be longer than a code that is read. -/
def written? (label : List Char) : Option (List Char) :=
  if label.all fun c => c.toNat < 0x80 then if isShort label then some label else none
  else if ['x', 'n', '-', '-'].isPrefixOf label || maxTextLength < label.length then none
  else some ('x' :: 'n' :: '-' :: '-' :: Punycode.encode label)

/-- Whether labels may stand together: if one of them needs the rules for directions, all keep to
them. -/
def agree (labels : List (List Char)) : Bool :=
  match labels.mapM shown? with
  | none => false
  | some texts =>
    !texts.any Unicode.isBidirectional || texts.all Unicode.keepsDirection

end ShowRemote.Url.Label
