/-!
Texts cut at separators. A text with `n` separators has `n + 1` pieces, some of them maybe empty.
-/

set_option autoImplicit false

namespace ShowRemote.Text

def pieces (separates : Char → Bool) : List Char → List (List Char)
  | [] => [[]]
  | c :: rest =>
    if separates c then [] :: pieces separates rest
    else
      match pieces separates rest with
      | [] => [[c]]
      | piece :: others => (c :: piece) :: others

theorem pieces_ne_nil (separates : Char → Bool) (s : List Char) : pieces separates s ≠ [] := by
  cases s with
  | nil => simp [pieces]
  | cons c rest =>
    unfold pieces
    split
    · simp
    · split <;> simp

def splitLast? (separator : Char) (s : List Char) : Option (List Char × List Char) :=
  match s.reverse.dropWhile fun c => c ≠ separator with
  | [] => none
  | _ :: before => some (before.reverse, (s.reverse.takeWhile fun c => c ≠ separator).reverse)

def splitFirst? (separator : Char) (s : List Char) : Option (List Char × List Char) :=
  match s.dropWhile fun c => c ≠ separator with
  | [] => none
  | _ :: behind => some (s.takeWhile fun c => c ≠ separator, behind)

end ShowRemote.Text
