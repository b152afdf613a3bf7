import ShowRemote.Json.Ignored
import ShowRemote.Proofs.Json.Grammar
import ShowRemote.Proofs.Outcome

/-!
What can be read can be passed over. Behind a value that is read, the text goes on where it goes on
behind the same value when nothing is kept of it (`Passes`): numbers are gathered digit by digit,
and passed over all at once; a surrogate pair is one character to a reader and two escapes to a
skipper; and the depth of a value that has been read is less than the length of its text, so that
the fuel of the skipper lasts.

Main statement: `ignored_of_value`.
-/

set_option autoImplicit false

namespace ShowRemote.Json.Read

open Text (Symbol)

/-- A value that is read off the front of a text is passed over, and no text is added. -/
def Passes {α : Type} (reader : Reader α) (skip : Skipper) (s : List Symbol) : Prop :=
  ∀ (x : α) (rest : List Symbol), reader s = .ok (x, rest) →
    rest.length ≤ s.length ∧ skip s = .ok rest

private theorem length_skipSpaces_le (s : List Symbol) : (skipSpaces s).length ≤ s.length :=
  List.length_dropWhile_le _ s

theorem skipSpaces_skipSpaces (s : List Symbol) : skipSpaces (skipSpaces s) = skipSpaces s :=
  List.dropWhile_idempotent _ s

private theorem length_finishWord_le {word : List Char} {s rest : List Symbol}
    (read : finishWord word s = .ok rest) : rest.length ≤ s.length := by
  induction word generalizing s with
  | nil =>
    cases read
    exact Nat.le_refl _
  | cons c word ih =>
    cases s with
    | nil => cases read
    | cons x s =>
      rw [finishWord] at read
      split at read
      · exact (ih read).trans (Nat.le_succ _)
      · cases read

theorem dropWhile_cons_of_digit {x : Symbol} (digit : isDigit x) (s : List Symbol) :
    (x :: s).dropWhile isDigit = s.dropWhile isDigit :=
  List.dropWhile_cons_of_pos digit

theorem length_dropWhile_isDigit_le (s : List Symbol) :
    (s.dropWhile isDigit).length ≤ s.length :=
  List.length_dropWhile_le _ s

theorem left_exponentDigits {strict : Bool} {total power : Nat} {s rest : List Symbol}
    (read : exponentDigits strict total s = .ok (power, rest)) : rest = s.dropWhile isDigit := by
  induction s generalizing total with
  | nil =>
    cases read
    rfl
  | cons x s ih =>
    rw [exponentDigits] at read
    cases digit : digit? x with
    | none =>
      rw [digit] at read
      cases read
      rw [List.dropWhile_cons_of_neg (by simp [isDigit, digit])]
    | some d =>
      rw [digit] at read
      simp only at read
      split at read
      · cases read
      · rw [dropWhile_cons_of_digit (by simp [isDigit, digit])]
        exact ih read

theorem dropWhile_gatherDigits (total : Nat) (s : List Symbol) :
    (gatherDigits total s).2.dropWhile isDigit = s.dropWhile isDigit := by
  induction s generalizing total with
  | nil => rfl
  | cons x s ih =>
    rw [gatherDigits]
    cases digit : digit? x with
    | none => rfl
    | some d =>
      simp only
      split
      · rw [ih, dropWhile_cons_of_digit (by simp [isDigit, digit])]
      · rfl

theorem left_finishDouble {negative : Bool} {significand : Nat} {exponent : Int} {n : Number}
    {s rest : List Symbol} (read : finishDouble negative significand exponent s = .ok (n, rest)) :
    rest = s := by
  rw [finishDouble] at read
  split at read
  · cases read
    rfl
  · cases read

section Numbers

variable (negative : Bool) (significand : Nat)

private theorem left_exponent {exponent : Int} (minus : Bool) {x : Symbol} {n : Number}
    {s rest : List Symbol}
    (read : (if isDigit x then do
        let (power, rest) ← exponentDigits (!minus && significand ≠ 0) 0 (x :: s)
        finishDouble negative significand
          (if minus then exponent - power else exponent + power) rest
      else Fault.next .invalidNumber (x :: s)) = .ok (n, rest)) :
    isDigit x ∧ rest = s.dropWhile isDigit := by
  split at read
  · next digit =>
    obtain ⟨⟨power, behind⟩, digits, double⟩ := exists_of_bind_ok read
    rw [left_finishDouble double, left_exponentDigits digits, dropWhile_cons_of_digit digit]
    exact ⟨digit, rfl⟩
  · cases read

omit negative significand in
private theorem skipExponent_unsigned {x : Symbol} (plus : x ≠ .char '+') (minus : x ≠ .char '-')
    (s : List Symbol) :
    skipExponent (x :: s) =
      if isDigit x then .ok (s.dropWhile isDigit) else Fault.next .invalidNumber (x :: s) := by
  rw [skipExponent]
  · exact fun digits same => plus (List.cons.inj same).1
  · exact fun digits same => minus (List.cons.inj same).1

private theorem passes_exponent (exponent : Int) (s : List Symbol) :
    Passes (finishExponent negative significand exponent) skipExponent s := by
  intro n rest read
  cases s with
  | nil => cases read
  | cons x s =>
    by_cases plus : x = .char '+'
    · subst plus
      cases s with
      | nil => cases read
      | cons y s =>
        obtain ⟨digit, rfl⟩ := left_exponent negative significand false read
        refine ⟨(length_dropWhile_isDigit_le s).trans (by simp only [List.length_cons]; omega), ?_⟩
        exact if_pos digit
    by_cases minus : x = .char '-'
    · subst minus
      cases s with
      | nil => cases read
      | cons y s =>
        obtain ⟨digit, rfl⟩ := left_exponent negative significand true read
        refine ⟨(length_dropWhile_isDigit_le s).trans (by simp only [List.length_cons]; omega), ?_⟩
        exact if_pos digit
    rw [finishExponent_unsigned plus minus] at read
    obtain ⟨digit, rfl⟩ := left_exponent negative significand false read
    refine ⟨(length_dropWhile_isDigit_le s).trans (Nat.le_succ _), ?_⟩
    rw [skipExponent_unsigned plus minus, if_pos digit]

private theorem passes_fraction (exponent : Int) (s : List Symbol) :
    Passes (finishFraction negative significand exponent) skipFraction s := by
  intro n rest read
  cases s with
  | nil => cases read
  | cons x s =>
    rw [finishFraction] at read
    split at read
    · next digit =>
      simp only [dropWhile_gatherDigits, dropWhile_cons_of_digit digit] at read
      have shorter := length_dropWhile_isDigit_le s
      split at read
      · next power same =>
        obtain ⟨less, skipped⟩ := passes_exponent _ _ _ _ _ _ read
        rw [skipFraction, if_pos digit, same]
        rw [same] at shorter
        simp only [List.length_cons] at shorter ⊢
        exact ⟨by omega, skipped⟩
      · next power same =>
        obtain ⟨less, skipped⟩ := passes_exponent _ _ _ _ _ _ read
        rw [skipFraction, if_pos digit, same]
        rw [same] at shorter
        simp only [List.length_cons] at shorter ⊢
        exact ⟨by omega, skipped⟩
      · next behind small capital =>
        obtain rfl := left_finishDouble read
        refine ⟨shorter.trans (Nat.le_succ _), ?_⟩
        rw [skipFraction, if_pos digit]
        split
        · next power same => exact (small power same).elim
        · next power same => exact (capital power same).elim
        · rfl
    · cases read

def skipBehindDigits : Skipper :=
  fun s =>
    match s with
    | .char '.' :: rest => skipFraction rest
    | .char 'e' :: rest => skipExponent rest
    | .char 'E' :: rest => skipExponent rest
    | _ => .ok s

private theorem passes_finishNumber (excess : Nat) (s : List Symbol) :
    Passes (finishNumber negative significand excess) skipBehindDigits s := by
  intro n rest read
  unfold finishNumber at read
  split at read
  · obtain ⟨less, skipped⟩ := passes_fraction _ _ _ _ _ _ read
    exact ⟨less.trans (Nat.le_succ _), skipped⟩
  · obtain ⟨less, skipped⟩ := passes_exponent _ _ _ _ _ _ read
    exact ⟨less.trans (Nat.le_succ _), skipped⟩
  · obtain ⟨less, skipped⟩ := passes_exponent _ _ _ _ _ _ read
    exact ⟨less.trans (Nat.le_succ _), skipped⟩
  · next point small capital =>
    have same : rest = s := by
      split at read
      · exact left_finishDouble read
      · split at read
        · cases read
          rfl
        · split at read
          · cases read
            rfl
          · exact left_finishDouble read
    subst same
    refine ⟨Nat.le_refl _, ?_⟩
    unfold skipBehindDigits
    split
    · next power => exact (point power rfl).elim
    · next power => exact (small power rfl).elim
    · next power => exact (capital power rfl).elim
    · rfl

private theorem passes_number (s : List Symbol) : Passes (number negative) skipNumber s := by
  intro n rest read
  cases s with
  | nil => cases read
  | cons x s =>
    simp only [number] at read
    simp only [skipNumber]
    cases digit : digit? x with
    | none =>
      rw [digit] at read
      cases read
    | some d =>
      rw [digit] at read
      cases d with
      | zero =>
        cases s with
        | nil =>
          obtain ⟨less, skipped⟩ := passes_finishNumber _ _ _ _ _ _ read
          exact ⟨less.trans (Nat.le_succ _), skipped⟩
        | cons y s =>
          simp only at read ⊢
          split at read
          · cases read
          · next undigit =>
            rw [if_neg undigit]
            obtain ⟨less, skipped⟩ := passes_finishNumber _ _ _ _ _ _ read
            exact ⟨less.trans (Nat.le_succ _), skipped⟩
      | succ d =>
        simp only [dropWhile_gatherDigits] at read
        obtain ⟨less, skipped⟩ := passes_finishNumber _ _ _ _ _ _ read
        have shorter := length_dropWhile_isDigit_le s
        simp only [List.length_cons]
        exact ⟨by omega, skipped⟩

end Numbers

private theorem length_codeUnit {s rest : List Symbol} {unit : Nat}
    (read : codeUnit s = .ok (unit, rest)) : s.length = rest.length + 4 := by
  unfold codeUnit at read
  split at read
  · split at read
    · cases read
      rfl
    · cases read
  · split at read <;> cases read

/-- Behind an escape a skipper stands where the reader stands, or at the second escape of a pair. -/
private theorem skipEscaped_of_escaped {s rest : List Symbol} {c : Char}
    (read : escaped s = .ok (c, rest)) :
    ∃ behind, skipEscaped s = .ok behind ∧ behind.length < s.length ∧
      (behind = rest ∨ ∃ low unit, behind = .char '\\' :: .char 'u' :: low ∧
        codeUnit low = .ok (unit, rest)) := by
  unfold escaped at read
  split at read
  · cases read
  · next s =>
    obtain ⟨⟨unit, behind⟩, first, read⟩ := exists_of_bind_ok read
    have shorter := length_codeUnit first
    refine ⟨behind, by rw [skipEscaped, first]; rfl, by simp only [List.length_cons]; omega, ?_⟩
    simp only at read
    split at read
    · cases read
    split at read
    · cases read
      exact .inl rfl
    split at read
    · cases read
    · next low =>
      split at read
      · cases read
      · next low =>
        obtain ⟨⟨second, left⟩, next, read⟩ := exists_of_bind_ok read
        simp only at read
        split at read
        · cases read
        · obtain ⟨-, rfl⟩ := Prod.mk.inj (Except.ok.inj read)
          exact .inr ⟨low, second, rfl, next⟩
      · cases read
    · cases read
  · next letter s other =>
    split at read
    · next e stands =>
      cases read
      refine ⟨_, ?_, Nat.lt_succ_self _, .inl rfl⟩
      have isSome : (shortEscape? letter).isSome := by
        rw [stands]
        rfl
      rw [skipEscaped]
      · exact if_pos isSome
      · exact other
    · cases read
  · cases read

private theorem skipString_of_contents {fuel : Nat} {s rest contents : List Symbol}
    (read : stringContents fuel s = .ok (contents, rest)) :
    rest.length ≤ s.length ∧ ∀ fuel', s.length < fuel' → skipString fuel' s = .ok rest := by
  induction fuel generalizing s contents with
  | zero => cases read
  | succ fuel ih =>
    cases s with
    | nil => cases read
    | cons x s =>
      have more : ∀ fuel', (x :: s).length < fuel' → ∃ n, fuel' = n + 1 ∧ s.length < n := by
        intro fuel' enough
        simp only [List.length_cons] at enough
        exact ⟨fuel' - 1, by omega, by omega⟩
      cases x with
      | stray b =>
        rw [stringContents] at read
        obtain ⟨⟨tail, left⟩, others, read⟩ := exists_of_bind_ok read
        cases read
        obtain ⟨less, skips⟩ := ih others
        refine ⟨less.trans (Nat.le_succ _), fun fuel' enough => ?_⟩
        obtain ⟨n, rfl, lasts⟩ := more fuel' enough
        rw [skipString]
        exact skips n lasts
      | char c =>
        rw [stringContents] at read
        by_cases quote : c = '"'
        · rw [if_pos quote] at read
          cases read
          refine ⟨Nat.le_succ _, fun fuel' enough => ?_⟩
          obtain ⟨n, rfl, lasts⟩ := more fuel' enough
          rw [skipString, if_pos quote]
        rw [if_neg quote] at read
        by_cases backslash : c = '\\'
        · rw [if_pos backslash] at read
          obtain ⟨⟨e, left⟩, escape, read⟩ := exists_of_bind_ok read
          obtain ⟨⟨tail, left'⟩, others, read⟩ := exists_of_bind_ok read
          cases read
          obtain ⟨less, skips⟩ := ih others
          obtain ⟨behind, skipped, shorter, same | ⟨low, unit, rfl, second⟩⟩ :=
            skipEscaped_of_escaped escape
          · subst same
            refine ⟨by simp only [List.length_cons]; omega, fun fuel' enough => ?_⟩
            obtain ⟨n, rfl, lasts⟩ := more fuel' enough
            rw [skipString, if_neg quote, if_pos backslash, skipped]
            exact skips n (by omega)
          · -- The second half of a pair takes a step of its own.
            have consumed := length_codeUnit second
            simp only [List.length_cons] at shorter
            refine ⟨by simp only [List.length_cons]; omega, fun fuel' enough => ?_⟩
            obtain ⟨n, rfl, lasts⟩ := more fuel' enough
            obtain ⟨n, rfl⟩ : ∃ m, n = m + 1 := ⟨n - 1, by omega⟩
            rw [skipString, if_neg quote, if_pos backslash, skipped]
            show skipString (n + 1) _ = _
            rw [skipString, if_neg (by decide), if_pos rfl, skipEscaped, second]
            exact skips n (by omega)
        rw [if_neg backslash] at read
        split at read
        · cases read
        · next control =>
          obtain ⟨⟨tail, left⟩, others, read⟩ := exists_of_bind_ok read
          cases read
          obtain ⟨less, skips⟩ := ih others
          refine ⟨less.trans (Nat.le_succ _), fun fuel' enough => ?_⟩
          obtain ⟨n, rfl, lasts⟩ := more fuel' enough
          rw [skipString, if_neg quote, if_neg backslash, if_neg control]
          exact skips n lasts

private theorem passes_string (s : List Symbol) : Passes string (skipString (s.length + 1)) s := by
  intro text rest read
  obtain ⟨⟨contents, left⟩, inside, read⟩ := exists_of_bind_ok read
  obtain ⟨less, skips⟩ := skipString_of_contents inside
  simp only at read
  split at read
  · cases read
    exact ⟨less, skips _ (Nat.lt_succ_self _)⟩
  · cases read

private theorem length_colon_le {s rest : List Symbol} (read : colon s = .ok rest) :
    rest.length ≤ s.length := by
  have shorter := length_skipSpaces_le s
  rw [colon] at read
  split at read
  · cases read
  · next same =>
    cases read
    rw [same] at shorter
    exact (Nat.le_succ _).trans shorter
  · cases read

theorem skipSpaces_of_close {first : Bool} {s rest : List Symbol}
    (next : nextElement first s = .ok (.close rest)) : skipSpaces s = .char ']' :: rest := by
  unfold nextElement at next
  split at next
  · cases next
  · next same =>
    cases next
    exact same
  · split at next
    · cases next
    · split at next <;> cases next
  · split at next <;> cases next

private theorem skipToElement_of_item {first : Bool} {s t : List Symbol}
    (next : nextElement first s = .ok (.item t)) :
    ∃ u, skipToElement first s = .ok (.item u) ∧ t = skipSpaces u ∧ u.length ≤ s.length := by
  have shorter := length_skipSpaces_le s
  have again := skipSpaces_skipSpaces s
  unfold nextElement at next
  split at next
  · cases next
  · cases next
  · next u same =>
    rw [same, List.length_cons] at shorter
    rw [same] at again
    cases first with
    | true =>
      cases next
      exact ⟨_, by rw [skipToElement, same]; rfl, again.symm, shorter⟩
    | false =>
      refine ⟨u, by rw [skipToElement, same]; rfl, ?_, by omega⟩
      simp only [Bool.false_eq_true, if_false] at next
      split at next
      · cases next
      · cases next
      · cases next
        rfl
  · next empty closed comma =>
    split at next
    · next isFirst =>
      cases next
      refine ⟨_, ?_, again.symm, shorter⟩
      unfold skipToElement
      split
      · next same => exact (empty same).elim
      · next same => exact (closed _ same).elim
      · next same => exact (comma _ same).elim
      · rw [if_pos isFirst]
    · cases next

theorem skipSpaces_of_closeKey {first : Bool} {s rest : List Symbol}
    (next : nextKey first s = .ok (.close rest)) : skipSpaces s = .char '}' :: rest := by
  unfold nextKey at next
  split at next
  · cases next
  · next same =>
    cases next
    exact same
  · split at next
    · cases next
    · split at next <;> cases next
  · split at next <;> cases next
  · split at next <;> cases next

theorem skipSpaces_of_key {first : Bool} {s t : List Symbol}
    (next : nextKey first s = .ok (.item t)) :
    (first = true ∧ skipSpaces s = .char '"' :: t) ∨
      (first = false ∧ ∃ u, skipSpaces s = .char ',' :: u ∧ skipSpaces u = .char '"' :: t) := by
  unfold nextKey at next
  split at next
  · cases next
  · cases next
  · next u same =>
    split at next
    · cases next
    · next further =>
      split at next
      · cases next
      · next quoted =>
        cases next
        exact .inr ⟨by simpa using further, u, same, quoted⟩
      · cases next
      · cases next
  · next u same =>
    split at next
    · next isFirst =>
      cases next
      exact .inl ⟨isFirst, same⟩
    · cases next
  · split at next <;> cases next

private theorem skipToKey_of_item {first : Bool} {s t : List Symbol}
    (next : nextKey first s = .ok (.item t)) :
    skipToKey first s = .ok (.item t) ∧ t.length ≤ s.length := by
  have shorter := length_skipSpaces_le s
  have again := skipSpaces_skipSpaces s
  rcases skipSpaces_of_key next with ⟨rfl, quoted⟩ | ⟨rfl, u, comma, quoted⟩
  · rw [quoted] at again shorter
    rw [List.length_cons] at shorter
    refine ⟨?_, by omega⟩
    simp [skipToKey, quoted, again]
  · have behind := length_skipSpaces_le u
    rw [quoted, List.length_cons] at behind
    rw [comma, List.length_cons] at shorter
    refine ⟨?_, by omega⟩
    simp only [skipToKey, comma, quoted, Bool.false_eq_true, if_false]

section Parts

variable {inner : Reader Json} {skip : Skipper} {bound : Nat}

private theorem passes_elements (spaces : ∀ s, skip (skipSpaces s) = skip s)
    (passes : ∀ s : List Symbol, s.length ≤ bound → Passes inner skip s) (fuel : Nat) (first : Bool)
    {s : List Symbol} (short : s.length ≤ bound) :
    Passes (elements inner fuel first) (skipElements skip fuel first) s := by
  induction fuel generalizing first s with
  | zero => nofun
  | succ fuel ih =>
    intro items rest read
    rw [elements] at read
    obtain ⟨step, next, read⟩ := exists_of_bind_ok read
    cases step with
    | close left =>
      cases read
      have closed := skipSpaces_of_close next
      have shorter := length_skipSpaces_le s
      rw [closed, List.length_cons] at shorter
      refine ⟨by omega, ?_⟩
      rw [skipElements, skipToElement, closed]
      rfl
    | item t =>
      obtain ⟨⟨v, behind⟩, one, read⟩ := exists_of_bind_ok read
      obtain ⟨⟨vs, left⟩, others, read⟩ := exists_of_bind_ok read
      cases read
      obtain ⟨u, skipped, rfl, shorter⟩ := skipToElement_of_item next
      have spaced := length_skipSpaces_le u
      obtain ⟨less, passed⟩ := passes _ (by omega) v behind one
      obtain ⟨less', passed'⟩ := ih false (by omega) vs rest others
      refine ⟨by omega, ?_⟩
      rw [skipElements, skipped]
      show (skip u >>= _) = _
      rw [← spaces, passed]
      exact passed'

private theorem passes_members (passes : ∀ s : List Symbol, s.length ≤ bound → Passes inner skip s)
    (fuel : Nat) (first : Bool) {s : List Symbol} (short : s.length ≤ bound) :
    Passes (members inner fuel first) (skipMembers skip fuel first) s := by
  induction fuel generalizing first s with
  | zero => nofun
  | succ fuel ih =>
    intro items rest read
    rw [members] at read
    obtain ⟨step, next, read⟩ := exists_of_bind_ok read
    cases step with
    | close left =>
      cases read
      have closed := skipSpaces_of_closeKey next
      have shorter := length_skipSpaces_le s
      rw [closed, List.length_cons] at shorter
      refine ⟨by omega, ?_⟩
      rw [skipMembers, skipToKey, closed]
      rfl
    | item t =>
      obtain ⟨⟨key, u⟩, named, read⟩ := exists_of_bind_ok read
      obtain ⟨w, separated, read⟩ := exists_of_bind_ok read
      obtain ⟨⟨v, behind⟩, one, read⟩ := exists_of_bind_ok read
      obtain ⟨⟨vs, left⟩, others, read⟩ := exists_of_bind_ok read
      cases read
      obtain ⟨skipped, shorter⟩ := skipToKey_of_item next
      obtain ⟨less, passedName⟩ := passes_string t key u named
      have lessColon := length_colon_le separated
      obtain ⟨less', passed⟩ := passes w (by omega) v behind one
      obtain ⟨less'', passed'⟩ := ih false (by omega) vs rest others
      refine ⟨by omega, ?_⟩
      rw [skipMembers, skipped]
      show (skipString _ t >>= _) = _
      rw [passedName]
      show (colon u >>= _) = _
      rw [separated]
      show (skip w >>= _) = _
      rw [passed]
      exact passed'

end Parts

private theorem skipValue_skipSpaces (fuel : Nat) (s : List Symbol) :
    skipValue fuel (skipSpaces s) = skipValue fuel s := by
  cases fuel with
  | zero => rfl
  | succ fuel => rw [skipValue, skipValue, skipSpaces_skipSpaces]

private theorem skipValue_digit (fuel : Nat) {s t : List Symbol} {x : Symbol}
    (starts : skipSpaces s = x :: t) (digit : isDigit x) :
    skipValue (fuel + 1) s = skipNumber (x :: t) := by
  have other : ∀ {c : Char} {behind : List Symbol}, ¬ isDigit (.char c) →
      x :: t ≠ .char c :: behind := by
    rintro c behind undigit same
    rw [(List.cons.inj same).1] at digit
    exact undigit digit
  rw [skipValue, starts]
  split
  · next same => cases same
  · next same => exact (other (by decide) same).elim
  · next same => exact (other (by decide) same).elim
  · next same => exact (other (by decide) same).elim
  · next same => exact (other (by decide) same).elim
  · next same => exact (other (by decide) same).elim
  · next same => exact (other (by decide) same).elim
  · next same => exact (other (by decide) same).elim
  · next same =>
    obtain ⟨rfl, rfl⟩ := List.cons.inj same
    rw [if_pos digit]

/-- How a value stands in a text, by the symbol that it begins with. -/
inductive Opens (depth : Nat) (s : List Symbol) : Json → List Symbol → Prop
  | null {t rest : List Symbol} (starts : skipSpaces s = .char 'n' :: t)
      (word : finishWord ['u', 'l', 'l'] t = .ok rest) : Opens depth s .null rest
  | true {t rest : List Symbol} (starts : skipSpaces s = .char 't' :: t)
      (word : finishWord ['r', 'u', 'e'] t = .ok rest) : Opens depth s (.bool true) rest
  | false {t rest : List Symbol} (starts : skipSpaces s = .char 'f' :: t)
      (word : finishWord ['a', 'l', 's', 'e'] t = .ok rest) : Opens depth s (.bool false) rest
  | negative {t rest : List Symbol} {n : Number} (starts : skipSpaces s = .char '-' :: t)
      (numeral : number true t = .ok (n, rest)) : Opens depth s (.number n) rest
  | natural {x : Symbol} {t rest : List Symbol} {n : Number} (starts : skipSpaces s = x :: t)
      (digit : isDigit x) (numeral : number false (x :: t) = .ok (n, rest)) :
      Opens depth s (.number n) rest
  | string {t rest : List Symbol} {text : String} (starts : skipSpaces s = .char '"' :: t)
      (inside : Read.string t = .ok (text, rest)) : Opens depth s (.string text) rest
  | array {inner : Nat} {t rest : List Symbol} {items : List Json} (deeper : depth = inner + 1)
      (starts : skipSpaces s = .char '[' :: t)
      (inside : elements (value inner) (t.length + 1) Bool.true t = .ok (items, rest)) :
      Opens depth s (.array items) rest
  | object {inner : Nat} {t rest : List Symbol} {items : List (String × Json)}
      (deeper : depth = inner + 1) (starts : skipSpaces s = .char '{' :: t)
      (inside : members (value inner) (t.length + 1) Bool.true t = .ok (items, rest)) :
      Opens depth s (.object items) rest

theorem exists_valueWith (depth : Nat) (s : List Symbol) :
    ∃ inner, (∀ item, inner = some item → ∃ below, depth = below + 1 ∧ item = value below) ∧
      value depth s = valueWith inner s := by
  cases depth with
  | zero => exact ⟨none, nofun, rfl⟩
  | succ below =>
    refine ⟨some (value below), ?_, rfl⟩
    rintro _ ⟨⟩
    exact ⟨below, rfl, rfl⟩

theorem opens_of_value {depth : Nat} {s rest : List Symbol} {v : Json}
    (read : value depth s = .ok (v, rest)) : Opens depth s v rest := by
  obtain ⟨inner, parts, same⟩ := exists_valueWith depth s
  rw [same, valueWith] at read
  split at read
  · cases read
  · next starts =>
    obtain ⟨left, word, read⟩ := exists_of_bind_ok read
    cases read
    exact .null starts word
  · next starts =>
    obtain ⟨left, word, read⟩ := exists_of_bind_ok read
    cases read
    exact .true starts word
  · next starts =>
    obtain ⟨left, word, read⟩ := exists_of_bind_ok read
    cases read
    exact .false starts word
  · next starts =>
    obtain ⟨⟨n, left⟩, numeral, read⟩ := exists_of_bind_ok read
    cases read
    exact .negative starts numeral
  · next starts =>
    obtain ⟨⟨text, left⟩, inside, read⟩ := exists_of_bind_ok read
    cases read
    exact .string starts inside
  · next starts =>
    split at read
    · cases read
    · next item =>
      obtain ⟨below, deeper, rfl⟩ := parts item rfl
      obtain ⟨⟨items, left⟩, inside, read⟩ := exists_of_bind_ok read
      cases read
      exact .array deeper starts inside
  · next starts =>
    split at read
    · cases read
    · next item =>
      obtain ⟨below, deeper, rfl⟩ := parts item rfl
      obtain ⟨⟨items, left⟩, inside, read⟩ := exists_of_bind_ok read
      cases read
      exact .object deeper starts inside
  · next x t _ _ _ _ _ _ _ starts =>
    split at read
    · next digit =>
      obtain ⟨⟨n, left⟩, numeral, read⟩ := exists_of_bind_ok read
      cases read
      exact .natural starts digit numeral
    · cases read

/-- Every value that is read is passed over, with a unit of fuel for each symbol and one more. -/
private theorem passes_value (depth fuel : Nat) {s : List Symbol} (lasts : s.length < fuel) :
    Passes (value depth) (skipValue fuel) s := by
  induction depth using Nat.strong_induction_on generalizing fuel s with
  | _ depth ih =>
    intro v rest read
    obtain ⟨fuel, rfl⟩ : ∃ n, fuel = n + 1 := ⟨fuel - 1, by omega⟩
    have shorter := length_skipSpaces_le s
    cases opens_of_value read with
    | null starts word | true starts word | false starts word =>
      rw [starts, List.length_cons] at shorter
      rw [skipValue, starts]
      have less := length_finishWord_le word
      exact ⟨by omega, word⟩
    | negative starts numeral =>
      rw [starts, List.length_cons] at shorter
      rw [skipValue, starts]
      obtain ⟨less, passed⟩ := passes_number _ _ _ _ numeral
      exact ⟨by omega, passed⟩
    | natural starts digit numeral =>
      rw [starts] at shorter
      rw [skipValue_digit fuel starts digit]
      obtain ⟨less, passed⟩ := passes_number _ _ _ _ numeral
      exact ⟨by omega, passed⟩
    | string starts inside =>
      rw [starts, List.length_cons] at shorter
      rw [skipValue, starts]
      obtain ⟨less, passed⟩ := passes_string _ _ _ inside
      exact ⟨by omega, passed⟩
    | @array below t rest items deeper starts inside =>
      rw [starts, List.length_cons] at shorter
      rw [skipValue, starts]
      obtain ⟨less, passed⟩ := passes_elements (skipValue_skipSpaces fuel)
        (fun s short => ih below (by omega) fuel (s := s) (by omega)) _ _ (Nat.le_refl t.length)
          _ _ inside
      exact ⟨by omega, passed⟩
    | @object below t rest items deeper starts inside =>
      rw [starts, List.length_cons] at shorter
      rw [skipValue, starts]
      obtain ⟨less, passed⟩ := passes_members
        (fun s short => ih below (by omega) fuel (s := s) (by omega)) _ _ (Nat.le_refl t.length)
          _ _ inside
      exact ⟨by omega, passed⟩

/-- A value that can be read can be passed over, and the text goes on in the same place. -/
theorem ignored_of_value {depth : Nat} {s rest : List Symbol} {v : Json}
    (read : value depth s = .ok (v, rest)) : ignored s = .ok rest :=
  (passes_value depth (s.length + 1) (Nat.lt_succ_self _) v rest read).2

end ShowRemote.Json.Read
