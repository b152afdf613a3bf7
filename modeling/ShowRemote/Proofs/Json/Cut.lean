import ShowRemote.Proofs.Json.Ignored

/-!
What a reader of numbers takes off the front of a text. It is characters, and the reader takes them
alike when nothing follows them (`Cuts`): the digits that are gathered, those that no longer fit,
and a fraction and an exponent behind them.

Main statement: `cuts_number`.
-/

set_option autoImplicit false

namespace ShowRemote.Json.Read

open Text (Symbol)

private theorem exists_map_char {s : List Symbol} (chars : ∀ x ∈ s, ∃ c, x = .char c) :
    ∃ front : List Char, s = front.map .char := by
  induction s with
  | nil => exact ⟨[], rfl⟩
  | cons x s ih =>
    obtain ⟨⟨c, rfl⟩, others⟩ := List.forall_mem_cons.mp chars
    obtain ⟨front, rfl⟩ := ih others
    exact ⟨c :: front, rfl⟩

def Cuts {α : Type} (reader : Reader α) : Prop :=
  ∀ ⦃s : List Symbol⦄ ⦃a : α⦄ ⦃rest : List Symbol⦄, reader s = .ok (a, rest) →
    ∃ front : List Char, s = front.map .char ++ rest ∧
      reader (front.map .char) = .ok (a, [])

private theorem exists_char_of_digit? {x : Symbol} {d : Nat} (digit : digit? x = some d) :
    ∃ c, x = .char c := by
  cases x with
  | char c => exact ⟨c, rfl⟩
  | stray b => cases digit

private theorem gatherDigits_cut (total : Nat) (s : List Symbol) :
    ∃ taken : List Char, s = taken.map .char ++ (gatherDigits total s).2 ∧
      ∀ q, q <+: (gatherDigits total s).2 →
        gatherDigits total (taken.map .char ++ q) = ((gatherDigits total s).1, q) := by
  induction s generalizing total with
  | nil =>
    refine ⟨[], rfl, fun q short => ?_⟩
    rw [List.prefix_nil.mp short]
    rfl
  | cons x s ih =>
    -- Where nothing is taken, what is left is a front of the same text.
    have stops : (∀ q, q <+: x :: s → gatherDigits total q = (total, q)) →
        gatherDigits total (x :: s) = (total, x :: s) →
        ∃ taken : List Char, x :: s = taken.map .char ++ (gatherDigits total (x :: s)).2 ∧
          ∀ q, q <+: (gatherDigits total (x :: s)).2 →
            gatherDigits total (taken.map .char ++ q) =
              ((gatherDigits total (x :: s)).1, q) := by
      intro fronts here
      rw [here]
      exact ⟨[], rfl, fronts⟩
    cases digit : digit? x with
    | none =>
      refine stops (fun q short => ?_) (by simp only [gatherDigits, digit])
      rcases List.prefix_cons_iff.mp short with rfl | ⟨t, rfl, -⟩
      · rfl
      · simp only [gatherDigits, digit]
    | some d =>
      by_cases fits : total * 10 + d ≤ greatestSignificand
      · obtain ⟨c, rfl⟩ := exists_char_of_digit? digit
        obtain ⟨taken, same, alike⟩ := ih (total * 10 + d)
        have here : gatherDigits total (.char c :: s) = gatherDigits (total * 10 + d) s := by
          simp only [gatherDigits, digit, if_pos fits]
        refine ⟨c :: taken, ?_, fun q short => ?_⟩
        · rw [here, List.map_cons, List.cons_append, ← same]
        · rw [here] at short ⊢
          rw [← alike q short, List.map_cons, List.cons_append]
          simp only [gatherDigits, digit, if_pos fits]
      · refine stops (fun q short => ?_) (by simp only [gatherDigits, digit, if_neg fits])
        rcases List.prefix_cons_iff.mp short with rfl | ⟨t, rfl, -⟩
        · rfl
        · simp only [gatherDigits, digit, if_neg fits]

private theorem exists_takeWhile_isDigit (s : List Symbol) :
    ∃ digits : List Char, s.takeWhile isDigit = digits.map .char := by
  refine exists_map_char fun x mem => ?_
  obtain ⟨c, rfl, -⟩ := exists_char_of_isDigit (List.mem_takeWhile_imp mem)
  exact ⟨c, rfl⟩

private theorem takeWhile_dropWhile_isDigit {s t q : List Symbol}
    (short : q <+: s.dropWhile isDigit) (same : t = s.takeWhile isDigit ++ q) :
    t.takeWhile isDigit = s.takeWhile isDigit ∧ t.dropWhile isDigit = q := by
  have all : ∀ x ∈ s.takeWhile isDigit, isDigit x := fun x mem => List.mem_takeWhile_imp mem
  have other : q.takeWhile isDigit = [] ∧ q.dropWhile isDigit = q := by
    cases q with
    | nil => exact ⟨rfl, rfl⟩
    | cons x q =>
      have head : (s.dropWhile isDigit).head? = some x := by
        obtain ⟨t, same⟩ := short
        rw [← same]
        rfl
      have undigit : ¬ isDigit x := by
        have none := List.head?_dropWhile_not isDigit s
        rw [head] at none
        simpa using none
      exact ⟨List.takeWhile_cons_of_neg undigit, List.dropWhile_cons_of_neg undigit⟩
  rw [same, List.takeWhile_append_of_pos all, List.dropWhile_append_of_pos all, other.1, other.2,
    List.append_nil]
  exact ⟨rfl, rfl⟩

/-- Characters whose digits are gathered as those of a longer text are. -/
structure GathersAlike (total : Nat) (s : List Symbol) (tail : List Char) (rest : List Symbol)
    (front : List Char) : Prop where
  whole : s = front.map .char ++ rest
  gathered : (gatherDigits total (front.map .char)).1 = (gatherDigits total s).1
  excess : (gatherDigits total (front.map .char)).2.takeWhile isDigit =
    (gatherDigits total s).2.takeWhile isDigit
  behind : (gatherDigits total (front.map .char)).2.dropWhile isDigit = tail.map .char
  taken : front.length - (gatherDigits total (front.map .char)).2.length =
    s.length - (gatherDigits total s).2.length

private theorem exists_gathersAlike {total : Nat} {s rest : List Symbol} {tail : List Char}
    (split : (gatherDigits total s).2.dropWhile isDigit = tail.map .char ++ rest) :
    ∃ front, GathersAlike total s tail rest front := by
  obtain ⟨taken, same, alike⟩ := gatherDigits_cut total s
  obtain ⟨skipped, skips⟩ := exists_takeWhile_isDigit (gatherDigits total s).2
  have left : (gatherDigits total s).2 = (skipped ++ tail).map .char ++ rest := by
    rw [List.map_append, List.append_assoc, ← split, ← skips, List.takeWhile_append_dropWhile]
  have again := alike ((skipped ++ tail).map .char) ⟨rest, left.symm⟩
  rw [← List.map_append] at again
  have short : tail.map .char <+: (gatherDigits total s).2.dropWhile isDigit :=
    ⟨rest, split.symm⟩
  obtain ⟨digits, others⟩ := takeWhile_dropWhile_isDigit short
    (t := (skipped ++ tail).map .char) (by rw [List.map_append, skips])
  refine ⟨taken ++ (skipped ++ tail), ?_⟩
  constructor
  case whole => rw [same, left, @List.map_append _ _ Text.Symbol.char taken, List.append_assoc]
  case gathered => rw [again]
  case excess => rw [again, digits]
  case behind => rw [again, others]
  case taken =>
    have lengths := congrArg List.length same
    simp only [again, List.length_append, List.length_map] at lengths ⊢
    omega

private theorem exists_gathersAlike_cons {total : Nat} {x : Symbol} {s rest : List Symbol}
    {tail : List Char} (digit : isDigit x)
    (split : (gatherDigits total (x :: s)).2.dropWhile isDigit = tail.map .char ++ rest) :
    ∃ c front, isDigit (.char c) ∧ GathersAlike total (x :: s) tail rest (c :: front) := by
  obtain ⟨front, gathers⟩ := exists_gathersAlike split
  have whole := gathers.whole
  cases front with
  | nil =>
    rw [dropWhile_gatherDigits, dropWhile_cons_of_digit digit] at split
    have shorter := length_dropWhile_isDigit_le s
    rw [split, ← show x :: s = rest from whole, List.length_append, List.length_cons] at shorter
    omega
  | cons c front =>
    obtain ⟨rfl, -⟩ := List.cons.inj whole
    exact ⟨c, front, digit, gathers⟩

private theorem finishDouble_of_ok {negative : Bool} {significand : Nat} {exponent : Int}
    {n : Number} {s rest : List Symbol}
    (read : finishDouble negative significand exponent s = .ok (n, rest)) (q : List Symbol) :
    finishDouble negative significand exponent q = .ok (n, q) := by
  unfold finishDouble at read ⊢
  split at read
  · cases read
    rfl
  · cases read

private theorem cuts_exponentDigits (strict : Bool) (total : Nat) :
    Cuts (exponentDigits strict total) := by
  intro s power rest read
  induction s generalizing total with
  | nil =>
    cases read
    exact ⟨[], rfl, rfl⟩
  | cons x s ih =>
    rw [exponentDigits] at read
    cases digit : digit? x with
    | none =>
      rw [digit] at read
      cases read
      exact ⟨[], rfl, rfl⟩
    | some d =>
      rw [digit] at read
      simp only at read
      split at read
      · cases read
      · next reach =>
        obtain ⟨c, rfl⟩ := exists_char_of_digit? digit
        obtain ⟨front, rfl, alike⟩ := ih _ read
        refine ⟨c :: front, rfl, ?_⟩
        rw [List.map_cons, exponentDigits, digit]
        simp only [if_neg reach]
        exact alike

section Numbers

variable {negative : Bool} {significand : Nat}

private theorem cut_exponent {exponent : Int} (minus : Bool) {x : Symbol} {n : Number}
    {s rest : List Symbol}
    (read : (if isDigit x then do
        let (power, rest) ← exponentDigits (!minus && significand ≠ 0) 0 (x :: s)
        finishDouble negative significand
          (if minus then exponent - power else exponent + power) rest
      else Fault.next .invalidNumber (x :: s)) = .ok (n, rest)) :
    ∃ (c : Char) (front : List Char), x = .char c ∧ s = front.map .char ++ rest ∧
      (if isDigit (.char c) then do
          let (power, rest) ← exponentDigits (!minus && significand ≠ 0) 0
            (.char c :: front.map .char)
          finishDouble negative significand
            (if minus then exponent - power else exponent + power) rest
        else Fault.next .invalidNumber (.char c :: front.map .char)) = .ok (n, []) := by
  split at read
  · next digit =>
    obtain ⟨⟨power, behind⟩, digits, double⟩ := exists_of_bind_ok read
    obtain rfl := left_finishDouble double
    have shorter := length_dropWhile_isDigit_le s
    have left := left_exponentDigits digits
    rw [dropWhile_cons_of_digit digit] at left
    obtain ⟨front, same, alike⟩ := cuts_exponentDigits _ _ digits
    cases front with
    | nil =>
      -- The first digit is taken.
      have longer := congrArg List.length same
      rw [left, List.map_nil, List.nil_append, List.length_cons] at longer
      omega
    | cons c front =>
      obtain ⟨rfl, rest⟩ := List.cons.inj same
      refine ⟨c, front, rfl, rest, ?_⟩
      rw [if_pos digit]
      rw [List.map_cons] at alike
      rw [alike]
      exact finishDouble_of_ok double []
  · cases read

private theorem cuts_finishExponent (exponent : Int) :
    Cuts (finishExponent negative significand exponent) := by
  intro s n rest read
  cases s with
  | nil => cases read
  | cons x s =>
    by_cases plus : x = .char '+'
    · subst plus
      cases s with
      | nil => cases read
      | cons x s =>
        obtain ⟨c, front, rfl, rfl, alike⟩ := cut_exponent false read
        exact ⟨'+' :: c :: front, rfl, alike⟩
    by_cases minus : x = .char '-'
    · subst minus
      cases s with
      | nil => cases read
      | cons x s =>
        obtain ⟨c, front, rfl, rfl, alike⟩ := cut_exponent true read
        exact ⟨'-' :: c :: front, rfl, alike⟩
    rw [finishExponent_unsigned plus minus] at read
    obtain ⟨c, front, rfl, rfl, alike⟩ := cut_exponent false read
    refine ⟨c :: front, rfl, ?_⟩
    rw [List.map_cons, finishExponent_unsigned plus minus]
    exact alike

def finishBehindFraction (negative : Bool) (significand : Nat) (exponent : Int) : Reader Number :=
  fun s =>
    match s with
    | .char 'e' :: power => finishExponent negative significand exponent power
    | .char 'E' :: power => finishExponent negative significand exponent power
    | behind => finishDouble negative significand exponent behind

private theorem cuts_finishBehindFraction (exponent : Int) :
    Cuts (finishBehindFraction negative significand exponent) := by
  intro s n rest read
  unfold finishBehindFraction at read
  split at read
  · obtain ⟨front, rfl, alike⟩ := cuts_finishExponent _ read
    exact ⟨'e' :: front, rfl, alike⟩
  · obtain ⟨front, rfl, alike⟩ := cuts_finishExponent _ read
    exact ⟨'E' :: front, rfl, alike⟩
  · obtain rfl := left_finishDouble read
    exact ⟨[], rfl, finishDouble_of_ok read []⟩

private theorem finishFraction_digit {exponent : Int} {x : Symbol} (digit : isDigit x)
    (s : List Symbol) :
    finishFraction negative significand exponent (x :: s) =
      finishBehindFraction negative (gatherDigits significand (x :: s)).1
        (exponent - (((x :: s).length - (gatherDigits significand (x :: s)).2.length : Nat) : Int))
        ((gatherDigits significand (x :: s)).2.dropWhile isDigit) := by
  simp only [finishFraction, if_pos digit]
  rfl

private theorem cuts_finishFraction (exponent : Int) :
    Cuts (finishFraction negative significand exponent) := by
  intro s n rest read
  cases s with
  | nil => cases read
  | cons x s =>
    by_cases digit : isDigit x
    · rw [finishFraction_digit digit] at read
      obtain ⟨tail, split, alike⟩ := cuts_finishBehindFraction _ read
      obtain ⟨c, front, digit', gathers⟩ := exists_gathersAlike_cons digit split
      refine ⟨c :: front, gathers.whole, ?_⟩
      have taken := gathers.taken
      rw [← List.length_map (f := Symbol.char)] at taken
      have gathered := gathers.gathered
      have behind := gathers.behind
      rw [List.map_cons] at gathered behind taken ⊢
      rw [finishFraction_digit digit', gathered, behind, taken]
      exact alike
    · rw [finishFraction] at read
      simp only [if_neg digit] at read
      cases read

private theorem cuts_finishNumber (excess : Nat) :
    Cuts (finishNumber negative significand excess) := by
  intro s n rest read
  unfold finishNumber at read
  split at read
  · obtain ⟨front, rfl, alike⟩ := cuts_finishFraction _ read
    exact ⟨'.' :: front, rfl, alike⟩
  · obtain ⟨front, rfl, alike⟩ := cuts_finishExponent _ read
    exact ⟨'e' :: front, rfl, alike⟩
  · obtain ⟨front, rfl, alike⟩ := cuts_finishExponent _ read
    exact ⟨'E' :: front, rfl, alike⟩
  · next point small capital =>
    -- Nothing more is taken, and what it comes to does not depend on the text.
    have nothing : rest = s ∧ finishNumber negative significand excess [] = .ok (n, []) := by
      simp only [finishNumber]
      split at read
      · next more =>
        rw [if_pos more]
        exact ⟨left_finishDouble read, finishDouble_of_ok read []⟩
      · next fits =>
        rw [if_neg fits]
        split at read
        · next positive =>
          cases read
          exact ⟨rfl, by rw [if_pos positive]⟩
        · next minus =>
          rw [if_neg minus]
          split at read
          · next inside =>
            cases read
            exact ⟨rfl, by rw [if_pos inside]⟩
          · next outside =>
            rw [if_neg outside]
            exact ⟨left_finishDouble read, finishDouble_of_ok read []⟩
    obtain ⟨rfl, alike⟩ := nothing
    exact ⟨[], rfl, alike⟩

theorem cuts_number : Cuts (number negative) := by
  intro s n rest read
  cases s with
  | nil => cases read
  | cons x s =>
    simp only [number] at read
    cases digit : digit? x with
    | none =>
      rw [digit] at read
      cases read
    | some d =>
      rw [digit] at read
      obtain ⟨c, rfl⟩ := exists_char_of_digit? digit
      cases d with
      | zero =>
        -- No digit follows a zero, in the text or in the front of it that is taken.
        have finish : finishNumber negative 0 0 s = .ok (n, rest) ∧
            ∀ y ∈ s.head?, ¬ isDigit y := by
          cases s with
          | nil =>
            refine ⟨read, ?_⟩
            rintro y ⟨⟩
          | cons y s =>
            simp only at read
            split at read
            · cases read
            · next undigit =>
              refine ⟨read, ?_⟩
              rintro _ ⟨⟩
              exact undigit
        obtain ⟨finish, undigit⟩ := finish
        obtain ⟨front, rfl, alike⟩ := cuts_finishNumber _ finish
        refine ⟨c :: front, rfl, ?_⟩
        simp only [List.map_cons, number, digit]
        cases front with
        | nil => exact alike
        | cons y front =>
          rw [List.map_cons] at alike ⊢
          simp only [if_neg (undigit _ rfl)]
          exact alike
      | succ d =>
        obtain ⟨tail, split, alike⟩ := cuts_finishNumber _ read
        obtain ⟨front, gathers⟩ := exists_gathersAlike split
        refine ⟨c :: front, congrArg (Symbol.char c :: ·) gathers.whole, ?_⟩
        have gathered := gathers.gathered
        have behind := gathers.behind
        have excess := gathers.excess
        simp only [List.map_cons, number, digit, gathered, behind, excess]
        exact alike

end Numbers

end ShowRemote.Json.Read
