import ShowRemote.Proofs.Json.Literal
import ShowRemote.Proofs.Show.Number
import ShowRemote.Proofs.Text.Blank
import ShowRemote.Show.Cast

/-!
Shows that are numbers, in every spelling. An integer names the same show as a string and as a
number, whichever of the three ways it is held: a cast from a double lands at the end of the range
of 64 bits and not among the show numbers (`castNumber?_eq`). A number that is held as a double
names a show by its value; the text of that show has a point or a power of ten and is not read as a
number again.

Main statement: `numbers_name_shows_in_every_spelling`.
-/

set_option autoImplicit false

namespace ShowRemote

namespace Json

private theorem isDigit_or_minus_writeInt (n : Int) : ∀ c ∈ writeInt n, c.isDigit ∨ c = '-' := by
  intro c mem
  rw [writeInt_eq, List.mem_append] at mem
  rcases mem with sign | digit
  · split at sign
    · exact .inr (List.mem_singleton.mp sign)
    · cases sign
  · exact .inl (Read.isDigit_toDigits _ c digit)

private theorem denotes_writeInt (n : Int) : Text.Denotes (writeInt n) n := by
  have digits : Text.IsDigits (Nat.toDigits 10 n.natAbs) :=
    ⟨Nat.toDigits_ne_nil, Read.isDigit_toDigits _⟩
  have value := Nat.ofDigitChars_ten_toDigits (n := n.natAbs)
  rw [writeInt_eq]
  by_cases negative : n < 0
  · rw [if_pos negative, List.singleton_append]
    have denotes := Text.Denotes.minus digits
    rwa [value, show -(n.natAbs : Int) = n by omega] at denotes
  · rw [if_neg negative, List.nil_append]
    have denotes := Text.Denotes.plain digits
    rwa [value, show (n.natAbs : Int) = n by omega] at denotes

private theorem isBlank_of_isDigit_or_sign {c : Char} (numeral : c.isDigit ∨ c = '-') :
    Text.isBlank c = false := by
  rcases numeral with digit | rfl
  · obtain ⟨least, greatest⟩ := Read.toNat_of_isDigit digit
    simp only [Text.isBlank, Unicode.isIn, Text.blankRanges, List.any_cons, List.any_nil,
      Bool.or_eq_false_iff, Bool.and_eq_false_iff, decide_eq_false_iff_not, not_le, and_true]
    omega
  · rfl

end Json

namespace Decimal

private theorem Layout.exists_mark (layout : Layout) (s : Scientific) :
    ∃ c ∈ layout.write s, c = '.' ∨ c = layout.mark := by
  unfold Layout.write
  simp only
  split
  · exact ⟨'.', by simp, .inl rfl⟩
  · split
    · split
      · exact ⟨'.', by simp, .inl rfl⟩
      · split
        · exact ⟨'.', by simp, .inl rfl⟩
        · exact ⟨'.', by simp, .inl rfl⟩
    · split
      · next empty => exact (Nat.toDigits_ne_nil empty).elim
      · exact ⟨layout.mark, by simp, .inr rfl⟩
      · exact ⟨'.', by simp, .inl rfl⟩

end Decimal

namespace Show

open Decimal (Binary64)
open Text (IntegerRange)

theorem ShowNumber.parse?_writeInt (n : Int) :
    parse? (String.ofList (Json.writeInt n)) = ofInt? n := by
  have plain : Text.trimBlanks (Json.writeInt n) = Json.writeInt n :=
    Text.trimEnds_eq_self fun c mem =>
      Json.isBlank_of_isDigit_or_sign (Json.isDigit_or_minus_writeInt n c mem)
  refine Option.ext fun number => ?_
  rw [parse?_eq_some_iff, ofInt?_eq_some_iff, String.toList_ofList, plain]
  constructor
  · exact (Json.denotes_writeInt n).unique
  · rintro rfl
    exact Json.denotes_writeInt _

private theorem ShowNumber.parse?_double (negative : Bool) (magnitude : Binary64) :
    parse? (Json.Number.double negative magnitude).text = none := by
  cases parsed : parse? (Json.Number.double negative magnitude).text with
  | none => rfl
  | some number =>
    have denotes := (parse?_eq_some_iff _ number).mp parsed
    rw [Json.Number.text, String.toList_ofList] at denotes
    obtain ⟨c, mem, mark⟩ := Decimal.Layout.json.exists_mark (Decimal.shortest magnitude)
    have written : c ∈ (Json.Number.double negative magnitude).write :=
      List.mem_append_right _ mem
    have unblank : Text.isBlank c = false := by
      rcases mark with rfl | rfl <;> rfl
    have trimmed := denotes.isDigit_or_sign c (Text.mem_trimEnds unblank written)
    rcases mark with rfl | rfl <;> exact absurd trimmed (by decide)

theorem ofInt?_of_outside {n : Int} (outside : ¬ (0 ≤ n ∧ n ≤ greatestNumber)) :
    ShowNumber.ofInt? n = none :=
  dif_neg outside

/-- A cast neither leads among the show numbers nor away from them. -/
private theorem ofInt?_saturate (n : Int) :
    ShowNumber.ofInt? (saturate .signed64 n) = ShowNumber.ofInt? n := by
  refine Option.ext fun number => ?_
  have le := number.value_le
  unfold greatestNumber at le
  rw [ShowNumber.ofInt?_eq_some_iff, ShowNumber.ofInt?_eq_some_iff]
  simp only [saturate, IntegerRange.signed64]
  omega

/-- By way of machine numbers, a number is the same show number as by its value. -/
theorem castNumber?_eq (number : Json.Number) : castNumber? number = showNumber? number := by
  cases number with
  | double negative magnitude =>
    simp only [castNumber?, signed?, double?, showNumber?, ofInt?_saturate]
    cases magnitude.toNat? <;> rfl
  | integer n =>
    by_cases inside : IntegerRange.signed64.least ≤ n ∧ n ≤ IntegerRange.signed64.greatest
    · rw [castNumber?, signed?, if_pos inside]
      rfl
    · have far : 2 ^ 63 ≤ n.natAbs := by
        simp only [IntegerRange.signed64] at inside
        omega
      have none_ofInt : ShowNumber.ofInt? n = none := by
        refine ofInt?_of_outside ?_
        unfold greatestNumber
        omega
      simp only [castNumber?, signed?, if_neg inside, double?, showNumber?, none_ofInt]
      cases rounded : Binary64.ofNat? n.natAbs with
      | none => rfl
      | some magnitude =>
        cases whole : magnitude.toNat? with
        | none => simp only [Option.map_some, whole]
        | some k =>
          -- Rounding leaves so much of it that the cast ends far from the show numbers.
          have value := (magnitude.toNat?_eq_some_iff k).mp whole
          have bound := Binary64.le_of_ofNat? rounded
          rw [value] at bound
          have large : n.natAbs ≤ 4 * k := by exact_mod_cast bound
          simp only [Option.map_some, whole, ofInt?_saturate]
          refine ofInt?_of_outside ?_
          unfold greatestNumber
          split <;> omega

private theorem ShowId.cast?_eq (document : Json) :
    ShowId.cast? document = ShowId.ofJson? document := by
  cases document with
  | string text =>
    rw [cast?, ofJson?, number?]
    cases ShowNumber.parse? text <;> rfl
  | number n =>
    rw [cast?, ofJson?, castNumber?_eq]
    cases showNumber? n <;> rfl
  | null | bool | array | object => rfl

/-- The identifier with the decimal text of an integer, if the integer is a show number. -/
def idOfInt? (n : Int) : Option ShowId :=
  if 0 ≤ n ∧ n ≤ 99 then some ⟨String.ofList (Json.writeInt n)⟩ else none

private theorem map_ofInt? (n : Int) :
    ((ShowNumber.ofInt? n).map fun _ => (⟨String.ofList (Json.writeInt n)⟩ : ShowId)) =
      idOfInt? n := by
  unfold idOfInt?
  by_cases inside : 0 ≤ n ∧ n ≤ 99
  · have isSome := (ShowNumber.isSome_ofInt? n).mpr inside
    obtain ⟨number, read⟩ := Option.isSome_iff_exists.mp isSome
    rw [if_pos inside, read]
    rfl
  · rw [if_neg inside, ofInt?_of_outside inside]
    rfl

private theorem ShowId.cast?_string (n : Int) :
    cast? (.string (String.ofList (Json.writeInt n))) = idOfInt? n := by
  rw [cast?, number?, ShowNumber.parse?_writeInt, map_ofInt?]

private theorem ShowId.cast?_of_heldAs {n : Int} {held : Json.Number}
    (heldAs : Json.HeldAs n held) :
    cast? (.number held) = idOfInt? n := by
  rw [cast?, castNumber?_eq]
  cases heldAs with
  | integer inside => exact map_ofInt? n
  | @double outside magnitude large =>
    have far : ¬ (0 ≤ n ∧ n ≤ greatestNumber) := by
      unfold Json.InReach at outside
      unfold greatestNumber
      omega
    rw [← map_ofInt?, ofInt?_of_outside far]
    cases named : showNumber? (.double (decide (n < 0)) magnitude) with
    | none => rfl
    | some number =>
      -- The magnitude of a show number is small.
      have value := (showNumber?_eq_some_iff _ number).mp named
      have le : (number.value : ℚ) ≤ 99 := by exact_mod_cast number.value_le
      have nonneg : (0 : ℚ) ≤ number.value := Nat.cast_nonneg _
      rw [Json.Number.value] at value
      split at value <;> linarith

private theorem ShowId.cast?_double_eq_some_iff (negative : Bool) (magnitude : Binary64)
    (id : ShowId) :
    cast? (.number (.double negative magnitude)) = some id ↔
      id.text = (Json.Number.double negative magnitude).text ∧
        ∃ k : Nat, k ≤ 99 ∧ (Json.Number.double negative magnitude).value = k := by
  rw [cast?_eq, ofJson?_eq_some_iff]
  constructor
  · rintro (⟨string, -⟩ | ⟨_, ⟨⟩, text, number, value⟩)
    · cases string
    · exact ⟨text, number.value, number.value_le, value⟩
  · rintro ⟨text, k, le, value⟩
    exact .inr ⟨_, rfl, text, ⟨k, le⟩, value⟩

/-- What values name shows, and what can be read of a show that is named. -/
structure NamesShows : Prop where
  /-- Statuses are decoded in this way. -/
  cast : ∀ document, ShowId.cast? document = ShowId.ofJson? document
  string : ∀ n : Int, ShowId.cast? (.string (String.ofList (Json.writeInt n))) = idOfInt? n
  literal : ∀ (n : Int) (document : Json),
    Json.parse ((Json.writeInt n).map .char) = .ok document →
      ShowId.cast? document = idOfInt? n
  /-- Literals of 64 bits are read as integers. -/
  near : ∀ n : Int, Json.InReach n →
    Json.parse ((Json.writeInt n).map .char) = .ok (.number (.integer n))
  /-- Others are read as doubles, if they are read. -/
  far : ∀ (n : Int) (document : Json), ¬ Json.InReach n →
    Json.parse ((Json.writeInt n).map .char) = .ok document →
      ∃ magnitude, document = .number (.double (decide (n < 0)) magnitude)
  double : ∀ (negative : Bool) (magnitude : Binary64) (id : ShowId),
    ShowId.cast? (.number (.double negative magnitude)) = some id ↔
      id.text = (Json.Number.double negative magnitude).text ∧
        ∃ k : Nat, k ≤ 99 ∧ (Json.Number.double negative magnitude).value = k
  other : ∀ document : Json, (∀ s, document ≠ .string s) → (∀ n, document ≠ .number n) →
    ShowId.cast? document = none
  read : ∀ (document : Json) (id : ShowId), ShowId.cast? document = some id →
    (∀ negative magnitude, document ≠ .number (.double negative magnitude)) →
      ∃ number, id.number? = some number ∧ number.value ≤ 99
  unread : ∀ (negative : Bool) (magnitude : Binary64) (id : ShowId),
    ShowId.cast? (.number (.double negative magnitude)) = some id → id.number? = none

/-- An integer names the same show in every spelling, and only a show number does. -/
theorem numbers_name_shows_in_every_spelling : NamesShows where
  cast := ShowId.cast?_eq
  string := ShowId.cast?_string
  literal n document parsed := by
    obtain ⟨held, rfl, heldAs⟩ := Json.heldAs_of_parse parsed
    exact ShowId.cast?_of_heldAs heldAs
  near _ := Json.parse_writeInt
  far n document outside parsed := by
    obtain ⟨held, rfl, heldAs⟩ := Json.heldAs_of_parse parsed
    cases heldAs with
    | integer inside => exact (outside inside).elim
    | double _ _ => exact ⟨_, rfl⟩
  double := ShowId.cast?_double_eq_some_iff
  other document string number := by
    cases document with
    | string s => exact (string s rfl).elim
    | number n => exact (number n rfl).elim
    | null | bool | array | object => rfl
  read document id named whole := by
    cases document with
    | string text =>
      obtain ⟨number, parsed, rfl⟩ := Option.map_eq_some_iff.mp named
      exact ⟨number, parsed, number.value_le⟩
    | number held =>
      cases held with
      | double negative magnitude => exact (whole negative magnitude rfl).elim
      | integer n =>
        obtain ⟨number, cast, rfl⟩ := Option.map_eq_some_iff.mp named
        rw [castNumber?_eq] at cast
        have parsed := ShowNumber.parse?_writeInt n
        exact ⟨number, parsed.trans cast, number.value_le⟩
    | null | bool | array | object => cases named
  unread negative magnitude id named := by
    obtain ⟨number, -, rfl⟩ := Option.map_eq_some_iff.mp named
    exact ShowNumber.parse?_double negative magnitude

/-- Doubles name shows as they are printed, not as they were written. -/
example :
    (Json.parse ("-0".toList.map .char)).toOption.bind ShowId.cast? = some ⟨"-0.0"⟩ ∧
      (Json.parse ("30e-1".toList.map .char)).toOption.bind ShowId.cast? = some ⟨"3.0"⟩ := by
  decide +kernel

end Show
end ShowRemote
