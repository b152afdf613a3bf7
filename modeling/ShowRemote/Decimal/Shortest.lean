import ShowRemote.Decimal.Binary64

/-!
The shortest decimal that reads back as a given binary64 magnitude, and its layout as text.

Of the decimals that round to the magnitude the one with the fewest digits is taken, and of several
with equally many the nearest. Every comparison is exact.
-/

set_option autoImplicit false

namespace ShowRemote.Decimal

structure Scientific where
  digits : Nat
  exponent : Int
  deriving DecidableEq, Repr

/-- The decimals that round to one magnitude lie between `low` and `high`, all three over the common
denominator `unit`. The ends belong to them when the significand is even. -/
structure Neighbourhood where
  low : Nat
  middle : Nat
  high : Nat
  unit : Nat
  closed : Bool

namespace Neighbourhood

def of (x : Binary64) : Neighbourhood :=
  let lift : Nat := Nat.pow 2 (x.scale - 2).toNat
  let below : Nat :=
    if x.significand = Nat.pow 2 52 ∧ Binary64.leastScale < x.scale then 1 else 2
  { low := (4 * x.significand - below) * lift
    middle := 4 * x.significand * lift
    high := (4 * x.significand + 2) * lift
    unit := Nat.pow 2 (2 - x.scale).toNat
    closed := x.significand % 2 = 0 }

/-- Whether `n / d` rounds to the magnitude. -/
def holds (b : Neighbourhood) (n d : Nat) : Bool :=
  if b.closed then b.low * d ≤ n * b.unit && n * b.unit ≤ b.high * d
  else b.low * d < n * b.unit && n * b.unit < b.high * d

/-- The nearer of the two points of the grid of multiples of `10 ^ exponent` around the magnitude,
among those that round to it. An exact tie goes to the even multiple. -/
def onGrid? (b : Neighbourhood) (exponent : Int) : Option Nat :=
  let up : Nat := Nat.pow 10 exponent.toNat
  let down : Nat := Nat.pow 10 (-exponent).toNat
  let step := up * b.unit
  let lower := b.middle * down / step
  let upper := lower + 1
  let room := b.middle * down - lower * step
  let fits (n : Nat) : Bool := b.holds (n * up) down
  match fits lower, fits upper with
  | true, true =>
    if 2 * room < step then some lower
    else if step < 2 * room then some upper
    else some (if lower % 2 = 0 then lower else upper)
  | true, false => some lower
  | false, true => some upper
  | false, false => none

end Neighbourhood

def decimalLength (n : Nat) : Nat :=
  (Nat.toDigits 10 n).length

def leadingExponent (x : Binary64) : Int :=
  let margin : Nat := 400
  (decimalLength (x.numerator * Nat.pow 10 margin / x.denominator) : Int) - 1 - (margin : Int)

def searchGrids (b : Neighbourhood) (leading : Int) : Nat → Nat → Option Scientific
  | 0, _ => none
  | fuel + 1, count =>
    let exponent := leading - (count : Int) + 1
    match b.onGrid? exponent with
    | some digits => some ⟨digits, exponent⟩
    | none => searchGrids b leading fuel (count + 1)

/-- Trailing zeros go into the exponent. -/
def Scientific.normalize : Nat → Scientific → Scientific
  | 0, s => s
  | fuel + 1, s =>
    if s.digits % 10 = 0 ∧ s.digits ≠ 0 then normalize fuel ⟨s.digits / 10, s.exponent + 1⟩ else s

/-- Seventeen digits always suffice. -/
def shortest (x : Binary64) : Scientific :=
  if x.significand = 0 then ⟨0, 0⟩
  else
    let b := Neighbourhood.of x
    match searchGrids b (leadingExponent x) 17 1 with
    | some s => s.normalize 17
    | none => ⟨x.numerator / x.denominator, 0⟩

/-- How a decimal is written: which exponents of the leading digit are written without a power of
ten, and the mark of the power where there is one. -/
structure Layout where
  leastPlain : Int
  greatestPlain : Int
  mark : Char
  plus : Bool

/-- JSON numbers spell powers of ten out from `10 ^ -5` to `10 ^ 15` and always show a fraction
there. -/
def Layout.json : Layout := ⟨-5, 15, 'e', true⟩

def Layout.write (layout : Layout) (s : Scientific) : List Char :=
  let digits := Nat.toDigits 10 s.digits
  let leading : Int := s.exponent + (digits.length : Int) - 1
  if s.digits = 0 then ['0', '.', '0']
  else if layout.leastPlain ≤ leading ∧ leading ≤ layout.greatestPlain then
    if 0 ≤ s.exponent then digits ++ List.replicate s.exponent.toNat '0' ++ ['.', '0']
    else if 0 ≤ leading then
      let whole := (leading + 1).toNat
      digits.take whole ++ '.' :: digits.drop whole
    else '0' :: '.' :: List.replicate (-leading - 1).toNat '0' ++ digits
  else
    let power :=
      if leading < 0 then '-' :: Nat.toDigits 10 (-leading).toNat
      else (if layout.plus then ['+'] else []) ++ Nat.toDigits 10 leading.toNat
    match digits with
    | [] => []
    | [d] => d :: layout.mark :: power
    | d :: rest => d :: '.' :: rest ++ layout.mark :: power

def Binary64.write (x : Binary64) : List Char :=
  Layout.json.write (shortest x)

end ShowRemote.Decimal
