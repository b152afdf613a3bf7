/-!
Finite binary64 magnitudes as exact numbers `significand · 2 ^ scale`, and rounding to the nearest
of them with ties to the even significand. All arithmetic is on natural numbers and exact up to the
one rounding at its end.
-/

set_option autoImplicit false

namespace ShowRemote.Decimal

structure Binary64 where
  significand : Nat
  scale : Int
  deriving DecidableEq, Repr

namespace Binary64

/-- The scale of subnormal numbers, below which no number has a digit. -/
def leastScale : Int := -1074

def greatestScale : Int := 971

def zero : Binary64 := ⟨0, leastScale⟩

/-- The quotient rounded to the nearest natural number, a half to the even neighbour. -/
def roundQuotient (num den : Nat) : Nat :=
  let q := num / den
  let r := num % den
  if 2 * r < den then q
  else if den < 2 * r then q + 1
  else if q % 2 = 0 then q else q + 1

def inUnits (num den : Nat) (scale : Int) : Nat :=
  if 0 ≤ scale then roundQuotient num (den * Nat.pow 2 scale.toNat)
  else roundQuotient (num * Nat.pow 2 (-scale).toNat) den

/-- The scale at which a positive quotient has 53 binary digits, but never below the least one. -/
def scaleFor (num den : Nat) : Int :=
  let guess : Int := (num.log2 : Int) - (den.log2 : Int)
  let reaches : Bool :=
    if 0 ≤ guess then den * Nat.pow 2 guess.toNat ≤ num else den ≤ num * Nat.pow 2 (-guess).toNat
  let top : Int := if reaches then guess else guess - 1
  max (top - 52) leastScale

def ofQuotient? (num den : Nat) : Option Binary64 :=
  if num = 0 then some zero
  else
    let scale := scaleFor num den
    let significand := inUnits num den scale
    let carried := decide (Nat.pow 2 53 ≤ significand)
    let result : Binary64 :=
      if carried then ⟨significand / 2, scale + 1⟩ else ⟨significand, scale⟩
    if greatestScale < result.scale then none else some result

def ofNat? (n : Nat) : Option Binary64 :=
  ofQuotient? n 1

def numerator (x : Binary64) : Nat :=
  if 0 ≤ x.scale then x.significand * Nat.pow 2 x.scale.toNat else x.significand

def denominator (x : Binary64) : Nat :=
  if 0 ≤ x.scale then 1 else Nat.pow 2 (-x.scale).toNat

def mul? (x y : Binary64) : Option Binary64 :=
  ofQuotient? (x.numerator * y.numerator) (x.denominator * y.denominator)

def div? (x y : Binary64) : Option Binary64 :=
  ofQuotient? (x.numerator * y.denominator) (x.denominator * y.numerator)

def toNat? (x : Binary64) : Option Nat :=
  if x.numerator % x.denominator = 0 then some (x.numerator / x.denominator) else none

end Binary64
end ShowRemote.Decimal
