/-!
# Finite binary numbers

`Binary` holds the finite numbers of the 64-bit binary format: a sign and `mantissa · 2 ^ exponent`,
with a mantissa below `2 ^ 53` and an exponent from `-1074` to `971`. `ofRatio?` rounds a quotient
of natural numbers to the nearest of them, the even one of two; products and quotients are exact,
then rounded the same way.

`scaled?` is the number that a decimal numeral denotes. It is not always the nearest one: the power
of ten is itself rounded before the significand meets it.
-/

namespace FacetedSearch

/-- `±mantissa · 2 ^ exponent`. A zero keeps its sign. -/
structure Binary where
  negative : Bool
  mantissa : Nat
  exponent : Int
  deriving DecidableEq

namespace Binary

/-- The smallest exponent. -/
def leastExponent : Int := -1074

/-- The largest exponent. -/
def greatestExponent : Int := 971

/-- The number of bits that a mantissa has room for. -/
def precision : Nat := 53

def zero : Binary := ⟨false, 0, leastExponent⟩

def isZero (x : Binary) : Bool := x.mantissa == 0

/-- The same magnitude with the given sign. -/
def withSign (x : Binary) (negative : Bool) : Binary := ⟨negative, x.mantissa, x.exponent⟩

/-- The quotient to the nearest natural number, a half to the even neighbour. -/
def roundHalfEven (num den : Nat) : Nat :=
  let quotient := num / den
  let twice := 2 * (num % den)
  if twice < den then quotient
  else if den < twice then quotient + 1
  else quotient + quotient % 2

/-- `num / den / 2 ^ exponent` as a quotient of natural numbers. -/
def shifted (num den : Nat) (exponent : Int) : Nat × Nat :=
  (num <<< (-exponent).toNat, den <<< exponent.toNat)

/-- The exponent at which the mantissa of `num / den` fills its room, and no smaller than the least.
-/
def exponentOf (num den : Nat) : Int :=
  let low : Int := (num.log2 : Int) - den.log2 - precision
  let (n, d) := shifted num den low
  max leastExponent (if n / d < 1 <<< precision then low else low + 1)

/-- The nearest positive binary number to a quotient; none when the quotient is out of range. -/
def ofRatio? (num den : Nat) : Option Binary :=
  if num = 0 then some zero
  else
    let exponent := exponentOf num den
    let (n, d) := shifted num den exponent
    let mantissa := roundHalfEven n d
    let (mantissa, exponent) :=
      if mantissa = 1 <<< precision then (1 <<< (precision - 1), exponent + 1) else (mantissa, exponent)
    if greatestExponent < exponent then none else some ⟨false, mantissa, exponent⟩

/-- The nearest binary number to a natural number. -/
def ofNat? (n : Nat) : Option Binary := ofRatio? n 1

/-- The product of two magnitudes, rounded. -/
def mul? (x y : Binary) : Option Binary :=
  let exponent := x.exponent + y.exponent
  ofRatio? ((x.mantissa * y.mantissa) <<< exponent.toNat) (1 <<< (-exponent).toNat)

/-- The quotient of two magnitudes, rounded. -/
def div? (x y : Binary) : Option Binary :=
  let exponent := x.exponent - y.exponent
  ofRatio? (x.mantissa <<< exponent.toNat) (y.mantissa <<< (-exponent).toNat)

/-- The largest power of ten that a single step scales by. -/
def greatestPower : Nat := 308

/-- A magnitude times ten to the given power. The power is rounded, then the result; below the
greatest power the magnitude is divided in steps until nothing is left to scale. -/
def scaleByTen? (x : Binary) (power : Int) : Option Binary :=
  if power < -greatestPower then
    if x.isZero then some x
    else do
      let step ← ofNat? (Nat.pow 10 greatestPower)
      let y ← x.div? step
      y.scaleByTen? (power + greatestPower)
  else if power < 0 then do
    let divisor ← ofNat? (Nat.pow 10 (-power).toNat)
    x.div? divisor
  else if power ≤ greatestPower then do
    let factor ← ofNat? (Nat.pow 10 power.toNat)
    x.mul? factor
  else if x.isZero then some x
  else none
termination_by (-power).toNat
decreasing_by simp only [greatestPower] at *; omega

/-- The number that a decimal significand and a power of ten denote; none when it is out of range.
-/
def scaled? (negative : Bool) (significand : Nat) (power : Int) : Option Binary := do
  let whole ← ofNat? significand
  let x ← whole.scaleByTen? power
  some (x.withSign negative)

end Binary

end FacetedSearch
