import FacetedSearch.Number.Binary

/-!
# Shortest decimals

The numbers that round to one binary number form an interval around it. `Binary.shortest` is the
decimal in that interval with the fewest digits, and of those the nearest to the number itself. It
looks at coarser and finer grids of decimals in turn and takes the first that has a point inside.
-/

namespace FacetedSearch

/-- The natural number `digits` times ten to the power `power`. -/
structure Decimal where
  digits : Nat
  power : Int
  deriving DecidableEq

namespace Decimal

/-- The decimal digits of a natural number, the first one first. -/
def numeral (n : Nat) : List Char := Nat.toDigits 10 n

/-- The same number without zeros at the end of its digits. -/
def trimmed (x : Decimal) : Decimal :=
  if h : x.digits ≠ 0 ∧ x.digits % 10 = 0 then trimmed ⟨x.digits / 10, x.power + 1⟩ else x
termination_by x.digits
decreasing_by exact Nat.div_lt_self (Nat.pos_of_ne_zero h.1) (by decide)

/-- The power of ten of the first digit. -/
def leadingPower (x : Decimal) : Int := x.power + (numeral x.digits).length - 1

end Decimal

namespace Binary

/-- A number and the ends of the interval that rounds to it, over a common denominator. -/
structure Neighbourhood where
  value : Nat
  least : Nat
  greatest : Nat
  den : Nat
  closed : Bool

/-- Half-way to either neighbour; the gap below a power of two is half as wide. The ends round to
the number itself when its mantissa is even. -/
def neighbourhood (x : Binary) : Neighbourhood :=
  let up : Nat := 1 <<< (x.exponent - 2).toNat
  let down : Nat := 1 <<< (2 - x.exponent).toNat
  let below := if x.mantissa = 1 <<< (precision - 1) ∧ leastExponent < x.exponent then 1 else 2
  { value := 4 * x.mantissa * up
    least := (4 * x.mantissa - below) * up
    greatest := (4 * x.mantissa + 2) * up
    den := down
    closed := x.mantissa % 2 == 0 }

/-- The power of ten of the first decimal digit of a positive quotient. -/
def leadingPower (num den : Nat) : Int :=
  if den ≤ num then (Decimal.numeral (num / den)).length - 1
  else -((Decimal.numeral ((den - 1) / num)).length : Int)

/-- The grid of multiples of ten to the power `power`: the point in the interval nearest to the
number, the even one of two; none when no point of the grid lies in the interval. -/
def Neighbourhood.onGrid (n : Neighbourhood) (power : Int) : Option Nat :=
  let fine := Nat.pow 10 (-power).toNat
  let unit := n.den * Nat.pow 10 power.toNat
  let value := n.value * fine
  let inside (point : Nat) : Bool :=
    if n.closed then n.least * fine ≤ point * unit && point * unit ≤ n.greatest * fine
    else n.least * fine < point * unit && point * unit < n.greatest * fine
  let low := value / unit
  let high := low + 1
  let toLow := value - low * unit
  let toHigh := high * unit - value
  match inside low, inside high with
  | false, false => none
  | true, false => some low
  | false, true => some high
  | true, true =>
    if toLow < toHigh then some low
    else if toHigh < toLow then some high
    else if low % 2 = 0 then some low
    else some high

/-- The decimal digits that always tell two binary numbers apart. -/
def decisiveDigits : Nat := 17

/-- The first grid with a point in the interval, from the power `power` downwards. -/
def Neighbourhood.search (n : Neighbourhood) (power : Int) : Nat → Decimal
  | 0 => ⟨n.value * Nat.pow 10 (-power).toNat / (n.den * Nat.pow 10 power.toNat), power⟩
  | steps + 1 =>
    match n.onGrid power with
    | some digits => ⟨digits, power⟩
    | none => n.search (power - 1) steps

/-- The fewest digits that read back as the magnitude of `x`. -/
def shortest (x : Binary) : Decimal :=
  if x.isZero then ⟨0, 0⟩
  else
    let n := x.neighbourhood
    (n.search (leadingPower n.value n.den) decisiveDigits).trimmed

end Binary

end FacetedSearch
