/-!
# Shortest decimals

**Input.**  A finite float other than zero is a mantissa times a power of two.
The reals that round to it form an interval around it: half the distance to the
next float above, and half the distance to the next float below, which is
smaller when the mantissa has just become the least one of its exponent.  The
ends belong to the interval when the mantissa is even.

**Algorithm.**  The grids of all multiples of a power of ten are tried, the
coarsest one first.  On a grid only the two neighbours of the float matter: if
any of its points lies in the interval, one of them does.  The first grid with
a point in the interval gives the fewest digits.  Of two points the nearer one is
taken, and of two equally near ones the larger.

All comparisons are made in exact integer arithmetic.
-/

namespace MathProgram

/-- A positive number: a mantissa times a power of two, with the gap to the next float below. -/
structure Binary where
  mantissa : Nat
  exponent : Int
  narrowBelow : Bool
  deriving DecidableEq, Repr

namespace Binary

/-- The absolute value of a finite float. -/
def ofFloat
    (x : Float) :
    Binary :=
  let bits : Nat := x.toBits.toNat
  let fraction : Nat := bits % Nat.pow 2 52
  let biased : Nat := bits / Nat.pow 2 52 % Nat.pow 2 11
  if biased = 0 then
    { mantissa := fraction, exponent := -1074, narrowBelow := false }
  else
    { mantissa := fraction + Nat.pow 2 52
      exponent := (biased : Int) - 1075
      narrowBelow := fraction == 0 && biased > 1 }

end Binary

/-- A number given by its digits, read as a whole number, and a power of ten. -/
structure Decimal where
  digits : Nat
  exponent : Int
  deriving DecidableEq, Repr

namespace Decimal

/-- The power with an exponent, one for a negative exponent. -/
def powerOf
    (base : Nat)
    (exponent : Int) :
    Nat :=
  Nat.pow base exponent.toNat

/--
A float and its interval on a decimal grid: all numbers are multiples of one
unit, and `step` is the distance of two points of the grid.
-/
structure Scaled where
  value : Nat
  low : Nat
  high : Nat
  step : Nat
  closed : Bool

/-- Scale a float to the grid of multiples of a power of ten. -/
def scaled
    (x : Binary)
    (grid : Int) :
    Scaled :=
  let quarter : Int := x.exponent - 2
  let factor := powerOf 2 quarter * powerOf 10 (-grid)
  { value := 4 * x.mantissa * factor
    low := (4 * x.mantissa - if x.narrowBelow then 1 else 2) * factor
    high := (4 * x.mantissa + 2) * factor
    step := powerOf 2 (-quarter) * powerOf 10 grid
    closed := x.mantissa % 2 == 0 }

/-- Whether a number lies in the interval. -/
def Scaled.contains
    (s : Scaled)
    (n : Nat) :
    Bool :=
  if s.closed then s.low ≤ n && n ≤ s.high else s.low < n && n < s.high

/-- The point of the grid that stands for the float, if the grid is fine enough. -/
def Scaled.point?
    (s : Scaled) :
    Option Nat :=
  let below := s.value / s.step
  let above := below + 1
  let belowFits := s.contains (below * s.step)
  let aboveFits := s.contains (above * s.step)
  let belowNearer := s.value - below * s.step < above * s.step - s.value
  if belowFits && (belowNearer || !aboveFits) then
    some below
  else if aboveFits then
    some above
  else
    none

/-- The coarsest grid that is tried: no float reaches its first point. -/
def coarsest : Int :=
  309

/-- The number of grids; the finest one has several points in the interval of every float. -/
def gridCount : Nat :=
  634

/-- The decimal with the fewest digits that rounds to a float. -/
def shortest
    (x : Binary) :
    Decimal :=
  ((List.range gridCount).findSome? fun (k : Nat) =>
    let grid := coarsest - (k : Int)
    (scaled x grid).point?.map fun digits => { digits, exponent := grid }).getD
      { digits := 0, exponent := 0 }

end Decimal

end MathProgram
