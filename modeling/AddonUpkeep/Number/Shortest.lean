import AddonUpkeep.Number.Binary64

/-!
# The shortest decimal of a binary number

Among the decimals that round to a given binary number, the shortest ones are taken, and of these
the nearest.  Reading such a decimal gives the number back.
-/

namespace AddonUpkeep.Number

/-- A decimal `digits * 10 ^ exponent`. -/
structure Decimal where
  digits : Nat
  exponent : Int
  deriving DecidableEq, Repr

/-- The same decimal without zeros at the end of its digits. -/
def Decimal.stripped (decimal : Decimal) : Decimal := go decimal.digits decimal
where
  go : Nat → Decimal → Decimal
    | 0, decimal => decimal
    | fuel + 1, decimal =>
      if decimal.digits ≠ 0 ∧ decimal.digits % 10 = 0 then
        go fuel ⟨decimal.digits / 10, decimal.exponent + 1⟩
      else decimal

/-- The reals that round to a binary number: three naturals over one unit, the least real, the
number itself and the greatest real, and whether the ends belong to it. -/
structure RoundingInterval where
  low : Nat
  value : Nat
  high : Nat
  unit : Nat
  closed : Bool

/-- The interval of a positive number.  It reaches half a step to both sides, but only a quarter of
the upper step downwards from a power of two. -/
def RoundingInterval.of (significand : Nat) (exponent : Int) : RoundingInterval :=
  let scale := twoPow (exponent - 2).toNat
  let below := if significand = twoPow 52 ∧ -1074 < exponent then 1 else 2
  { low := (4 * significand - below) * scale
    value := 4 * significand * scale
    high := (4 * significand + 2) * scale
    unit := twoPow (2 - exponent).toNat
    closed := significand % 2 = 0 }

/-- The interval measured in steps of a power of ten. -/
def RoundingInterval.inSteps (interval : RoundingInterval) (grid : Int) : RoundingInterval :=
  let factor := tenPow (-grid).toNat
  { interval with
    low := interval.low * factor
    value := interval.value * factor
    high := interval.high * factor
    unit := interval.unit * tenPow grid.toNat }

/-- A whole number of steps lies in the interval. -/
def RoundingInterval.holds (interval : RoundingInterval) (steps : Nat) : Bool :=
  let place := steps * interval.unit
  if interval.closed then decide (interval.low ≤ place) && decide (place ≤ interval.high)
  else decide (interval.low < place) && decide (place < interval.high)

/-- The whole number of steps in the interval that is nearest to its value, if there is one: only
the two neighbours of the value need a look. -/
def RoundingInterval.nearest? (interval : RoundingInterval) : Option Nat :=
  let below := interval.value / interval.unit
  let twice := 2 * (interval.value % interval.unit)
  let upward := interval.unit < twice || (interval.unit = twice && below % 2 = 1)
  match interval.holds below, interval.holds (below + 1) with
  | true, true => some (if upward then below + 1 else below)
  | true, false => some below
  | false, true => some (below + 1)
  | false, false => none

/-- The place of the decimal point: the least power of ten above the value. -/
def RoundingInterval.point (interval : RoundingInterval) (guess : Int) : Int :=
  let above (power : Int) : Bool :=
    interval.value * tenPow (-power).toNat < interval.unit * tenPow power.toNat
  if above guess then guess else if above (guess + 1) then guess + 1 else guess + 2

/-- The shortest decimal of a positive number.  Seventeen digits always suffice, so the first hit
among one to seventeen digits exists. -/
def shortestDecimal (significand : Nat) (exponent : Int) : Decimal :=
  let interval := RoundingInterval.of significand exponent
  let point := interval.point ((exponent + significand.log2) * 30103 / 100000)
  let found := (List.range 17).findSome? fun (extra : Nat) ↦
    let grid : Int := point - (extra + 1)
    ((interval.inSteps grid).nearest?).map fun digits ↦ Decimal.mk digits grid
  (found.getD ⟨significand, exponent⟩).stripped

end AddonUpkeep.Number
