/-!
# Binary floating point of 64 bits

A finite number is a sign, a significand below 2^53 and a power of two.  Every ratio of naturals
rounds to the nearest of them, a tie to the even significand, so reading a decimal is exact
arithmetic on naturals followed by one rounding.
-/

namespace AddonUpkeep.Number

/-- Two to a power. -/
def twoPow (exponent : Nat) : Nat := Nat.pow 2 exponent

/-- Ten to a power. -/
def tenPow (exponent : Nat) : Nat := Nat.pow 10 exponent

@[simp]
theorem twoPow_zero : twoPow 0 = 1 := rfl

theorem twoPow_succ (exponent : Nat) : twoPow (exponent + 1) = twoPow exponent * 2 := rfl

theorem twoPow_pos (exponent : Nat) : 0 < twoPow exponent := by
  induction exponent with
  | zero => decide
  | succ exponent ih => rw [twoPow_succ]; omega

@[simp]
theorem tenPow_zero : tenPow 0 = 1 := rfl

theorem tenPow_succ (exponent : Nat) : tenPow (exponent + 1) = tenPow exponent * 10 := rfl

theorem tenPow_pos (exponent : Nat) : 0 < tenPow exponent := by
  induction exponent with
  | zero => decide
  | succ exponent ih => rw [tenPow_succ]; omega

/-- The one way to write a finite number: the significand fills its 53 bits unless the exponent is
the least one. -/
def Canonical (significand : Nat) (exponent : Int) : Prop :=
  significand < twoPow 53 ∧ -1074 ≤ exponent ∧ exponent ≤ 971 ∧
    (twoPow 52 ≤ significand ∨ exponent = -1074)

instance (significand : Nat) (exponent : Int) : Decidable (Canonical significand exponent) :=
  inferInstanceAs (Decidable (_ ∧ _ ∧ _ ∧ _))

/-- A binary floating point number of 64 bits.  All not-a-numbers are one. -/
inductive Binary64 where
  | nan
  | infinite (negative : Bool)
  | finite (negative : Bool) (significand : Nat) (exponent : Int)
      (canonical : Canonical significand exponent)
  deriving DecidableEq

namespace Binary64

/-- Zero with a sign. -/
def signedZero (negative : Bool) : Binary64 := .finite negative 0 (-1074) (by decide)

instance : Inhabited Binary64 := ⟨signedZero false⟩

/-- A quotient rounded to the nearest natural, a tie to the even one. -/
def divideEven (dividend divisor : Nat) : Nat :=
  let quotient := dividend / divisor
  let twice := 2 * (dividend % divisor)
  if twice < divisor then quotient
  else if divisor < twice then quotient + 1
  else quotient + quotient % 2

/-- The ratio of two naturals counted in units of a power of two, as a ratio of naturals. -/
def inUnits (numerator denominator : Nat) (exponent : Int) : Nat × Nat :=
  (numerator * twoPow (-exponent).toNat, denominator * twoPow exponent.toNat)

/-- The exponent at which a positive ratio has 53 binary digits before the point, but at least the
least exponent there is. -/
def exponentOf (numerator denominator : Nat) : Int :=
  let guess : Int := numerator.log2 - denominator.log2 - 52
  let (scaled, unit) := inUnits numerator denominator guess
  max (-1074) (if scaled / unit < twoPow 52 then guess - 1 else guess)

/-- The number nearest to a ratio of naturals, infinite when the ratio is too large. -/
def ofRatio (negative : Bool) (numerator denominator : Nat) : Binary64 :=
  if numerator = 0 then signedZero negative
  else
    let exponent := exponentOf numerator denominator
    let (scaled, unit) := inUnits numerator denominator exponent
    let rounded := divideEven scaled unit
    let (significand, exponent) :=
      if rounded = twoPow 53 then (twoPow 52, exponent + 1) else (rounded, exponent)
    if h : Canonical significand exponent then .finite negative significand exponent h
    else .infinite negative

/-- The number nearest to `digits * 10 ^ exponent`.  Beyond four hundred places to either side of
the point the answer no longer depends on the digits. -/
def ofDecimal (negative : Bool) (digits : Nat) (exponent : Int) : Binary64 :=
  let places : Int := (Nat.toDigits 10 digits).length + exponent
  if digits = 0 || places < -400 then signedZero negative
  else if 400 < places then .infinite negative
  else ofRatio negative (digits * tenPow exponent.toNat) (tenPow (-exponent).toNat)

/-- The number nearest to an integer. -/
def ofInt (number : Int) : Binary64 := ofRatio (number < 0) number.natAbs 1

/-- A finite number as a signed numerator over a power of two. -/
def toRatio? : Binary64 → Option (Int × Nat)
  | finite negative significand exponent _ =>
    let magnitude : Int := (significand * twoPow exponent.toNat : Nat)
    some (if negative then -magnitude else magnitude, twoPow (-exponent).toNat)
  | _ => none

/-- The sign bit. -/
def isNegative : Binary64 → Bool
  | nan => false
  | infinite negative => negative
  | finite negative _ _ _ => negative

/-- The number with the other sign. -/
def negate : Binary64 → Binary64
  | nan => nan
  | infinite negative => infinite !negative
  | finite negative significand exponent canonical =>
    finite (!negative) significand exponent canonical

/-- Zero of either sign. -/
def isZero : Binary64 → Bool
  | finite _ significand _ _ => significand == 0
  | _ => false

/-- The sum, rounded once. -/
def add (left right : Binary64) : Binary64 :=
  match left, right with
  | nan, _ | _, nan => nan
  | infinite a, infinite b => if a = b then infinite a else nan
  | infinite a, _ | _, infinite a => infinite a
  | finite a m e _, finite b n f _ =>
    let least := min e f
    let signed (negative : Bool) (significand : Nat) (exponent : Int) : Int :=
      let magnitude : Int := (significand * twoPow (exponent - least).toNat : Nat)
      if negative then -magnitude else magnitude
    let total := signed a m e + signed b n f
    if total = 0 then signedZero (a && b)
    else ofRatio (total < 0) (total.natAbs * twoPow least.toNat) (twoPow (-least).toNat)

/-- The product, rounded once. -/
def mul (left right : Binary64) : Binary64 :=
  match left, right with
  | nan, _ | _, nan => nan
  | infinite a, other | other, infinite a =>
    if other.isZero then nan else infinite (a != other.isNegative)
  | finite a m e _, finite b n f _ =>
    let exponent := e + f
    ofRatio (a != b) (m * n * twoPow exponent.toNat) (twoPow (-exponent).toNat)

/-- The number equals an integer exactly. -/
def isInt (number : Binary64) (integer : Int) : Bool :=
  match number.toRatio? with
  | some (numerator, denominator) => numerator == integer * denominator
  | none => false

/-- Equality as numbers: the zeros are equal, and a not-a-number equals nothing. -/
def sameNumber (left right : Binary64) : Bool :=
  match left, right with
  | nan, _ | _, nan => false
  | _, _ => left == right || (left.isZero && right.isZero)

end Binary64

end AddonUpkeep.Number
