import AddonUpkeep.Number.Shortest

/-!
# Floating point numbers as text

A number is written with its shortest digits, positionally while its leading digit stands between
the fourth place behind the point and the sixteenth before it, and with an exponent of at least two
digits otherwise.  A whole number keeps a zero behind the point.
-/

namespace AddonUpkeep.Number

/-- The spellings of the numbers that have no digits. -/
structure Spelling where
  notANumber : String
  infinity : String

/-- The spelling in plain text. -/
def Spelling.plain : Spelling := ⟨"nan", "inf"⟩

/-- The spelling in documents. -/
def Spelling.document : Spelling := ⟨"NaN", "Infinity"⟩

/-- The places of the leading digit that are written positionally. -/
def isPositional (leading : Int) : Bool := decide (-4 ≤ leading) && decide (leading < 16)

/-- The exponent behind the `e`, with its sign and at least two digits. -/
def exponentText (exponent : Int) : List Char :=
  let digits := Nat.toDigits 10 exponent.natAbs
  (if exponent < 0 then '-' else '+') :: List.replicate (2 - digits.length) '0' ++ digits

/-- The text of a positive decimal without zeros at its end. -/
def decimalText (decimal : Decimal) : List Char :=
  let digits := Nat.toDigits 10 decimal.digits
  let point : Int := digits.length + decimal.exponent
  if isPositional (point - 1) then
    if point ≤ 0 then '0' :: '.' :: List.replicate (-point).toNat '0' ++ digits
    else if decimal.exponent < 0 then
      digits.take point.toNat ++ '.' :: digits.drop point.toNat
    else digits ++ List.replicate decimal.exponent.toNat '0' ++ ['.', '0']
  else
    let fraction := digits.drop 1
    digits.take 1 ++ (if fraction.isEmpty then [] else '.' :: fraction) ++
      'e' :: exponentText (point - 1)

/-- The text of a number without its sign. -/
def magnitudeText (spelling : Spelling) : Binary64 → List Char
  | .nan => spelling.notANumber.toList
  | .infinite _ => spelling.infinity.toList
  | .finite _ significand exponent _ =>
    if significand = 0 then ['0', '.', '0']
    else decimalText (shortestDecimal significand exponent)

/-- The text of a number. -/
def floatText (spelling : Spelling) (number : Binary64) : String :=
  let magnitude := magnitudeText spelling number
  String.ofList (if number.isNegative then '-' :: magnitude else magnitude)

end AddonUpkeep.Number
