import AddonUpkeep.Number.Binary64
import AddonUpkeep.Text.Blank
import AddonUpkeep.Text.DecimalDigit

/-!
# Reading numbers

An integer is a sign and digits, single underscores between digits, with blanks around it.  Decimal
digits of every script count as digits.  A decimal integer of more than 4300 digits is refused.
-/

namespace AddonUpkeep.Number

open AddonUpkeep.Text

/-- The greatest number of digits that a decimal integer may have. -/
def digitLimit : Nat := 4300

/-- An integer has at most as many digits as are written. -/
def isShort (value : Int) : Bool := decide (value.natAbs < Nat.pow 10 digitLimit)

/-- Why a text is no integer. -/
inductive IntegerProblem where
  | malformed
  | tooLong (digits : Nat)
  deriving DecidableEq, Repr

/-- Blanks that may surround a number: the information separators are not among them. -/
def isMargin (c : Char) : Bool := isBlank c && !(decide (0x1C ≤ c.toNat) && decide (c.toNat ≤ 0x1F))

/-- The text without the blanks around it and with all decimal digits in ASCII. -/
def numeral (text : List Char) : List Char :=
  let inner := ((text.dropWhile isMargin).reverse.dropWhile isMargin).reverse
  inner.map fun c ↦ match digitValue? c with
    | some value => value.digitChar
    | none => c

/-- A sign in front, and the rest. -/
def takeSign : List Char → Bool × List Char
  | '-' :: rest => (true, rest)
  | '+' :: rest => (false, rest)
  | text => (false, text)

/-- A digit of a base up to sixteen. -/
def isDigitOf (base : Nat) (c : Char) : Bool :=
  isHexDigit c && decide (hexDigitValue c < base)

/-- The letter that marks a base in front of its digits. -/
def baseMark (base : Nat) (c : Char) : Bool :=
  match base with
  | 2 => c == 'b' || c == 'B'
  | 8 => c == 'o' || c == 'O'
  | 16 => c == 'x' || c == 'X'
  | _ => false

/-- The digits behind the mark of the base, if there is one.  One underscore may follow the mark. -/
def dropBaseMark (base : Nat) : List Char → List Char
  | '0' :: c :: rest =>
    if baseMark base c then
      match rest with
      | '_' :: digits => digits
      | digits => digits
    else '0' :: c :: rest
  | text => text

/-- The digits of a text in which every underscore stands between two digits. -/
def groupedDigits? (base : Nat) : List Char → Option (List Char)
  | [] => none
  | [c] => if isDigitOf base c then some [c] else none
  | c :: '_' :: rest => if isDigitOf base c then (groupedDigits? base rest).map (c :: ·) else none
  | c :: rest => if isDigitOf base c then (groupedDigits? base rest).map (c :: ·) else none

/-- The number that digits of a base denote. -/
def digitsValue (base : Nat) (digits : List Char) : Nat :=
  digits.foldl (fun value c ↦ value * base + hexDigitValue c) 0

/-- Read an integer in a base. -/
def readInteger (base : Nat) (text : List Char) : Except IntegerProblem Int :=
  let (negative, rest) := takeSign (numeral text)
  match groupedDigits? base (dropBaseMark base rest) with
  | none => .error .malformed
  | some digits =>
    if base = 10 ∧ digitLimit < digits.length then .error (.tooLong digits.length)
    else
      let value : Int := digitsValue base digits
      .ok (if negative then -value else value)

/-- The digits of a fraction and of the part before it, with the rest of the text. -/
def takeFraction (text : List Char) : List Char × List Char × List Char :=
  let whole := text.takeWhile isAsciiDigit
  match text.dropWhile isAsciiDigit with
  | '.' :: rest => (whole, rest.takeWhile isAsciiDigit, rest.dropWhile isAsciiDigit)
  | rest => (whole, [], rest)

/-- The exponent at the end of a text; none when what is left is no exponent. -/
def takeExponent? : List Char → Option Int
  | [] => some 0
  | c :: rest =>
    if c = 'e' ∨ c = 'E' then
      let (negative, digits) := takeSign rest
      if !digits.isEmpty && digits.all isAsciiDigit then
        let value : Int := digitsValue 10 digits
        some (if negative then -value else value)
      else none
    else none

/-- Read a floating point number: digits with a point and an exponent, an infinity or a
not-a-number. -/
def readFloat? (text : List Char) : Option Binary64 :=
  let (negative, rest) := takeSign (numeral text)
  let word := rest.map Char.toLower
  if word = ['n', 'a', 'n'] then some .nan
  else if word = ['i', 'n', 'f'] ∨ word = ['i', 'n', 'f', 'i', 'n', 'i', 't', 'y'] then
    some (.infinite negative)
  else
    let (whole, fraction, rest) := takeFraction rest
    if whole.isEmpty && fraction.isEmpty then none
    else (takeExponent? rest).map fun exponent ↦
      .ofDecimal negative (digitsValue 10 (whole ++ fraction)) (exponent - fraction.length)

end AddonUpkeep.Number
