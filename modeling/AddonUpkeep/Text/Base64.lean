/-!
# Base64

Bytes written in groups of four characters for three bytes.  Characters that are no digits are
skipped, padding ends the text when it completes a group, and a group that is left incomplete is
refused.
-/

namespace AddonUpkeep.Text

/-- The value of a base64 digit. -/
def base64Digit? (c : Char) : Option Nat :=
  if c.isUpper then some (c.toNat - 'A'.toNat)
  else if c.isLower then some (c.toNat - 'a'.toNat + 26)
  else if c.isDigit then some (c.toNat - '0'.toNat + 52)
  else if c = '+' then some 62
  else if c = '/' then some 63
  else none

/-- The bytes of a text from a place on: behind a number of digits of the current group, of which
bits are left over, and behind a number of paddings. -/
def base64From (position carry pads : Nat) : List Char → Option (List UInt8)
  | [] => if position = 0 then some [] else none
  | c :: rest =>
    if c = '=' then
      if 2 ≤ position ∧ 4 ≤ position + pads + 1 then some []
      else base64From position carry (if 2 ≤ position then pads + 1 else pads) rest
    else match base64Digit? c with
      | none => base64From position carry pads rest
      | some digit =>
        let emit (byte : Nat) (more : Option (List UInt8)) := more.map (UInt8.ofNat byte :: ·)
        match position with
        | 0 => base64From 1 digit 0 rest
        | 1 => emit (carry * 4 + digit / 16) (base64From 2 (digit % 16) 0 rest)
        | 2 => emit (carry * 16 + digit / 4) (base64From 3 (digit % 4) 0 rest)
        | _ => emit (carry * 64 + digit) (base64From 0 0 0 rest)

/-- The bytes of a text in base64. -/
def base64? (text : List Char) : Option (List UInt8) := base64From 0 0 0 text

end AddonUpkeep.Text
