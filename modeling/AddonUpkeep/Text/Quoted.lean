import AddonUpkeep.Text.Printable

/-!
# Quoted texts

A quoted text stands between apostrophes, or between quotation marks when it holds an apostrophe and
no quotation mark.  The quote in use and the backslash are preceded by a backslash, and unprintable
characters are written by their code points.
-/

namespace AddonUpkeep.Text

/-- The apostrophe. -/
def apostrophe : Char := '\x27'

/-- The quotation mark. -/
def quotationMark : Char := '\x22'

/-- The lower-case hexadecimal digits of a number, padded with zeros to a width. -/
def hexDigits (width : Nat) (number : Nat) : List Char :=
  let digits := Nat.toDigits 16 number
  List.replicate (width - digits.length) '0' ++ digits

/-- The written form of one character between the given quotes. -/
def quotedChar (quote : Char) (c : Char) : List Char :=
  if c = quote || c = '\\' then ['\\', c]
  else if c = '\t' then ['\\', 't']
  else if c = '\n' then ['\\', 'n']
  else if c = '\r' then ['\\', 'r']
  else if isPrintable c then [c]
  else if c.toNat < 0x100 then '\\' :: 'x' :: hexDigits 2 c.toNat
  else if c.toNat < 0x10000 then '\\' :: 'u' :: hexDigits 4 c.toNat
  else '\\' :: 'U' :: hexDigits 8 c.toNat

/-- The quote that a text is written with. -/
def quoteFor (text : List Char) : Char :=
  if text.contains apostrophe && !text.contains quotationMark then quotationMark else apostrophe

/-- The written form of a text with its quotes. -/
def quotedChars (text : List Char) : List Char :=
  let quote := quoteFor text
  quote :: text.flatMap (quotedChar quote) ++ [quote]

/-- A text with its quotes. -/
def quoted (text : String) : String := String.ofList (quotedChars text.toList)

/-- The written form of one byte between the given quotes. -/
def quotedByte (quote : Char) (byte : UInt8) : List Char :=
  let c := Char.ofNat byte.toNat
  if byte < 0x7F then quotedChar quote c else '\\' :: 'x' :: hexDigits 2 byte.toNat

/-- The written form of a row of bytes, marked by a `b` in front. -/
def quotedBytes (bytes : List UInt8) : String :=
  let quote := quoteFor (bytes.map fun byte ↦ Char.ofNat byte.toNat)
  String.ofList ('b' :: quote :: bytes.flatMap (quotedByte quote) ++ [quote])

end AddonUpkeep.Text
