/-!
# Blank characters and trimming

A character property is a list of closed ranges of code points.  Blank characters are the Unicode
white space together with the four information separators U+001C to U+001F.  Trimming removes them
at both ends and nowhere else.
-/

namespace AddonUpkeep.Text

/-- A code point is in the table when one of the closed ranges holds it. -/
def inRanges (ranges : List (Nat × Nat)) (point : Nat) : Bool :=
  ranges.any fun range ↦ decide (range.1 ≤ point) && decide (point ≤ range.2)

theorem inRanges_iff {ranges : List (Nat × Nat)} {point : Nat} :
    inRanges ranges point = true ↔ ∃ range ∈ ranges, range.1 ≤ point ∧ point ≤ range.2 := by
  simp [inRanges]

/-- The blank code points, in ascending ranges. -/
def blankRanges : List (Nat × Nat) :=
  [(0x09, 0x0D), (0x1C, 0x20), (0x85, 0x85), (0xA0, 0xA0), (0x1680, 0x1680), (0x2000, 0x200A),
    (0x2028, 0x2029), (0x202F, 0x202F), (0x205F, 0x205F), (0x3000, 0x3000)]

/-- A blank character is white space or an information separator. -/
def isBlank (c : Char) : Bool := inRanges blankRanges c.toNat

/-- Drop the blanks in front. -/
def trimLeft (text : List Char) : List Char := text.dropWhile isBlank

/-- Drop the blanks behind. -/
def trimRight (text : List Char) : List Char := (text.reverse.dropWhile isBlank).reverse

/-- Drop the blanks at both ends. -/
def trimBlanks (text : List Char) : List Char := trimRight (trimLeft text)

/-- The text without the blanks at its ends. -/
def trim (text : String) : String := String.ofList (trimBlanks text.toList)

/-- A text is blank when it holds nothing but blanks. -/
def isBlankText (text : String) : Bool := text.toList.all isBlank

@[simp]
theorem toList_trim (text : String) : (trim text).toList = trimBlanks text.toList := by
  simp [trim]

end AddonUpkeep.Text
