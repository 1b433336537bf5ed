/-!
# Splitting, joining and searching

A text is cut at every occurrence of a separating character, so the pieces are one more than the
separators, and joining them gives the text back.
-/

namespace AddonUpkeep.Text

/-- The pieces between the separators: at least one, and none holds a separator. -/
def pieces (separator : Char) : List Char → List (List Char)
  | [] => [[]]
  | c :: rest =>
    if c = separator then [] :: pieces separator rest
    else match pieces separator rest with
      | [] => [[c]]
      | piece :: more => (c :: piece) :: more

/-- The pieces joined again, with the separator between neighbours. -/
def joinPieces (separator : List Char) : List (List Char) → List Char
  | [] => []
  | [piece] => piece
  | piece :: more => piece ++ separator ++ joinPieces separator more

/-- The texts joined, with a separator between neighbours. -/
def join (separator : String) (texts : List String) : String :=
  String.ofList (joinPieces separator.toList (texts.map String.toList))

/-- The first list starts the second one; the answer is what follows it there. -/
def dropStart? (start : List Char) (text : List Char) : Option (List Char) :=
  match start, text with
  | [], text => some text
  | _ :: _, [] => none
  | s :: start, c :: text => if s = c then dropStart? start text else none

/-- The part occurs somewhere in the text. -/
def occursIn (part : List Char) : List Char → Bool
  | [] => part.isEmpty
  | c :: rest => (dropStart? part (c :: rest)).isSome || occursIn part rest

/-- The part occurs somewhere in the text. -/
def holds (text part : String) : Bool := occursIn part.toList text.toList

/-- Skip a number of characters, then drop the occurrences of a part from left to right. -/
def withoutPartAfter (part : List Char) : Nat → List Char → List Char
  | _, [] => []
  | skip + 1, _ :: rest => withoutPartAfter part skip rest
  | 0, c :: rest =>
    if (dropStart? part (c :: rest)).isSome then withoutPartAfter part (part.length - 1) rest
    else c :: withoutPartAfter part 0 rest

/-- The text without the occurrences of a part, which are found from left to right and do not
overlap.  The part is not empty. -/
def withoutPart (part text : String) : String :=
  String.ofList (withoutPartAfter part.toList 0 text.toList)

@[simp]
theorem pieces_ne_nil (separator : Char) (text : List Char) : pieces separator text ≠ [] := by
  cases text with
  | nil => simp [pieces]
  | cons c rest =>
    simp only [pieces]
    split
    · simp
    · split <;> simp

/-- Joining the pieces with their separator gives the text back. -/
theorem joinPieces_pieces (separator : Char) (text : List Char) :
    joinPieces [separator] (pieces separator text) = text := by
  induction text with
  | nil => rfl
  | cons c rest ih =>
    have hne := pieces_ne_nil separator rest
    cases hp : pieces separator rest with
    | nil => exact absurd hp hne
    | cons piece more =>
      rw [hp] at ih
      by_cases hc : c = separator
      · simp [pieces, hc, hp, joinPieces, ih]
      · cases more with
        | nil => simpa [pieces, hc, hp, joinPieces] using ih
        | cons next more => simpa [pieces, hc, hp, joinPieces] using ih

end AddonUpkeep.Text
