import AddonUpkeep.Proofs.Version.Order
import AddonUpkeep.Proofs.Version.Printing

/-!
# Versions of numbers and points

A text of decimal numbers with points between them has nothing that a qualifier could be read from,
so it is read as the release of its numbers.
-/

namespace AddonUpkeep.Version

open AddonUpkeep.Text AddonUpkeep.Number

/-- A text of decimal numbers with points between them. -/
def isDotted (text : String) : Bool := (pieces '.' text.toList).all isNumeral

/-- The numbers between the points of a text. -/
def dottedNumbers (text : String) : List Nat := (pieces '.' text.toList).map number

variable {text : String}

/-- The spelling of a release with nothing else. -/
def Spelling.ofRelease (release : List (List Char)) : Spelling :=
  ⟨[], release, none, none, none, []⟩

theorem isFilled_ofRelease (h : isDotted text = true) :
    (Spelling.ofRelease (pieces '.' text.toList)).IsFilled where
  epoch := List.forall_mem_nil _
  release_ne_nil := pieces_ne_nil '.' text.toList
  release := List.all_eq_true.mp h
  pre := by simp [Spelling.ofRelease]
  post := by simp [Spelling.ofRelease]
  dev := by simp [Spelling.ofRelease]
  build := List.forall_mem_nil _

theorem chars_ofRelease (release : List (List Char)) :
    (Spelling.ofRelease release).chars = joinPieces ['.'] release := by
  simp [Spelling.chars, Spelling.releaseChars, Spelling.preChars, Spelling.postChars,
    Spelling.devChars, Spelling.buildChars, Spelling.ofRelease]

theorem mem_numbers_ofRelease_iff {release : List (List Char)} {digits : List Char} :
    digits ∈ (Spelling.ofRelease release).numbers ↔ digits = [] ∨ digits ∈ release := by
  simp [Spelling.numbers, Spelling.ofRelease]

/-- A text of numbers and points is read as the release of its numbers, unless one of them has too
many digits. -/
theorem parse_of_isDotted (h : isDotted text = true) :
    parse text = match (pieces '.' text.toList).find? fun digits ↦ digitLimit < digits.length with
      | none => .ok (ofRelease (dottedNumbers text))
      | some digits => .error (.longNumber digits.length) := by
  have hnumbers : (Spelling.ofRelease (pieces '.' text.toList)).numbers.find?
      (fun digits ↦ digitLimit < digits.length) =
        (pieces '.' text.toList).find? fun digits ↦ digitLimit < digits.length := by
    simp [Spelling.numbers, Spelling.ofRelease]
  rw [parse_chars (isFilled_ofRelease h), hnumbers]
  · rfl
  · rw [chars_ofRelease, joinPieces_pieces]

/-- A text of numbers and points is read when each of them can be. -/
theorem exists_parse_iff_of_isDotted (h : isDotted text = true) :
    (∃ found, parse text = .ok found) ↔
      ∀ digits ∈ pieces '.' text.toList, digits.length ≤ digitLimit := by
  rw [parse_of_isDotted h]
  cases hlong : (pieces '.' text.toList).find? fun digits ↦ digitLimit < digits.length with
  | none => simpa [List.find?_eq_none] using hlong
  | some digits =>
    have hfound := List.find?_some hlong
    simp only [reduceCtorEq, exists_false, false_iff, not_forall]
    exact ⟨digits, List.mem_of_find?_eq_some hlong, by simpa using hfound⟩

theorem parse_eq_of_isDotted {found : Version} (h : isDotted text = true)
    (hparse : parse text = .ok found) : found = ofRelease (dottedNumbers text) := by
  rw [parse_of_isDotted h] at hparse
  split at hparse
  · exact (Except.ok.inj hparse).symm
  · cases hparse

end AddonUpkeep.Version
