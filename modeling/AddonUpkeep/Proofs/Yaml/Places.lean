import AddonUpkeep.Proofs.Reading
import AddonUpkeep.Yaml.Property
import AddonUpkeep.Yaml.Scalar
import Mathlib.Data.List.TakeWhile

/-!
# Reading stays in the text

Reading moves from a place in a text to a later one.  What it refuses a text for, other than a
violation of the syntax, stands in the text: an escape for a code that no character has, or a row of
more digits than the number of a version may have.
-/

namespace AddonUpkeep.Yaml

open AddonUpkeep.Text AddonUpkeep.Number

variable {α β : Type} {text : List Char} {cursor : Cursor}

/-- A refusal for a violation of the syntax, or for an allowed fault. -/
def Refusal.IsFor (allowed : Fault → Prop) : Refusal → Prop
  | .malformed _ => True
  | .value fault => allowed fault

/-- The faults that a text shows, and the one of nodes that are nested too deeply. -/
inductive SyntaxFault (text : List Char) : Fault → Prop
  | escape {letter : Char} {digits : List Char} {fault : Fault}
      (hrow : '\\' :: letter :: digits <:+: text) (hlength : codeLength? letter = some digits.length)
      (hcode : charOfCode (digitsValue 16 digits) = .error (.value fault)) : SyntaxFault text fault
  | version {digits : List Char} {count : Nat} (hrow : digits <:+: text)
      (hdigits : ∀ c ∈ digits, c.isDigit = true)
      (hlong : readInteger 10 digits = .error (.tooLong count)) :
      SyntaxFault text (.longInteger count)
  | nesting : SyntaxFault text (.tooDeep "")

/-- A place in a text. -/
def Cursor.IsIn (text : List Char) (cursor : Cursor) : Prop := cursor.rest <:+ text

/-- A reading ends at a place in the text, or refuses the text for a fault that it shows. -/
def Stays (text : List Char) (place : α → Cursor) (reading : Except Refusal α) : Prop :=
  Ends (fun value ↦ (place value).IsIn text) (Refusal.IsFor (SyntaxFault text)) reading

/-! ## Places -/

namespace Cursor

theorem rest_advance (cursor : Cursor) : cursor.advance.rest = cursor.rest.tail := by
  unfold advance
  split
  · next hrest => rw [hrest, List.tail_nil]
  · next c rest hrest =>
    rw [hrest, List.tail_cons]
    split
    · rfl
    · split
      · rfl
      · rfl

theorem rest_advanceBy (count : Nat) (cursor : Cursor) :
    (cursor.advanceBy count).rest = cursor.rest.drop count := by
  induction count generalizing cursor with
  | zero => rfl
  | succ count ih => rw [advanceBy, ih, rest_advance, List.drop_tail]

namespace IsIn

theorem advance (h : cursor.IsIn text) : cursor.advance.IsIn text := by
  unfold IsIn
  rw [rest_advance]
  exact (List.tail_suffix _).trans h

theorem advanceBy (h : cursor.IsIn text) (count : Nat) : (cursor.advanceBy count).IsIn text := by
  unfold IsIn
  rw [rest_advanceBy]
  exact (List.drop_suffix _ _).trans h

theorem skipWhile (h : cursor.IsIn text) (p : Char → Bool) : (cursor.skipWhile p).IsIn text :=
  h.advanceBy _

theorem skipBreak (h : cursor.IsIn text) : cursor.skipBreak.IsIn text := by
  unfold Cursor.skipBreak
  split
  · split
    · exact h.advance
    · exact h
  · exact h

/-- The characters in front of a place stand in the text. -/
theorem span_isInfix (h : cursor.IsIn text) (p : Char → Bool) : (cursor.span p).1 <:+: text :=
  (List.takeWhile_prefix p).isInfix.trans h.isInfix

end IsIn

theorem stays_skipLineRest (h : cursor.IsIn text) (violation : Violation) :
    Stays text id (cursor.skipLineRest violation) := by
  have hend (last : Cursor) (hlast : last.IsIn text) : Stays text id
      (if endsLine last.peek then .ok last.skipBreak else .error (.malformed violation)) := by
    split
    · exact hlast.skipBreak
    · exact trivial
  unfold skipLineRest
  dsimp only
  split
  · exact hend _ ((h.skipWhile _).skipWhile _)
  · exact hend _ (h.skipWhile _)

end Cursor

/-! ## Anchors, tags and directives -/

section Properties

theorem stays_readAnchor (h : cursor.IsIn text) : Stays text (·.2) (readAnchor cursor) := by
  unfold readAnchor
  dsimp only [Cursor.span]
  split
  · exact trivial
  · exact h.advance.skipWhile _

theorem stays_readUriFrom (fuel : Nat) (read : List Char) (h : cursor.IsIn text) :
    Stays text (·.2) (readUriFrom fuel read cursor) := by
  induction fuel generalizing read cursor with
  | zero => exact h
  | succ fuel ih =>
    unfold readUriFrom
    split
    · split
      · exact trivial
      · split
        · exact trivial
        · exact ih _ (h.advanceBy _)
    · split
      · exact ih _ h.advance
      · exact h
    · exact h

theorem stays_readUri (h : cursor.IsIn text) : Stays text (·.2) (readUri cursor) := by
  unfold readUri
  refine (stays_readUriFrom _ [] h).bind fun ⟨uri, after⟩ hafter ↦ ?_
  dsimp only
  split
  · exact trivial
  · exact hafter

theorem stays_readHandle (h : cursor.IsIn text) : Stays text (·.2) (readHandle cursor) := by
  unfold readHandle
  dsimp only [Cursor.span]
  split
  · exact trivial
  · split
    · exact h.advance
    · split
      · exact (h.advance.skipWhile _).advance
      · exact trivial

theorem stays_readTagParts (h : cursor.IsIn text) : Stays text (·.2.2) (readTagParts cursor) := by
  unfold readTagParts
  split
  · refine (stays_readUri (h.advanceBy 2)).bind fun ⟨suffix, after⟩ hafter ↦ ?_
    dsimp only
    split
    · exact Cursor.IsIn.advance hafter
    · exact trivial
  · split
    · exact h.advance
    · dsimp only
      split
      · refine (stays_readHandle h).bind fun ⟨handle, after⟩ hafter ↦ ?_
        exact (stays_readUri hafter).bind fun _ hlast ↦ hlast
      · exact (stays_readUri h.advance).bind fun _ hlast ↦ hlast

theorem stays_readTag (h : cursor.IsIn text) : Stays text (·.2) (readTag cursor) := by
  unfold readTag
  refine (stays_readTagParts h).bind fun ⟨handle, suffix, after⟩ hafter ↦ ?_
  dsimp only
  split
  · exact hafter
  · exact trivial

theorem stays_readVersionNumber (h : cursor.IsIn text) :
    Stays text (·.2) (readVersionNumber cursor) := by
  unfold readVersionNumber
  dsimp only [Cursor.span]
  split
  · exact h.skipWhile _
  · exact trivial
  · next count hlong =>
    exact .version (h.span_isInfix _) (fun c hc ↦ List.mem_takeWhile_imp hc) hlong

theorem stays_readDeclared (name : List Char) (h : cursor.IsIn text) :
    Stays text (·.2) (readDeclared name cursor) := by
  unfold readDeclared
  split
  · refine (stays_readVersionNumber (h.skipWhile _)).bind fun ⟨major, after⟩ hafter ↦ ?_
    dsimp only
    split
    · exact trivial
    · refine (stays_readVersionNumber (Cursor.IsIn.advance hafter)).bind
        fun ⟨minor, last⟩ hlast ↦ ?_
      dsimp only
      split
      · exact hlast
      · exact trivial
  · split
    · refine (stays_readHandle (h.skipWhile _)).bind fun ⟨handle, after⟩ hafter ↦ ?_
      dsimp only
      split
      · exact trivial
      · refine (stays_readUri (Cursor.IsIn.skipWhile hafter _)).bind fun ⟨start, last⟩ hlast ↦ ?_
        dsimp only
        split
        · exact hlast
        · exact trivial
    · exact h.skipWhile _

theorem stays_readDirective (h : cursor.IsIn text) :
    Stays text (·.2) (readDirective cursor) := by
  unfold readDirective
  dsimp only [Cursor.span]
  split
  · exact trivial
  · refine (stays_readDeclared _ (h.advance.skipWhile _)).bind fun ⟨declared, after⟩ hafter ↦ ?_
    exact (Cursor.stays_skipLineRest hafter _).bind fun last hlast ↦ hlast

end Properties

/-! ## Scalars -/

section Scalars

theorem isIn_plainBreaks (left : List Char) (atStart : Bool) (breaks : List Char)
    (h : cursor.IsIn text) : (plainBreaks atStart breaks cursor left).2.IsIn text := by
  induction left generalizing atStart breaks cursor with
  | nil => exact h
  | cons c left ih =>
    unfold plainBreaks
    split
    · exact h
    · split
      · exact ih _ _ h.advance
      · split
        · exact ih _ _ h.advance
        · exact h

theorem isIn_plainGap (h : cursor.IsIn text) : (plainGap cursor).2.2.IsIn text := by
  have hspaces := h.skipWhile (· == ' ')
  unfold plainGap
  dsimp only [Cursor.span]
  split
  · next c rest _ =>
    split
    · have hbreaks := isIn_plainBreaks rest true [] hspaces.advance
      split
      · next hread =>
        rw [hread] at hbreaks
        exact hbreaks
      · next hread =>
        rw [hread] at hbreaks
        exact hbreaks
    · exact hspaces
  · exact hspaces

theorem isIn_readPlainParts (inFlow : Bool) (indent fuel : Nat) (read gap : List Char)
    (broken : Bool) (h : cursor.IsIn text) :
    (readPlainParts inFlow indent fuel read gap broken cursor).2.2.IsIn text := by
  induction fuel generalizing read gap broken cursor with
  | zero => exact h
  | succ fuel ih =>
    unfold readPlainParts
    dsimp only
    split
    · exact h
    · have hgap := isIn_plainGap (h.advanceBy (plainPart inFlow cursor.rest).length)
      split
      · exact hgap
      · exact ih _ _ _ hgap

theorem stays_quotedBreaks (left : List Char) (atStart : Bool) (breaks : List Char)
    (h : cursor.IsIn text) : Stays text (·.2) (quotedBreaks atStart breaks cursor left) := by
  induction left generalizing atStart breaks cursor with
  | nil => exact h
  | cons c left ih =>
    unfold quotedBreaks
    split
    · exact trivial
    · split
      · exact ih _ _ h.advance
      · split
        · exact ih _ _ h.advance
        · exact h

/-- Behind a backslash. -/
theorem stays_readEscape (h : '\\' :: cursor.rest <:+ text) :
    Stays text (·.2) (readEscape cursor) := by
  have hin : cursor.IsIn text := (List.suffix_cons _ _).trans h
  unfold readEscape
  split
  · exact trivial
  · next c rest hrest =>
    split
    · exact hin.advance
    · next length _ hlength =>
      dsimp only
      split
      · next hdigits =>
        have hrow : '\\' :: c :: rest.take length <:+: text := by
          rw [hrest] at h
          refine List.IsInfix.trans ?_ h.isInfix
          exact (List.prefix_append_right_inj ['\\', c]).mpr (List.take_prefix length rest)
            |>.isInfix
        have hcode : Ends (fun _ ↦ True) (Refusal.IsFor (SyntaxFault text))
            (charOfCode (digitsValue 16 (rest.take length))) := by
          cases hread : charOfCode (digitsValue 16 (rest.take length)) with
          | ok meant => exact trivial
          | error refusal =>
            cases refusal with
            | malformed violation => exact trivial
            | value fault => exact .escape hrow (by rw [hlength, hdigits.1]) hread
        exact hcode.bind fun _ _ ↦ hin.advanceBy _
      · exact trivial
    · split
      · exact stays_quotedBreaks _ _ _ hin.advance
      · exact trivial

theorem stays_quotedGap (h : cursor.IsIn text) : Stays text (·.2) (quotedGap cursor) := by
  have hwhite := h.skipWhile isWhite
  unfold quotedGap
  dsimp only [Cursor.span]
  split
  · exact trivial
  · split
    · refine (stays_quotedBreaks _ true [] hwhite.advance).bind fun ⟨breaks, after⟩ hafter ↦ ?_
      exact hafter
    · exact hwhite

theorem stays_readQuotedBody (isDouble : Bool) (fuel : Nat) (read : List Char)
    (h : cursor.IsIn text) : Stays text (·.2) (readQuotedBody isDouble fuel read cursor) := by
  induction fuel generalizing read cursor with
  | zero => exact trivial
  | succ fuel ih =>
    unfold readQuotedBody
    split
    · exact trivial
    · next c rest hrest =>
      split
      · exact (stays_quotedGap h).bind fun ⟨gap, after⟩ hafter ↦ ih _ hafter
      · split
        · next hescape =>
          have hslash : c = '\\' := by simp_all
          have hbehind : '\\' :: cursor.advance.rest <:+ text := by
            rw [Cursor.rest_advance, hrest, List.tail_cons, ← hslash, ← hrest]
            exact h
          exact (stays_readEscape hbehind).bind fun ⟨meant, after⟩ hafter ↦ ih _ hafter
        · split
          · exact h.advance
          · split
            · split
              · exact ih _ (h.advanceBy 2)
              · exact h.advance
            · exact ih _ h.advance

theorem stays_readQuoted (isDouble : Bool) (h : cursor.IsIn text) :
    Stays text (·.2) (readQuoted isDouble cursor) :=
  stays_readQuotedBody isDouble _ [] h.advance

theorem stays_readBlockSigns (h : cursor.IsIn text) :
    Stays text (·.2.2) (readBlockSigns cursor) := by
  have hsigns (signs : Chomping × Option Nat × Nat) : Stays text (·.2.2)
      (if signs.2.1 = some 0 ∨ !endsWord (cursor.advanceBy signs.2.2).peek then
        .error (.malformed .scalar)
      else .ok (signs.1, signs.2.1, cursor.advanceBy signs.2.2)) := by
    split
    · exact trivial
    · exact h.advanceBy _
  exact hsigns _

theorem isIn_leadingBreaks (left breaks : List Char) (widest : Nat) (h : cursor.IsIn text) :
    (leadingBreaks breaks widest cursor left).2.2.IsIn text := by
  induction left generalizing breaks widest cursor with
  | nil => exact h
  | cons c left ih =>
    unfold leadingBreaks
    split
    · exact ih _ _ h.advance
    · split
      · exact ih _ _ h.advance
      · exact h

theorem isIn_blockBreaks (left : List Char) (indent : Nat) (breaks : List Char)
    (h : cursor.IsIn text) : (blockBreaks indent breaks cursor left).2.IsIn text := by
  induction left generalizing breaks cursor with
  | nil => exact h
  | cons c left ih =>
    unfold blockBreaks
    split
    · exact ih _ h.advance
    · split
      · exact ih _ h.advance
      · exact h

theorem isIn_readBlockLines (isFolded : Bool) (indent fuel : Nat) (read breaks : List Char)
    (h : cursor.IsIn text) :
    (readBlockLines isFolded indent fuel read breaks cursor).2.2.2.IsIn text := by
  induction fuel generalizing read breaks cursor with
  | zero => exact h
  | succ fuel ih =>
    unfold readBlockLines
    dsimp only [Cursor.span]
    split
    · exact h
    · have hnext := isIn_blockBreaks (cursor.skipWhile (!isBreak ·)).skipBreak.rest indent []
        (h.skipWhile (!isBreak ·)).skipBreak
      split
      · exact hnext
      · split
        · exact ih _ _ hnext
        · exact ih _ _ hnext

theorem stays_readBlock (isFolded : Bool) (least : Nat) (h : cursor.IsIn text) :
    Stays text (·.2) (readBlock isFolded least cursor) := by
  unfold readBlock
  refine (stays_readBlockSigns h.advance).bind fun ⟨chomping, given, after⟩ hafter ↦ ?_
  refine (Cursor.stays_skipLineRest hafter _).bind fun start hstart ↦ ?_
  dsimp only
  split
  · exact isIn_readBlockLines isFolded _ _ [] _ (isIn_blockBreaks _ _ [] hstart)
  · exact isIn_readBlockLines isFolded _ _ [] _ (isIn_leadingBreaks _ [] 0 hstart)

end Scalars

end AddonUpkeep.Yaml
