import AddonUpkeep.Proofs.Text.SmallForms
import AddonUpkeep.Proofs.Text.Trimming

/-!
# Lowering and trimming

A text in lower case stays as it is.  Blanks are neither cased nor skipped, so no word reaches over
them, and a text can be trimmed before it is lowered or after.
-/

namespace AddonUpkeep.Text

variable {c d : Char} {before behind blanks text : List Char}

/-- Two tables without a common range share no code point. -/
theorem not_inRanges_of_apart {ranges others : List (Nat × Nat)} {point : Nat}
    (h : (ranges.all fun range ↦ others.all fun other ↦
      Nat.blt range.2 other.1 || Nat.blt other.2 range.1) = true)
    (hpoint : inRanges ranges point = true) : inRanges others point = false := by
  rw [Bool.eq_false_iff]
  intro hother
  obtain ⟨range, hrange, hfirst, hlast⟩ := inRanges_iff.mp hpoint
  obtain ⟨other, hmem, hfirst', hlast'⟩ := inRanges_iff.mp hother
  have hapart := List.all_eq_true.mp (List.all_eq_true.mp h range hrange) other hmem
  rw [Bool.or_eq_true, Nat.blt_eq, Nat.blt_eq] at hapart
  omega

/-- A blank is neither a cased letter nor skipped in the search for one. -/
theorem not_cased_of_isBlank (hc : isBlank c = true) :
    isCased c = false ∧ isCaseIgnorable c = false := by
  have hapart : inRanges (casedRanges ++ caseIgnorableRanges) c.toNat = false :=
    not_inRanges_of_apart (by decide +kernel) hc
  rw [inRanges, List.any_append, Bool.or_eq_false_iff] at hapart
  exact hapart

/-- Beyond a blank no cased letter is met. -/
theorem metCased_append (hblanks : ∀ c ∈ blanks, isBlank c = true) (text : List Char) :
    metCased (text ++ blanks) = metCased text := by
  have hmet : metCased blanks = false := by
    cases blanks with
    | nil => rfl
    | cons c blanks =>
      have hc := hblanks c List.mem_cons_self
      rw [metCased, List.dropWhile_cons_of_neg (by rw [(not_cased_of_isBlank hc).2]; decide)]
      exact (not_cased_of_isBlank hc).1
  unfold metCased at hmet ⊢
  rw [List.dropWhile_append]
  cases hkept : text.dropWhile isCaseIgnorable with
  | nil => exact hmet
  | cons c rest => rfl

/-- The small form of a character in its place. -/
def formAt (before : List Char) (c : Char) (after : List Char) : List Char :=
  if c = capitalSigma then [sigmaBetween before after] else lowerChar c

theorem lowerAfter_cons (before : List Char) (c : Char) (after : List Char) :
    lowerAfter before (c :: after) = formAt before c after ++ lowerAfter (c :: before) after := rfl

theorem sigmaBetween_eq (before after : List Char) :
    sigmaBetween before after = finalSigma ∨ sigmaBetween before after = smallSigma :=
  ite_eq_or_eq _ _ _

theorem formAt_ne_nil (before : List Char) (c : Char) (after : List Char) :
    formAt before c after ≠ [] := by
  unfold formAt
  split
  · exact List.cons_ne_nil _ _
  · exact lowerChar_ne_nil c

theorem lowerChar_of_mem_formAt {after : List Char} (hd : d ∈ formAt before c after) :
    lowerChar d = [d] := by
  unfold formAt at hd
  split at hd
  · rw [List.mem_singleton.mp hd]
    rcases sigmaBetween_eq before after with h | h <;> rw [h] <;> rfl
  · exact lowerChar_of_mem hd

theorem isBlank_of_mem_formAt {after : List Char} (hd : d ∈ formAt before c after) :
    isBlank d = isBlank c := by
  unfold formAt at hd
  split at hd
  · next hc =>
    rw [List.mem_singleton.mp hd, hc]
    rcases sigmaBetween_eq before after with h | h <;> rw [h] <;> decide
  · exact isBlank_of_mem_lowerChar hd

/-- A character that is its own small form is no capital sigma, so its place does not count. -/
theorem formAt_of_lowerChar (hc : lowerChar c = [c]) (before after : List Char) :
    formAt before c after = [c] := by
  rw [formAt, if_neg, hc]
  rintro rfl
  have hform : lowerChar capitalSigma = [smallSigma] := rfl
  rw [hform] at hc
  revert hc
  decide

/-- A text of small forms is in lower case. -/
theorem lowerAfter_eq_self (h : ∀ c ∈ text, lowerChar c = [c]) (before : List Char) :
    lowerAfter before text = text := by
  induction text generalizing before with
  | nil => rfl
  | cons c after ih =>
    obtain ⟨hc, hafter⟩ := List.forall_mem_cons.mp h
    rw [lowerAfter_cons, formAt_of_lowerChar hc, ih hafter]
    rfl

theorem lowerChar_of_mem_lowerAfter (hd : d ∈ lowerAfter before text) : lowerChar d = [d] := by
  induction text generalizing before with
  | nil => cases hd
  | cons c after ih =>
    rw [lowerAfter_cons, List.mem_append] at hd
    exact hd.elim lowerChar_of_mem_formAt ih

/-- Blanks before a text are not seen from it. -/
theorem lowerAfter_append_blanks (hblanks : ∀ c ∈ blanks, isBlank c = true) (before : List Char) :
    lowerAfter (before ++ blanks) text = lowerAfter before text := by
  induction text generalizing before with
  | nil => rfl
  | cons c after ih =>
    have hsigma : sigmaBetween (before ++ blanks) after = sigmaBetween before after := by
      rw [sigmaBetween, metCased_append hblanks, sigmaBetween]
    rw [lowerAfter_cons, lowerAfter_cons, formAt, hsigma, ← formAt]
    rw [← List.cons_append, ih]

/-- Blanks behind a text are not seen from it, and stay. -/
theorem lowerAfter_append (hbehind : ∀ c ∈ behind, isBlank c = true) (before : List Char) :
    lowerAfter before (text ++ behind) = lowerAfter before text ++ behind := by
  induction text generalizing before with
  | nil => exact lowerAfter_eq_self (fun c hc ↦ lowerChar_of_isBlank (hbehind c hc)) before
  | cons c after ih =>
    have hsigma : sigmaBetween before (after ++ behind) = sigmaBetween before after := by
      rw [sigmaBetween, metCased_append hbehind, sigmaBetween]
    rw [List.cons_append, lowerAfter_cons, lowerAfter_cons, formAt, hsigma, ← formAt, ih,
      List.append_assoc]

/-- Blanks in front of a text stay. -/
theorem lowerAfter_blanks (hblanks : ∀ c ∈ blanks, isBlank c = true) (before : List Char) :
    lowerAfter before (blanks ++ text) = blanks ++ lowerAfter (blanks.reverse ++ before) text := by
  induction blanks generalizing before with
  | nil => rfl
  | cons c blanks ih =>
    obtain ⟨hc, hrest⟩ := List.forall_mem_cons.mp hblanks
    rw [List.cons_append, lowerAfter_cons, formAt_of_lowerChar (lowerChar_of_isBlank hc), ih hrest,
      List.reverse_cons, List.append_assoc]
    rfl

theorem lowerChars_surrounded (hbefore : ∀ c ∈ before, isBlank c = true)
    (hbehind : ∀ c ∈ behind, isBlank c = true) (text : List Char) :
    lowerChars (before ++ text ++ behind) = before ++ lowerChars text ++ behind := by
  have hreverse : ∀ c ∈ before.reverse, isBlank c = true :=
    fun c hc ↦ hbefore c (List.mem_reverse.mp hc)
  have hunseen : lowerAfter before.reverse text = lowerAfter [] text :=
    lowerAfter_append_blanks hreverse []
  unfold lowerChars
  rw [lowerAfter_append hbehind, lowerAfter_blanks hbefore, List.append_nil, hunseen]

/-- The first character of a text in lower case is blank when that of the text is. -/
theorem head?_lowerAfter (before text : List Char) :
    (lowerAfter before text).head?.map isBlank = text.head?.map isBlank := by
  cases text with
  | nil => rfl
  | cons c after =>
    rw [lowerAfter_cons, List.head?_append_of_ne_nil _ (formAt_ne_nil before c after)]
    cases hform : formAt before c after with
    | nil => exact absurd hform (formAt_ne_nil before c after)
    | cons d rest =>
      have hd : d ∈ formAt before c after := by rw [hform]; exact List.mem_cons_self
      rw [List.head?_cons, List.head?_cons, Option.map_some, Option.map_some,
        isBlank_of_mem_formAt hd]

/-- The last character of a text in lower case is blank when that of the text is. -/
theorem getLast?_lowerAfter (before text : List Char) :
    (lowerAfter before text).getLast?.map isBlank = text.getLast?.map isBlank := by
  induction text generalizing before with
  | nil => rfl
  | cons c after ih =>
    rw [lowerAfter_cons, List.getLast?_append, Option.map_or, ih, List.getLast?_cons]
    cases hlast : after.getLast? with
    | some d => rfl
    | none =>
      obtain ⟨d, hd⟩ : ∃ d, (formAt before c after).getLast? = some d :=
        ⟨_, List.getLast?_eq_some_getLast (formAt_ne_nil before c after)⟩
      have hsame := isBlank_of_mem_formAt (List.mem_of_getLast? hd)
      rw [hd, Option.map_some, hsame]
      rfl

/-- A text that has no blanks at its ends has none at its ends in lower case. -/
theorem trimBlanks_lowerChars_of_trimmed (h : trimBlanks text = text) :
    trimBlanks (lowerChars text) = lowerChars text := by
  rw [trimBlanks_eq_self_iff] at h ⊢
  rw [lowerChars, head?_lowerAfter, getLast?_lowerAfter]
  exact h

/-- Trimming before lowering and behind it are the same. -/
theorem trimBlanks_lowerChars (text : List Char) :
    trimBlanks (lowerChars text) = lowerChars (trimBlanks text) := by
  obtain ⟨before, behind, hbefore, hbehind, htext⟩ := exists_surrounded text
  calc trimBlanks (lowerChars text)
      = trimBlanks (before ++ lowerChars (trimBlanks text) ++ behind) := by
        rw [← lowerChars_surrounded hbefore hbehind, ← htext]
    _ = trimBlanks (lowerChars (trimBlanks text)) := trimBlanks_surrounded hbefore hbehind _
    _ = lowerChars (trimBlanks text) :=
        trimBlanks_lowerChars_of_trimmed (trimBlanks_trimBlanks text)

theorem trim_lower (text : String) : trim (lower text) = lower (trim text) := by
  rw [← String.toList_inj, toList_trim, toList_lower, toList_lower, toList_trim,
    trimBlanks_lowerChars]

theorem trim_trim (text : String) : trim (trim text) = trim text := by
  rw [← String.toList_inj, toList_trim, toList_trim, trimBlanks_trimBlanks]

theorem lower_lower (text : String) : lower (lower text) = lower text := by
  rw [← String.toList_inj, toList_lower, toList_lower]
  exact lowerAfter_eq_self (fun _ ↦ lowerChar_of_mem_lowerAfter) []

end AddonUpkeep.Text
