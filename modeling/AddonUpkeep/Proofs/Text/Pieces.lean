import AddonUpkeep.Text.Pieces

/-!
# Parts and pieces of a text

A text starts with a part when the rest follows behind it, and it holds a part when the part is a
row of neighbouring characters of it.  Cutting at a separator undoes joining pieces that do not hold
it.
-/

namespace AddonUpkeep.Text

variable {start part text rest : List Char}

theorem dropStart?_eq_some_iff : dropStart? start text = some rest ↔ text = start ++ rest := by
  induction start generalizing text with
  | nil => exact ⟨fun h ↦ Option.some.inj h, fun h ↦ congrArg some h⟩
  | cons s start ih =>
    cases text with
    | nil => simp [dropStart?]
    | cons c text =>
      rw [dropStart?, List.cons_append, List.cons.injEq]
      split
      · next heq =>
        rw [ih]
        exact ⟨fun h ↦ ⟨heq.symm, h⟩, fun h ↦ h.2⟩
      · next hne => exact ⟨fun h ↦ absurd h (by simp), fun h ↦ absurd h.1.symm hne⟩

theorem isSome_dropStart?_iff : (dropStart? start text).isSome = true ↔ start <+: text := by
  rw [Option.isSome_iff_exists]
  constructor
  · rintro ⟨rest, h⟩
    exact ⟨rest, (dropStart?_eq_some_iff.mp h).symm⟩
  · rintro ⟨rest, h⟩
    exact ⟨rest, dropStart?_eq_some_iff.mpr h.symm⟩

theorem occursIn_iff : occursIn part text = true ↔ part <:+: text := by
  induction text with
  | nil => rw [occursIn, List.isEmpty_iff, List.infix_nil]
  | cons c text ih =>
    rw [occursIn, Bool.or_eq_true, isSome_dropStart?_iff, ih, List.infix_cons_iff]

/-- A text holds a part when the characters of the part stand in it one behind the other. -/
theorem holds_iff {text part : String} : holds text part = true ↔ part.toList <:+: text.toList :=
  occursIn_iff

/-- No piece holds the separator. -/
theorem not_mem_of_mem_pieces {separator : Char} {text piece : List Char}
    (h : piece ∈ pieces separator text) : separator ∉ piece := by
  induction text generalizing piece with
  | nil =>
    have hp : piece = [] := by simpa [pieces] using h
    simp [hp]
  | cons c rest ih =>
    by_cases hc : c = separator
    · rcases List.mem_cons.mp (by simpa [pieces, hc] using h) with rfl | hrest
      · simp
      · exact ih hrest
    · cases hp : pieces separator rest with
      | nil => exact absurd hp (pieces_ne_nil separator rest)
      | cons first more =>
        rw [hp] at ih
        rcases List.mem_cons.mp (by simpa [pieces, hc, hp] using h) with rfl | hmore
        · have hfirst : separator ∉ first := ih (by simp)
          simp [hfirst, Ne.symm hc]
        · exact ih (by simp [hmore])

theorem pieces_of_not_mem {separator : Char} (h : separator ∉ text) :
    pieces separator text = [text] := by
  induction text with
  | nil => rfl
  | cons c text ih =>
    have hc : ¬ c = separator := fun heq ↦ h (heq ▸ List.mem_cons_self)
    have hrest : separator ∉ text := fun hmem ↦ h (List.mem_cons_of_mem c hmem)
    rw [pieces, if_neg hc, ih hrest]

/-- The text in front of the first separator is the first piece. -/
theorem pieces_append {separator : Char} (h : separator ∉ start) (rest : List Char) :
    pieces separator (start ++ separator :: rest) = start :: pieces separator rest := by
  induction start with
  | nil => rw [List.nil_append, pieces, if_pos rfl]
  | cons c start ih =>
    have hc : ¬ c = separator := fun heq ↦ h (heq ▸ List.mem_cons_self)
    have hrest : separator ∉ start := fun hmem ↦ h (List.mem_cons_of_mem c hmem)
    rw [List.cons_append, pieces, if_neg hc, ih hrest]

/-- Cutting undoes joining when no piece holds the separator. -/
theorem pieces_joinPieces {separator : Char} {parts : List (List Char)} (hne : parts ≠ [])
    (h : ∀ part ∈ parts, separator ∉ part) :
    pieces separator (joinPieces [separator] parts) = parts := by
  induction parts with
  | nil => exact absurd rfl hne
  | cons part more ih =>
    obtain ⟨hpart, hmore⟩ := List.forall_mem_cons.mp h
    cases more with
    | nil => exact pieces_of_not_mem hpart
    | cons next more =>
      rw [joinPieces, List.append_assoc, List.singleton_append, pieces_append hpart,
        ih (List.cons_ne_nil next more) hmore]
      exact List.cons_ne_nil next more

/-- A part of a text that is joined stands in it. -/
theorem infix_joinPieces {separator piece : List Char} {parts : List (List Char)}
    (h : piece ∈ parts) : piece <:+: joinPieces separator parts := by
  induction parts with
  | nil => cases h
  | cons part more ih =>
    cases more with
    | nil => exact List.mem_singleton.mp h ▸ List.infix_rfl
    | cons next more =>
      rw [joinPieces]
      · rcases List.mem_cons.mp h with rfl | hmore
        · rw [List.append_assoc]
          exact (List.prefix_append _ _).isInfix
        · exact (ih hmore).trans (List.suffix_append _ _).isInfix
      · exact List.cons_ne_nil next more

theorem mem_joinPieces {separator : List Char} {parts : List (List Char)} {c : Char}
    (h : c ∈ joinPieces separator parts) : c ∈ separator ∨ ∃ piece ∈ parts, c ∈ piece := by
  induction parts with
  | nil => cases h
  | cons piece more ih =>
    cases more with
    | nil => exact .inr ⟨piece, List.mem_cons_self, h⟩
    | cons next more =>
      rw [joinPieces, List.mem_append, List.mem_append] at h
      · rcases h with (hfirst | hbetween) | hlater
        · exact .inr ⟨piece, List.mem_cons_self, hfirst⟩
        · exact .inl hbetween
        · rcases ih hlater with hbetween | ⟨found, hfound, hc⟩
          · exact .inl hbetween
          · exact .inr ⟨found, List.mem_cons_of_mem piece hfound, hc⟩
      · exact List.cons_ne_nil next more

end AddonUpkeep.Text
