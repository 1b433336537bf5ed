import AddonUpkeep.Json.Parser
import AddonUpkeep.Json.Printer
import AddonUpkeep.Proofs.Number.Digits

/-!
# Printed texts are read back

Every character of a text is read back from its written form, those beyond the basic plane from the
two units that they are written by.
-/

namespace AddonUpkeep.Json

open AddonUpkeep.Text AddonUpkeep.Number

variable {opening after read : List Char}

/-- Skipped characters leave no trace. -/
theorem readText_skip (skipped : List Char) :
    readText opening skipped.length read (skipped ++ after) = readText opening 0 read after := by
  induction skipped with
  | nil => rfl
  | cons c skipped ih => exact ih

theorem readText_escape {meant : Char} {used : List Char}
    (h : readEscape opening (used ++ after) = .ok (meant, used.length)) :
    readText opening 0 read ('\\' :: (used ++ after)) = readText opening 0 (meant :: read) after := by
  have hmark : '\\' ≠ quotationMark := by decide
  rw [readText, if_neg hmark, if_pos rfl, h]
  exact readText_skip used

theorem readText_plain {c : Char} (hmark : c ≠ quotationMark) (hslash : c ≠ '\\')
    (hcontrol : ¬ c.toNat < 0x20) :
    readText opening 0 read (c :: after) = readText opening 0 (c :: read) after := by
  rw [readText, if_neg hmark, if_neg hslash, if_neg hcontrol]

/-- The letter behind a backslash that stands for a character. -/
theorem readText_letter {letter meant : Char} (hu : letter ≠ 'u')
    (h : escapedBy? letter = some meant) :
    readText opening 0 read ('\\' :: letter :: after) =
      readText opening 0 (meant :: read) after := by
  have hread : readEscape opening ([letter] ++ after) = .ok (meant, [letter].length) := by
    unfold readEscape
    dsimp only [List.singleton_append]
    rw [if_neg hu, h]
    rfl
  exact readText_escape hread

/-- Four hexadecimal digits denote the unit that they are written for. -/
theorem hexDigits_eq (unit : Nat) (h : unit < 0x10000) :
    ∃ a b c d, hexDigits 4 unit = [a, b, c, d] ∧ hexValue? [a, b, c, d] = some unit := by
  have hlength : (Nat.toDigits 16 unit).length ≤ 4 :=
    (Nat.length_toDigits_le_iff (by decide) (by decide)).mpr h
  have hwidth : (hexDigits 4 unit).length = 4 := by
    unfold hexDigits
    rw [List.length_append, List.length_replicate]
    omega
  have hall : (hexDigits 4 unit).all isHexDigit = true := by
    rw [List.all_eq_true]
    intro c hc
    rcases List.mem_append.mp hc with hzero | hdigit
    · rw [List.eq_of_mem_replicate hzero]
      rfl
    · exact forall_mem_toDigits (P := fun c ↦ isHexDigit c = true) (by decide)
        (fun _ hlt ↦ isHexDigit_digitChar hlt) unit c hdigit
  have hvalue : digitsValue 16 (hexDigits 4 unit) = unit := by
    unfold hexDigits
    rw [digitsValue_zeros_append, digitsValue_toDigits (by decide) (by decide)]
  obtain ⟨a, b, c, d, hdigits⟩ : ∃ a b c d, hexDigits 4 unit = [a, b, c, d] := by
    match hexDigits 4 unit, hwidth with
    | [a, b, c, d], _ => exact ⟨a, b, c, d, rfl⟩
  refine ⟨a, b, c, d, hdigits, ?_⟩
  rw [← hdigits, hexValue?, if_pos hall, hvalue]

/-- A unit that is no surrogate stands for its character. -/
theorem readText_unit {c : Char} (hbasic : c.toNat < 0x10000) (hafter : after ≠ []) :
    readText opening 0 read (unitEscape c.toNat ++ after) =
      readText opening 0 (c :: read) after := by
  obtain ⟨x, y, z, w, hdigits, hvalue⟩ := hexDigits_eq c.toNat hbasic
  have hvalid : c.toNat < 0xD800 ∨ 0xDFFF < c.toNat ∧ c.toNat < 0x110000 := c.valid
  have hhigh : isHighSurrogate c.toNat = false := by
    unfold isHighSurrogate
    rw [Bool.and_eq_false_iff, decide_eq_false_iff_not, decide_eq_false_iff_not]
    omega
  have hlow : isLowSurrogate c.toNat = false := by
    unfold isLowSurrogate
    rw [Bool.and_eq_false_iff, decide_eq_false_iff_not, decide_eq_false_iff_not]
    omega
  have hmeant : charOfUnit c.toNat = c := by
    unfold charOfUnit
    rw [hhigh, hlow]
    exact Char.ofNat_toNat c
  obtain ⟨next, rest, rfl⟩ := List.exists_cons_of_ne_nil hafter
  have hunit : readUnit (x :: y :: z :: w :: next :: rest) = .ok (c, 4) := by
    unfold readUnit
    dsimp only
    rw [hvalue]
    dsimp only
    split
    · rw [hhigh, if_neg (by decide), hmeant]
    · rw [hmeant]
  have hread : readEscape opening (['u', x, y, z, w] ++ next :: rest) =
      .ok (c, ['u', x, y, z, w].length) := by
    change (readUnit (x :: y :: z :: w :: next :: rest)).map _ = _
    rw [hunit]
    rfl
  have htext : unitEscape c.toNat ++ next :: rest =
      '\\' :: (['u', x, y, z, w] ++ next :: rest) := by
    unfold unitEscape
    rw [hdigits]
    rfl
  rw [htext]
  exact readText_escape hread

/-- A character beyond the basic plane is read from its two units. -/
theorem readText_pair {c : Char} (hbeyond : ¬ c.toNat < 0x10000) (hafter : after ≠ []) :
    readText opening 0 read (unitEscape (0xD800 + (c.toNat - 0x10000) / 0x400) ++
        unitEscape (0xDC00 + (c.toNat - 0x10000) % 0x400) ++ after) =
      readText opening 0 (c :: read) after := by
  have hvalid : c.toNat < 0xD800 ∨ 0xDFFF < c.toNat ∧ c.toNat < 0x110000 := c.valid
  obtain ⟨offset, hoffset, htop⟩ : ∃ offset, c.toNat = 0x10000 + offset ∧ offset < 0x100000 :=
    ⟨c.toNat - 0x10000, by omega, by omega⟩
  have hsub : c.toNat - 0x10000 = offset := by omega
  rw [hsub]
  set high := 0xD800 + offset / 0x400 with hhigh
  set low := 0xDC00 + offset % 0x400 with hlow
  obtain ⟨x, y, z, w, hdigits, hvalue⟩ := hexDigits_eq high (by omega)
  obtain ⟨x', y', z', w', hdigits', hvalue'⟩ := hexDigits_eq low (by omega)
  have hishigh : isHighSurrogate high = true := by
    unfold isHighSurrogate
    rw [Bool.and_eq_true, decide_eq_true_eq, decide_eq_true_eq]
    omega
  have hislow : isLowSurrogate low = true := by
    unfold isLowSurrogate
    rw [Bool.and_eq_true, decide_eq_true_eq, decide_eq_true_eq]
    omega
  have hmeant : charOfPair high low = c := by
    have hsum : 0x10000 + (high - 0xD800) * 0x400 + (low - 0xDC00) = c.toNat := by omega
    unfold charOfPair
    rw [hsum]
    exact Char.ofNat_toNat c
  obtain ⟨next, rest, rfl⟩ := List.exists_cons_of_ne_nil hafter
  have hunit : readUnit (x :: y :: z :: w :: '\\' :: 'u' :: x' :: y' :: z' :: w' :: next :: rest) =
      .ok (c, 10) := by
    unfold readUnit
    dsimp only
    rw [hvalue]
    simp [hishigh, hvalue', hislow, hmeant]
  have hread : readEscape opening (['u', x, y, z, w, '\\', 'u', x', y', z', w'] ++ next :: rest) =
      .ok (c, ['u', x, y, z, w, '\\', 'u', x', y', z', w'].length) := by
    change (readUnit (x :: y :: z :: w :: '\\' :: 'u' :: x' :: y' :: z' :: w' :: next :: rest)).map
      _ = _
    rw [hunit]
    rfl
  have htext : unitEscape high ++ unitEscape low ++ next :: rest =
      '\\' :: (['u', x, y, z, w, '\\', 'u', x', y', z', w'] ++ next :: rest) := by
    unfold unitEscape
    rw [hdigits, hdigits']
    rfl
  rw [htext]
  exact readText_escape hread

/-- One character is read from its written form. -/
theorem readText_escapedChar (c : Char) (hafter : after ≠ []) :
    readText opening 0 read (escapedChar c ++ after) = readText opening 0 (c :: read) after := by
  unfold escapedChar
  split_ifs with hmark hslash hfeed hreturn htab hback hpage hprintable hbasic
  · rw [hmark]
    exact readText_letter (by decide) rfl
  · rw [hslash]
    exact readText_letter (by decide) rfl
  · rw [hfeed]
    exact readText_letter (by decide) rfl
  · rw [hreturn]
    exact readText_letter (by decide) rfl
  · rw [htab]
    exact readText_letter (by decide) rfl
  · rw [hback]
    exact readText_letter (by decide) rfl
  · rw [hpage]
    exact readText_letter (by decide) rfl
  · exact readText_plain hmark hslash (by omega)
  · exact readText_unit hbasic hafter
  · exact readText_pair hbasic hafter

/-- A text is read up to its closing mark. -/
theorem readText_escaped (text : List Char) :
    readText opening 0 read (text.flatMap escapedChar ++ quotationMark :: after) =
      .ok (String.ofList (read.reverse ++ text), after) := by
  induction text generalizing read with
  | nil =>
    rw [List.flatMap_nil, List.nil_append, readText, if_pos rfl, List.append_nil]
  | cons c text ih =>
    rw [List.flatMap_cons, List.append_assoc, readText_escapedChar c (by simp), ih,
      List.reverse_cons, List.append_assoc, List.singleton_append]

/-- A printed text is read back. -/
theorem readText_textChars (text : String) (after : List Char) :
    ∃ body, textChars text ++ after = quotationMark :: body ∧
      ∀ opening, readText opening 0 [] body = .ok (text, after) := by
  refine ⟨text.toList.flatMap escapedChar ++ quotationMark :: after, ?_, fun opening ↦ ?_⟩
  · simp [textChars]
  · rw [readText_escaped, List.reverse_nil, List.nil_append, String.ofList_toList]

end AddonUpkeep.Json
