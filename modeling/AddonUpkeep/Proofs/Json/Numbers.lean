import AddonUpkeep.Json.Parser
import AddonUpkeep.Json.Printer
import AddonUpkeep.Proofs.Number.Decimal

/-!
# Printed numbers are read back

A printed number in front of a text that does not go on as a number is read as that number, and the
text is left.
-/

namespace AddonUpkeep.Json

open AddonUpkeep.Text AddonUpkeep.Number

/-- The text does not go on as a number would. -/
def NumberEnds (rest : List Char) : Prop :=
  ∀ c ∈ rest.head?, isAsciiDigit c = false ∧ c ≠ '.' ∧ c ≠ 'e' ∧ c ≠ 'E'

/-- A text behind a sign, which is written for negative numbers only. -/
def signed (negative : Bool) (text : List Char) : List Char :=
  if negative then '-' :: text else text

section Parts

variable {digits rest : List Char}

theorem takeWhile_digits (hdigits : ∀ c ∈ digits, isAsciiDigit c = true)
    (hrest : ∀ c ∈ rest.head?, isAsciiDigit c = false) :
    (digits ++ rest).takeWhile isAsciiDigit = digits ∧
      (digits ++ rest).dropWhile isAsciiDigit = rest := by
  have hstop : rest.takeWhile isAsciiDigit = [] ∧ rest.dropWhile isAsciiDigit = rest := by
    cases rest with
    | nil => exact ⟨rfl, rfl⟩
    | cons c rest =>
      have hc : isAsciiDigit c = false := hrest c rfl
      simp [hc]
  rw [List.takeWhile_append_of_pos hdigits, List.dropWhile_append_of_pos hdigits, hstop.1, hstop.2]
  exact ⟨List.append_nil _, rfl⟩

/-- The digits of a whole part are taken when no digit follows and no zero leads. -/
theorem wholeDigits_append {c : Char} (hc : isAsciiDigit c = true)
    (hdigits : ∀ c ∈ digits, isAsciiDigit c = true) (hzero : c = '0' → digits = [])
    (hrest : ∀ c ∈ rest.head?, isAsciiDigit c = false) :
    wholeDigits (c :: digits ++ rest) = (c :: digits, rest) := by
  by_cases hlead : c = '0'
  · rw [hzero hlead, hlead]
    rfl
  · have hall : ∀ other ∈ c :: digits, isAsciiDigit other = true := by
      simpa [hc] using hdigits
    obtain ⟨htake, hdrop⟩ := takeWhile_digits hall hrest
    unfold wholeDigits
    split
    · next heq => exact absurd (List.cons.inj heq).1 hlead
    · rw [htake, hdrop]

theorem fractionDigits_append (hne : digits ≠ [])
    (hdigits : ∀ c ∈ digits, isAsciiDigit c = true)
    (hrest : ∀ c ∈ rest.head?, isAsciiDigit c = false) :
    fractionDigits ('.' :: (digits ++ rest)) = (digits, rest) := by
  cases digits with
  | nil => exact absurd rfl hne
  | cons c digits =>
    have hc : isAsciiDigit c = true := hdigits c (by simp)
    have hmore : ∀ other ∈ digits, isAsciiDigit other = true :=
      fun other h ↦ hdigits other (List.mem_cons_of_mem c h)
    obtain ⟨htake, hdrop⟩ := takeWhile_digits hmore hrest
    change (if isAsciiDigit c then
      (c :: (digits ++ rest).takeWhile isAsciiDigit, (digits ++ rest).dropWhile isAsciiDigit)
      else _) = _
    rw [if_pos hc, htake, hdrop]

theorem fractionDigits_of_ne (h : ∀ c ∈ rest.head?, c ≠ '.') : fractionDigits rest = ([], rest) := by
  unfold fractionDigits
  split
  · exact absurd rfl (h '.' rfl)
  · rfl

theorem exponentDigits_of_ne (h : ∀ c ∈ rest.head?, c ≠ 'e' ∧ c ≠ 'E') :
    exponentDigits rest = (none, rest) := by
  cases rest with
  | nil => rfl
  | cons c rest =>
    obtain ⟨hlower, hupper⟩ := h c rfl
    simp [exponentDigits, hlower, hupper]

theorem exponentDigits_append (exponent : Int)
    (hrest : ∀ c ∈ rest.head?, isAsciiDigit c = false) :
    exponentDigits ('e' :: exponentText exponent ++ rest) = (some exponent, rest) := by
  set shown : List Char :=
    List.replicate (2 - (Nat.toDigits 10 exponent.natAbs).length) '0' ++
      Nat.toDigits 10 exponent.natAbs with hshown
  have hall : ∀ c ∈ shown, isAsciiDigit c = true := by
    intro c hc
    rcases List.mem_append.mp hc with hzero | hdigit
    · rw [List.eq_of_mem_replicate hzero]
      rfl
    · exact isAsciiDigit_of_mem_toDigits hdigit
  have hvalue : digitsValue 10 shown = exponent.natAbs := by
    rw [hshown, digitsValue_zeros_append, digitsValue_toDigits (by decide) (by decide)]
  have hne : shown ≠ [] := by
    rw [hshown]
    simp
  obtain ⟨htake, hdrop⟩ := takeWhile_digits hall hrest
  -- the sign is written in any case, and tells what the digits count
  by_cases hneg : exponent < 0
  · have htext : 'e' :: exponentText exponent ++ rest = 'e' :: '-' :: (shown ++ rest) := by
      simp [exponentText, hneg, hshown]
    rw [htext]
    simp [exponentDigits, takeSign, htake, hdrop, hne, hvalue, abs_of_neg hneg]
  · have htext : 'e' :: exponentText exponent ++ rest = 'e' :: '+' :: (shown ++ rest) := by
      simp [exponentText, hneg, hshown]
    rw [htext]
    simp [exponentDigits, takeSign, htake, hdrop, hne, hvalue, not_lt.mp hneg]

end Parts

section Whole

variable {unsigned after rest whole fraction : List Char} {exponent? : Option Int}

/-- What follows the sign is what the digits are read from. -/
theorem readNumber_signed (negative : Bool) (hwhole : wholeDigits unsigned = (whole, after))
    (hne : whole ≠ []) :
    readNumber (signed negative unsigned) =
      (let (fraction, rest) := fractionDigits after
      let (exponent, rest) := exponentDigits rest
      if fraction.isEmpty && exponent.isNone then
        if digitLimit < whole.length then .error (.longInteger whole.length)
        else
          let value : Int := digitsValue 10 whole
          .ok (int (if negative then -value else value), rest)
      else
        let digits := digitsValue 10 (whole ++ fraction)
        .ok (float (.ofDecimal negative digits (exponent.getD 0 - fraction.length)), rest)) := by
  have hempty : whole.isEmpty = false := by simp [hne]
  cases negative with
  | true => simp [readNumber, signed, hwhole, hempty]
  | false =>
    cases unsigned with
    | nil => simp [wholeDigits, hne.symm] at hwhole
    | cons c unsigned =>
      have hc : c ≠ '-' := by
        rintro rfl
        have hdash : isAsciiDigit '-' = false := by decide
        simp [wholeDigits, hdash, hne.symm] at hwhole
      simp [readNumber, signed, hc, hwhole, hempty]

/-- A whole part alone is read as an integer. -/
theorem readNumber_whole (negative : Bool) (hwhole : wholeDigits unsigned = (whole, rest))
    (hne : whole ≠ []) (hshort : whole.length ≤ digitLimit) (hrest : NumberEnds rest) :
    readNumber (signed negative unsigned) =
      .ok (int (if negative then -(digitsValue 10 whole : Int) else digitsValue 10 whole), rest) := by
  have hfraction : fractionDigits rest = ([], rest) :=
    fractionDigits_of_ne fun c hc ↦ (hrest c hc).2.1
  have hexponent : exponentDigits rest = (none, rest) :=
    exponentDigits_of_ne fun c hc ↦ (hrest c hc).2.2
  have hlimit : ¬ digitLimit < whole.length := by omega
  rw [readNumber_signed negative hwhole hne]
  simp [hfraction, hexponent, hlimit]

/-- A number with a fraction or an exponent is read as a decimal. -/
theorem readNumber_decimal (negative : Bool) (hwhole : wholeDigits unsigned = (whole, after))
    (hne : whole ≠ []) {last : List Char} (hfraction : fractionDigits after = (fraction, last))
    (hexponent : exponentDigits last = (exponent?, rest)) (hpart : fraction ≠ [] ∨ exponent? ≠ none) :
    readNumber (signed negative unsigned) =
      .ok (float (.ofDecimal negative (digitsValue 10 (whole ++ fraction))
        (exponent?.getD 0 - fraction.length)), rest) := by
  have hdecimal : (fraction.isEmpty && exponent?.isNone) = false := by
    rcases hpart with hfraction | hexponent
    · simp [hfraction]
    · obtain ⟨value, hvalue⟩ := Option.ne_none_iff_exists'.mp hexponent
      simp [hvalue]
  rw [readNumber_signed negative hwhole hne]
  simp only [hfraction, hexponent, hdecimal]
  simp

end Whole

section Layouts

variable {c : Char} {more fraction rest : List Char}

/-- Digits around a point. -/
theorem readNumber_pointed (negative : Bool) (hc : isAsciiDigit c = true)
    (hmore : ∀ c ∈ more, isAsciiDigit c = true) (hzero : c = '0' → more = [])
    (hne : fraction ≠ []) (hfraction : ∀ c ∈ fraction, isAsciiDigit c = true) (hrest : NumberEnds rest) :
    readNumber (signed negative (c :: more ++ '.' :: (fraction ++ rest))) =
      .ok (float (.ofDecimal negative (digitsValue 10 (c :: more ++ fraction))
        (0 - fraction.length)), rest) := by
  have hpoint : ∀ c ∈ ('.' :: (fraction ++ rest)).head?, isAsciiDigit c = false := by
    intro c hc
    cases hc
    decide
  have hwhole := wholeDigits_append hc hmore hzero hpoint
  have hread := fractionDigits_append hne hfraction fun c hc ↦ (hrest c hc).1
  have hexponent : exponentDigits rest = (none, rest) :=
    exponentDigits_of_ne fun c hc ↦ (hrest c hc).2.2
  rw [readNumber_decimal negative hwhole (by simp) hread hexponent (.inl hne), Option.getD_none]

/-- A digit, more digits behind a point if there are any, and an exponent. -/
theorem readNumber_scientific (negative : Bool) (hc : isAsciiDigit c = true)
    (hfraction : ∀ c ∈ fraction, isAsciiDigit c = true) (exponent : Int) (hrest : NumberEnds rest) :
    readNumber (signed negative (c :: ((if fraction.isEmpty then [] else '.' :: fraction) ++
        ('e' :: exponentText exponent ++ rest)))) =
      .ok (float (.ofDecimal negative (digitsValue 10 (c :: fraction))
        (exponent - fraction.length)), rest) := by
  have hmark : ∀ c ∈ ('e' :: exponentText exponent ++ rest).head?, isAsciiDigit c = false := by
    intro c hc
    cases hc
    decide
  have hexponent := exponentDigits_append exponent fun c hc ↦ (hrest c hc).1
  by_cases hempty : fraction = []
  · subst hempty
    have hwhole : wholeDigits ([c] ++ ('e' :: exponentText exponent ++ rest)) = ([c], _) :=
      wholeDigits_append hc (by simp) (fun _ ↦ rfl) hmark
    have hnone : fractionDigits ('e' :: exponentText exponent ++ rest) =
        ([], 'e' :: exponentText exponent ++ rest) := by
      apply fractionDigits_of_ne
      intro c hc
      cases hc
      decide
    have hread := readNumber_decimal negative hwhole (by simp) hnone hexponent
      (.inr (by simp))
    rw [Option.getD_some] at hread
    exact hread
  · have hpoint : ∀ c ∈ ('.' :: (fraction ++ ('e' :: exponentText exponent ++ rest))).head?,
        isAsciiDigit c = false := by
      intro c hc
      cases hc
      decide
    have hwhole : wholeDigits ([c] ++ '.' :: (fraction ++ ('e' :: exponentText exponent ++ rest))) =
        ([c], _) := wholeDigits_append hc (by simp) (fun _ ↦ rfl) hpoint
    have hread := fractionDigits_append hempty hfraction hmark
    have hshown : (if fraction.isEmpty then [] else '.' :: fraction) = '.' :: fraction := by
      simp [hempty]
    rw [hshown]
    have hread := readNumber_decimal negative hwhole (by simp) hread hexponent
      (.inl hempty)
    rw [Option.getD_some] at hread
    exact hread

/-- A text in front of another is read as a number of the given value. -/
def ReadsAs (negative : Bool) (text rest : List Char) (value : ℚ) : Prop :=
  ∃ digits power, readNumber (signed negative (text ++ rest)) =
      .ok (float (.ofDecimal negative digits power), rest) ∧
    (digits * 10 ^ power : ℚ) = value

/-- The digits that a decimal is written with, the first of which is not zero. -/
structure WrittenWith (decimal : Decimal) (c : Char) (more : List Char) : Prop where
  value_eq : digitsValue 10 (c :: more) = decimal.digits
  digit : isAsciiDigit c = true
  digits : ∀ other ∈ more, isAsciiDigit other = true
  ne_zero : c ≠ '0'

theorem writtenWith_of_pos {decimal : Decimal} (hpos : 0 < decimal.digits) :
    ∃ c more, Nat.toDigits 10 decimal.digits = c :: more ∧ WrittenWith decimal c more := by
  obtain ⟨c, more, hdigits, hlead⟩ := toDigits_eq_cons hpos
  have hall : ∀ other ∈ c :: more, isAsciiDigit other = true := by
    rw [← hdigits]
    exact fun other hother ↦ isAsciiDigit_of_mem_toDigits hother
  refine ⟨c, more, hdigits, ?_, hall c (by simp), fun other h ↦ hall other (by simp [h]), hlead⟩
  rw [← hdigits, digitsValue_toDigits (by decide) (by decide)]

theorem isAsciiDigit_of_mem_zeros (count : Nat) :
    ∀ other ∈ List.replicate count '0', isAsciiDigit other = true := by
  intro other hother
  rw [List.eq_of_mem_replicate hother]
  rfl

variable {decimal : Decimal} (h : WrittenWith decimal c more) (negative : Bool)
  (hrest : NumberEnds rest)
include h hrest

/-- A decimal below one: zeros stand in front of its digits. -/
theorem readsAs_fraction (hpoint : ((c :: more).length + decimal.exponent : Int) ≤ 0) :
    ReadsAs negative ('0' :: '.' ::
      List.replicate (-((c :: more).length + decimal.exponent)).toNat '0' ++ c :: more) rest
      decimal.value := by
  set zeros := List.replicate (-((c :: more).length + decimal.exponent)).toNat '0' with hzeros
  have hfraction : ∀ other ∈ zeros ++ c :: more, isAsciiDigit other = true := by
    intro other hother
    rcases List.mem_append.mp hother with hzero | hdigit
    · exact isAsciiDigit_of_mem_zeros _ other hzero
    · rcases List.mem_cons.mp hdigit with rfl | hlater
      · exact h.digit
      · exact h.digits other hlater
  have hread : readNumber (signed negative (['0'] ++ '.' :: (zeros ++ c :: more ++ rest))) = _ :=
    readNumber_pointed negative rfl (by simp) (fun _ ↦ rfl) (by simp) hfraction hrest
  have hdenotes : digitsValue 10 (['0'] ++ (zeros ++ c :: more)) = decimal.digits := by
    have hlead : digitsValue 10 ['0'] = 0 := rfl
    rw [digitsValue_append, hlead, hzeros, digitsValue_zeros_append, h.value_eq, zero_mul, zero_add]
  have hpower : 0 - ((zeros ++ c :: more).length : Int) = decimal.exponent := by
    rw [List.length_append, hzeros, List.length_replicate]
    omega
  rw [hdenotes, hpower] at hread
  refine ⟨_, _, ?_, rfl⟩
  rw [← hread]
  simp

/-- A decimal whose digits stand on both sides of the point. -/
theorem readsAs_split (hpoint : ¬ ((c :: more).length + decimal.exponent : Int) ≤ 0)
    (hexponent : decimal.exponent < 0) :
    ReadsAs negative
      ((c :: more).take ((c :: more).length + decimal.exponent).toNat ++
        '.' :: (c :: more).drop ((c :: more).length + decimal.exponent).toNat) rest
      decimal.value := by
  obtain ⟨before, hbefore⟩ : ∃ before,
      ((c :: more).length + decimal.exponent).toNat = before + 1 :=
    ⟨((c :: more).length + decimal.exponent).toNat - 1, by omega⟩
  have hshort : before < more.length := by
    rw [List.length_cons] at hbefore
    omega
  rw [hbefore, List.take_succ_cons, List.drop_succ_cons]
  have hne : more.drop before ≠ [] := by
    rw [Ne, List.drop_eq_nil_iff]
    omega
  have hread : readNumber (signed negative
      (c :: more.take before ++ '.' :: (more.drop before ++ rest))) = _ :=
    readNumber_pointed negative h.digit (fun other hmem ↦ h.digits other (List.mem_of_mem_take hmem))
      (fun hzero ↦ absurd hzero h.ne_zero) hne
      (fun other hmem ↦ h.digits other (List.mem_of_mem_drop hmem)) hrest
  have hdenotes : digitsValue 10 (c :: more.take before ++ more.drop before) = decimal.digits := by
    rw [List.cons_append, List.take_append_drop, h.value_eq]
  have hpower : 0 - ((more.drop before).length : Int) = decimal.exponent := by
    rw [List.length_drop]
    rw [List.length_cons] at hbefore
    omega
  rw [hdenotes, hpower] at hread
  refine ⟨_, _, ?_, rfl⟩
  rw [← hread]
  simp

/-- A whole decimal: zeros stand behind its digits, and one behind the point. -/
theorem readsAs_whole (hexponent : ¬ decimal.exponent < 0) :
    ReadsAs negative (c :: more ++ List.replicate decimal.exponent.toNat '0' ++ ['.', '0']) rest
      decimal.value := by
  set zeros := List.replicate decimal.exponent.toNat '0' with hzeros
  have hfilled : ∀ other ∈ more ++ zeros, isAsciiDigit other = true := by
    intro other hother
    rcases List.mem_append.mp hother with hdigit | hzero
    · exact h.digits other hdigit
    · exact isAsciiDigit_of_mem_zeros _ other hzero
  have hread : readNumber (signed negative (c :: (more ++ zeros) ++ '.' :: (['0'] ++ rest))) = _ :=
    readNumber_pointed negative h.digit hfilled (fun hzero ↦ absurd hzero h.ne_zero) (by simp)
      (isAsciiDigit_of_mem_zeros 1) hrest
  have hdenotes : digitsValue 10 (c :: (more ++ zeros) ++ ['0']) =
      decimal.digits * 10 ^ decimal.exponent.toNat * 10 := by
    have hone : c :: (more ++ zeros) ++ ['0'] = c :: more ++ zeros ++ List.replicate 1 '0' := rfl
    rw [hone, digitsValue_append_zeros, hzeros, digitsValue_append_zeros, h.value_eq, pow_one]
  rw [hdenotes] at hread
  have htext : c :: more ++ zeros ++ ['.', '0'] ++ rest =
      c :: (more ++ zeros) ++ '.' :: (['0'] ++ rest) := by simp
  have hpow : (10 : ℚ) ^ decimal.exponent = 10 ^ decimal.exponent.toNat := by
    rw [← zpow_natCast, Int.toNat_of_nonneg (by omega)]
  have hone : (10 : ℚ) ^ (0 - ((['0'] : List Char).length : Int)) = 1 / 10 := by norm_num
  refine ⟨_, _, htext ▸ hread, ?_⟩
  unfold Decimal.value
  rw [hone, hpow]
  push_cast
  ring

/-- A decimal with an exponent. -/
theorem readsAs_scientific :
    ReadsAs negative ([c] ++ (if more.isEmpty then [] else '.' :: more) ++
      'e' :: exponentText ((c :: more).length + decimal.exponent - 1)) rest decimal.value := by
  have hread := readNumber_scientific negative h.digit h.digits
    ((c :: more).length + decimal.exponent - 1) hrest
  have hpower : ((c :: more).length + decimal.exponent - 1 : Int) - more.length =
      decimal.exponent := by
    rw [List.length_cons]
    omega
  rw [h.value_eq, hpower] at hread
  refine ⟨_, _, ?_, rfl⟩
  rw [← hread]
  simp

end Layouts

/-- Every decimal that is printed is read as a decimal of the same value. -/
theorem readsAs_decimalText {decimal : Decimal} (hpos : 0 < decimal.digits) (negative : Bool)
    {rest : List Char} (hrest : NumberEnds rest) :
    ReadsAs negative (decimalText decimal) rest decimal.value := by
  obtain ⟨c, more, hdigits, h⟩ := writtenWith_of_pos hpos
  unfold decimalText
  rw [hdigits]
  dsimp only
  split
  · split
    · next hpoint => exact readsAs_fraction h negative hrest hpoint
    · next hpoint =>
      split
      · next hexponent => exact readsAs_split h negative hrest hpoint hexponent
      · next hexponent => exact readsAs_whole h negative hrest hexponent
  · exact readsAs_scientific h negative hrest

/-- A printed decimal starts with a digit. -/
theorem decimalText_eq_cons {decimal : Decimal} (hpos : 0 < decimal.digits) :
    ∃ c more, decimalText decimal = c :: more ∧ isAsciiDigit c = true := by
  obtain ⟨c, more, hdigits, -⟩ := toDigits_eq_cons hpos
  have hmem : c ∈ Nat.toDigits 10 decimal.digits := by simp [hdigits]
  have hc : isAsciiDigit c = true := isAsciiDigit_of_mem_toDigits hmem
  unfold decimalText
  rw [hdigits]
  dsimp only
  split
  · split
    · exact ⟨'0', _, rfl, rfl⟩
    · next hpoint =>
      split
      · obtain ⟨before, hbefore⟩ : ∃ before,
            ((c :: more).length + decimal.exponent).toNat = before + 1 :=
          ⟨((c :: more).length + decimal.exponent).toNat - 1, by omega⟩
        rw [hbefore, List.take_succ_cons]
        exact ⟨c, _, rfl, hc⟩
      · exact ⟨c, _, rfl, hc⟩
  · exact ⟨c, _, rfl, hc⟩

/-- The characters that a document without parts can start with when it is no text. -/
def StartsScalar (c : Char) : Prop := isAsciiDigit c = true ∨ c ∈ ['-', 'n', 't', 'f', 'N', 'I']

theorem StartsScalar.ne {c other : Char} (h : StartsScalar c)
    (hother : isAsciiDigit other = false) (hword : other ∉ ['-', 'n', 't', 'f', 'N', 'I']) :
    c ≠ other := by
  rintro rfl
  rcases h with hdigit | hmem
  · rw [hother] at hdigit
    cases hdigit
  · exact hword hmem

/-- No word starts like a number. -/
theorem readScalar_signed {c : Char} (hc : isAsciiDigit c = true) (negative : Bool)
    (more : List Char) :
    readScalar (signed negative (c :: more)) = readNumber (signed negative (c :: more)) := by
  have hne (other : Char) (hother : isAsciiDigit other = false) : ¬ other = c := by
    rintro rfl
    rw [hother] at hc
    cases hc
  have hn := hne 'n' (by decide)
  have ht := hne 't' (by decide)
  have hf := hne 'f' (by decide)
  have hN := hne 'N' (by decide)
  have hI := hne 'I' (by decide)
  have hdash := hne '-' (by decide)
  cases negative with
  | true =>
    simp [readScalar, wordValues, readScalar.dropWord?, signed, hI]
  | false =>
    simp [readScalar, wordValues, readScalar.dropWord?, signed, hn, ht, hf, hN, hI, hdash]

/-- A printed integer is a row of digits behind its sign. -/
theorem toList_toString_int (value : Int) :
    (toString value).toList = signed (decide (value < 0)) (Nat.toDigits 10 value.natAbs) := by
  cases value with
  | ofNat number =>
    have hsign : decide (Int.ofNat number < 0) = false := by simp
    rw [hsign]
    exact Nat.toList_repr
  | negSucc number =>
    have hsign : decide (Int.negSucc number < 0) = true := by simp
    rw [hsign]
    change ("-" ++ Nat.repr (number + 1)).toList = _
    rw [String.toList_append, Nat.toList_repr]
    rfl

theorem signed_append (negative : Bool) (text rest : List Char) :
    signed negative text ++ rest = signed negative (text ++ rest) := by
  cases negative <;> rfl

/-- The digits of a number are a whole part. -/
theorem wholeDigits_toDigits (number : Nat) {rest : List Char}
    (hrest : ∀ c ∈ rest.head?, isAsciiDigit c = false) :
    ∃ c more, Nat.toDigits 10 number = c :: more ∧ isAsciiDigit c = true ∧
      wholeDigits (c :: more ++ rest) = (c :: more, rest) := by
  rcases Nat.eq_zero_or_pos number with rfl | hpos
  · exact ⟨'0', [], rfl, rfl, rfl⟩
  · obtain ⟨c, more, hdigits, hlead⟩ := toDigits_eq_cons hpos
    have hall : ∀ other ∈ c :: more, isAsciiDigit other = true := by
      rw [← hdigits]
      exact fun other hother ↦ isAsciiDigit_of_mem_toDigits hother
    have hc : isAsciiDigit c = true := hall c (by simp)
    refine ⟨c, more, hdigits, hc, ?_⟩
    exact wholeDigits_append hc (fun other h ↦ hall other (List.mem_cons_of_mem c h))
      (fun hzero ↦ absurd hzero hlead) hrest

/-- A printed integer within the limit is read back. -/
theorem readScalar_int {value : Int} {rest : List Char}
    (hshort : (Nat.toDigits 10 value.natAbs).length ≤ digitLimit) (hrest : NumberEnds rest) :
    readScalar ((toString value).toList ++ rest) = .ok (int value, rest) := by
  obtain ⟨c, more, hdigits, hc, hwhole⟩ :=
    wholeDigits_toDigits value.natAbs fun c hc ↦ (hrest c hc).1
  have hvalue : digitsValue 10 (c :: more) = value.natAbs := by
    rw [← hdigits, digitsValue_toDigits (by decide) (by decide)]
  rw [hdigits] at hshort
  rw [toList_toString_int, hdigits, signed_append, List.cons_append, readScalar_signed hc,
    ← List.cons_append, readNumber_whole _ hwhole (by simp) hshort hrest, hvalue]
  have hsign : (if decide (value < 0) = true then -(value.natAbs : Int) else value.natAbs) =
      value := by
    split
    · next hneg =>
      have hlt : value < 0 := of_decide_eq_true hneg
      omega
    · next hpos =>
      have hle : ¬ value < 0 := fun h ↦ hpos (decide_eq_true h)
      omega
  rw [hsign]

/-- A printed floating point number is read back. -/
theorem readScalar_float (number : Binary64) {rest : List Char} (hrest : NumberEnds rest) :
    readScalar ((floatText .document number).toList ++ rest) = .ok (float number, rest) := by
  unfold floatText
  rw [String.toList_ofList]
  cases number with
  | nan => rfl
  | infinite negative => cases negative <;> rfl
  | finite negative significand exponent canonical =>
    change readScalar (signed negative (magnitudeText .document
      (.finite negative significand exponent canonical)) ++ rest) = _
    rw [signed_append]
    unfold magnitudeText
    dsimp only
    split
    · next hzero =>
      subst hzero
      obtain rfl : exponent = -1074 := by
        rcases canonical.2.2.2 with hfull | hleast
        · exact absurd (Nat.lt_of_lt_of_le (twoPow_pos 52) hfull) (Nat.lt_irrefl 0)
        · exact hleast
      have hread : readNumber (signed negative (['0'] ++ '.' :: (['0'] ++ rest))) = _ :=
        readNumber_pointed negative rfl (by simp) (fun _ ↦ rfl) (by simp)
          (isAsciiDigit_of_mem_zeros 1) hrest
      change readScalar (signed negative ('0' :: '.' :: '0' :: rest)) = _
      rw [readScalar_signed rfl]
      exact hread
    · next hne =>
      have hs : 0 < significand := Nat.pos_of_ne_zero hne
      have hreach := reaches_shortestDecimal hs canonical
      have hpos := shortestDecimal_pos hs canonical
      obtain ⟨c, more, htext, hc⟩ := decimalText_eq_cons hpos
      obtain ⟨digits, power, hread, hvalue⟩ := readsAs_decimalText hpos negative hrest
      rw [← hvalue] at hreach
      have hnumber : Binary64.ofDecimal negative digits power =
          .finite negative significand exponent canonical :=
        Binary64.ofDecimal_of_reaches hs hreach negative
      rw [htext, List.cons_append, readScalar_signed hc, ← List.cons_append, ← htext, hread, hnumber]

end AddonUpkeep.Json
