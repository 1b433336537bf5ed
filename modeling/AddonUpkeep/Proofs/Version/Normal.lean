import AddonUpkeep.Fault.Basic
import AddonUpkeep.Proofs.Number.Digits
import AddonUpkeep.Proofs.Reading
import AddonUpkeep.Proofs.Version.Dotted
import AddonUpkeep.Proofs.Version.Prefix

/-!
# Normal texts of versions

Every version that is read has a normal text, and is what this text is read as, unless a letter of
another form is kept in it: a dotted capital leaves its dot, which no version has, and a long letter
in the word for a post-release is not printed.  The numbers of a version that is read have at most
so many digits as the reader takes.  A text with a longer number is the one kind of text that is
refused, but not as an invalid version.
-/

namespace AddonUpkeep.Version

open AddonUpkeep.Text AddonUpkeep.Number

variable {text : String} {version : Version} {digits : List Char}

/-- The spelling of a version in its normal text. -/
def spelling (version : Version) : Spelling where
  epoch := if version.epoch = 0 then [] else Nat.toDigits 10 version.epoch
  release := version.release.map (Nat.toDigits 10)
  pre := version.pre.map fun (stage, number) ↦ (stage, Nat.toDigits 10 number)
  post := version.post.map fun (stage, number) ↦ (stage, Nat.toDigits 10 number)
  dev := version.dev.map (Nat.toDigits 10)
  build := version.build.map LocalPart.chars

/-- What a version that was read is made of: numbers small enough to have at most so many digits as
the reader takes, and words in small form, which are told from numbers by a letter. -/
structure IsNormal (version : Version) : Prop where
  epoch : version.epoch < 10 ^ digitLimit
  release_ne_nil : version.release ≠ []
  release : ∀ number ∈ version.release, number < 10 ^ digitLimit
  pre : ∀ found ∈ version.pre, found.2 < 10 ^ digitLimit
  post : ∀ found ∈ version.post, found.2 < 10 ^ digitLimit
  dev : ∀ number ∈ version.dev, number < 10 ^ digitLimit
  numbers : ∀ number, .number number ∈ version.build → number < 10 ^ digitLimit
  words : ∀ letters, .word letters ∈ version.build → ∃ chars, letters = chars.flatMap smallForm ∧
    chars ≠ [] ∧ (∀ c ∈ chars, isPartChar c = true) ∧ chars.all isAsciiDigit = false

/-- A version without a letter that its normal text does not keep: no dot of a capital, and no long
letter in the word for a post-release. -/
structure IsPlain (version : Version) : Prop where
  pre : ∀ found ∈ version.pre, found.1 ≠ .dotted
  post : ∀ found ∈ version.post, found.1 = .plain
  words : ∀ letters, .word letters ∈ version.build → '\u0307' ∉ letters

/-- Only a dotted capital has another small form. -/
theorem flatMap_smallForm {chars : List Char} (h : '\u0307' ∉ chars.flatMap smallForm) :
    chars.flatMap smallForm = chars := by
  induction chars with
  | nil => rfl
  | cons c chars ih =>
    rw [List.flatMap_cons, List.mem_append, not_or] at h
    have hkept : smallForm c = [c] := by
      refine if_neg fun hdotted ↦ h.1 ?_
      rw [smallForm, if_pos hdotted]
      simp
    rw [List.flatMap_cons, hkept, ih h.2, List.singleton_append]

/-- A word of a plain version is what it is in small form. -/
theorem word_of_plain {letters : List Char} (h : version.IsNormal) (hplain : version.IsPlain)
    (hletters : .word letters ∈ version.build) :
    letters ≠ [] ∧ (∀ c ∈ letters, isPartChar c = true) ∧ letters.all isAsciiDigit = false ∧
      letters.flatMap smallForm = letters := by
  obtain ⟨chars, rfl, hchars⟩ := h.words _ hletters
  have hkept := flatMap_smallForm (hplain.words _ hletters)
  rw [hkept]
  exact ⟨hchars.1, hchars.2.1, hchars.2.2, hkept⟩

section Printing

theorem isNumeral_toDigits (number : Nat) : isNumeral (Nat.toDigits 10 number) = true :=
  isNumeral_iff.mpr ⟨List.ne_nil_of_length_pos Nat.length_toDigits_pos,
    fun _ ↦ isAsciiDigit_of_mem_toDigits⟩

theorem dottedChars_eq (parts : List (List Char)) : dottedChars parts = joinPieces ['.'] parts := by
  induction parts with
  | nil => rfl
  | cons part more ih =>
    cases more with
    | nil => simp [dottedChars, joinPieces]
    | cons next more =>
      rw [joinPieces, ← ih]
      · simp [dottedChars]
      · exact List.cons_ne_nil next more

theorem number_toDigits (value : Nat) : number (Nat.toDigits 10 value) = value :=
  digitsValue_toDigits (by decide) (by decide) value

theorem toDigits_ne_nil (value : Nat) : Nat.toDigits 10 value ≠ [] :=
  (isNumeral_iff.mp (isNumeral_toDigits value)).1

/-- The normal text of a version is that of its spelling. -/
theorem chars_spelling (version : Version) : version.spelling.chars = version.chars := by
  have hepoch : (if version.spelling.epoch.isEmpty then [] else version.spelling.epoch ++ ['!']) =
      if version.epoch = 0 then [] else Nat.toDigits 10 version.epoch ++ ['!'] := by
    unfold spelling
    dsimp only
    split
    · rfl
    · rw [if_neg]
      rw [List.isEmpty_iff]
      exact toDigits_ne_nil version.epoch
  have hbuild : version.spelling.buildChars = if version.build.isEmpty then []
      else '+' :: joinPieces ['.'] (version.build.map LocalPart.chars) := by
    rw [Spelling.buildChars, spelling]
    cases version.build <;> rfl
  unfold chars Spelling.chars Spelling.releaseChars Spelling.preChars Spelling.postChars
    Spelling.devChars
  rw [hepoch, hbuild]
  simp only [dottedChars_eq, ← List.append_assoc]
  unfold spelling
  cases version.pre <;> cases version.post <;> cases version.dev <;> rfl

/-- The spelling of a version in its normal text leaves out nothing but an epoch of zero. -/
theorem ofSpelling_spelling (h : version.IsNormal) (hplain : version.IsPlain) :
    ofSpelling version.spelling = version := by
  have hbuild : (version.build.map LocalPart.chars).map part = version.build := by
    rw [List.map_map]
    refine (List.map_congr_left fun held hheld ↦ ?_).trans (List.map_id _)
    cases held with
    | word letters =>
      obtain ⟨-, -, hword, hkept⟩ := word_of_plain h hplain hheld
      change part letters = _
      rw [part, hword, if_neg Bool.false_ne_true, hkept]
      rfl
    | number value =>
      have hdigits := (isNumeral_iff.mp (isNumeral_toDigits value)).2
      change part (Nat.toDigits 10 value) = _
      rw [part, if_pos (List.all_eq_true.mpr hdigits), number_toDigits]
      rfl
  have hnumbers : number ∘ Nat.toDigits 10 = id := funext number_toDigits
  have hepoch : number version.spelling.epoch = version.epoch := by
    unfold spelling
    dsimp only
    split
    · next hzero =>
      rw [hzero]
      rfl
    · exact number_toDigits version.epoch
  have hrelease : (version.release.map (Nat.toDigits 10)).map number = version.release := by
    rw [List.map_map, hnumbers, List.map_id]
  have hpre : (ofSpelling version.spelling).pre = version.pre := by
    unfold ofSpelling spelling
    cases version.pre with
    | none => rfl
    | some found => simp [number_toDigits]
  have hpost : (ofSpelling version.spelling).post = version.post := by
    unfold ofSpelling spelling
    cases version.post with
    | none => rfl
    | some found => simp [number_toDigits]
  have hdev : (version.dev.map (Nat.toDigits 10)).map number = version.dev := by
    rw [Option.map_map, hnumbers, Option.map_id, id]
  calc ofSpelling version.spelling
      = ⟨number version.spelling.epoch, (version.release.map (Nat.toDigits 10)).map number,
          (ofSpelling version.spelling).pre, (ofSpelling version.spelling).post,
          (version.dev.map (Nat.toDigits 10)).map number,
          (version.build.map LocalPart.chars).map part⟩ := rfl
    _ = version := by rw [hepoch, hrelease, hpre, hpost, hdev, hbuild]

theorem isPartChar_of_digit {c : Char} (h : isAsciiDigit c = true) : isPartChar c = true := by
  rw [isPartChar, h, Bool.true_or, Bool.true_or]

theorem isFilled_spelling (h : version.IsNormal) (hplain : version.IsPlain) :
    version.spelling.IsFilled := by
  unfold spelling
  constructor
  case epoch =>
    intro c hc
    dsimp only at hc
    split at hc
    · cases hc
    · exact isAsciiDigit_of_mem_toDigits hc
  case release_ne_nil => exact mt List.map_eq_nil_iff.mp h.release_ne_nil
  case release => exact List.forall_mem_map.mpr fun value _ ↦ isNumeral_toDigits value
  case pre =>
    intro found hfound
    obtain ⟨held, hheld, rfl⟩ := Option.map_eq_some_iff.mp hfound
    exact ⟨hplain.pre held hheld, isNumeral_toDigits held.2⟩
  case post =>
    intro found hfound
    obtain ⟨held, hheld, rfl⟩ := Option.map_eq_some_iff.mp hfound
    exact ⟨hplain.post held hheld, isNumeral_toDigits held.2⟩
  case dev =>
    intro digits hdigits
    obtain ⟨value, -, rfl⟩ := Option.map_eq_some_iff.mp hdigits
    exact isNumeral_toDigits value
  case build =>
    refine List.forall_mem_map.mpr fun held hheld ↦ ?_
    cases held with
    | word letters =>
      obtain ⟨hfilled, hchars, -⟩ := word_of_plain h hplain hheld
      exact ⟨hfilled, hchars⟩
    | number value => exact ⟨toDigits_ne_nil value,
        fun c hc ↦ isPartChar_of_digit (isAsciiDigit_of_mem_toDigits hc)⟩

theorem length_toDigits_le {value : Nat} (h : value < 10 ^ digitLimit) :
    (Nat.toDigits 10 value).length ≤ digitLimit :=
  (Nat.length_toDigits_le_iff (by decide) (by decide)).mpr h

/-- No number of a version that can be read has too many digits. -/
theorem length_le_of_mem_numbers (h : version.IsNormal) (hplain : version.IsPlain) :
    ∀ digits ∈ version.spelling.numbers, digits.length ≤ digitLimit := by
  intro digits hdigits
  simp only [Spelling.numbers, spelling, List.cons_append, List.mem_cons, List.mem_append,
    Option.mem_toList, Option.map_eq_some_iff, List.mem_filter, List.mem_map,
    List.all_eq_true] at hdigits
  rcases hdigits with rfl | (((⟨value, hvalue, rfl⟩ | ⟨-, ⟨found, hfound, rfl⟩, rfl⟩) |
    ⟨-, ⟨found, hfound, rfl⟩, rfl⟩) | ⟨value, hvalue, rfl⟩) | ⟨⟨held, hheld, rfl⟩, hall⟩
  · split
    · exact Nat.zero_le _
    · exact length_toDigits_le h.epoch
  · exact length_toDigits_le (h.release value hvalue)
  · exact length_toDigits_le (h.pre found hfound)
  · exact length_toDigits_le (h.post found hfound)
  · exact length_toDigits_le (h.dev value hvalue)
  · cases held with
    | number value => exact length_toDigits_le (h.numbers value hheld)
    | word letters =>
      -- a word is no row of digits
      obtain ⟨-, -, hword, -⟩ := word_of_plain h hplain hheld
      have hall : letters.all isAsciiDigit = true := List.all_eq_true.mpr hall
      rw [hword] at hall
      cases hall

/-- The normal text of a plain version is read as the version. -/
theorem parse_text (h : version.IsNormal) (hplain : version.IsPlain) :
    parse version.text = .ok version := by
  have hchars : version.text.toList = version.spelling.chars := by
    rw [text, String.toList_ofList, chars_spelling]
  have hshort :
      version.spelling.numbers.find? (fun digits ↦ digitLimit < digits.length) = none := by
    rw [List.find?_eq_none]
    exact fun digits hdigits ↦ by simpa using length_le_of_mem_numbers h hplain digits hdigits
  rw [parse_chars (isFilled_spelling h hplain) hchars, hshort]
  exact congrArg Except.ok (ofSpelling_spelling h hplain)

/-- No text of a version has the dot of a capital in it. -/
theorem dot_not_mem_of_parse {found : Version} (h : parse text = .ok found) :
    '\u0307' ∉ text.toList := by
  intro hc
  have hread := isSpellingChar_of_parse h hc (by decide) (by decide)
  revert hread
  decide

/-- A version that is read from its normal text is plain. -/
theorem isPlain_of_parse_text (h : version.IsNormal) (hparse : parse version.text = .ok version) :
    version.IsPlain := by
  have hdot : '\u0307' ∉ version.chars := by
    have hdot := dot_not_mem_of_parse hparse
    rwa [text, String.toList_ofList] at hdot
  have hpre : ∀ found ∈ version.pre, found.1 ≠ .dotted := by
    rintro ⟨stage, number⟩ hfound rfl
    have hletter : '\u0307' ∈ PreStage.dotted.letters := by decide
    apply hdot
    unfold chars
    rw [Option.mem_def.mp hfound]
    simp only [List.mem_append, hletter, true_or, or_true]
  have hwords : ∀ letters, .word letters ∈ version.build → '\u0307' ∉ letters := by
    intro letters hletters hin
    have hpart : letters ∈ version.build.map LocalPart.chars :=
      List.mem_map.mpr ⟨_, hletters, rfl⟩
    have hstands : '\u0307' ∈ joinPieces ['.'] _ := (infix_joinPieces hpart).subset hin
    have hsome : ¬ version.build.isEmpty = true := by
      rw [List.isEmpty_iff]
      exact List.ne_nil_of_mem hletters
    apply hdot
    unfold chars
    refine List.mem_append_right _ ?_
    rw [if_neg hsome, dottedChars_eq]
    exact List.mem_cons_of_mem _ hstands
  refine ⟨hpre, fun found hfound ↦ ?_, hwords⟩
  -- the word for the post-release is printed in its plain form, so it is read as that
  obtain ⟨stage, number⟩ := found
  let plain : Version := { version with post := some (.plain, number) }
  have htext : plain.text = version.text := by
    unfold text chars
    rw [Option.mem_def.mp hfound]
  have hnumber : number < 10 ^ digitLimit := h.post _ hfound
  have hnormal : plain.IsNormal :=
    { h with post := fun other hother ↦ Option.some.inj hother ▸ hnumber }
  have hplain : plain.IsPlain :=
    ⟨hpre, fun other hother ↦ by rw [← Option.some.inj hother], hwords⟩
  have hread := parse_text hnormal hplain
  rw [htext, hparse] at hread
  have hsame : version.post = some (.plain, number) := congrArg Version.post (Except.ok.inj hread)
  rw [Option.mem_def.mp hfound] at hsame
  exact congrArg Prod.fst (Option.some.inj hsame)

end Printing

section Reading

/-- A text that has the form of a version, with a number in it that has too many digits. -/
def HasLongNumber (text : String) : Prop :=
  ∃ spelling, spelling? (foldedCore text) = some spelling ∧
    ∃ digits ∈ spelling.numbers, digitLimit < digits.length

/-- How reading a text ends: as a version when it has the form of one and all numbers are short
enough, and otherwise with a problem. -/
inductive Parses (text : String) : Except VersionProblem Version → Prop
  | empty (hblank : isBlankText text = true) : Parses text (.error .empty)
  | invalid (hform : spelling? (foldedCore text) = none) :
      Parses text (.error (.invalid text (String.ofList (core text))))
  | longNumber {spelling : Spelling} {digits : List Char}
      (hform : spelling? (foldedCore text) = some spelling) (hdigits : digits ∈ spelling.numbers)
      (hlong : digitLimit < digits.length) : Parses text (.error (.longNumber digits.length))
  | version {spelling : Spelling} (hform : spelling? (foldedCore text) = some spelling)
      (hshort : ∀ digits ∈ spelling.numbers, digits.length ≤ digitLimit) :
      Parses text (.ok (ofSpelling spelling))

theorem parses (text : String) : Parses text (parse text) := by
  cases hblank : isBlankText text with
  | true =>
    unfold parse
    rw [hblank, if_pos rfl]
    exact .empty hblank
  | false =>
    rw [parse_eq hblank]
    split
    · next hform => exact .invalid hform
    · next spelling hform =>
      split
      · next hshort =>
        refine .version hform fun digits hdigits ↦ ?_
        simpa using List.find?_eq_none.mp hshort digits hdigits
      · next digits hlong =>
        refine .longNumber hform (List.mem_of_find?_eq_some hlong) ?_
        simpa using List.find?_some hlong

/-- A version that was read has a normal text. -/
theorem isNormal_ofSpelling {spelling : Spelling} {read : List Char} (h : IsReadFrom spelling read)
    (hshort : ∀ digits ∈ spelling.numbers, digits.length ≤ digitLimit) :
    (ofSpelling spelling).IsNormal := by
  have hnumber : ∀ digits ∈ spelling.numbers, number digits < 10 ^ digitLimit := by
    intro digits hdigits
    exact Nat.lt_of_lt_of_le (digitsValue_lt (h.isRow digits hdigits).all_digits)
      (Nat.pow_le_pow_right (by decide) (hshort digits hdigits))
  simp only [Spelling.numbers, List.cons_append, List.mem_cons, List.mem_append, Option.mem_toList,
    Option.map_eq_some_iff, List.mem_filter, List.all_eq_true] at hnumber
  unfold ofSpelling
  constructor
  case epoch => exact hnumber _ (.inl rfl)
  case release_ne_nil => exact mt List.map_eq_nil_iff.mp h.release_ne_nil
  case release =>
    exact List.forall_mem_map.mpr fun digits hdigits ↦
      hnumber digits (.inr (.inl (.inl (.inl (.inl hdigits)))))
  case pre =>
    intro found hfound
    obtain ⟨held, hheld, rfl⟩ := Option.map_eq_some_iff.mp hfound
    exact hnumber held.2 (.inr (.inl (.inl (.inl (.inr ⟨held, hheld, rfl⟩)))))
  case post =>
    intro found hfound
    obtain ⟨held, hheld, rfl⟩ := Option.map_eq_some_iff.mp hfound
    exact hnumber held.2 (.inr (.inl (.inl (.inr ⟨held, hheld, rfl⟩))))
  case dev =>
    intro value hvalue
    obtain ⟨digits, hdigits, rfl⟩ := Option.map_eq_some_iff.mp hvalue
    exact hnumber digits (.inr (.inl (.inr hdigits)))
  case numbers =>
    intro value hvalue
    obtain ⟨chars, hchars, hpart⟩ := List.mem_map.mp hvalue
    unfold part at hpart
    split at hpart
    · next hall =>
      obtain rfl := LocalPart.number.inj hpart
      exact hnumber chars (.inr (.inr ⟨hchars, List.all_eq_true.mp hall⟩))
    · cases hpart
  case words =>
    intro letters hletters
    obtain ⟨chars, hchars, hpart⟩ := List.mem_map.mp hletters
    unfold part at hpart
    split at hpart
    · cases hpart
    · next hall =>
      obtain rfl := LocalPart.word.inj hpart
      exact ⟨chars, rfl, (h.build chars hchars).1, fun c hc ↦ ((h.build chars hchars).2 c hc).1,
        (Bool.not_eq_true _).mp hall⟩

theorem isNormal_of_parse (h : parse text = .ok version) : version.IsNormal := by
  have hparses := parses text
  rw [h] at hparses
  cases hparses with
  | version hform hshort => exact isNormal_ofSpelling (isReadFrom_of_spelling? hform) hshort

/-- A character that is no ASCII letter is folded to itself, but for the Kelvin sign. -/
theorem folded_of_not_ascii {c : Char} (hascii : ¬ c.toNat < 128) (hkelvin : c ≠ '\u212a') :
    folded c = c := by
  rw [folded, if_neg (by simpa using hkelvin)]
  refine dif_neg fun hupper ↦ hascii ?_
  exact Nat.lt_of_le_of_lt (hupper.2 : c.toNat ≤ 'Z'.toNat) (by decide)

/-- Only a digit is folded to a digit. -/
theorem folded_of_digit {c : Char} (h : isAsciiDigit (folded c) = true) : folded c = c := by
  by_cases hascii : c.toNat < 128
  · have hall : ∀ code < 128, isAsciiDigit (folded (Char.ofNat code)) = true →
        folded (Char.ofNat code) = Char.ofNat code := by decide +kernel
    have hcode := hall c.toNat hascii
    rw [Char.ofNat_toNat] at hcode
    exact hcode h
  · refine folded_of_not_ascii hascii ?_
    rintro rfl
    revert h
    decide

/-- Only a letter of another form is folded to it. -/
theorem folded_of_variant {c : Char} (h : isVariant (folded c) = true) : folded c = c := by
  by_cases hascii : c.toNat < 128
  · have hall : ∀ code < 128, isVariant (folded (Char.ofNat code)) = false := by decide +kernel
    have hcode := hall c.toNat hascii
    rw [Char.ofNat_toNat, h] at hcode
    cases hcode
  · refine folded_of_not_ascii hascii ?_
    rintro rfl
    revert h
    decide

/-- What is folded and read stands between other characters of the text. -/
theorem infix_core (text : String) : trimBlanks (core text) <:+: text.toList := by
  have hinner (text : List Char) : trimBlanks text <:+: text := by
    obtain ⟨before, behind, -, -, htext⟩ := exists_surrounded text
    exact ⟨before, behind, htext.symm⟩
  have hcore : core text <:+: text.toList :=
    (List.dropWhile_suffix _).isInfix.trans (hinner text.toList)
  exact (hinner _).trans hcore

/-- A letter of another form that the grammar reads stands in the text that was given. -/
theorem mem_of_foldedCore {c : Char} (hvariant : isVariant c = true) (h : c ∈ foldedCore text) :
    c ∈ text.toList := by
  obtain ⟨given, hgiven, rfl⟩ := List.mem_map.mp h
  rw [folded_of_variant hvariant]
  exact (infix_core text).subset hgiven

/-- A version is plain when the text that it was read from has neither a dotted capital nor a long
letter. -/
theorem isPlain_of_parse (h : parse text = .ok version) (hdotted : '\u0130' ∉ text.toList)
    (hlong : '\u017f' ∉ text.toList) : version.IsPlain := by
  have hparses := parses text
  rw [h] at hparses
  cases hparses with
  | @version spelling hform hshort =>
    have hread := isReadFrom_of_spelling? hform
    have hdotted : '\u0130' ∉ foldedCore text := mt (mem_of_foldedCore (by decide)) hdotted
    have hlong : '\u017f' ∉ foldedCore text := mt (mem_of_foldedCore (by decide)) hlong
    refine ⟨?_, ?_, fun letters hletters hdot ↦ ?_⟩
    · rintro found hfound hstage
      obtain ⟨⟨stage, digits⟩, hheld, rfl⟩ := Option.map_eq_some_iff.mp hfound
      obtain rfl : stage = .dotted := hstage
      exact hdotted (hread.dotted digits hheld)
    · rintro found hfound
      obtain ⟨⟨stage, digits⟩, hheld, rfl⟩ := Option.map_eq_some_iff.mp hfound
      cases stage with
      | plain => rfl
      | long => exact absurd (hread.long digits hheld) hlong
    · obtain ⟨chars, hchars, hpart⟩ := List.mem_map.mp hletters
      unfold part at hpart
      split at hpart
      · cases hpart
      · obtain rfl := LocalPart.word.inj hpart
        obtain ⟨c, hc, hform⟩ := List.mem_flatMap.mp hdot
        obtain ⟨hchar, hmem⟩ := (hread.build chars hchars).2 c hc
        unfold smallForm at hform
        split at hform
        · next hcapital => exact hdotted (beq_iff_eq.mp hcapital ▸ hmem)
        · -- the dot alone is no character of a local part
          rw [← List.mem_singleton.mp hform] at hchar
          revert hchar
          decide

/-- A row of digits that the grammar reads stands in the text that was given. -/
theorem isRow_of_foldedCore (h : IsRow (foldedCore text) digits) : IsRow text.toList digits := by
  obtain ⟨hstands, hdigits⟩ := h.of_map fun _ ↦ folded_of_digit
  exact ⟨hstands.trans (infix_core text), hdigits⟩

theorem not_hasLongNumber_of_blank (h : isBlankText text = true) : ¬ HasLongNumber text := by
  have hnone : trimBlanks text.toList = [] := trimBlanks_eq_nil_iff.mpr (List.all_eq_true.mp h)
  rintro ⟨spelling, hform, -⟩
  rw [foldedCore, core, hnone] at hform
  cases hform

/-- Whatever text is given: when it is read as a version, then so is the text with blanks around it
and letters `v` in front, and such a text can take the place of the first in every comparison.  The
normal text of the version is read as the version if that is plain, and only then; and it is plain
unless the text has a dotted capital or a long letter in it.  When no version is read, the problem
is told as one of versions, unless the text has the form of a version with a number of too many
digits.  Such a text holds a row of so many digits, and the problem is told as a bad value. -/
theorem parse_normal (version : String) :
    (∀ found, parse version = .ok found →
      (parse found.text = .ok found ↔ found.IsPlain) ∧
      ('\u0130' ∉ version.toList → '\u017f' ∉ version.toList → found.IsPlain) ∧
      ∀ spelled, Prefixed version spelled → parse spelled = .ok found ∧
        ∀ other, isAtLeast spelled other = isAtLeast version other ∧
          isAtLeast other spelled = isAtLeast other version) ∧
    (¬ HasLongNumber version → ∀ problem, parse version = .error problem →
      (Fault.version problem).kind = .version) ∧
    (HasLongNumber version → ∃ digits, digitLimit < digits.length ∧ IsRow version.toList digits ∧
      parse version = .error (.longNumber digits.length) ∧
      (Fault.version (.longNumber digits.length)).kind = .badValue) := by
  refine ⟨fun found hfound ↦ ⟨?_, isPlain_of_parse hfound, fun spelled hspelled ↦ ?_⟩,
    fun hshort problem hproblem ↦ ?_, ?_⟩
  · have hnormal := isNormal_of_parse hfound
    exact ⟨isPlain_of_parse_text hnormal, parse_text hnormal⟩
  · have hsame : parse spelled = .ok found := parse_of_prefixed hfound hspelled
    refine ⟨hsame, fun other ↦ ?_⟩
    unfold isAtLeast
    rw [hsame, hfound]
    exact ⟨rfl, rfl⟩
  · have hparses := parses version
    rw [hproblem] at hparses
    cases hparses with
    | empty => rfl
    | invalid => rfl
    | longNumber hform hdigits hlong => exact absurd ⟨_, hform, _, hdigits, hlong⟩ hshort
  · rintro ⟨spelling, hform, digits, hdigits, hlong⟩
    have hparses := parses version
    generalize hresult : parse version = result at hparses
    cases hparses with
    | empty hblank =>
      exact absurd ⟨spelling, hform, digits, hdigits, hlong⟩ (not_hasLongNumber_of_blank hblank)
    | invalid hnone =>
      rw [hform] at hnone
      cases hnone
    | @longNumber found first hfound hfirst htoo =>
      have hrow := isRow_of_foldedCore ((isReadFrom_of_spelling? hfound).isRow first hfirst)
      exact ⟨first, htoo, hrow, rfl, rfl⟩
    | version hfound hshort =>
      rw [hform] at hfound
      obtain rfl := Option.some.inj hfound
      exact absurd (hshort digits hdigits) (Nat.not_le_of_gt hlong)

/-- A row of one digit is a text of one number. -/
theorem pieces_replicate {c : Char} (hc : isAsciiDigit c = true) (count : Nat) :
    pieces '.' (String.ofList (List.replicate count c)).toList = [List.replicate count c] := by
  rw [String.toList_ofList]
  refine pieces_of_not_mem fun hpoint ↦ ?_
  exact ne_of_digit hc (by decide) (List.eq_of_mem_replicate hpoint)

theorem isDotted_replicate {c : Char} (hc : isAsciiDigit c = true) {count : Nat}
    (hcount : count ≠ 0) : isDotted (String.ofList (List.replicate count c)) = true := by
  rw [isDotted, pieces_replicate hc, List.all_cons, List.all_nil, Bool.and_true, isNumeral_iff]
  refine ⟨by simpa using hcount, fun other hother ↦ ?_⟩
  rw [List.eq_of_mem_replicate hother]
  exact hc

/-- An accepted text with many spellings of parts, its normal text, and the text with letters in
front are read as one version.  An invalid text is told as such, and a number of too many digits is
told as a row of digits in the text. -/
theorem parse_normal_of_spellings :
    let spelled := "1!01.0-RC.5-03.DEV+Abc_007"
    let found : Version :=
      ⟨1, [1, 0], some (.candidate, 5), some (.plain, 3), some 0,
        [.word "abc".toList, .number 7]⟩
    let long := String.ofList (List.replicate 5000 '0')
    (parse spelled = .ok found ∧ found.text = "1!1.0rc5.post3.dev0+abc.7" ∧
      parse found.text = .ok found ∧ Prefixed spelled " vv1!01.0-RC.5-03.DEV+Abc_007\n" ∧
      parse " vv1!01.0-RC.5-03.DEV+Abc_007\n" = .ok found ∧
      isAtLeast "1!1.0" " vv1!01.0-RC.5-03.DEV+Abc_007\n" = isAtLeast "1!1.0" spelled) ∧
    (¬ HasLongNumber "1..2" ∧ ∃ problem, parse "1..2" = .error problem ∧
      (Fault.version problem).kind = .version) ∧
    HasLongNumber long ∧ ∃ digits, digitLimit < digits.length ∧ IsRow long.toList digits ∧
      parse long = .error (.longNumber digits.length) := by
  intro spelled found long
  have hfound : parse spelled = .ok found := toOption_eq_some_iff.mp (by decide +kernel)
  have hprefixed : Prefixed spelled " vv1!01.0-RC.5-03.DEV+Abc_007\n" :=
    ⟨[' '], 2, ['\n'], List.forall_mem_singleton.mpr rfl, List.forall_mem_singleton.mpr rfl,
      by decide +kernel⟩
  obtain ⟨hnormal, hplain, hsame⟩ := (parse_normal spelled).1 found hfound
  have hnormal := hnormal.mpr (hplain (by decide) (by decide))
  obtain ⟨hspelled, hcompared⟩ := hsame _ hprefixed
  have hinvalid : ¬ HasLongNumber "1..2" := by
    have hform : (spelling? (foldedCore "1..2")).isNone = true := by decide +kernel
    rintro ⟨spelling, hspelling, -⟩
    rw [hspelling] at hform
    cases hform
  obtain ⟨problem, hproblem⟩ : ∃ problem, parse "1..2" = .error problem := ⟨_, rfl⟩
  have hlong : HasLongNumber long := by
    have hdotted : isDotted long = true := isDotted_replicate (by decide) (by decide)
    have hpieces : pieces '.' long.toList = [List.replicate 5000 '0'] :=
      pieces_replicate (by decide) 5000
    have htext : long.toList = (Spelling.ofRelease (pieces '.' long.toList)).chars := by
      rw [chars_ofRelease, joinPieces_pieces]
    refine ⟨_, (spelling?_foldedCore (isFilled_ofRelease hdotted) htext).2, List.replicate 5000 '0',
      ?_, ?_⟩
    · rw [mem_numbers_ofRelease_iff, hpieces]
      exact .inr (List.mem_singleton_self _)
    · rw [List.length_replicate]
      decide
  obtain ⟨digits, htoo, hrow, herror, -⟩ := (parse_normal long).2.2 hlong
  exact ⟨⟨hfound, by decide +kernel, hnormal, hprefixed, hspelled, (hcompared "1!1.0").2⟩,
    ⟨hinvalid, problem, hproblem, (parse_normal "1..2").2.1 hinvalid problem hproblem⟩,
    hlong, digits, htoo, hrow, herror⟩

/-- A text of too many digits is refused, but not as an invalid version.  A local part that is a
dotted capital is read, and the normal text of that version is refused. -/
theorem parse_stray_of_long_number :
    let version := String.ofList (List.replicate 4301 '1')
    parse version = .error (.longNumber 4301) ∧
      (Fault.version (.longNumber 4301)).kind ≠ .version ∧
      ∃ found, parse "1.0+\u0130" = .ok found ∧ found.text = "1.0+i\u0307" ∧
        parse found.text = .error (.invalid "1.0+i\u0307" "1.0+i\u0307") := by
  intro version
  have hdotted : isDotted version = true := isDotted_replicate (by decide) (by decide)
  have hpieces : pieces '.' version.toList = [List.replicate 4301 '1'] :=
    pieces_replicate (by decide) 4301
  have hstray : (parse "1.0+\u0130").toOption.map (fun found ↦ (found.text, parse found.text)) =
      some ("1.0+i\u0307", .error (.invalid "1.0+i\u0307" "1.0+i\u0307")) := by
    decide +kernel
  obtain ⟨found, hfound, hnormal⟩ := Option.map_eq_some_iff.mp hstray
  obtain ⟨htext, hrefused⟩ := Prod.mk.inj hnormal
  refine ⟨?_, by decide, found, toOption_eq_some_iff.mp hfound, htext, hrefused⟩
  rw [parse_of_isDotted hdotted, hpieces, List.find?_cons_of_pos]
  · change Except.error (VersionProblem.longNumber (List.replicate 4301 '1').length) = _
    rw [List.length_replicate]
  · rw [List.length_replicate]
    decide

end Reading

end AddonUpkeep.Version
