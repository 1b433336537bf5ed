import AddonUpkeep.Proofs.Version.Alphabet

/-!
# Texts in the form of a version

The parts of a spelling can be written one behind the other, with the normal marks and words between
them.  Each rule of the grammar then reads its own part and stops in front of the next one, so the
text is read as the spelling that it was made of.
-/

namespace AddonUpkeep.Version

open AddonUpkeep.Text AddonUpkeep.Number

/-- A row of decimal digits, at least one. -/
def isNumeral (piece : List Char) : Bool := !piece.isEmpty && piece.all isAsciiDigit

variable {c : Char} {digits first piece rest : List Char} {more : List (List Char)}
  {spelling : Spelling}

theorem isNumeral_iff :
    isNumeral piece = true ↔ piece ≠ [] ∧ ∀ c ∈ piece, isAsciiDigit c = true := by
  simp [isNumeral]

theorem exists_digit_of_isNumeral (h : isNumeral piece = true) :
    ∃ c rest, piece = c :: rest ∧ isAsciiDigit c = true := by
  obtain ⟨hne, hdigits⟩ := isNumeral_iff.mp h
  obtain ⟨c, rest, rfl⟩ := List.exists_cons_of_ne_nil hne
  exact ⟨c, rest, rfl, hdigits c List.mem_cons_self⟩

theorem ne_of_digit {other : Char} (hc : isAsciiDigit c = true)
    (hother : isAsciiDigit other = false) : other ≠ c := by
  rintro rfl
  rw [hc] at hother
  cases hother

/-- Digits are taken up to the first other character. -/
theorem takeDigits_append (hdigits : ∀ c ∈ digits, isAsciiDigit c = true)
    (hrest : ∀ c ∈ rest.head?, isAsciiDigit c = false) :
    takeDigits (digits ++ rest) = (digits, rest) := by
  unfold takeDigits
  rw [List.takeWhile_append_of_pos hdigits, List.dropWhile_append_of_pos hdigits]
  cases rest with
  | nil => simp
  | cons c rest => simp [hrest c rfl]

/-- A text with which no row of numbers and points goes on, and in front of which no epoch ends. -/
inductive Stops : List Char → Prop
  | nil : Stops []
  | letter {c : Char} {rest : List Char} (hdigit : isAsciiDigit c = false) (hpoint : c ≠ '.')
      (hmark : c ≠ '!') : Stops (c :: rest)
  | point {c : Char} {rest : List Char} (hdigit : isAsciiDigit c = false) : Stops ('.' :: c :: rest)

namespace Stops

theorem head_not_digit (h : Stops rest) : ∀ c ∈ rest.head?, isAsciiDigit c = false := by
  cases h with
  | nil => simp
  | letter hdigit => simp [hdigit]
  | point => simp [isAsciiDigit]

theorem ne_mark (h : Stops rest) (behind : List Char) : rest ≠ '!' :: behind := by
  rintro rfl
  cases h with
  | letter _ _ hmark => exact hmark rfl

/-- The pieces of a release end here. -/
theorem takeRelease_eq (h : Stops rest) (read : List (List Char)) (current : List Char) :
    takeRelease read current rest = ((current.reverse :: read).reverse, rest) := by
  cases h with
  | nil => rfl
  | letter hdigit hpoint =>
    rw [takeRelease.eq_def]
    split
    · next heq => exact absurd (List.cons.inj heq).1 hpoint
    · next heq =>
      obtain ⟨rfl, rfl⟩ := List.cons.inj heq
      rw [hdigit, if_neg Bool.false_ne_true]
    · next heq => cases heq
  | point hdigit => rw [takeRelease, hdigit, if_neg Bool.false_ne_true]

end Stops

section Release

theorem takeRelease_digit (hc : isAsciiDigit c = true) (read : List (List Char))
    (current rest : List Char) :
    takeRelease read current (c :: rest) = takeRelease read (c :: current) rest := by
  have hpoint : '.' ≠ c := ne_of_digit hc (by decide)
  rw [takeRelease.eq_def]
  split
  · next heq => exact absurd (List.cons.inj heq).1.symm hpoint
  · next heq =>
    obtain ⟨rfl, rfl⟩ := List.cons.inj heq
    rw [if_pos hc]
  · next heq => cases heq

theorem takeRelease_point (hc : isAsciiDigit c = true) (read : List (List Char))
    (current rest : List Char) :
    takeRelease read current ('.' :: c :: rest) =
      takeRelease (current.reverse :: read) [] (c :: rest) := by
  rw [takeRelease, if_pos hc, takeRelease_digit hc]

theorem takeRelease_digits (h : ∀ c ∈ piece, isAsciiDigit c = true) (read : List (List Char))
    (current rest : List Char) :
    takeRelease read current (piece ++ rest) =
      takeRelease read (piece.reverse ++ current) rest := by
  induction piece generalizing current with
  | nil => rfl
  | cons c piece ih =>
    obtain ⟨hdigit, hrest⟩ := List.forall_mem_cons.mp h
    rw [List.cons_append, takeRelease_digit hdigit, ih hrest, List.reverse_cons,
      List.append_assoc, List.singleton_append]

/-- Numerals with points between them start with a digit. -/
theorem exists_joinPieces_eq_cons (h : ∀ row ∈ first :: more, isNumeral row = true) :
    ∃ c rest, isAsciiDigit c = true ∧ joinPieces ['.'] (first :: more) = c :: rest := by
  obtain ⟨c, rest, rfl, hc⟩ := exists_digit_of_isNumeral (h first List.mem_cons_self)
  cases more with
  | nil => exact ⟨c, rest, hc, rfl⟩
  | cons next more => exact ⟨c, _, hc, rfl⟩

/-- Numerals with points between them are taken to their end. -/
theorem takeRelease_joinPieces (hstops : Stops rest) (read : List (List Char))
    (h : ∀ row ∈ first :: more, isNumeral row = true) :
    takeRelease read [] (joinPieces ['.'] (first :: more) ++ rest) =
      (read.reverse ++ first :: more, rest) := by
  have hdigits := (isNumeral_iff.mp (h first List.mem_cons_self)).2
  induction more generalizing first read with
  | nil =>
    rw [joinPieces, takeRelease_digits hdigits, hstops.takeRelease_eq]
    simp
  | cons next more ih =>
    have hlater : ∀ row ∈ next :: more, isNumeral row = true :=
      fun row hrow ↦ h row (List.mem_cons_of_mem _ hrow)
    obtain ⟨c, behind, hc, hjoined⟩ := exists_joinPieces_eq_cons hlater
    have hnext := ih (first.reverse.reverse :: read) hlater
      (isNumeral_iff.mp (hlater next List.mem_cons_self)).2
    rw [hjoined, List.cons_append] at hnext
    rw [joinPieces, hjoined, List.append_assoc, List.append_assoc, List.singleton_append,
      List.cons_append, takeRelease_digits hdigits, List.append_nil, takeRelease_point hc, hnext]
    · simp
    · exact List.cons_ne_nil next more

theorem takeEpoch_mark (hdigits : ∀ c ∈ digits, isAsciiDigit c = true) (rest : List Char) :
    takeEpoch (digits ++ '!' :: rest) = (digits, rest) := by
  have htaken : takeDigits (digits ++ '!' :: rest) = (digits, '!' :: rest) :=
    takeDigits_append hdigits (by simp [isAsciiDigit])
  unfold takeEpoch
  rw [htaken]
  rfl

/-- The numbers of a release are not taken for an epoch. -/
theorem takeDigits_joinPieces (hstops : Stops rest)
    (h : ∀ row ∈ first :: more, isNumeral row = true) :
    ∃ left, takeDigits (joinPieces ['.'] (first :: more) ++ rest) = (first, left) ∧
      ∀ behind, left ≠ '!' :: behind := by
  have hdigits := (isNumeral_iff.mp (h first List.mem_cons_self)).2
  cases more with
  | nil => exact ⟨rest, takeDigits_append hdigits hstops.head_not_digit, hstops.ne_mark⟩
  | cons next more =>
    refine ⟨'.' :: (joinPieces ['.'] (next :: more) ++ rest), ?_, by simp⟩
    rw [joinPieces, List.append_assoc, List.append_assoc]
    · exact takeDigits_append hdigits (by simp [isAsciiDigit])
    · exact List.cons_ne_nil next more

theorem takeEpoch_joinPieces (hstops : Stops rest)
    (h : ∀ row ∈ first :: more, isNumeral row = true) :
    takeEpoch (joinPieces ['.'] (first :: more) ++ rest) =
      ([], joinPieces ['.'] (first :: more) ++ rest) := by
  obtain ⟨left, htaken, hmark⟩ := takeDigits_joinPieces hstops h
  unfold takeEpoch
  rw [htaken]
  split
  · next behind heq => exact absurd heq (hmark behind)
  · rfl

end Release

section Qualifiers

variable {α : Type} {words : List (List Char × α)} {word : List Char} {meaning : α}

theorem skipSeparator_digit (hc : isAsciiDigit c = true) (rest : List Char) :
    skipSeparator (c :: rest) = c :: rest := by
  have hplain : isSeparator c = false := by
    have hdash := (ne_of_digit hc (by decide : isAsciiDigit '-' = false)).symm
    have hline := (ne_of_digit hc (by decide : isAsciiDigit '_' = false)).symm
    have hpoint := (ne_of_digit hc (by decide : isAsciiDigit '.' = false)).symm
    simp [isSeparator, hdash, hline, hpoint]
  rw [skipSeparator, hplain, if_neg Bool.false_ne_true]

/-- A word with a numeral behind it is read as a qualifier. -/
theorem takeQualifier?_numeral (hdigits : isNumeral digits = true) (hstops : Stops rest)
    (hword : ∀ c behind, isAsciiDigit c = true →
      takeWord? words (skipSeparator (word ++ c :: behind)) = some (meaning, c :: behind)) :
    takeQualifier? words (word ++ (digits ++ rest)) = some ((meaning, digits), rest) := by
  obtain ⟨c, behind, rfl, hc⟩ := exists_digit_of_isNumeral hdigits
  have htaken := takeDigits_append (isNumeral_iff.mp hdigits).2 hstops.head_not_digit
  rw [List.cons_append] at htaken ⊢
  rw [takeQualifier?, hword c _ hc, Option.map_some]
  dsimp only
  rw [skipSeparator_digit hc, htaken]

/-- A word that does not start the text is passed over. -/
theorem takeWord?_of_not_start {text : List Char} (h : dropStart? word text = none) :
    takeWord? ((word, meaning) :: words) text = takeWord? words text := by
  unfold takeWord?
  rw [List.findSome?_cons]
  dsimp only
  rw [h, Option.map_none]

/-- Each stage but one is read from its own letters. -/
theorem takeWord?_preWords {stage : PreStage} (hstage : stage ≠ .dotted)
    (hc : isAsciiDigit c = true) (rest : List Char) :
    takeWord? preWords (skipSeparator (stage.letters ++ c :: rest)) = some (stage, c :: rest) := by
  have hl : 'l' ≠ c := ne_of_digit hc (by decide)
  have he : 'e' ≠ c := ne_of_digit hc (by decide)
  -- the whole words for the first two stages are tried before their letters
  cases stage with
  | alpha =>
    have hlonger : dropStart? "alpha".toList ('a' :: c :: rest) = none :=
      (if_pos rfl).trans (if_neg hl)
    exact (takeWord?_of_not_start hlonger).trans rfl
  | beta =>
    have hlonger : dropStart? "beta".toList ('b' :: c :: rest) = none :=
      (if_pos rfl).trans (if_neg he)
    have hshorter : takeWord? (preWords.drop 2) ('b' :: c :: rest) = some (.beta, c :: rest) :=
      (takeWord?_of_not_start hlonger).trans rfl
    exact hshorter
  | dotted => exact absurd rfl hstage
  | dotless => rfl
  | candidate => rfl

/-- A rule that reads the part that is there, and nothing when none is. -/
theorem mayTake_eq {rule : List Char → Option (α × List Char)} {found : Option α}
    {charsOf : α → List Char}
    (hfound : ∀ part ∈ found, rule (charsOf part ++ rest) = some (part, rest))
    (hnone : rule rest = none) :
    mayTake rule ((found.map charsOf).getD [] ++ rest) = (found, rest) := by
  unfold mayTake
  cases found with
  | none =>
    rw [Option.map_none, Option.getD_none, List.nil_append, hnone]
  | some part =>
    rw [Option.map_some, Option.getD_some, hfound part rfl]

end Qualifiers

namespace Spelling

/-- The local parts behind a plus sign, if there are any. -/
def buildChars (spelling : Spelling) : List Char :=
  match spelling.build with
  | [] => []
  | part :: parts => '+' :: joinPieces ['.'] (part :: parts)

/-- The text of a spelling from its development release on. -/
def devChars (spelling : Spelling) : List Char :=
  (spelling.dev.map (".dev".toList ++ ·)).getD [] ++ spelling.buildChars

/-- The text of a spelling from its post-release on. -/
def postChars (spelling : Spelling) : List Char :=
  (spelling.post.map fun (_, digits) ↦ ".post".toList ++ digits).getD [] ++ spelling.devChars

/-- The text of a spelling from its pre-release on. -/
def preChars (spelling : Spelling) : List Char :=
  (spelling.pre.map fun (stage, digits) ↦ stage.letters ++ digits).getD [] ++ spelling.postChars

/-- The text of a spelling from its release on. -/
def releaseChars (spelling : Spelling) : List Char :=
  joinPieces ['.'] spelling.release ++ spelling.preChars

/-- The text of a spelling with the normal marks and words.  An epoch without digits is left out. -/
def chars (spelling : Spelling) : List Char :=
  (if spelling.epoch.isEmpty then [] else spelling.epoch ++ ['!']) ++ spelling.releaseChars

/-- A spelling in which all numbers that are there have digits, and all local parts characters, and
whose stages are read from their normal texts. -/
structure IsFilled (spelling : Spelling) : Prop where
  epoch : ∀ c ∈ spelling.epoch, isAsciiDigit c = true
  release_ne_nil : spelling.release ≠ []
  release : ∀ row ∈ spelling.release, isNumeral row = true
  pre : ∀ found ∈ spelling.pre, found.1 ≠ .dotted ∧ isNumeral found.2 = true
  post : ∀ found ∈ spelling.post, found.1 = .plain ∧ isNumeral found.2 = true
  dev : ∀ digits ∈ spelling.dev, isNumeral digits = true
  build : ∀ part ∈ spelling.build, part ≠ [] ∧ ∀ c ∈ part, isPartChar c = true

section Stops

variable (spelling : Spelling)

theorem stops_buildChars : Stops spelling.buildChars := by
  unfold buildChars
  split
  · exact .nil
  · exact .letter (by decide) (by decide) (by decide)

theorem stops_devChars : Stops spelling.devChars := by
  unfold devChars
  cases spelling.dev with
  | none => exact spelling.stops_buildChars
  | some digits => exact .point (by decide)

theorem stops_postChars : Stops spelling.postChars := by
  unfold postChars
  cases spelling.post with
  | none => exact spelling.stops_devChars
  | some digits => exact .point (by decide)

theorem stops_preChars : Stops spelling.preChars := by
  unfold preChars
  cases spelling.pre with
  | none => exact spelling.stops_postChars
  | some found =>
    obtain ⟨stage, digits⟩ := found
    cases stage <;> exact .letter (by decide) (by decide) (by decide)

end Stops

theorem takeDev?_buildChars (spelling : Spelling) : takeDev? spelling.buildChars = none := by
  unfold buildChars
  split <;> rfl

theorem takePost?_devChars (spelling : Spelling) : takePost? spelling.devChars = none := by
  unfold devChars buildChars
  cases spelling.dev with
  | none => split <;> rfl
  | some digits => rfl

theorem takePre?_postChars (spelling : Spelling) :
    takeQualifier? preWords spelling.postChars = none := by
  unfold postChars devChars buildChars
  cases spelling.post with
  | none =>
    cases spelling.dev with
    | none => split <;> rfl
    | some digits => rfl
  | some digits => rfl

theorem takePost?_numeral (hdigits : isNumeral digits = true) (hstops : Stops rest) :
    takePost? (".post".toList ++ digits ++ rest) = some ((.plain, digits), rest) := by
  have hfound : takeQualifier? postWords (".post".toList ++ (digits ++ rest)) =
      some ((.plain, digits), rest) := takeQualifier?_numeral hdigits hstops fun _ _ _ ↦ rfl
  rw [List.append_assoc]
  exact hfound

theorem takeDev?_numeral (hdigits : isNumeral digits = true) (hstops : Stops rest) :
    takeDev? (".dev".toList ++ digits ++ rest) = some (digits, rest) := by
  have hfound : takeQualifier? devWords (".dev".toList ++ (digits ++ rest)) =
      some (((), digits), rest) := takeQualifier?_numeral hdigits hstops fun _ _ _ ↦ rfl
  rw [List.append_assoc, takeDev?, hfound]
  rfl

theorem takePre?_numeral {stage : PreStage} (hstage : stage ≠ .dotted)
    (hdigits : isNumeral digits = true) (hstops : Stops rest) :
    takeQualifier? preWords (stage.letters ++ digits ++ rest) = some ((stage, digits), rest) := by
  rw [List.append_assoc]
  exact takeQualifier?_numeral hdigits hstops fun c behind hc ↦ takeWord?_preWords hstage hc behind

/-- Characters of local parts are no separators. -/
theorem localParts?_joinPieces {parts : List (List Char)} (hne : parts ≠ [])
    (h : ∀ part ∈ parts, part ≠ [] ∧ ∀ c ∈ part, isPartChar c = true) :
    localParts? (joinPieces ['.'] parts) = some parts := by
  have hplain : ∀ c, isPartChar c = true → isSeparator c = false := by
    intro c hc
    by_contra hmark
    have hmark : isSeparator c = true := by simpa using hmark
    simp only [isSeparator, Bool.or_eq_true, beq_iff_eq] at hmark
    rcases hmark with (rfl | rfl) | rfl <;> revert hc <;> decide
  have hkept : (joinPieces ['.'] parts).map (fun c ↦ if isSeparator c then '.' else c) =
      joinPieces ['.'] parts := by
    refine (List.map_congr_left fun c hc ↦ ?_).trans (List.map_id _)
    rcases mem_joinPieces hc with hpoint | ⟨part, hpart, hin⟩
    · rw [List.mem_singleton.mp hpoint]
      rfl
    · rw [hplain c ((h part hpart).2 c hin)]
      rfl
  have hpieces : pieces '.' (joinPieces ['.'] parts) = parts := by
    refine pieces_joinPieces hne fun part hpart hpoint ↦ ?_
    have hchar := (h part hpart).2 '.' hpoint
    revert hchar
    decide
  unfold localParts?
  dsimp only
  rw [hkept, hpieces, if_pos]
  rw [List.all_eq_true]
  intro part hpart
  rw [Bool.and_eq_true, Bool.not_eq_true', List.isEmpty_eq_false_iff, List.all_eq_true]
  exact h part hpart

theorem takeBuild?_buildChars (h : spelling.IsFilled) :
    takeBuild? spelling.buildChars = some spelling.build := by
  have hbuild := h.build
  unfold buildChars
  split
  · next hnone =>
    rw [hnone]
    rfl
  · next part parts hparts =>
    rw [hparts] at hbuild ⊢
    exact localParts?_joinPieces (List.cons_ne_nil part parts) hbuild

theorem exists_chars_eq_cons (h : spelling.IsFilled) :
    ∃ c rest, isAsciiDigit c = true ∧ spelling.chars = c :: rest := by
  obtain ⟨first, more, hrelease⟩ := List.exists_cons_of_ne_nil h.release_ne_nil
  unfold chars
  cases hepoch : spelling.epoch with
  | nil =>
    have hrows := h.release
    rw [hrelease] at hrows
    obtain ⟨c, rest, hc, hjoined⟩ := exists_joinPieces_eq_cons hrows
    exact ⟨c, rest ++ spelling.preChars, hc, by simp [releaseChars, hrelease, hjoined]⟩
  | cons c digits =>
    exact ⟨c, digits ++ '!' :: spelling.releaseChars, h.epoch c (by simp [hepoch]), by simp⟩

theorem takeEpoch_chars (h : spelling.IsFilled) :
    takeEpoch spelling.chars = (spelling.epoch, spelling.releaseChars) := by
  obtain ⟨first, more, hrelease⟩ := List.exists_cons_of_ne_nil h.release_ne_nil
  unfold chars
  split
  · next hnone =>
    have hrows := h.release
    rw [List.isEmpty_iff.mp hnone, List.nil_append, releaseChars, hrelease]
    rw [hrelease] at hrows
    exact takeEpoch_joinPieces spelling.stops_preChars hrows
  · rw [List.append_assoc, List.singleton_append]
    exact takeEpoch_mark h.epoch _

/-- A filled spelling is read of its text. -/
theorem spelling?_chars (h : spelling.IsFilled) : spelling? spelling.chars = some spelling := by
  obtain ⟨c, rest, hc, hchars⟩ := exists_chars_eq_cons h
  have hletter : withoutLetter spelling.chars = spelling.chars := by
    unfold withoutLetter
    split
    · next heq =>
      rw [hchars] at heq
      exact absurd (List.cons.inj heq).1.symm (ne_of_digit hc (by decide))
    · rfl
  refine spelling?_eq_some_iff.mpr ⟨spelling.releaseChars, spelling.preChars, spelling.postChars,
    spelling.devChars, spelling.buildChars, ?_⟩
  rw [hletter]
  constructor
  case digits_ne_nil =>
    rw [hchars, takeDigits, List.takeWhile_cons_of_pos hc]
    exact List.cons_ne_nil c _
  case epoch => exact takeEpoch_chars h
  case release =>
    obtain ⟨first, more, hrelease⟩ := List.exists_cons_of_ne_nil h.release_ne_nil
    have hrows := h.release
    rw [releaseChars, hrelease]
    rw [hrelease] at hrows
    exact takeRelease_joinPieces spelling.stops_preChars [] hrows
  case release_filled => exact fun row hrow ↦ (isNumeral_iff.mp (h.release row hrow)).1
  case pre =>
    refine mayTake_eq (fun found hfound ↦ ?_) spelling.takePre?_postChars
    obtain ⟨hstage, hdigits⟩ := h.pre found hfound
    exact takePre?_numeral hstage hdigits spelling.stops_postChars
  case post =>
    refine mayTake_eq (fun found hfound ↦ ?_) spelling.takePost?_devChars
    obtain ⟨stage, digits⟩ := found
    obtain ⟨rfl, hdigits⟩ : stage = .plain ∧ isNumeral digits = true := h.post _ hfound
    exact takePost?_numeral hdigits spelling.stops_devChars
  case dev =>
    refine mayTake_eq (fun digits hdigits ↦ ?_) spelling.takeDev?_buildChars
    exact takeDev?_numeral (h.dev digits hdigits) spelling.stops_buildChars
  case build => exact takeBuild?_buildChars h

end Spelling

section Parsing

variable {text : String}

/-- The characters of the grammar are no blanks, and are folded to themselves. -/
theorem kept_of_isSpellingChar (h : isSpellingChar c = true) :
    isBlank c = false ∧ folded c = c := by
  have hbound : c.toNat ≤ '\u017f'.toNat := by
    have hlast {last : Char} (hle : c ≤ last) (hlast : last.toNat ≤ '\u017f'.toNat) :
        c.toNat ≤ '\u017f'.toNat := Nat.le_trans hle hlast
    simp only [isSpellingChar, isPartChar, isVariant, isAsciiDigit, isSeparator, Bool.or_eq_true,
      Bool.and_eq_true, decide_eq_true_eq, beq_iff_eq] at h
    rcases h with ((((⟨-, h⟩ | ⟨-, h⟩) | ((rfl | rfl) | rfl)) | ((rfl | rfl) | rfl)) | rfl) | rfl
    · exact hlast h (by decide)
    · exact hlast h (by decide)
    all_goals decide
  have hall : ∀ code ≤ '\u017f'.toNat, isSpellingChar (Char.ofNat code) = true →
      isBlank (Char.ofNat code) = false ∧ folded (Char.ofNat code) = Char.ofNat code := by
    decide +kernel
  have hkept := hall c.toNat hbound
  rw [Char.ofNat_toNat] at hkept
  exact hkept h

/-- What the grammar reads of a text: its core without blanks, folded. -/
def foldedCore (text : String) : List Char := (trimBlanks (core text)).map folded

theorem parse_eq (h : isBlankText text = false) : parse text =
    match spelling? (foldedCore text) with
    | none => .error (.invalid text (String.ofList (core text)))
    | some spelling => match spelling.numbers.find? fun digits ↦ digitLimit < digits.length with
      | none => .ok (ofSpelling spelling)
      | some digits => .error (.longNumber digits.length) := by
  cases hform : spelling? (foldedCore text) with
  | none =>
    rw [foldedCore] at hform
    simp [parse, h, hform]
  | some spelling =>
    rw [foldedCore] at hform
    cases hlong : spelling.numbers.find? fun digits ↦ digitLimit < digits.length <;>
      simp [parse, h, hform, hlong]

/-- A text that the grammar reads as it is, with no letter `v` to skip, reaches the grammar as it
is. -/
theorem foldedCore_of_spelling? (h : spelling? text.toList = some spelling)
    (hletter : ∀ rest, text.toList ≠ 'v' :: rest) :
    isBlankText text = false ∧ foldedCore text = text.toList := by
  have hkept : ∀ c ∈ text.toList, isBlank c = false ∧ folded c = c :=
    fun c hc ↦ kept_of_isSpellingChar (isSpellingChar_of_spelling? h hc)
  obtain ⟨c, rest, htext⟩ : ∃ c rest, text.toList = c :: rest := by
    refine List.exists_cons_of_ne_nil fun hnil ↦ ?_
    rw [hnil] at h
    cases h
  have hblank : isBlankText text = false := by
    rw [isBlankText, htext, List.all_cons, (hkept c (htext ▸ List.mem_cons_self)).1, Bool.false_and]
  have htrimmed : trimBlanks text.toList = text.toList :=
    trimBlanks_of_not_isBlank fun c hc ↦ (hkept c hc).1
  have hcore : core text = text.toList := by
    rw [core, htrimmed, htext]
    refine List.dropWhile_cons_of_neg ?_
    rw [beq_iff_eq]
    rintro rfl
    exact hletter rest htext
  refine ⟨hblank, ?_⟩
  rw [foldedCore, hcore, htrimmed]
  exact (List.map_congr_left fun c hc ↦ (hkept c hc).2).trans (List.map_id _)

/-- The text of a filled spelling reaches the grammar as it is, and is read as the spelling. -/
theorem spelling?_foldedCore (h : spelling.IsFilled) (htext : text.toList = spelling.chars) :
    isBlankText text = false ∧ spelling? (foldedCore text) = some spelling := by
  have hread : spelling? text.toList = some spelling := by
    rw [htext]
    exact Spelling.spelling?_chars h
  obtain ⟨hblank, hfolded⟩ := foldedCore_of_spelling? hread fun rest heq ↦ by
    obtain ⟨c, behind, hc, hchars⟩ := Spelling.exists_chars_eq_cons h
    rw [htext, hchars] at heq
    exact absurd (List.cons.inj heq).1.symm (ne_of_digit hc (by decide))
  exact ⟨hblank, by rw [hfolded, hread]⟩

/-- The text of a filled spelling is read as the version of the spelling, unless a number in it has
too many digits. -/
theorem parse_chars (h : spelling.IsFilled) (htext : text.toList = spelling.chars) :
    parse text = match spelling.numbers.find? fun digits ↦ digitLimit < digits.length with
      | none => .ok (ofSpelling spelling)
      | some digits => .error (.longNumber digits.length) := by
  obtain ⟨hblank, hread⟩ := spelling?_foldedCore h htext
  rw [parse_eq hblank, hread]

end Parsing

end AddonUpkeep.Version
