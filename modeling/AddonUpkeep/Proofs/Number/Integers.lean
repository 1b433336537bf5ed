import Mathlib.Data.List.TakeWhile
import Mathlib.Data.Nat.Digits.Defs
import AddonUpkeep.Proofs.Number.Digits

/-!
# Texts of integers

A decimal integer is written with digits of any script, between which single underscores may stand.
A sign may stand in front, and blanks around the whole.  Reading takes these texts and no others, as
long as they have no more digits than the limit.
-/

namespace AddonUpkeep.Number

open AddonUpkeep.Text

/-- A text of digits, in which every underscore stands between two digits. -/
inductive Grouped : List Char → List Nat → Prop where
  | last {c : Char} {digit : Nat} (hdigit : digitValue? c = some digit) : Grouped [c] [digit]
  | next {c : Char} {digit : Nat} {text : List Char} {digits : List Nat}
      (hdigit : digitValue? c = some digit) (hrest : Grouped text digits) :
      Grouped (c :: text) (digit :: digits)
  | underscore {c : Char} {digit : Nat} {text : List Char} {digits : List Nat}
      (hdigit : digitValue? c = some digit) (hrest : Grouped text digits) :
      Grouped (c :: '_' :: text) (digit :: digits)

/-- The sign of an integer, which may be left out. -/
inductive Sign where
  | none
  | plus
  | minus
  deriving DecidableEq, Repr

namespace Sign

/-- The text of a sign. -/
def chars : Sign → List Char
  | none => []
  | plus => ['+']
  | minus => ['-']

/-- The integer of a sign and a number. -/
def apply (sign : Sign) (number : Nat) : Int := if sign = minus then -number else number

end Sign

/-- The text is written with the sign and the digits. -/
def Written (text : List Char) (sign : Sign) (digits : List Nat) : Prop :=
  ∃ before body behind, text = before ++ (sign.chars ++ body) ++ behind ∧
    (∀ c ∈ before, isMargin c = true) ∧ (∀ c ∈ behind, isMargin c = true) ∧ Grouped body digits

/-- The text denotes the integer: it is written with a sign and the digits of the integer to base
ten, of which the last one counts least. -/
def Denotes (text : List Char) (number : Int) : Prop :=
  ∃ sign digits, Written text sign digits ∧ number = sign.apply (Nat.ofDigits 10 digits.reverse)

section Characters

variable {c : Char} {digit : Nat}

/-- A digit of any script as one of ASCII. -/
def toAscii (c : Char) : Char :=
  match digitValue? c with
  | some digit => digit.digitChar
  | none => c

theorem exists_start_of_digitValue? (h : digitValue? c = some digit) :
    ∃ start ∈ digitZeros, start ≤ c.toNat ∧ c.toNat < start + 10 ∧ digit = c.toNat - start := by
  obtain ⟨start, hfind, hdigit⟩ := Option.map_eq_some_iff.mp h
  have hrange := List.find?_some hfind
  rw [Bool.and_eq_true, decide_eq_true_eq, decide_eq_true_eq] at hrange
  exact ⟨start, List.mem_of_find?_eq_some hfind, hrange.1, hrange.2, hdigit.symm⟩

theorem lt_ten_of_digitValue? (h : digitValue? c = some digit) : digit < 10 := by
  obtain ⟨start, -, hle, hlt, rfl⟩ := exists_start_of_digitValue? h
  omega

/-- No script has a blank among its digits. -/
theorem isMargin_of_digitValue? (h : digitValue? c = some digit) : isMargin c = false := by
  have hrows : ∀ start ∈ digitZeros, ∀ range ∈ blankRanges,
      range.2 < start ∨ start + 10 ≤ range.1 := by decide +kernel
  obtain ⟨start, hstart, hle, hlt, -⟩ := exists_start_of_digitValue? h
  have hblank : isBlank c = false := by
    rw [← Bool.not_eq_true, isBlank, inRanges_iff]
    rintro ⟨range, hrange, hfirst, hlast⟩
    rcases hrows start hstart range hrange with hbelow | habove
    · omega
    · omega
  rw [isMargin, hblank, Bool.false_and]

theorem isAsciiDigit_of_isDigitOf (h : isDigitOf 10 c = true) : isAsciiDigit c = true := by
  rw [isDigitOf, Bool.and_eq_true, decide_eq_true_eq] at h
  obtain ⟨hhex, hlt⟩ := h
  unfold isHexDigit at hhex
  rw [Bool.or_assoc, Bool.or_eq_true] at hhex
  refine hhex.resolve_right fun hletter ↦ ?_
  -- a letter counts at least ten
  have hle : 'A'.toNat ≤ c.toNat := by
    rw [Bool.or_eq_true, Bool.and_eq_true, Bool.and_eq_true] at hletter
    rcases hletter with ⟨hfirst, -⟩ | ⟨hfirst, -⟩
    · exact Nat.le_trans (by decide) (show 'a'.toNat ≤ c.toNat from of_decide_eq_true hfirst)
    · exact of_decide_eq_true hfirst
  have hnine : ¬ c ≤ '9' := fun hnine ↦ absurd (Nat.le_trans hle hnine) (by decide)
  unfold hexDigitValue at hlt
  rw [if_neg hnine] at hlt
  split at hlt
  · omega
  · omega

theorem digitValue?_of_isAsciiDigit (h : isAsciiDigit c = true) :
    digitValue? c = some (c.toNat - 48) := by
  rw [isAsciiDigit, Bool.and_eq_true, decide_eq_true_eq, decide_eq_true_eq] at h
  have hfirst : 48 ≤ c.toNat := h.1
  have hlast : c.toNat ≤ 57 := h.2
  unfold digitValue? digitZeros
  rw [List.find?_cons_of_pos (by rw [Bool.and_eq_true]; exact ⟨by simpa, by simpa using by omega⟩)]
  rfl

theorem toAscii_of_some (h : digitValue? c = some digit) : toAscii c = digit.digitChar := by
  rw [toAscii, h]

theorem toAscii_of_none (h : digitValue? c = none) : toAscii c = c := by rw [toAscii, h]

theorem isDigitOf_toAscii (c : Char) : isDigitOf 10 (toAscii c) = (digitValue? c).isSome := by
  cases hdigit : digitValue? c with
  | none =>
    rw [toAscii_of_none hdigit, Option.isSome_none, ← Bool.not_eq_true]
    intro hascii
    rw [digitValue?_of_isAsciiDigit (isAsciiDigit_of_isDigitOf hascii)] at hdigit
    cases hdigit
  | some digit =>
    have hlt := lt_ten_of_digitValue? hdigit
    rw [toAscii_of_some hdigit, isDigitOf, isHexDigit_digitChar (by omega),
      hexDigitValue_digitChar (by omega), decide_eq_true hlt]
    rfl

/-- A character that is no digit stands where it stood before. -/
theorem toAscii_eq_iff {other : Char} (h : digitValue? other = none) :
    toAscii c = other ↔ c = other := by
  cases hdigit : digitValue? c with
  | none => rw [toAscii_of_none hdigit]
  | some digit =>
    have hascii := isDigitOf_toAscii c
    rw [hdigit, Option.isSome_some] at hascii
    refine iff_of_false ?_ ?_
    · rintro rfl
      rw [digitValue?_of_isAsciiDigit (isAsciiDigit_of_isDigitOf hascii)] at h
      cases h
    · rintro rfl
      rw [h] at hdigit
      cases hdigit

end Characters

section Digits

variable {body : List Char} {digits : List Nat}

theorem Grouped.ne_nil (h : Grouped body digits) : body ≠ [] := by
  cases h <;> exact List.cons_ne_nil _ _

theorem Grouped.lt_ten (h : Grouped body digits) : ∀ digit ∈ digits, digit < 10 := by
  induction h with
  | last hdigit => simpa using lt_ten_of_digitValue? hdigit
  | next hdigit _ ih => exact List.forall_mem_cons.mpr ⟨lt_ten_of_digitValue? hdigit, ih⟩
  | underscore hdigit _ ih => exact List.forall_mem_cons.mpr ⟨lt_ten_of_digitValue? hdigit, ih⟩

theorem Grouped.isMargin_eq_false (h : Grouped body digits) : ∀ c ∈ body, isMargin c = false := by
  have hunderscore : isMargin '_' = false := by decide
  induction h with
  | last hdigit => simpa using isMargin_of_digitValue? hdigit
  | next hdigit _ ih => exact List.forall_mem_cons.mpr ⟨isMargin_of_digitValue? hdigit, ih⟩
  | underscore hdigit _ ih =>
    exact List.forall_mem_cons.mpr ⟨isMargin_of_digitValue? hdigit,
      List.forall_mem_cons.mpr ⟨hunderscore, ih⟩⟩

/-- A digit is no sign and no underscore. -/
theorem Grouped.head_ne (h : Grouped body digits) {other : Char} (hother : digitValue? other = none) :
    body.head? ≠ some other := by
  cases h with
  | last hdigit | next hdigit _ | underscore hdigit _ =>
    rintro heq
    obtain rfl := Option.some.inj heq
    rw [hother] at hdigit
    cases hdigit

theorem groupedDigits?_cons {base : Nat} {c : Char} {rest : List Char} (hne : rest ≠ [])
    (hhead : rest.head? ≠ some '_') :
    groupedDigits? base (c :: rest) =
      if isDigitOf base c then (groupedDigits? base rest).map (c :: ·) else none := by
  obtain ⟨d, rest, rfl⟩ := List.exists_cons_of_ne_nil hne
  have hd : d ≠ '_' := fun heq ↦ hhead (congrArg some heq)
  rw [groupedDigits?]
  · exact List.cons_ne_nil d rest
  · intro tail heq
    exact hd (List.cons.inj heq).1

theorem groupedDigits?_underscore {base : Nat} {c : Char} {rest : List Char} :
    groupedDigits? base (c :: '_' :: rest) =
      if isDigitOf base c then (groupedDigits? base rest).map (c :: ·) else none := by
  rw [groupedDigits?]

theorem toAscii_underscore : toAscii '_' = '_' := by decide

/-- The digits of a text are found in ASCII. -/
theorem Grouped.groupedDigits?_eq (h : Grouped body digits) :
    groupedDigits? 10 (body.map toAscii) = some (digits.map Nat.digitChar) := by
  have hascii {c : Char} {digit : Nat} (hdigit : digitValue? c = some digit) :
      isDigitOf 10 (toAscii c) = true := by rw [isDigitOf_toAscii, hdigit, Option.isSome_some]
  have hhead {rest : List Char} {later : List Nat} (hrest : Grouped rest later) :
      (rest.map toAscii).head? ≠ some '_' := by
    rw [List.head?_map, Ne, Option.map_eq_some_iff]
    rintro ⟨c, hc, hunderscore⟩
    obtain rfl := (toAscii_eq_iff (by decide)).mp hunderscore
    exact hrest.head_ne (by decide) hc
  induction h with
  | last hdigit =>
    rw [List.map_singleton, groupedDigits?, if_pos (hascii hdigit), toAscii_of_some hdigit]
    rfl
  | next hdigit hrest ih =>
    rw [List.map_cons, groupedDigits?_cons (by simpa using hrest.ne_nil) (hhead hrest),
      if_pos (hascii hdigit), ih, toAscii_of_some hdigit]
    rfl
  | underscore hdigit hrest ih =>
    rw [List.map_cons, List.map_cons, toAscii_underscore, groupedDigits?_underscore,
      if_pos (hascii hdigit), ih, toAscii_of_some hdigit]
    rfl

theorem exists_digit_of_isDigitOf {c : Char} (h : isDigitOf 10 (toAscii c) = true) :
    ∃ digit, digitValue? c = some digit := by
  rw [isDigitOf_toAscii] at h
  exact Option.isSome_iff_exists.mp h

/-- A text whose digits are found in ASCII is one of digits. -/
theorem exists_grouped : ∀ (body : List Char) {ascii : List Char},
    groupedDigits? 10 (body.map toAscii) = some ascii → ∃ digits, Grouped body digits
  | [], _, h => by cases h
  | [c], _, h => by
    rw [List.map_singleton, groupedDigits?] at h
    split at h
    · next hc =>
      obtain ⟨digit, hdigit⟩ := exists_digit_of_isDigitOf hc
      exact ⟨_, .last hdigit⟩
    · cases h
  | c :: d :: rest, _, h => by
    by_cases hd : d = '_'
    · rw [hd, List.map_cons, List.map_cons, toAscii_underscore, groupedDigits?_underscore] at h
      split at h
      · next hc =>
        obtain ⟨digit, hdigit⟩ := exists_digit_of_isDigitOf hc
        obtain ⟨later, hlater, -⟩ := Option.map_eq_some_iff.mp h
        obtain ⟨digits, hgrouped⟩ := exists_grouped rest hlater
        rw [hd]
        exact ⟨_, .underscore hdigit hgrouped⟩
      · cases h
    · have hhead : ((d :: rest).map toAscii).head? ≠ some '_' := fun heq ↦
        hd ((toAscii_eq_iff (by decide)).mp (Option.some.inj heq))
      rw [List.map_cons, groupedDigits?_cons (by simp) hhead] at h
      split at h
      · next hc =>
        obtain ⟨digit, hdigit⟩ := exists_digit_of_isDigitOf hc
        obtain ⟨later, hlater, -⟩ := Option.map_eq_some_iff.mp h
        obtain ⟨digits, hgrouped⟩ := exists_grouped (d :: rest) hlater
        exact ⟨_, .next hdigit hgrouped⟩
      · cases h

/-- Digits in ASCII denote the number that they are the digits of. -/
theorem digitsValue_map_digitChar (h : ∀ digit ∈ digits, digit < 10) :
    digitsValue 10 (digits.map Nat.digitChar) = Nat.ofDigits 10 digits.reverse := by
  induction digits using List.reverseRecOn with
  | nil => rfl
  | append_singleton digits digit ih =>
    have hdigit : digit < 10 := h digit (by simp)
    have hone : digitsValue 10 [digit.digitChar] = digit := by
      simp [digitsValue, hexDigitValue_digitChar (Nat.lt_trans hdigit (by decide))]
    calc digitsValue 10 ((digits ++ [digit]).map Nat.digitChar)
        = digitsValue 10 (digits.map Nat.digitChar) * 10 + digit := by
          rw [List.map_append, List.map_singleton, digitsValue_append, hone, List.length_singleton,
            pow_one]
      _ = digit + 10 * Nat.ofDigits 10 digits.reverse := by
          rw [ih fun other hother ↦ h other (by simp [hother]), Nat.mul_comm, Nat.add_comm]
      _ = Nat.ofDigits 10 (digits ++ [digit]).reverse := by
          rw [List.reverse_append, List.reverse_singleton, List.singleton_append, Nat.ofDigits_cons]

end Digits

section Margins

/-- The text without the blanks around it. -/
def core (text : List Char) : List Char :=
  ((text.dropWhile isMargin).reverse.dropWhile isMargin).reverse

theorem core_append {before inner behind : List Char} (hbefore : ∀ c ∈ before, isMargin c = true)
    (hbehind : ∀ c ∈ behind, isMargin c = true) (hinner : ∀ c ∈ inner, isMargin c = false)
    (hne : inner ≠ []) : core (before ++ inner ++ behind) = inner := by
  obtain ⟨first, rest, rfl⟩ := List.exists_cons_of_ne_nil hne
  obtain ⟨last, more, hlast⟩ := List.exists_cons_of_ne_nil
    (mt List.reverse_eq_nil_iff.mp (List.cons_ne_nil first rest))
  have hfirst : isMargin first = false := hinner first List.mem_cons_self
  have hmargin : isMargin last = false := by
    refine hinner last (List.mem_reverse.mp ?_)
    rw [hlast]
    exact List.mem_cons_self
  unfold core
  rw [List.append_assoc, List.dropWhile_append_of_pos hbefore, List.cons_append,
    List.dropWhile_cons_of_neg (by simp [hfirst]), ← List.cons_append, List.reverse_append,
    List.dropWhile_append_of_pos fun c hc ↦ hbehind c (List.mem_reverse.mp hc), hlast,
    List.dropWhile_cons_of_neg (by simp [hmargin]), ← hlast, List.reverse_reverse]

/-- What is taken away around the core is blank. -/
theorem exists_core (text : List Char) : ∃ before behind, text = before ++ core text ++ behind ∧
    (∀ c ∈ before, isMargin c = true) ∧ ∀ c ∈ behind, isMargin c = true := by
  set rest := text.dropWhile isMargin
  refine ⟨text.takeWhile isMargin, (rest.reverse.takeWhile isMargin).reverse, ?_, ?_, ?_⟩
  · have hrest : core text ++ (rest.reverse.takeWhile isMargin).reverse = rest := by
      unfold core
      rw [← List.reverse_append, List.takeWhile_append_dropWhile, List.reverse_reverse]
    rw [List.append_assoc, hrest, List.takeWhile_append_dropWhile]
  · exact fun c hc ↦ List.mem_takeWhile_imp hc
  · exact fun c hc ↦ List.mem_takeWhile_imp (List.mem_reverse.mp hc)

end Margins

section Reading

variable {text : List Char} {sign : Sign} {digits : List Nat} {number : Int}

theorem dropBaseMark_ten (text : List Char) : dropBaseMark 10 text = text := by
  unfold dropBaseMark
  split
  · rfl
  · rfl

theorem takeSign_map (text : List Char) :
    takeSign (text.map toAscii) = ((takeSign text).1, (takeSign text).2.map toAscii) := by
  cases text with
  | nil => rfl
  | cons c rest =>
    by_cases hminus : c = '-'
    · rw [hminus]
      rfl
    · by_cases hplus : c = '+'
      · rw [hplus]
        rfl
      · have hminus' : toAscii c ≠ '-' := mt (toAscii_eq_iff (by decide)).mp hminus
        have hplus' : toAscii c ≠ '+' := mt (toAscii_eq_iff (by decide)).mp hplus
        simp [takeSign, hminus, hplus, hminus', hplus']

theorem takeSign_chars {body : List Char} (h : Grouped body digits) (sign : Sign) :
    takeSign (sign.chars ++ body) = (decide (sign = .minus), body) := by
  cases sign with
  | plus | minus => rfl
  | none =>
    obtain ⟨c, rest, rfl⟩ := List.exists_cons_of_ne_nil h.ne_nil
    have hminus : c ≠ '-' := fun heq ↦ h.head_ne (by decide) (congrArg some heq)
    have hplus : c ≠ '+' := fun heq ↦ h.head_ne (by decide) (congrArg some heq)
    simp [takeSign, Sign.chars, hminus, hplus]

/-- A text is a sign and what is taken behind it. -/
theorem exists_sign (text : List Char) : ∃ sign : Sign, text = sign.chars ++ (takeSign text).2 := by
  unfold takeSign
  split
  · exact ⟨.minus, rfl⟩
  · exact ⟨.plus, rfl⟩
  · exact ⟨.none, rfl⟩

/-- A sign and digits are found in the text that is written with them. -/
theorem Written.numeral_eq (h : Written text sign digits) :
    ∃ ascii, takeSign (numeral text) = (decide (sign = .minus), ascii) ∧
      groupedDigits? 10 ascii = some (digits.map Nat.digitChar) := by
  obtain ⟨before, body, behind, rfl, hbefore, hbehind, hgrouped⟩ := h
  have hsign : ∀ c ∈ sign.chars, isMargin c = false := by
    intro c hc
    cases sign with
    | none => cases hc
    | plus =>
      obtain rfl := List.mem_singleton.mp hc
      decide
    | minus =>
      obtain rfl := List.mem_singleton.mp hc
      decide
  have hinner : ∀ c ∈ sign.chars ++ body, isMargin c = false := by
    intro c hc
    rcases List.mem_append.mp hc with hc | hc
    · exact hsign c hc
    · exact hgrouped.isMargin_eq_false c hc
  have hnumeral : numeral (before ++ (sign.chars ++ body) ++ behind) =
      (sign.chars ++ body).map toAscii :=
    congrArg (List.map toAscii)
      (core_append hbefore hbehind hinner (List.append_ne_nil_of_right_ne_nil _ hgrouped.ne_nil))
  refine ⟨body.map toAscii, ?_, hgrouped.groupedDigits?_eq⟩
  rw [hnumeral, takeSign_map, takeSign_chars hgrouped]

theorem Written.lt_ten (h : Written text sign digits) : ∀ digit ∈ digits, digit < 10 := by
  obtain ⟨_, _, _, _, _, _, hgrouped⟩ := h
  exact hgrouped.lt_ten

/-- A text that is written with a sign and digits is read as their integer, unless there are too
many digits. -/
theorem readInteger_of_written (h : Written text sign digits) :
    readInteger 10 text =
      if digitLimit < digits.length then .error (.tooLong digits.length)
      else .ok (sign.apply (Nat.ofDigits 10 digits.reverse)) := by
  obtain ⟨ascii, hsign, hascii⟩ := h.numeral_eq
  unfold readInteger
  simp only [hsign, dropBaseMark_ten, hascii, List.length_map, true_and, decide_eq_true_eq,
    digitsValue_map_digitChar h.lt_ten]
  rfl

/-- A text that is not malformed is written with a sign and digits. -/
theorem exists_written (h : readInteger 10 text ≠ .error .malformed) :
    ∃ sign digits, Written text sign digits := by
  obtain ⟨before, behind, htext, hbefore, hbehind⟩ := exists_core text
  obtain ⟨sign, hsign⟩ := exists_sign (core text)
  have hnumeral : takeSign (numeral text) =
      ((takeSign (core text)).1, (takeSign (core text)).2.map toAscii) := takeSign_map (core text)
  unfold readInteger at h
  rw [hnumeral] at h
  dsimp only at h
  rw [dropBaseMark_ten] at h
  cases hascii : groupedDigits? 10 ((takeSign (core text)).2.map toAscii) with
  | none =>
    rw [hascii] at h
    exact absurd rfl h
  | some ascii =>
    obtain ⟨digits, hgrouped⟩ := exists_grouped _ hascii
    exact ⟨sign, digits, before, _, behind, hsign ▸ htext, hbefore, hbehind, hgrouped⟩

/-- An integer that is read is one that the text denotes. -/
theorem denotes_of_readInteger (h : readInteger 10 text = .ok number) : Denotes text number := by
  have hread : readInteger 10 text ≠ .error .malformed := by simp [h]
  obtain ⟨sign, digits, hwritten⟩ := exists_written hread
  rw [readInteger_of_written hwritten] at h
  split at h
  · cases h
  · exact ⟨sign, digits, hwritten, (Except.ok.inj h).symm⟩

/-- A text denotes one integer at most. -/
theorem Denotes.unique {other : Int} (h : Denotes text number) (h' : Denotes text other) :
    number = other := by
  obtain ⟨sign, digits, hwritten, rfl⟩ := h
  obtain ⟨sign', digits', hwritten', rfl⟩ := h'
  obtain ⟨ascii, hsign, hascii⟩ := hwritten.numeral_eq
  obtain ⟨ascii', hsign', hascii'⟩ := hwritten'.numeral_eq
  obtain ⟨hminus, rfl⟩ := Prod.mk.inj (hsign.symm.trans hsign')
  have hdigits : digits.map Nat.digitChar = digits'.map Nat.digitChar :=
    Option.some.inj (hascii.symm.trans hascii')
  rw [← digitsValue_map_digitChar hwritten.lt_ten, ← digitsValue_map_digitChar hwritten'.lt_ten,
    hdigits]
  simp only [Sign.apply, decide_eq_decide.mp hminus]

/-- The text is written with a sign and no more digits than the limit. -/
def Readable (text : List Char) : Prop :=
  ∃ sign digits, Written text sign digits ∧ digits.length ≤ digitLimit

theorem Readable.exists_denotes (h : Readable text) : ∃ number, Denotes text number := by
  obtain ⟨sign, digits, hwritten, -⟩ := h
  exact ⟨_, sign, digits, hwritten, rfl⟩

theorem readable_iff : Readable text ↔ ∃ number, readInteger 10 text = .ok number := by
  constructor
  · rintro ⟨sign, digits, hwritten, hle⟩
    rw [readInteger_of_written hwritten, if_neg (Nat.not_lt.mpr hle)]
    exact ⟨_, rfl⟩
  · rintro ⟨number, hread⟩
    obtain ⟨sign, digits, hwritten, -⟩ := denotes_of_readInteger hread
    refine ⟨sign, digits, hwritten, ?_⟩
    by_contra hlong
    rw [readInteger_of_written hwritten, if_pos (Nat.not_le.mp hlong)] at hread
    cases hread

end Reading

end AddonUpkeep.Number
