import AddonUpkeep.Proofs.Text.Pieces
import AddonUpkeep.Version.Reader
import Mathlib.Data.List.TakeWhile

/-!
# The grammar of versions

A text has the form of a version when each rule of the grammar in turn reads its part of what the
rule before has left over, and the last one leaves nothing, or local parts behind a plus sign.
-/

namespace AddonUpkeep.Version

open AddonUpkeep.Text AddonUpkeep.Number

/-- The text without one letter `v` in front. -/
def withoutLetter : List Char → List Char
  | 'v' :: rest => rest
  | text => text

/-- The digits in front of a text are its epoch when a mark follows them.  Otherwise they belong to
the release. -/
def takeEpoch (text : List Char) : List Char × List Char :=
  match (takeDigits text).2 with
  | '!' :: rest => ((takeDigits text).1, rest)
  | _ => ([], text)

/-- A rule reads a part in front of a text, or leaves the text. -/
def mayTake {α : Type} (rule : List Char → Option (α × List Char)) (text : List Char) :
    Option α × List Char :=
  match rule text with
  | some (found, rest) => (some found, rest)
  | none => (none, text)

/-- The rule for a development release. -/
def takeDev? (text : List Char) : Option (List Char × List Char) :=
  (takeQualifier? devWords text).map fun (found, rest) ↦ (found.2, rest)

/-- The end of a text holds local parts behind a plus sign, or nothing. -/
def takeBuild? : List Char → Option (List (List Char))
  | [] => some []
  | '+' :: rest => localParts? rest
  | _ => none

/-- The texts that the rules of the grammar leave over one after the other, with the parts of a
spelling read between them. -/
structure Stages (spelling : Spelling)
    (bare numbered qualified afterPre afterPost last : List Char) : Prop where
  digits_ne_nil : (takeDigits bare).1 ≠ []
  epoch : takeEpoch bare = (spelling.epoch, numbered)
  release : takeRelease [] [] numbered = (spelling.release, qualified)
  release_filled : ∀ row ∈ spelling.release, row ≠ []
  pre : mayTake (takeQualifier? preWords) qualified = (spelling.pre, afterPre)
  post : mayTake takePost? afterPre = (spelling.post, afterPost)
  dev : mayTake takeDev? afterPost = (spelling.dev, last)
  build : takeBuild? last = some spelling.build

variable {text : List Char} {spelling : Spelling}

theorem mayTake_takePre? (text : List Char) : mayTake (takeQualifier? preWords) text =
    match takeQualifier? preWords text with
    | some (found, rest) => (some found, rest)
    | none => (none, text) := by
  unfold mayTake
  cases takeQualifier? preWords text <;> rfl

theorem mayTake_takePost? (text : List Char) : mayTake takePost? text =
    match takePost? text with
    | some (found, rest) => (some found, rest)
    | none => (none, text) := by
  unfold mayTake
  cases takePost? text <;> rfl

theorem mayTake_takeDev? (text : List Char) : mayTake takeDev? text =
    match takeQualifier? devWords text with
    | some (found, rest) => (some found.2, rest)
    | none => (none, text) := by
  unfold mayTake takeDev?
  cases takeQualifier? devWords text <;> rfl

/-- A text has the form of a version exactly when the rules read it to its end. -/
theorem spelling?_eq_some_iff : spelling? text = some spelling ↔
    ∃ numbered qualified afterPre afterPost last,
      Stages spelling (withoutLetter text) numbered qualified afterPre afterPost last := by
  unfold spelling?
  extract_lets bare
  rw [show bare = withoutLetter text from rfl]
  clear_value bare
  split
  next first rest hdigits =>
  split
  next epoch numbered hfound =>
  have hepoch : takeEpoch (withoutLetter text) = (epoch, numbered) := by
    unfold takeEpoch
    rw [hdigits]
    exact hfound
  constructor
  · intro h
    split at h
    · cases h
    next hfirst =>
    split at h
    next release qualified hrelease =>
    split at h
    · cases h
    next hfilled =>
    split at h
    next pre afterPre hpre =>
    split at h
    next post afterPost hpost =>
    split at h
    next dev last hdev =>
    have hread : (takeBuild? last).map (⟨epoch, release, pre, post, dev, ·⟩) = some spelling := by
      split at h
      · exact h
      · exact h
      · cases h
    obtain ⟨build, hbuild, rfl⟩ := Option.map_eq_some_iff.mp hread
    refine ⟨numbered, qualified, afterPre, afterPost, last, ?_, hepoch, hrelease, ?_,
      (mayTake_takePre? _).trans hpre, (mayTake_takePost? _).trans hpost,
      (mayTake_takeDev? _).trans hdev, hbuild⟩
    · rw [hdigits]
      simpa using hfirst
    · intro row hrow hnil
      exact hfilled (List.any_eq_true.mpr ⟨row, hrow, List.isEmpty_iff.mpr hnil⟩)
  · rintro ⟨numbered', qualified, afterPre, afterPost, last, h⟩
    have hfirst : ¬ first.isEmpty = true := by
      have hne := h.digits_ne_nil
      rw [hdigits] at hne
      simpa using hne
    have hfilled : ¬ spelling.release.any List.isEmpty = true := by
      rw [List.any_eq_true]
      rintro ⟨row, hrow, hnil⟩
      exact h.release_filled row hrow (List.isEmpty_iff.mp hnil)
    obtain ⟨rfl, rfl⟩ := Prod.mk.inj (hepoch.symm.trans h.epoch)
    rw [if_neg hfirst]
    split
    next release qualified hrelease =>
    obtain ⟨rfl, rfl⟩ := Prod.mk.inj (hrelease.symm.trans h.release)
    rw [if_neg hfilled]
    split
    next pre afterPre hpre =>
    obtain ⟨rfl, rfl⟩ := Prod.mk.inj (hpre.symm.trans ((mayTake_takePre? _).symm.trans h.pre))
    split
    next post afterPost hpost =>
    obtain ⟨rfl, rfl⟩ := Prod.mk.inj (hpost.symm.trans ((mayTake_takePost? _).symm.trans h.post))
    split
    next dev last hdev =>
    obtain ⟨rfl, rfl⟩ := Prod.mk.inj (hdev.symm.trans ((mayTake_takeDev? _).symm.trans h.dev))
    have hread : (takeBuild? last).map
        (⟨spelling.epoch, spelling.release, spelling.pre, spelling.post, spelling.dev, ·⟩) =
          some spelling := by
      rw [h.build]
      rfl
    unfold takeBuild? at hread
    split at hread
    · exact hread
    · exact hread
    · cases hread

section Rows

variable {digits rest : List Char}

/-- A row of digits that stands in a text. -/
structure IsRow (text digits : List Char) : Prop where
  isInfix : digits <:+: text
  all_digits : ∀ c ∈ digits, isAsciiDigit c = true

theorem isRow_nil (text : List Char) : IsRow text [] := ⟨List.nil_infix, List.forall_mem_nil _⟩

theorem IsRow.of_suffix (h : IsRow rest digits) (hrest : rest <:+ text) : IsRow text digits :=
  ⟨h.isInfix.trans hrest.isInfix, h.all_digits⟩

theorem isRow_takeDigits (text : List Char) : IsRow text (takeDigits text).1 :=
  ⟨(List.takeWhile_prefix _).isInfix, fun _ hc ↦ List.mem_takeWhile_imp hc⟩

theorem suffix_takeDigits (text : List Char) : (takeDigits text).2 <:+ text :=
  List.dropWhile_suffix _

theorem suffix_skipSeparator (text : List Char) : skipSeparator text <:+ text := by
  cases text with
  | nil => exact List.suffix_rfl
  | cons c rest =>
    rw [skipSeparator]
    split
    · exact List.suffix_cons c rest
    · exact List.suffix_rfl

/-- A qualifier reads a row of digits, and leaves the end of the text. -/
theorem isRow_takeQualifier? {α : Type} {words : List (List Char × α)} {meaning : α}
    (h : takeQualifier? words text = some ((meaning, digits), rest)) :
    IsRow text digits ∧ rest <:+ text := by
  obtain ⟨⟨meaning, behind⟩, hword, heq⟩ := Option.map_eq_some_iff.mp h
  obtain ⟨hfound, rfl⟩ := Prod.mk.inj heq
  obtain ⟨-, rfl⟩ := Prod.mk.inj hfound
  obtain ⟨word, -, hword⟩ := List.exists_of_findSome?_eq_some hword
  obtain ⟨left, hleft, heq⟩ := Option.map_eq_some_iff.mp hword
  obtain ⟨-, rfl⟩ := Prod.mk.inj heq
  have hleft : left <:+ skipSeparator text := ⟨word.1, (dropStart?_eq_some_iff.mp hleft).symm⟩
  have hsuffix : skipSeparator left <:+ text :=
    (suffix_skipSeparator left).trans (hleft.trans (suffix_skipSeparator text))
  exact ⟨(isRow_takeDigits _).of_suffix hsuffix, (suffix_takeDigits _).trans hsuffix⟩

/-- A qualifier reads a character that stands in all words of its meaning. -/
theorem mem_of_takeQualifier? {α : Type} {words : List (List Char × α)} {meaning : α} {c : Char}
    (hwords : ∀ word ∈ words, word.2 = meaning → c ∈ word.1)
    (h : takeQualifier? words text = some ((meaning, digits), rest)) : c ∈ text := by
  obtain ⟨⟨_, behind⟩, hword, heq⟩ := Option.map_eq_some_iff.mp h
  obtain ⟨hfound, -⟩ := Prod.mk.inj heq
  obtain ⟨rfl, -⟩ := Prod.mk.inj hfound
  obtain ⟨word, hmem, hword⟩ := List.exists_of_findSome?_eq_some hword
  obtain ⟨left, hleft, heq⟩ := Option.map_eq_some_iff.mp hword
  obtain ⟨hmeaning, -⟩ := Prod.mk.inj heq
  apply (suffix_skipSeparator text).subset
  rw [dropStart?_eq_some_iff.mp hleft]
  exact List.mem_append_left left (hwords word hmem hmeaning)

theorem mem_of_takePre?_dotted (h : takeQualifier? preWords text = some ((.dotted, digits), rest)) :
    '\u0130' ∈ text :=
  mem_of_takeQualifier? (by decide) h

theorem mem_of_takePost?_long (h : takePost? text = some ((.long, digits), rest)) :
    '\u017f' ∈ text := by
  have hwords : ∀ word ∈ postWords, word.2 = .long → '\u017f' ∈ word.1 := by decide
  unfold takePost? at h
  split at h
  · split at h
    · cases h
    · exact mem_of_takeQualifier? hwords h
  · exact mem_of_takeQualifier? hwords h

theorem isRow_takePost? {stage : PostStage} (h : takePost? text = some ((stage, digits), rest)) :
    IsRow text digits ∧ rest <:+ text := by
  unfold takePost? at h
  split at h
  · next c behind =>
    split at h
    · cases h
      have hsuffix : c :: behind <:+ '-' :: c :: behind := List.suffix_cons _ _
      exact ⟨(isRow_takeDigits _).of_suffix hsuffix, (suffix_takeDigits _).trans hsuffix⟩
    · exact isRow_takeQualifier? h
  · exact isRow_takeQualifier? h

theorem isRow_takeDev? (h : takeDev? text = some (digits, rest)) :
    IsRow text digits ∧ rest <:+ text := by
  obtain ⟨found, hfound, heq⟩ := Option.map_eq_some_iff.mp h
  obtain ⟨rfl, rfl⟩ := Prod.mk.inj heq
  exact isRow_takeQualifier? hfound

theorem isRow_takeEpoch (h : takeEpoch text = (digits, rest)) :
    IsRow text digits ∧ rest <:+ text := by
  unfold takeEpoch at h
  split at h
  · next behind hbehind =>
    cases h
    have hsuffix := suffix_takeDigits text
    rw [hbehind] at hsuffix
    exact ⟨isRow_takeDigits text, (List.suffix_cons _ _).trans hsuffix⟩
  · cases h
    exact ⟨isRow_nil text, List.suffix_rfl⟩

/-- The pieces of a release are those already read and rows of digits of the text. -/
theorem isRow_takeRelease (read : List (List Char)) (current text : List Char)
    (hcurrent : ∀ c ∈ current, isAsciiDigit c = true) :
    (∀ piece ∈ (takeRelease read current text).1,
      piece ∈ read ∨ IsRow (current.reverse ++ text) piece) ∧
    (takeRelease read current text).1 ≠ [] ∧ (takeRelease read current text).2 <:+ text := by
  have hends {read : List (List Char)} {current : List Char} (rest : List Char)
      (hcurrent : ∀ c ∈ current, isAsciiDigit c = true) :
      ∀ piece ∈ (current.reverse :: read).reverse,
        piece ∈ read ∨ IsRow (current.reverse ++ rest) piece := by
    intro piece hpiece
    rcases List.mem_cons.mp (List.mem_reverse.mp hpiece) with rfl | hread
    · exact .inr ⟨(List.prefix_append _ _).isInfix, fun c hc ↦ hcurrent c (List.mem_reverse.mp hc)⟩
    · exact .inl hread
  fun_induction takeRelease read current text with
  | case1 read current c rest hdigit ih =>
    obtain ⟨hpieces, hne, hsuffix⟩ := ih (List.forall_mem_singleton.mpr hdigit)
    refine ⟨fun piece hpiece ↦ ?_, hne, ?_⟩
    · rcases hpieces piece hpiece with hread | hrow
      · rcases List.mem_cons.mp hread with rfl | hread
        · exact .inr ⟨(List.prefix_append _ _).isInfix,
            fun c hc ↦ hcurrent c (List.mem_reverse.mp hc)⟩
        · exact .inl hread
      · refine .inr (hrow.of_suffix ⟨current.reverse ++ ['.'], ?_⟩)
        simp
    · exact hsuffix.trans ⟨['.', c], rfl⟩
  | case2 read current c rest => exact ⟨hends _ hcurrent, by simp, List.suffix_rfl⟩
  | case3 read current c rest hpoint hdigit ih =>
    obtain ⟨hpieces, hne, hsuffix⟩ := ih (List.forall_mem_cons.mpr ⟨hdigit, hcurrent⟩)
    refine ⟨fun piece hpiece ↦ (hpieces piece hpiece).imp_right fun hrow ↦ ?_, hne,
      hsuffix.trans (List.suffix_cons c rest)⟩
    simpa using hrow
  | case4 read current c rest => exact ⟨hends _ hcurrent, by simp, List.suffix_rfl⟩
  | case5 read current => exact ⟨hends _ hcurrent, by simp, List.suffix_rfl⟩

/-- A change of characters that makes no digits brings no rows of digits. -/
theorem IsRow.of_map {f : Char → Char} (hf : ∀ c, isAsciiDigit (f c) = true → f c = c)
    (h : IsRow (text.map f) digits) : IsRow text digits := by
  obtain ⟨⟨before, behind, hmap⟩, hdigits⟩ := h
  obtain ⟨front, last, rfl, hfront, -⟩ := List.map_eq_append_iff.mp hmap.symm
  obtain ⟨first, row, rfl, -, hrow⟩ := List.map_eq_append_iff.mp hfront
  have hsame : row.map f = row := by
    refine (List.map_congr_left fun c hc ↦ hf c (hdigits _ ?_)).trans (List.map_id row)
    rw [← hrow]
    exact List.mem_map_of_mem hc
  rw [← hrow, hsame] at hdigits ⊢
  exact ⟨⟨first, last, rfl⟩, hdigits⟩

/-- Local parts are filled with letters and digits of the text, and numbers among them are rows of
it. -/
theorem localParts?_eq_some {parts : List (List Char)} (h : localParts? text = some parts) :
    ∀ part ∈ parts, part ≠ [] ∧ (∀ c ∈ part, isPartChar c = true ∧ c ∈ text) ∧
      ((∀ c ∈ part, isAsciiDigit c = true) → IsRow text part) := by
  unfold localParts? at h
  dsimp only at h
  split at h
  · next hall =>
    obtain rfl := Option.some.inj h
    intro part hpart
    have hfilled := List.all_eq_true.mp hall part hpart
    rw [Bool.and_eq_true, Bool.not_eq_true', List.isEmpty_eq_false_iff, List.all_eq_true] at hfilled
    have hstands : part <:+: joinPieces ['.'] _ := infix_joinPieces hpart
    rw [joinPieces_pieces] at hstands
    refine ⟨hfilled.1, fun c hc ↦ ⟨hfilled.2 c hc, ?_⟩, fun hdigits ↦ ?_⟩
    · obtain ⟨given, hgiven, heq⟩ := List.mem_map.mp (hstands.subset hc)
      split at heq
      · -- no part has a separator in it
        have hpoint := hfilled.2 c hc
        rw [← heq] at hpoint
        cases hpoint
      · exact heq ▸ hgiven
    · refine IsRow.of_map (fun c hc ↦ ?_) ⟨hstands, hdigits⟩
      split
      · next hseparator =>
        rw [if_pos hseparator] at hc
        cases hc
      · rfl
  · cases h

/-- A rule that may be left out reads a row of digits, or none. -/
theorem isRow_mayTake {α : Type} {rule : List Char → Option (α × List Char)}
    (digitsOf : α → List Char) {found : Option α}
    (hrule : ∀ {part rest}, rule text = some (part, rest) →
      IsRow text (digitsOf part) ∧ rest <:+ text)
    (h : mayTake rule text = (found, rest)) :
    (∀ part ∈ found, IsRow text (digitsOf part)) ∧ rest <:+ text := by
  unfold mayTake at h
  split at h
  · next hfound =>
    cases h
    obtain ⟨hrow, hsuffix⟩ := hrule hfound
    exact ⟨fun part hpart ↦ Option.mem_some.mp hpart ▸ hrow, hsuffix⟩
  · cases h
    exact ⟨fun part hpart ↦ absurd hpart (Option.not_mem_none part), List.suffix_rfl⟩

theorem takeBuild?_eq_some {parts : List (List Char)} (h : takeBuild? text = some parts) :
    ∀ part ∈ parts, part ≠ [] ∧ (∀ c ∈ part, isPartChar c = true ∧ c ∈ text) ∧
      ((∀ c ∈ part, isAsciiDigit c = true) → IsRow text part) := by
  unfold takeBuild? at h
  split at h
  · cases h
    exact List.forall_mem_nil _
  · next rest =>
    intro part hpart
    obtain ⟨hne, hchars, hrow⟩ := localParts?_eq_some h part hpart
    exact ⟨hne, fun c hc ↦ ⟨(hchars c hc).1, List.mem_cons_of_mem _ (hchars c hc).2⟩,
      fun hdigits ↦ (hrow hdigits).of_suffix (List.suffix_cons _ _)⟩
  · cases h

/-- A rule that is there when something stands in the text. -/
theorem mem_of_mayTake {α : Type} {rule : List Char → Option (α × List Char)} {found : α}
    {rest : List Char} {c : Char} (hrule : ∀ {rest}, rule text = some (found, rest) → c ∈ text)
    (h : mayTake rule text = (some found, rest)) : c ∈ text := by
  unfold mayTake at h
  split at h
  · next hfound =>
    cases h
    exact hrule hfound
  · cases h

/-- What a spelling is made of: numbers that are rows of digits of the text, at least one of them in
the release and none of those empty, and local parts of letters and digits of the text.  A stage
that is kept apart has its letter in the text. -/
structure IsReadFrom (spelling : Spelling) (text : List Char) : Prop where
  isRow : ∀ digits ∈ spelling.numbers, IsRow text digits
  release_ne_nil : spelling.release ≠ []
  release_filled : ∀ row ∈ spelling.release, row ≠ []
  build : ∀ part ∈ spelling.build, part ≠ [] ∧ ∀ c ∈ part, isPartChar c = true ∧ c ∈ text
  dotted : ∀ digits, spelling.pre = some (.dotted, digits) → '\u0130' ∈ text
  long : ∀ digits, spelling.post = some (.long, digits) → '\u017f' ∈ text

theorem suffix_withoutLetter (text : List Char) : withoutLetter text <:+ text := by
  unfold withoutLetter
  split
  · exact List.suffix_cons _ _
  · exact List.suffix_rfl

/-- A text that has the form of a version is read from end to end. -/
theorem isReadFrom_of_spelling? (h : spelling? text = some spelling) :
    IsReadFrom spelling text := by
  obtain ⟨numbered, qualified, afterPre, afterPost, last, h⟩ := spelling?_eq_some_iff.mp h
  obtain ⟨hepoch, hnumbered⟩ := isRow_takeEpoch h.epoch
  have hnumbered := hnumbered.trans (suffix_withoutLetter text)
  have hrelease := isRow_takeRelease [] [] numbered (List.forall_mem_nil _)
  rw [h.release] at hrelease
  obtain ⟨hrows, hne, hqualified⟩ := hrelease
  obtain ⟨hpre, hafterPre⟩ := isRow_mayTake Prod.snd isRow_takeQualifier? h.pre
  obtain ⟨hpost, hafterPost⟩ := isRow_mayTake Prod.snd isRow_takePost? h.post
  obtain ⟨hdev, hlast⟩ := isRow_mayTake id isRow_takeDev? h.dev
  have hbuild := takeBuild?_eq_some h.build
  -- every rule reads in an end of the text
  have hqualified := hqualified.trans hnumbered
  have hafterPre := hafterPre.trans hqualified
  have hafterPost := hafterPost.trans hafterPre
  have hlast := hlast.trans hafterPost
  constructor
  case release_ne_nil => exact hne
  case release_filled => exact h.release_filled
  case build =>
    intro part hpart
    obtain ⟨hfilled, hchars, -⟩ := hbuild part hpart
    exact ⟨hfilled, fun c hc ↦ ⟨(hchars c hc).1, hlast.subset (hchars c hc).2⟩⟩
  case dotted =>
    intro digits hdigits
    exact hqualified.subset (mem_of_mayTake mem_of_takePre?_dotted (hdigits ▸ h.pre))
  case long =>
    intro digits hdigits
    exact hafterPre.subset (mem_of_mayTake mem_of_takePost?_long (hdigits ▸ h.post))
  intro digits hdigits
  simp only [Spelling.numbers, List.cons_append, List.mem_cons, List.mem_append, Option.mem_toList,
    Option.map_eq_some_iff, List.mem_filter, List.all_eq_true] at hdigits
  rcases hdigits with rfl | (((hdigits | ⟨found, hdigits, rfl⟩) | ⟨found, hdigits, rfl⟩) |
    hdigits) | ⟨hdigits, hall⟩
  · exact hepoch.of_suffix (suffix_withoutLetter text)
  · rcases hrows digits hdigits with hnone | hrow
    · cases hnone
    · exact hrow.of_suffix hnumbered
  · exact (hpre found hdigits).of_suffix hqualified
  · exact (hpost found hdigits).of_suffix hafterPre
  · exact (hdev digits hdigits).of_suffix hafterPost
  · exact ((hbuild digits hdigits).2.2 hall).of_suffix hlast

end Rows

end AddonUpkeep.Version
