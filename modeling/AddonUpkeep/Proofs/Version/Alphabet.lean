import AddonUpkeep.Proofs.Text.Trimming
import AddonUpkeep.Proofs.Version.Grammar

/-!
# The characters of versions

A text that is read as a version is made of letters, digits and the few marks of the grammar, with
blanks at its ends.  What no rule of the grammar reads stands in what every rule leaves over, so it
is still there when the reader asks that nothing is left.
-/

namespace AddonUpkeep.Version

open AddonUpkeep.Text AddonUpkeep.Number

/-- A character of a folded text that some rule of the grammar reads. -/
def isSpellingChar (c : Char) : Bool := isPartChar c || isSeparator c || c == '!' || c == '+'

variable {c : Char} {text rest : List Char}

theorem isSpellingChar_of_digit (h : isAsciiDigit c = true) : isSpellingChar c = true := by
  simp [isSpellingChar, isPartChar, h]

theorem isSpellingChar_of_separator (h : isSeparator c = true) : isSpellingChar c = true := by
  simp [isSpellingChar, h]

/-- A rule reads characters of the grammar only: every other one is left over. -/
def Spares (text rest : List Char) : Prop := ∀ c ∈ text, isSpellingChar c = false → c ∈ rest

theorem Spares.refl (text : List Char) : Spares text text := fun _ h _ ↦ h

theorem Spares.trans {middle : List Char} (h : Spares text middle) (h' : Spares middle rest) :
    Spares text rest := fun c hc hforeign ↦ h' c (h c hc hforeign) hforeign

instance : Trans Spares Spares Spares := ⟨Spares.trans⟩

/-- A row of characters of the grammar may be read. -/
theorem spares_append {read : List Char} (h : ∀ c ∈ read, isSpellingChar c = true)
    (rest : List Char) : Spares (read ++ rest) rest := by
  intro c hc hforeign
  rcases List.mem_append.mp hc with hread | hrest
  · rw [h c hread] at hforeign
    cases hforeign
  · exact hrest

theorem spares_cons (h : isSpellingChar c = true) (rest : List Char) : Spares (c :: rest) rest :=
  spares_append (fun _ hc ↦ List.mem_singleton.mp hc ▸ h) rest

theorem spares_takeDigits (text : List Char) : Spares text (takeDigits text).2 := by
  have hread : ∀ c ∈ text.takeWhile isAsciiDigit, isSpellingChar c = true :=
    fun c hc ↦ isSpellingChar_of_digit (List.mem_takeWhile_imp hc)
  have hspares := spares_append hread (text.dropWhile isAsciiDigit)
  rwa [List.takeWhile_append_dropWhile] at hspares

theorem spares_skipSeparator (text : List Char) : Spares text (skipSeparator text) := by
  cases text with
  | nil => exact .refl []
  | cons c rest =>
    rw [skipSeparator]
    split
    · next h => exact spares_cons (isSpellingChar_of_separator h) rest
    · exact .refl _

section Words

variable {α : Type} {words : List (List Char × α)}

/-- The words are made of characters of the grammar. -/
def Spelled (words : List (List Char × α)) : Prop :=
  (words.all fun word ↦ word.1.all isSpellingChar) = true

theorem spares_takeWord? (hwords : Spelled words) {meaning : α}
    (h : takeWord? words text = some (meaning, rest)) : Spares text rest := by
  obtain ⟨word, hword, hfound⟩ := List.exists_of_findSome?_eq_some h
  obtain ⟨behind, hbehind, heq⟩ := Option.map_eq_some_iff.mp hfound
  obtain ⟨-, rfl⟩ := Prod.mk.inj heq
  rw [dropStart?_eq_some_iff.mp hbehind]
  exact spares_append (List.all_eq_true.mp (List.all_eq_true.mp hwords word hword)) behind

theorem spares_takeQualifier? (hwords : Spelled words) {found : α × List Char}
    (h : takeQualifier? words text = some (found, rest)) : Spares text rest := by
  obtain ⟨⟨meaning, behind⟩, hword, heq⟩ := Option.map_eq_some_iff.mp h
  obtain ⟨-, rfl⟩ := Prod.mk.inj heq
  calc
    Spares text (skipSeparator text) := spares_skipSeparator text
    Spares _ behind := spares_takeWord? hwords hword
    Spares _ (skipSeparator behind) := spares_skipSeparator behind
    Spares _ _ := spares_takeDigits _

end Words

theorem spelled_preWords : Spelled preWords := rfl

theorem spelled_postWords : Spelled postWords := rfl

theorem spelled_devWords : Spelled devWords := rfl

theorem spares_takePost? {found : PostStage × List Char} (h : takePost? text = some (found, rest)) :
    Spares text rest := by
  unfold takePost? at h
  split at h
  · next c behind =>
    split at h
    · next hdigit =>
      obtain ⟨-, rfl⟩ := Prod.mk.inj (Option.some.inj h)
      exact (spares_cons (by decide) _).trans (spares_takeDigits (c :: behind))
    · exact spares_takeQualifier? spelled_postWords h
  · exact spares_takeQualifier? spelled_postWords h

theorem spares_takeRelease (read : List (List Char)) (current text : List Char) :
    Spares text (takeRelease read current text).2 := by
  fun_induction takeRelease read current text with
  | case1 read current c rest hdigit ih =>
    calc
      Spares ('.' :: c :: rest) (c :: rest) := spares_cons (by decide) _
      Spares _ rest := spares_cons (isSpellingChar_of_digit hdigit) rest
      Spares _ _ := ih
  | case2 read current c rest => exact .refl _
  | case3 read current c rest hpoint hdigit ih =>
    exact (spares_cons (isSpellingChar_of_digit hdigit) rest).trans ih
  | case4 read current c rest => exact .refl _
  | case5 read current => exact .refl _

/-- Local parts hold nothing but letters and digits, with separators between them. -/
theorem isSpellingChar_of_localParts? {parts : List (List Char)}
    (h : localParts? text = some parts) (hc : c ∈ text) : isSpellingChar c = true := by
  unfold localParts? at h
  dsimp only at h
  split at h
  · next hall =>
    cases hseparator : isSeparator c with
    | true => exact isSpellingChar_of_separator hseparator
    | false =>
      have hmem : c ∈ text.map fun c ↦ if isSeparator c then '.' else c :=
        List.mem_map.mpr ⟨c, hc, by rw [hseparator]; rfl⟩
      rw [← joinPieces_pieces '.' (text.map _)] at hmem
      rcases mem_joinPieces hmem with hpoint | ⟨piece, hpiece, hin⟩
      · rw [List.mem_singleton.mp hpoint] at hseparator
        cases hseparator
      · have hpart := (Bool.and_eq_true_iff.mp (List.all_eq_true.mp hall piece hpiece)).2
        simp [isSpellingChar, List.all_eq_true.mp hpart c hin]
  · cases h

theorem spares_withoutLetter (text : List Char) : Spares text (withoutLetter text) := by
  unfold withoutLetter
  split
  · next rest => exact spares_cons (by decide) rest
  · exact .refl _

/-- The epoch is read with its mark, or the digits in front belong to the release. -/
theorem spares_takeEpoch (text : List Char) : Spares text (takeEpoch text).2 := by
  unfold takeEpoch
  split
  · next rest hrest =>
    have hspares := spares_takeDigits text
    rw [hrest] at hspares
    exact hspares.trans (spares_cons (by decide) rest)
  · exact .refl text

theorem spares_mayTake {α : Type} {rule : List Char → Option (α × List Char)}
    (hrule : ∀ {text part rest}, rule text = some (part, rest) → Spares text rest)
    (text : List Char) : Spares text (mayTake rule text).2 := by
  unfold mayTake
  split
  · next hfound => exact hrule hfound
  · exact .refl text

theorem spares_takeDev? {digits : List Char} (h : takeDev? text = some (digits, rest)) :
    Spares text rest := by
  obtain ⟨found, hfound, heq⟩ := Option.map_eq_some_iff.mp h
  obtain ⟨-, rfl⟩ := Prod.mk.inj heq
  exact spares_takeQualifier? spelled_devWords hfound

theorem isSpellingChar_of_takeBuild? {parts : List (List Char)}
    (h : takeBuild? text = some parts) (hc : c ∈ text) : isSpellingChar c = true := by
  unfold takeBuild? at h
  split at h
  · cases hc
  · next behind =>
    rcases List.mem_cons.mp hc with rfl | hbehind
    · decide
    · exact isSpellingChar_of_localParts? h hbehind
  · cases h

/-- A text that has the form of a version is made of characters of the grammar. -/
theorem isSpellingChar_of_spelling? {spelling : Spelling} (h : spelling? text = some spelling)
    (hc : c ∈ text) : isSpellingChar c = true := by
  obtain ⟨numbered, qualified, afterPre, afterPost, last, h⟩ := spelling?_eq_some_iff.mp h
  have hnumbered := spares_takeEpoch (withoutLetter text)
  have hqualified := spares_takeRelease [] [] numbered
  have hafterPre := spares_mayTake (spares_takeQualifier? spelled_preWords) qualified
  have hafterPost := spares_mayTake spares_takePost? afterPre
  have hlast := spares_mayTake spares_takeDev? afterPost
  rw [h.epoch] at hnumbered
  rw [h.release] at hqualified
  rw [h.pre] at hafterPre
  rw [h.post] at hafterPost
  rw [h.dev] at hlast
  have hall : Spares text last :=
    calc
      Spares text _ := spares_withoutLetter text
      Spares _ numbered := hnumbered
      Spares _ qualified := hqualified
      Spares _ afterPre := hafterPre
      Spares _ afterPost := hafterPost
      Spares _ last := hlast
  -- a foreign character would be left over, where only local parts may be
  by_contra hforeign
  have hleft := hall c hc ((Bool.not_eq_true _).mp hforeign)
  exact hforeign (isSpellingChar_of_takeBuild? h.build hleft)

/-- A character of a version that is neither a blank nor a letter `v` is read when it is folded. -/
theorem isSpellingChar_of_parse {version : String} {found : Version}
    (h : parse version = .ok found) (hc : c ∈ version.toList) (hblank : isBlank c = false)
    (hletter : (c == 'v') = false) : isSpellingChar (folded c) = true := by
  unfold parse at h
  split at h
  · cases h
  extract_lets read at h
  split at h
  · cases h
  next spelling hspelling =>
  apply isSpellingChar_of_spelling? hspelling
  refine List.mem_map_of_mem (mem_trimBlanks ?_ hblank)
  exact mem_dropWhile (mem_trimBlanks hc hblank) hletter

theorem colon_not_mem_of_parse {version : String} {found : Version}
    (h : parse version = .ok found) : ':' ∉ version.toList := by
  intro hc
  have hread := isSpellingChar_of_parse h hc (by decide) (by decide)
  revert hread
  decide

end AddonUpkeep.Version
