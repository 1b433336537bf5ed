import AddonUpkeep.Proofs.Json.Readable

/-!
# Where the reader reaches its limits

A document is refused for an integer that is too long, or for arrays and objects that are nested too
deeply, only when the text shows it: it has a row of that many digits, or so many opening brackets.
-/

namespace AddonUpkeep.Json

open AddonUpkeep.Text AddonUpkeep.Number

variable {α β : Type} {depth : Nat} {text rest : List Char}

/-- A bracket that opens an array or an object. -/
def isOpening (c : Char) : Bool := c == '[' || c == '{'

/-- The text has a row of more digits than an integer may have. -/
def HasLongRow (text : List Char) (digits : Nat) : Prop :=
  digitLimit < digits ∧
    ∃ row, row <:+: text ∧ row.length = digits ∧ ∀ c ∈ row, isAsciiDigit c = true

/-- A reading inside a number of arrays and objects leaves an end of the text, and refuses for a
limit only what the text shows. -/
structure Bounded (depth : Nat) (text : List Char) (reading : Except Failure (α × List Char)) :
    Prop where
  suffix : ∀ {value rest}, reading = .ok (value, rest) → rest <:+ text
  long : ∀ {digits}, reading = .error (.longInteger digits) → HasLongRow text digits
  deep : ∀ {inObject}, reading = .error (.tooDeep inObject) →
    nestingLimit + 1 < depth + text.countP isOpening

theorem bounded_ok {value : α} (h : rest <:+ text) : Bounded depth text (.ok (value, rest)) where
  suffix hok := (Prod.mk.inj (Except.ok.inj hok)).2 ▸ h
  long herror := by cases herror
  deep herror := by cases herror

theorem bounded_malformed (problem : Problem) (left : Nat) :
    Bounded depth text (.error (.malformed problem left) : Except Failure (α × List Char)) where
  suffix hok := by cases hok
  long herror := by cases herror
  deep herror := by cases herror

theorem bounded_refuse (problem : Problem) (left : List Char) :
    Bounded depth text (refuse problem left : Except Failure (α × List Char)) :=
  bounded_malformed problem left.length

theorem Bounded.mono {reading : Except Failure (α × List Char)} (h : Bounded depth rest reading)
    (hrest : rest <:+ text) : Bounded depth text reading where
  suffix hok := (h.suffix hok).trans hrest
  long herror := by
    obtain ⟨hlong, row, hrow, hdigits⟩ := h.long herror
    exact ⟨hlong, row, hrow.trans hrest.isInfix, hdigits⟩
  deep herror := by
    have hcount := hrest.sublist.countP_le (p := isOpening)
    have hdeep := h.deep herror
    omega

/-- An opening bracket counts for one array or object more. -/
theorem Bounded.opening {reading : Except Failure (α × List Char)} {c : Char}
    (h : Bounded (depth + 1) rest reading) (hc : isOpening c = true) :
    Bounded depth (c :: rest) reading where
  suffix hok := (h.suffix hok).trans (List.suffix_cons c rest)
  long herror := by
    obtain ⟨hlong, row, hrow, hdigits⟩ := h.long herror
    exact ⟨hlong, row, hrow.trans (List.suffix_cons c rest).isInfix, hdigits⟩
  deep herror := by
    have hdeep := h.deep herror
    rw [List.countP_cons_of_pos hc]
    omega

/-- A refusal does not tell what was to be read. -/
theorem Bounded.refusal {failure : Failure}
    (h : Bounded depth text (.error failure : Except Failure (α × List Char))) :
    Bounded depth text (.error failure : Except Failure (β × List Char)) where
  suffix hok := by cases hok
  long herror := h.long (congrArg Except.error (Except.error.inj herror))
  deep herror := h.deep (congrArg Except.error (Except.error.inj herror))

theorem Bounded.bind {first : Except Failure (α × List Char)}
    {next : α × List Char → Except Failure (β × List Char)} (h : Bounded depth text first)
    (hnext : ∀ value rest, rest <:+ text → Bounded depth text (next (value, rest))) :
    Bounded depth text (first >>= next) := by
  cases first with
  | ok found => exact hnext found.1 found.2 (h.suffix rfl)
  | error failure => exact h.refusal

theorem Bounded.map {reading : Except Failure (α × List Char)} (h : Bounded depth text reading)
    (f : α → β) : Bounded depth text (reading.map fun found ↦ (f found.1, found.2)) := by
  cases reading with
  | ok found => exact bounded_ok (h.suffix rfl)
  | error failure => exact h.refusal

theorem skipSpace_suffix (text : List Char) : skipSpace text <:+ text := List.dropWhile_suffix _

section Texts

/-- A reading that refuses a text only as malformed. -/
def OnlyMalformed (reading : Except Failure α) : Prop :=
  ∀ failure, reading = .error failure → ∃ problem left, failure = .malformed problem left

theorem onlyMalformed_ok (value : α) : OnlyMalformed (.ok value) := fun _ h ↦ by cases h

theorem onlyMalformed_malformed (problem : Problem) (left : Nat) :
    OnlyMalformed (.error (.malformed problem left) : Except Failure α) :=
  fun _ h ↦ ⟨problem, left, (Except.error.inj h).symm⟩

theorem onlyMalformed_readUnit (text : List Char) : OnlyMalformed (readUnit text) := by
  unfold readUnit
  split
  · split
    · exact onlyMalformed_malformed _ _
    · split
      · split
        · split
          · exact onlyMalformed_malformed _ _
          · split
            · exact onlyMalformed_ok _
            · exact onlyMalformed_ok _
        · exact onlyMalformed_ok _
      · exact onlyMalformed_ok _
  · exact onlyMalformed_malformed _ _

theorem onlyMalformed_readEscape (opening text : List Char) :
    OnlyMalformed (readEscape opening text) := by
  unfold readEscape
  split
  · exact onlyMalformed_malformed _ _
  · next c rest =>
    split
    · have hunit := onlyMalformed_readUnit rest
      cases hread : readUnit rest with
      | ok found => exact onlyMalformed_ok _
      | error failure =>
        obtain ⟨problem, left, rfl⟩ := hunit failure hread
        exact onlyMalformed_malformed problem left
    · split
      · exact onlyMalformed_ok _
      · exact onlyMalformed_malformed _ _

theorem bounded_readText (opening : List Char) (skip : Nat) (read text : List Char) :
    Bounded depth text (readText opening skip read text) := by
  induction text generalizing skip read with
  | nil => exact bounded_refuse _ _
  | cons c rest ih =>
    have hrest : rest <:+ c :: rest := List.suffix_cons c rest
    cases skip with
    | succ skip => exact (ih skip read).mono hrest
    | zero =>
      unfold readText
      split
      · exact bounded_ok hrest
      · split
        · split
          · next failure hescape =>
            obtain ⟨problem, left, rfl⟩ := onlyMalformed_readEscape opening rest failure hescape
            exact bounded_malformed problem left
          · exact (ih _ _).mono hrest
        · split
          · exact bounded_refuse _ _
          · exact (ih _ _).mono hrest

end Texts

section Numbers

theorem wholeDigits_append_rest (text : List Char) :
    (wholeDigits text).1 ++ (wholeDigits text).2 = text := by
  unfold wholeDigits
  split
  · rfl
  · exact List.takeWhile_append_dropWhile

theorem fractionDigits_suffix (text : List Char) : (fractionDigits text).2 <:+ text := by
  unfold fractionDigits
  split
  · next c rest =>
    split
    · exact (List.dropWhile_suffix _).trans ⟨['.', c], rfl⟩
    · exact List.suffix_refl _
  · exact List.suffix_refl _

theorem takeSign_suffix (text : List Char) : (takeSign text).2 <:+ text := by
  unfold takeSign
  split
  · exact List.suffix_cons _ _
  · exact List.suffix_cons _ _
  · exact List.suffix_refl _

theorem exponentDigits_suffix (text : List Char) : (exponentDigits text).2 <:+ text := by
  unfold exponentDigits
  split
  · next mark rest =>
    dsimp only
    split
    · exact (List.dropWhile_suffix _).trans
        ((takeSign_suffix rest).trans (List.suffix_cons mark rest))
    · exact List.suffix_refl _
  · exact List.suffix_refl _

theorem bounded_long {digits : Nat} (h : HasLongRow text digits) :
    Bounded depth text (.error (.longInteger digits) : Except Failure (α × List Char)) where
  suffix hok := by cases hok
  long herror := by
    cases herror
    exact h
  deep herror := by cases herror

/-- The number that is refused for its length stands in the text. -/
theorem bounded_readNumber (text : List Char) : Bounded depth text (readNumber text) := by
  generalize hread : readNumber text = reading
  unfold readNumber at hread
  split at hread
  next negative unsigned htaken =>
  have hunsigned : unsigned <:+ text := by
    split at htaken
    · cases htaken
      exact List.suffix_cons _ _
    · cases htaken
      exact List.suffix_refl _
  have happend := wholeDigits_append_rest unsigned
  have hafter : (wholeDigits unsigned).2 <:+ text :=
    List.IsSuffix.trans ⟨_, happend⟩ hunsigned
  have hrest : (exponentDigits (fractionDigits (wholeDigits unsigned).2).2).2 <:+ text :=
    (exponentDigits_suffix _).trans ((fractionDigits_suffix _).trans hafter)
  dsimp only at hread
  rw [← hread]
  split
  · exact bounded_refuse _ _
  · split
    · split
      · next hlong =>
        have hrow : (wholeDigits unsigned).1 <:+: text :=
          List.IsInfix.trans ⟨[], _, happend⟩ hunsigned.isInfix
        exact bounded_long ⟨hlong, _, hrow, rfl, isAsciiDigit_of_mem_wholeDigits unsigned⟩
      · exact bounded_ok hrest
    · exact bounded_ok hrest

/-- A row of digits that is too long is refused, whatever follows that does not go on with it. -/
theorem readNumber_long {unsigned whole : List Char} (negative : Bool)
    (hwhole : wholeDigits unsigned = (whole, rest)) (hlong : digitLimit < whole.length)
    (hrest : NumberEnds rest) :
    readNumber (signed negative unsigned) = .error (.longInteger whole.length) := by
  have hne : whole ≠ [] := List.ne_nil_of_length_pos (Nat.zero_lt_of_lt hlong)
  have hfraction : fractionDigits rest = ([], rest) :=
    fractionDigits_of_ne fun c hc ↦ (hrest c hc).2.1
  have hexponent : exponentDigits rest = (none, rest) :=
    exponentDigits_of_ne fun c hc ↦ (hrest c hc).2.2
  rw [readNumber_signed negative hwhole hne]
  simp [hfraction, hexponent, hlong]

theorem dropWord?_suffix : ∀ {word text rest : List Char},
    readScalar.dropWord? word text = some rest → rest <:+ text
  | [], text, rest, h => by
    cases h
    exact List.suffix_refl _
  | _ :: _, [], rest, h => by cases h
  | a :: word, b :: text, rest, h => by
    unfold readScalar.dropWord? at h
    split at h
    · exact (dropWord?_suffix h).trans (List.suffix_cons b text)
    · cases h

theorem bounded_readScalar (text : List Char) : Bounded depth text (readScalar text) := by
  unfold readScalar
  split
  · next found hfound =>
    obtain ⟨entry, -, hword⟩ := List.exists_of_findSome?_eq_some hfound
    obtain ⟨after, hafter, rfl⟩ := Option.map_eq_some_iff.mp hword
    exact bounded_ok (dropWord?_suffix hafter)
  · exact bounded_readNumber text

end Numbers

/-- With some fuel the reader keeps within its text, and refuses for a limit only what the text
shows. -/
structure KeepsBounds (fuel : Nat) : Prop where
  value : ∀ depth text, Bounded depth text (readValue fuel depth text)
  items : ∀ depth read text, Bounded depth text (readItems fuel depth read text)
  fields : ∀ depth read text, Bounded depth text (readFields fuel depth read text)

section Steps

variable {fuel : Nat}

theorem bounded_tooDeep {c : Char} (hc : isOpening c = true) (h : nestingLimit < depth)
    (inObject : Bool) :
    Bounded depth (c :: rest) (.error (.tooDeep inObject) : Except Failure (α × List Char)) where
  suffix hok := by cases hok
  long herror := by cases herror
  deep _ := by
    rw [List.countP_cons_of_pos hc]
    omega

theorem KeepsBounds.value_succ (h : KeepsBounds fuel) (depth : Nat) (text : List Char) :
    Bounded depth text (readValue (fuel + 1) depth text) := by
  unfold readValue
  split
  · exact bounded_refuse _ _
  · next rest =>
    have hspace := skipSpace_suffix rest
    split
    · next hdeep => exact bounded_tooDeep rfl hdeep true
    · split
      · next after hafter =>
        rw [hafter] at hspace
        have hclosed : after <:+ '}' :: after := List.suffix_cons _ _
        exact bounded_ok ((hclosed.trans hspace).trans (List.suffix_cons _ _))
      · exact ((h.fields (depth + 1) [] _).mono hspace).opening rfl
  · next rest =>
    have hspace := skipSpace_suffix rest
    split
    · next hdeep => exact bounded_tooDeep rfl hdeep false
    · split
      · next after hafter =>
        rw [hafter] at hspace
        have hclosed : after <:+ ']' :: after := List.suffix_cons _ _
        exact bounded_ok ((hclosed.trans hspace).trans (List.suffix_cons _ _))
      · exact ((h.items (depth + 1) [] _).mono hspace).opening rfl
  · next c rest _ _ =>
    split
    · exact ((bounded_readText _ _ _ rest).mono (List.suffix_cons c rest)).map str
    · exact bounded_readScalar _

/-- What stands behind the mark that follows a part is an end of the text. -/
theorem suffix_of_mark {c : Char} {after : List Char} (hrest : rest <:+ text)
    (hafter : skipSpace rest = c :: after) : after <:+ text :=
  (List.suffix_cons c after).trans (hafter ▸ (skipSpace_suffix rest).trans hrest)

theorem KeepsBounds.items_succ (h : KeepsBounds fuel) (depth : Nat) (read : List Json)
    (text : List Char) : Bounded depth text (readItems (fuel + 1) depth read text) := by
  unfold readItems
  refine (h.value depth text).bind fun item rest hrest ↦ ?_
  dsimp only
  split
  · next after hafter => exact bounded_ok (suffix_of_mark hrest hafter)
  · next after hafter =>
    exact (h.items depth (item :: read) _).mono
      ((skipSpace_suffix after).trans (suffix_of_mark hrest hafter))
  · exact bounded_refuse _ _

theorem KeepsBounds.fields_succ (h : KeepsBounds fuel) (depth : Nat)
    (read : List (String × Json)) (text : List Char) :
    Bounded depth text (readFields (fuel + 1) depth read text) := by
  unfold readFields
  split
  · exact bounded_refuse _ _
  · next c body =>
    split
    · refine ((bounded_readText _ _ _ body).mono (List.suffix_cons c body)).bind
        fun name rest hrest ↦ ?_
      dsimp only
      split
      · next after hafter =>
        have hvalue := (skipSpace_suffix after).trans (suffix_of_mark hrest hafter)
        refine ((h.value depth _).mono hvalue).bind fun value last hlast ↦ ?_
        dsimp only
        split
        · next behind hbehind => exact bounded_ok (suffix_of_mark hlast hbehind)
        · next behind hbehind =>
          exact (h.fields depth _ _).mono
            ((skipSpace_suffix behind).trans (suffix_of_mark hlast hbehind))
        · exact bounded_refuse _ _
      · exact bounded_refuse _ _
    · exact bounded_refuse _ _

theorem keepsBounds (fuel : Nat) : KeepsBounds fuel := by
  induction fuel with
  | zero =>
    exact ⟨fun _ _ ↦ bounded_refuse _ _, fun _ _ _ ↦ bounded_refuse _ _,
      fun _ _ _ ↦ bounded_refuse _ _⟩
  | succ fuel ih => exact ⟨ih.value_succ, ih.items_succ, ih.fields_succ⟩

end Steps

/-- A text is refused as malformed, or as its document is. -/
theorem readChars_eq_error {refusal : Refusal} (h : readChars text = .error refusal) :
    (∃ problem place, refusal = .malformed problem place) ∨
      ∃ failure, readValue (2 * text.length + 2) 0 (skipSpace text) = .error failure ∧
        refusal = failure.refusal text.length := by
  unfold readChars at h
  dsimp only at h
  split at h
  · exact .inl ⟨_, _, (Except.error.inj h).symm⟩
  · cases hvalue : readValue (2 * text.length + 2) 0 (skipSpace text) with
    | error failure =>
      rw [hvalue, error_bind] at h
      exact .inr ⟨failure, rfl, (Except.error.inj h).symm⟩
    | ok found =>
      rw [hvalue, ok_bind] at h
      split at h
      · cases h
      · exact .inl ⟨_, _, (Except.error.inj h).symm⟩

/-- The reader reaches a limit only on a text that shows it. -/
theorem parse_limits (text : String) :
    (∀ digits, parse text = .error (.longInteger digits) → HasLongRow text.toList digits) ∧
      ∀ inObject, parse text = .error (.tooDeep inObject) →
        nestingLimit + 1 < text.toList.countP isOpening := by
  have hbounded : Bounded 0 text.toList (readValue (2 * text.toList.length + 2) 0
      (skipSpace text.toList)) := ((keepsBounds _).value 0 _).mono (skipSpace_suffix _)
  constructor
  · intro digits h
    rcases readChars_eq_error h with ⟨problem, place, heq⟩ | ⟨failure, hvalue, heq⟩
    · cases heq
    · cases failure with
      | longInteger length =>
        cases heq
        exact hbounded.long hvalue
      | malformed problem left => cases heq
      | tooDeep inObject => cases heq
  · intro inObject h
    rcases readChars_eq_error h with ⟨problem, place, heq⟩ | ⟨failure, hvalue, heq⟩
    · cases heq
    · cases failure with
      | tooDeep inside =>
        have hdeep := hbounded.deep hvalue
        rwa [Nat.zero_add] at hdeep
      | malformed problem left => cases heq
      | longInteger length => cases heq

/-- An object that holds an integer of too many digits is refused for it. -/
theorem readChars_long_field {count : Nat} (h : digitLimit < count) :
    readChars ("\x7b\"n\":".toList ++ List.replicate count '1' ++ ['}']) =
      .error (.longInteger count) := by
  obtain ⟨more, rfl⟩ : ∃ more, count = more + 1 := ⟨count - 1, by omega⟩
  set digits := List.replicate more '1' with hdigits
  have hones : ∀ c ∈ digits, isAsciiDigit c = true := fun c hc ↦ by
    rw [List.eq_of_mem_replicate hc]
    rfl
  have hends : NumberEnds ['}'] := numberEnds_cons (by decide) (by decide) (by decide) (by decide)
  have hwhole : wholeDigits ('1' :: digits ++ ['}']) = ('1' :: digits, ['}']) :=
    wholeDigits_append rfl hones (fun heq ↦ absurd heq (by decide)) fun c hc ↦ by cases hc; rfl
  have hnumber : readScalar ('1' :: (digits ++ ['}'])) = .error (.longInteger (more + 1)) := by
    have hlength : ('1' :: digits).length = more + 1 := by simp [hdigits]
    have hlong := readNumber_long false hwhole (by omega) hends
    rw [hlength] at hlong
    exact (readScalar_signed rfl false _).trans hlong
  have hvalue (fuel depth : Nat) :
      readValue (fuel + 1) depth ('1' :: (digits ++ ['}'])) = .error (.longInteger (more + 1)) :=
    (readValue_of_startsScalar (.inl rfl)).trans hnumber
  have hfields (fuel : Nat) : readFields (fuel + 2) 1 []
      (quotationMark :: 'n' :: quotationMark :: ':' :: '1' :: (digits ++ ['}'])) =
        .error (.longInteger (more + 1)) := by
    have hname (opening rest : List Char) : readText opening 0 []
        ('n' :: quotationMark :: ':' :: rest) = .ok ("n", ':' :: rest) := rfl
    have hspace : skipSpace ('1' :: (digits ++ ['}'])) = '1' :: (digits ++ ['}']) :=
      skipSpace_cons rfl
    rw [readFields, if_pos rfl, hname]
    change (readValue (fuel + 1) 1 (skipSpace ('1' :: (digits ++ ['}']))) >>= _) = _
    rw [hspace, hvalue, error_bind]
  have hobject (fuel : Nat) : readValue (fuel + 3) 0
      ('{' :: quotationMark :: 'n' :: quotationMark :: ':' :: '1' :: (digits ++ ['}'])) =
        .error (.longInteger (more + 1)) :=
    (readValue_fields (Nat.zero_le _) (by decide) (by decide)).trans (hfields fuel)
  have htext : "\x7b\"n\":".toList ++ List.replicate (more + 1) '1' ++ ['}'] =
      '{' :: quotationMark :: 'n' :: quotationMark :: ':' :: '1' :: (digits ++ ['}']) := rfl
  have hfuel : 2 * ("\x7b\"n\":".toList ++ List.replicate (more + 1) '1' ++ ['}']).length + 2 =
      (2 * more + 13) + 3 := by
    rw [htext]
    simp [hdigits]
    omega
  have hmark : ("\x7b\"n\":".toList ++ List.replicate (more + 1) '1' ++ ['}']).head? ≠
      some '\uFEFF' := by
    rw [htext, List.head?_cons]
    decide
  unfold readChars
  rw [if_neg hmark, hfuel, htext, skipSpace_cons rfl, hobject, error_bind]
  rfl

end AddonUpkeep.Json
