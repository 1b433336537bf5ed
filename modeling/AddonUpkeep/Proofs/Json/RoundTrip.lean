import AddonUpkeep.Proofs.Json.Numbers
import AddonUpkeep.Proofs.Json.Texts
import AddonUpkeep.Proofs.Table

/-!
# Printed documents are read back

A document within the limits of the reader is read from its printed line: its integers are not too
long, its arrays and objects not nested too deeply, and no object has two fields of one name.
-/

namespace AddonUpkeep.Json

open AddonUpkeep.Text AddonUpkeep.Number

mutual

/-- A document that can be read inside the given number of arrays and objects. -/
def Readable (depth : Nat) : Json → Prop
  | int value => (Nat.toDigits 10 value.natAbs).length ≤ digitLimit
  | arr items => depth ≤ nestingLimit ∧ ReadableItems (depth + 1) items
  | obj fields =>
    depth ≤ nestingLimit ∧ (Table.keys fields).Nodup ∧ ReadableFields (depth + 1) fields
  | _ => True

/-- Items that can all be read inside the given number of arrays and objects. -/
def ReadableItems (depth : Nat) : List Json → Prop
  | [] => True
  | item :: items => Readable depth item ∧ ReadableItems depth items

/-- Fields whose values can all be read inside the given number of arrays and objects. -/
def ReadableFields (depth : Nat) : List (String × Json) → Prop
  | [] => True
  | field :: fields => Readable depth field.2 ∧ ReadableFields depth fields

end

theorem readableItems_iff {depth : Nat} {items : List Json} :
    ReadableItems depth items ↔ ∀ item ∈ items, Readable depth item := by
  induction items with
  | nil => simp [ReadableItems]
  | cons item items ih => simp [ReadableItems, ih]

theorem readableFields_iff {depth : Nat} {fields : List (String × Json)} :
    ReadableFields depth fields ↔ ∀ field ∈ fields, Readable depth field.2 := by
  induction fields with
  | nil => simp [ReadableFields]
  | cons field fields ih => simp [ReadableFields, ih]

variable {c : Char} {more rest : List Char}

theorem skipSpace_cons (h : isSpace c = false) : skipSpace (c :: more) = c :: more := by
  simp [skipSpace, h]

theorem numberEnds_cons (hdigit : isAsciiDigit c = false) (hpoint : c ≠ '.') (hlower : c ≠ 'e')
    (hupper : c ≠ 'E') : NumberEnds (c :: rest) := by
  intro other hother
  cases hother
  exact ⟨hdigit, hpoint, hlower, hupper⟩

theorem signed_eq_cons {negative : Bool} (hc : isAsciiDigit c = true) :
    ∃ first others, signed negative (c :: more) = first :: others ∧ StartsScalar first := by
  cases negative with
  | true => exact ⟨'-', c :: more, rfl, .inr (by decide)⟩
  | false => exact ⟨c, more, rfl, .inl hc⟩

theorem floatText_eq_cons (number : Binary64) :
    ∃ first others, (floatText .document number).toList = first :: others ∧ StartsScalar first := by
  unfold floatText
  rw [String.toList_ofList]
  cases number with
  | nan => exact ⟨'N', _, rfl, .inr (by decide)⟩
  | infinite negative =>
    cases negative with
    | true => exact ⟨'-', _, rfl, .inr (by decide)⟩
    | false => exact ⟨'I', _, rfl, .inr (by decide)⟩
  | finite negative significand exponent canonical =>
    change ∃ first others, signed negative (magnitudeText .document
      (.finite negative significand exponent canonical)) = first :: others ∧ StartsScalar first
    unfold magnitudeText
    dsimp only
    split
    · exact signed_eq_cons rfl
    · next hne =>
      have hpos := shortestDecimal_pos (Nat.pos_of_ne_zero hne) canonical
      obtain ⟨c, more, htext, hc⟩ := decimalText_eq_cons hpos
      rw [htext]
      exact signed_eq_cons hc

/-- A document that is a word or a number. -/
def isPlain : Json → Bool
  | str _ | arr _ | obj _ => false
  | _ => true

theorem lineChars_of_isPlain {document : Json} (h : document.isPlain = true) :
    lineChars document = scalarChars document := by
  cases document with
  | arr items => cases h
  | obj fields => cases h
  | _ => rfl

theorem scalarChars_eq_cons {document : Json} (h : document.isPlain = true) :
    ∃ first others, scalarChars document = first :: others ∧ StartsScalar first := by
  cases document with
  | null => exact ⟨'n', _, rfl, .inr (by decide)⟩
  | bool value =>
    cases value with
    | true => exact ⟨'t', _, rfl, .inr (by decide)⟩
    | false => exact ⟨'f', _, rfl, .inr (by decide)⟩
  | int value =>
    have hnone : ∀ c ∈ ([] : List Char).head?, isAsciiDigit c = false := by simp
    obtain ⟨c, more, hdigits, hc, -⟩ := wholeDigits_toDigits value.natAbs hnone
    change ∃ first others, (toString value).toList = first :: others ∧ StartsScalar first
    rw [toList_toString_int, hdigits]
    exact signed_eq_cons hc
  | float number => exact floatText_eq_cons number
  | _ => cases h

/-- A word or a number is read back. -/
theorem readScalar_scalarChars {document : Json} {depth : Nat} (h : document.isPlain = true)
    (hreadable : Readable depth document) (hrest : NumberEnds rest) :
    readScalar (scalarChars document ++ rest) = .ok (document, rest) := by
  cases document with
  | null => rfl
  | bool value => cases value <;> rfl
  | int value => exact readScalar_int hreadable hrest
  | float number => exact readScalar_float number hrest
  | _ => cases h

theorem readValue_of_startsScalar {fuel depth : Nat} (hc : StartsScalar c) :
    readValue (fuel + 1) depth (c :: more) = readScalar (c :: more) := by
  have hbrace : c ≠ '{' := hc.ne (by decide) (by decide)
  have hbracket : c ≠ '[' := hc.ne (by decide) (by decide)
  have hmark : c ≠ quotationMark := hc.ne (by decide) (by decide)
  unfold readValue
  split
  · next heq => cases heq
  · next heq => exact absurd (List.cons.inj heq).1 hbrace
  · next heq => exact absurd (List.cons.inj heq).1 hbracket
  · next heq =>
    obtain ⟨rfl, rfl⟩ := List.cons.inj heq
    rw [if_neg hmark]

theorem StartsScalar.isSpace_eq (h : StartsScalar c) : isSpace c = false := by
  have hblank : c ≠ ' ' := h.ne (by decide) (by decide)
  have htab : c ≠ '\t' := h.ne (by decide) (by decide)
  have hfeed : c ≠ '\n' := h.ne (by decide) (by decide)
  have hreturn : c ≠ '\r' := h.ne (by decide) (by decide)
  simp [isSpace, hblank, htab, hfeed, hreturn]

/-- Every printed document starts with a character that is neither a space nor closes anything. -/
theorem lineChars_eq_cons (document : Json) :
    ∃ first others, lineChars document = first :: others ∧ isSpace first = false ∧ first ≠ ']' ∧
      first ≠ '\uFEFF' := by
  cases hplain : document.isPlain with
  | true =>
    obtain ⟨first, others, htext, hfirst⟩ := scalarChars_eq_cons hplain
    refine ⟨first, others, (lineChars_of_isPlain hplain).trans htext, hfirst.isSpace_eq, ?_, ?_⟩
    · exact hfirst.ne (by decide) (by decide)
    · exact hfirst.ne (by decide) (by decide)
  | false =>
    cases document with
    | str text => exact ⟨quotationMark, _, rfl, by decide, by decide, by decide⟩
    | arr items => exact ⟨'[', _, by rw [lineChars]; rfl, by decide, by decide, by decide⟩
    | obj fields => exact ⟨'{', _, by rw [lineChars]; rfl, by decide, by decide, by decide⟩
    | _ => cases hplain

theorem itemsChars_cons (item : Json) (items : List Json) :
    itemsChars (item :: items) = lineChars item ++
      if items.isEmpty then [] else ',' :: ' ' :: itemsChars items := by
  cases items with
  | nil => simp [itemsChars]
  | cons next items => simp [itemsChars]

theorem fieldsChars_cons (name : String) (value : Json) (fields : List (String × Json)) :
    fieldsChars ((name, value) :: fields) = textChars name ++ ':' :: ' ' :: (lineChars value ++
      if fields.isEmpty then [] else ',' :: ' ' :: fieldsChars fields) := by
  cases fields with
  | nil => simp [fieldsChars]
  | cons next fields => simp [fieldsChars]

/-- With some fuel every printed part that is shorter is read back. -/
structure ReadsBack (fuel : Nat) : Prop where
  value : ∀ {depth document rest}, Readable depth document → NumberEnds rest →
    (lineChars document).length < fuel →
    readValue fuel depth (lineChars document ++ rest) = .ok (document, rest)
  items : ∀ {depth item items} (read rest), ReadableItems depth (item :: items) →
    (itemsChars (item :: items)).length + 1 < fuel →
    readItems fuel depth read (itemsChars (item :: items) ++ ']' :: rest) =
      .ok (arr (read.reverse ++ item :: items), rest)
  fields : ∀ {depth field fields} (read rest), ReadableFields depth (field :: fields) →
    (Table.keys (read ++ field :: fields)).Nodup →
    (fieldsChars (field :: fields)).length + 1 < fuel →
    readFields fuel depth read (fieldsChars (field :: fields) ++ '}' :: rest) =
      .ok (obj (read ++ field :: fields), rest)

variable {fuel depth : Nat}

theorem readValue_text (body : List Char) :
    readValue (fuel + 1) depth (quotationMark :: body) =
      (readText (quotationMark :: body) 0 [] body).map fun (text, rest) ↦ (str text, rest) := rfl

theorem readValue_items (hdepth : depth ≤ nestingLimit) (hspace : isSpace c = false)
    (hclose : c ≠ ']') :
    readValue (fuel + 1) depth ('[' :: c :: more) = readItems fuel (depth + 1) [] (c :: more) := by
  have hlimit : ¬ nestingLimit < depth := by omega
  rw [readValue, if_neg hlimit, skipSpace_cons hspace]
  split
  · next heq => exact absurd (List.cons.inj heq).1 hclose
  · rfl

theorem readValue_fields (hdepth : depth ≤ nestingLimit) (hspace : isSpace c = false)
    (hclose : c ≠ '}') :
    readValue (fuel + 1) depth ('{' :: c :: more) = readFields fuel (depth + 1) [] (c :: more) := by
  have hlimit : ¬ nestingLimit < depth := by omega
  rw [readValue, if_neg hlimit, skipSpace_cons hspace]
  split
  · next heq => exact absurd (List.cons.inj heq).1 hclose
  · rfl

theorem ReadsBack.value_succ (h : ReadsBack fuel) {document : Json}
    (hreadable : Readable depth document) (hrest : NumberEnds rest)
    (hfuel : (lineChars document).length < fuel + 1) :
    readValue (fuel + 1) depth (lineChars document ++ rest) = .ok (document, rest) := by
  cases hplain : document.isPlain with
  | true =>
    obtain ⟨first, others, htext, hfirst⟩ := scalarChars_eq_cons hplain
    have hread := readScalar_scalarChars hplain hreadable hrest
    rw [lineChars_of_isPlain hplain]
    rw [htext, List.cons_append] at hread ⊢
    rw [readValue_of_startsScalar hfirst, hread]
  | false =>
    cases document with
    | str text =>
      obtain ⟨body, htext, hread⟩ := readText_textChars text rest
      change readValue (fuel + 1) depth (textChars text ++ rest) = _
      rw [htext, readValue_text, hread]
      rfl
    | arr items =>
      obtain ⟨hdepth, hitems⟩ := hreadable
      have hlimit : ¬ nestingLimit < depth := by omega
      cases items with
      | nil =>
        change readValue (fuel + 1) depth ('[' :: ']' :: rest) = _
        rw [readValue, if_neg hlimit]
        rfl
      | cons item items =>
        obtain ⟨first, others, htext, hspace, hclose, -⟩ := lineChars_eq_cons item
        have hlength : (lineChars (arr (item :: items))).length =
            (itemsChars (item :: items)).length + 2 := by simp [lineChars]
        have hsame : lineChars (arr (item :: items)) ++ rest =
            '[' :: (itemsChars (item :: items) ++ ']' :: rest) := by simp [lineChars]
        have hread := h.items [] rest hitems (by omega)
        rw [hsame]
        rw [itemsChars_cons, htext, List.cons_append, List.cons_append] at hread ⊢
        rw [readValue_items hdepth hspace hclose, hread]
        rfl
    | obj fields =>
      obtain ⟨hdepth, hkeys, hfields⟩ := hreadable
      have hlimit : ¬ nestingLimit < depth := by omega
      cases fields with
      | nil =>
        change readValue (fuel + 1) depth ('{' :: '}' :: rest) = _
        rw [readValue, if_neg hlimit]
        rfl
      | cons field fields =>
        have hlength : (lineChars (obj (field :: fields))).length =
            (fieldsChars (field :: fields)).length + 2 := by simp [lineChars]
        have hsame : lineChars (obj (field :: fields)) ++ rest =
            '{' :: (fieldsChars (field :: fields) ++ '}' :: rest) := by simp [lineChars]
        have hread := h.fields [] rest hfields hkeys (by omega)
        rw [hsame]
        rw [fieldsChars_cons, textChars, List.cons_append, List.cons_append] at hread ⊢
        rw [List.cons_append] at hread ⊢
        rw [readValue_fields hdepth (by decide) (by decide), hread]
        rfl
    | _ => cases hplain

section Steps

variable {text body after : List Char} {item value : Json} {name : String}

theorem readItems_last {read : List Json}
    (h : readValue fuel depth text = .ok (item, ']' :: rest)) :
    readItems (fuel + 1) depth read text = .ok (arr (item :: read).reverse, rest) := by
  rw [readItems, h]
  rfl

theorem readItems_next {read : List Json}
    (h : readValue fuel depth text = .ok (item, ',' :: ' ' :: c :: more))
    (hspace : isSpace c = false) :
    readItems (fuel + 1) depth read text = readItems fuel depth (item :: read) (c :: more) := by
  have hskip : skipSpace (' ' :: c :: more) = c :: more := skipSpace_cons hspace
  rw [readItems, h]
  change readItems fuel depth (item :: read) (skipSpace (' ' :: c :: more)) = _
  rw [hskip]

theorem readFields_last {read : List (String × Json)}
    (hname : readText (quotationMark :: body) 0 [] body = .ok (name, ':' :: ' ' :: c :: text))
    (hspace : isSpace c = false) (hvalue : readValue fuel depth (c :: text) = .ok (value, '}' :: rest)) :
    readFields (fuel + 1) depth read (quotationMark :: body) =
      .ok (obj (Table.put read name value), rest) := by
  have hskip : skipSpace (' ' :: c :: text) = c :: text := skipSpace_cons hspace
  rw [readFields, if_pos rfl, hname]
  change (readValue fuel depth (skipSpace (' ' :: c :: text)) >>= _) = _
  rw [hskip, hvalue]
  rfl

theorem readFields_next {read : List (String × Json)} {d : Char}
    (hname : readText (quotationMark :: body) 0 [] body = .ok (name, ':' :: ' ' :: c :: text))
    (hspace : isSpace c = false)
    (hvalue : readValue fuel depth (c :: text) = .ok (value, ',' :: ' ' :: d :: after))
    (hspace' : isSpace d = false) :
    readFields (fuel + 1) depth read (quotationMark :: body) =
      readFields fuel depth (Table.put read name value) (d :: after) := by
  have hskip : skipSpace (' ' :: c :: text) = c :: text := skipSpace_cons hspace
  have hskip' : skipSpace (' ' :: d :: after) = d :: after := skipSpace_cons hspace'
  rw [readFields, if_pos rfl, hname]
  change (readValue fuel depth (skipSpace (' ' :: c :: text)) >>= _) = _
  rw [hskip, hvalue]
  change readFields fuel depth (Table.put read name value) (skipSpace (' ' :: d :: after)) = _
  rw [hskip']

end Steps

theorem ReadsBack.items_succ (h : ReadsBack fuel) {read : List Json} {item : Json}
    {items : List Json} (hreadable : ReadableItems depth (item :: items))
    (hfuel : (itemsChars (item :: items)).length + 1 < fuel + 1) :
    readItems (fuel + 1) depth read (itemsChars (item :: items) ++ ']' :: rest) =
      .ok (arr (read.reverse ++ item :: items), rest) := by
  obtain ⟨hitem, hitems⟩ := hreadable
  cases items with
  | nil =>
    have hends : NumberEnds (']' :: rest) :=
      numberEnds_cons (by decide) (by decide) (by decide) (by decide)
    have hread := h.value hitem hends (by simpa [itemsChars] using hfuel)
    rw [itemsChars, readItems_last hread, List.reverse_cons]
  | cons next items =>
    obtain ⟨first, others, htext, hspace, -, -⟩ := lineChars_eq_cons next
    have hends : NumberEnds (',' :: ' ' :: (itemsChars (next :: items) ++ ']' :: rest)) :=
      numberEnds_cons (by decide) (by decide) (by decide) (by decide)
    have hlength : (itemsChars (item :: next :: items)).length =
        (lineChars item).length + ((itemsChars (next :: items)).length + 2) := by
      simp [itemsChars]
    have hread := h.value hitem hends (by omega)
    have hmore := h.items (item :: read) rest hitems (by omega)
    have hsame : itemsChars (item :: next :: items) ++ ']' :: rest =
        lineChars item ++ ',' :: ' ' :: (itemsChars (next :: items) ++ ']' :: rest) := by
      simp [itemsChars]
    rw [hsame]
    rw [itemsChars_cons next, htext, List.cons_append, List.cons_append] at hread hmore ⊢
    rw [readItems_next hread hspace, hmore]
    simp

theorem ReadsBack.fields_succ (h : ReadsBack fuel) {read : List (String × Json)}
    {field : String × Json} {fields : List (String × Json)}
    (hreadable : ReadableFields depth (field :: fields))
    (hkeys : (Table.keys (read ++ field :: fields)).Nodup)
    (hfuel : (fieldsChars (field :: fields)).length + 1 < fuel + 1) :
    readFields (fuel + 1) depth read (fieldsChars (field :: fields) ++ '}' :: rest) =
      .ok (obj (read ++ field :: fields), rest) := by
  obtain ⟨hvalue, hfields⟩ := hreadable
  obtain ⟨name, value⟩ := field
  obtain ⟨first, others, htext, hspace, -, -⟩ := lineChars_eq_cons value
  have hnew : name ∉ Table.keys read := by
    have hsplit : Table.keys (read ++ (name, value) :: fields) =
        Table.keys read ++ name :: Table.keys fields := by simp [Table.keys]
    rw [hsplit, List.nodup_append] at hkeys
    exact fun hmem ↦ hkeys.2.2 name hmem name (by simp) rfl
  cases fields with
  | nil =>
    have hends : NumberEnds ('}' :: rest) :=
      numberEnds_cons (by decide) (by decide) (by decide) (by decide)
    have hlength : (lineChars value).length < fuel := by
      have hless : (lineChars value).length ≤ (fieldsChars [(name, value)]).length := by
        simp [fieldsChars]
        omega
      omega
    have hread := h.value hvalue hends hlength
    obtain ⟨body, hbody, hname⟩ := readText_textChars name
      (':' :: ' ' :: (lineChars value ++ '}' :: rest))
    have hsame : fieldsChars [(name, value)] ++ '}' :: rest = quotationMark :: body := by
      rw [← hbody]
      simp [fieldsChars]
    rw [hsame]
    rw [htext, List.cons_append] at hread
    have hname := hname (quotationMark :: body)
    rw [htext, List.cons_append] at hname
    rw [readFields_last hname hspace hread, Table.put_of_not_mem value hnew]
  | cons next fields =>
    have hends : NumberEnds (',' :: ' ' :: (fieldsChars (next :: fields) ++ '}' :: rest)) :=
      numberEnds_cons (by decide) (by decide) (by decide) (by decide)
    have hlength : (fieldsChars ((name, value) :: next :: fields)).length =
        (textChars name).length + ((lineChars value).length +
          ((fieldsChars (next :: fields)).length + 4)) := by
      rw [fieldsChars_cons]
      simp
      omega
    have hshort : (lineChars value).length < fuel := by omega
    have hread := h.value hvalue hends hshort
    have hput := Table.put_of_not_mem value hnew
    have hmore := h.fields (read ++ [(name, value)]) rest hfields (by simpa using hkeys) (by omega)
    obtain ⟨body, hbody, hname⟩ := readText_textChars name
      (':' :: ' ' :: (lineChars value ++ ',' :: ' ' :: (fieldsChars (next :: fields) ++ '}' :: rest)))
    have hsame : fieldsChars ((name, value) :: next :: fields) ++ '}' :: rest =
        quotationMark :: body := by
      rw [← hbody]
      simp [fieldsChars]
    have hname := hname (quotationMark :: body)
    rw [hsame]
    rw [htext, List.cons_append] at hname hread
    rw [fieldsChars_cons next.1 next.2, textChars, List.cons_append, List.cons_append,
      List.cons_append] at hname hread hmore
    rw [readFields_next hname hspace hread (by decide), hput, hmore]
    simp

theorem readsBack (fuel : Nat) : ReadsBack fuel := by
  induction fuel with
  | zero =>
    constructor
    · intro _ _ _ _ _ hfuel
      exact absurd hfuel (Nat.not_lt_zero _)
    · intro _ _ _ _ _ _ hfuel
      exact absurd hfuel (Nat.not_lt_zero _)
    · intro _ _ _ _ _ _ _ hfuel
      exact absurd hfuel (Nat.not_lt_zero _)
  | succ fuel ih =>
    exact ⟨ih.value_succ, fun _ _ ↦ ih.items_succ, fun _ _ ↦ ih.fields_succ⟩

/-- A document within the limits of the reader is read back from the line that it is printed on. -/
theorem parse_line {document : Json} (h : Readable 0 document) :
    parse document.line = .ok document := by
  obtain ⟨first, others, htext, hspace, -, hmark⟩ := lineChars_eq_cons document
  have hends : NumberEnds [] := by
    intro c hc
    cases hc
  have hread := (readsBack (2 * (lineChars document).length + 2)).value h hends (by omega)
  rw [List.append_nil] at hread
  unfold parse readChars line
  rw [String.toList_ofList]
  rw [htext] at hread ⊢
  have hhead : ¬ (first :: others).head? = some '\uFEFF' := by simpa using hmark
  dsimp only
  rw [if_neg hhead, skipSpace_cons hspace, hread]
  rfl

end AddonUpkeep.Json
