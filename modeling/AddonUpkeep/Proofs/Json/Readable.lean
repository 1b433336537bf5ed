import Mathlib.Data.List.TakeWhile
import AddonUpkeep.Proofs.Json.Layers
import AddonUpkeep.Proofs.Json.RoundTrip

/-!
# What was read can be read again

Whatever the reader accepts keeps its limits, so it can be printed and read again.
-/

namespace AddonUpkeep.Json

open AddonUpkeep.Text AddonUpkeep.Number

variable {depth fuel : Nat} {text rest : List Char} {document : Json}

/-- A row of digits within the limit denotes a number that is printed within it. -/
theorem readable_int {whole : List Char} (hdigits : ∀ c ∈ whole, isAsciiDigit c = true)
    (hshort : whole.length ≤ digitLimit) (negative : Bool) :
    Readable depth (int (if negative then -(digitsValue 10 whole : Int) else digitsValue 10 whole)) := by
  have habs : (if negative then -(digitsValue 10 whole : Int) else digitsValue 10 whole).natAbs =
      digitsValue 10 whole := by
    cases negative <;> simp
  change (Nat.toDigits 10 (Int.natAbs _)).length ≤ digitLimit
  rw [habs, Nat.length_toDigits_le_iff (by decide) (by decide)]
  calc digitsValue 10 whole < 10 ^ whole.length := digitsValue_lt hdigits
    _ ≤ 10 ^ digitLimit := Nat.pow_le_pow_right (by decide) hshort

theorem isAsciiDigit_of_mem_wholeDigits (text : List Char) :
    ∀ c ∈ (wholeDigits text).1, isAsciiDigit c = true := by
  unfold wholeDigits
  split
  · intro c hc
    rw [List.mem_singleton.mp hc]
    rfl
  · intro c hc
    exact List.mem_takeWhile_imp hc

theorem readable_of_readNumber (h : readNumber text = .ok (document, rest)) :
    Readable depth document := by
  unfold readNumber at h
  split at h
  dsimp only at h
  split at h
  · cases h
  · split at h
    · split at h
      · cases h
      · next hlimit =>
        obtain ⟨rfl, -⟩ := Prod.mk.inj (Except.ok.inj h)
        exact readable_int (isAsciiDigit_of_mem_wholeDigits _) (not_lt.mp hlimit) _
    · obtain ⟨rfl, -⟩ := Prod.mk.inj (Except.ok.inj h)
      trivial

theorem readable_of_readScalar (h : readScalar text = .ok (document, rest)) :
    Readable depth document := by
  unfold readScalar at h
  split at h
  · next found hfound =>
    obtain ⟨entry, hentry, hword⟩ := List.exists_of_findSome?_eq_some hfound
    obtain ⟨after, -, hafter⟩ := Option.map_eq_some_iff.mp hword
    cases h
    obtain ⟨rfl, -⟩ := Prod.mk.inj hafter
    have hwords : ∀ entry ∈ wordValues, Readable depth entry.2 := by
      simp [wordValues, Readable]
    exact hwords entry hentry
  · exact readable_of_readNumber h

/-- Setting a field keeps what can be read. -/
theorem readableFields_put {fields : List (String × Json)} {value : Json}
    (h : ReadableFields depth fields) (hvalue : Readable depth value) (name : String) :
    ReadableFields depth (Table.put fields name value) := by
  rw [readableFields_iff] at h ⊢
  intro field hfield
  rcases Table.mem_put hfield with hold | hnew
  · exact h field hold
  · rw [hnew]
    exact hvalue

/-- With some fuel the reader gives only what it can read again. -/
structure GivesReadable (fuel : Nat) : Prop where
  value : ∀ {depth text document rest}, readValue fuel depth text = .ok (document, rest) →
    Readable depth document
  items : ∀ {depth read text document rest},
    readItems fuel (depth + 1) read text = .ok (document, rest) → depth ≤ nestingLimit →
    ReadableItems (depth + 1) read → Readable depth document
  fields : ∀ {depth read text document rest},
    readFields fuel (depth + 1) read text = .ok (document, rest) → depth ≤ nestingLimit →
    (Table.keys read).Nodup → ReadableFields (depth + 1) read → Readable depth document

theorem GivesReadable.value_succ (h : GivesReadable fuel)
    (hread : readValue (fuel + 1) depth text = .ok (document, rest)) : Readable depth document := by
  unfold readValue at hread
  split at hread
  · cases hread
  · split at hread
    · cases hread
    · next hlimit =>
      have hdepth : depth ≤ nestingLimit := not_lt.mp hlimit
      split at hread
      · obtain ⟨rfl, -⟩ := Prod.mk.inj (Except.ok.inj hread)
        exact ⟨hdepth, by simp [Table.keys], trivial⟩
      · exact h.fields hread hdepth (by simp [Table.keys]) trivial
  · split at hread
    · cases hread
    · next hlimit =>
      have hdepth : depth ≤ nestingLimit := not_lt.mp hlimit
      split at hread
      · obtain ⟨rfl, -⟩ := Prod.mk.inj (Except.ok.inj hread)
        exact ⟨hdepth, trivial⟩
      · exact h.items hread hdepth trivial
  · next first body _ _ =>
    split at hread
    · cases htext : readText (first :: body) 0 [] body with
      | error failure =>
        rw [htext] at hread
        cases hread
      | ok found =>
        rw [htext] at hread
        obtain ⟨rfl, -⟩ := Prod.mk.inj (Except.ok.inj hread)
        trivial
    · exact readable_of_readScalar hread

theorem GivesReadable.items_succ (h : GivesReadable fuel) {read : List Json}
    (hread : readItems (fuel + 1) (depth + 1) read text = .ok (document, rest))
    (hdepth : depth ≤ nestingLimit) (hitems : ReadableItems (depth + 1) read) :
    Readable depth document := by
  unfold readItems at hread
  obtain ⟨⟨item, after⟩, hitem, hmore⟩ := bind_eq_ok_iff.mp hread
  have hall : ReadableItems (depth + 1) (item :: read) := ⟨h.value hitem, hitems⟩
  dsimp only at hmore
  split at hmore
  · obtain ⟨rfl, -⟩ := Prod.mk.inj (Except.ok.inj hmore)
    refine ⟨hdepth, readableItems_iff.mpr fun other hother ↦ ?_⟩
    exact readableItems_iff.mp hall other (List.mem_reverse.mp hother)
  · exact h.items hmore hdepth hall
  · cases hmore

theorem GivesReadable.fields_succ (h : GivesReadable fuel) {read : List (String × Json)}
    (hread : readFields (fuel + 1) (depth + 1) read text = .ok (document, rest))
    (hdepth : depth ≤ nestingLimit) (hkeys : (Table.keys read).Nodup)
    (hfields : ReadableFields (depth + 1) read) : Readable depth document := by
  unfold readFields at hread
  split at hread
  · cases hread
  · split at hread
    · obtain ⟨⟨name, after⟩, -, hmore⟩ := bind_eq_ok_iff.mp hread
      dsimp only at hmore
      split at hmore
      · obtain ⟨⟨value, last⟩, hvalue, hclose⟩ := bind_eq_ok_iff.mp hmore
        have hkeys' := Table.nodup_keys_put hkeys name value
        have hfields' := readableFields_put hfields (h.value hvalue) name
        dsimp only at hclose
        split at hclose
        · obtain ⟨rfl, -⟩ := Prod.mk.inj (Except.ok.inj hclose)
          exact ⟨hdepth, hkeys', hfields'⟩
        · exact h.fields hclose hdepth hkeys' hfields'
        · cases hclose
      · cases hmore
    · cases hread

theorem givesReadable (fuel : Nat) : GivesReadable fuel := by
  induction fuel with
  | zero =>
    constructor
    · intro _ _ _ _ hread
      cases hread
    · intro _ _ _ _ _ hread
      cases hread
    · intro _ _ _ _ _ hread
      cases hread
  | succ fuel ih => exact ⟨ih.value_succ, ih.items_succ, ih.fields_succ⟩

/-- What was read from a text can be printed and read again. -/
theorem readable_of_parse {text : String} (h : parse text = .ok document) : Readable 0 document := by
  unfold parse readChars at h
  have h := mapError_eq_ok_iff.mp h
  split at h
  · cases h
  · obtain ⟨⟨found, after⟩, hfound, hend⟩ := bind_eq_ok_iff.mp h
    dsimp only at hend
    split at hend
    · cases hend
      exact (givesReadable _).value hfound
    · cases hend

/-- What can be read by layers: a document in the given number of arrays and objects. -/
theorem layered_readable : Layered Readable where
  field {_ document _ _} h hvalue := by
    cases document with
    | obj fields =>
      obtain ⟨-, -, hfields⟩ := h
      obtain ⟨entry, hentry, rfl⟩ := Option.map_eq_some_iff.mp hvalue
      exact readableFields_iff.mp hfields entry (List.mem_of_find?_eq_some hentry)
    | _ => simp [field?] at hvalue
  setField {_ document _} name h hvalue := by
    cases document with
    | obj fields =>
      obtain ⟨hdepth, hkeys, hfields⟩ := h
      exact ⟨hdepth, Table.nodup_keys_put hkeys name _, readableFields_put hfields hvalue name⟩
    | _ => exact h
  item h hitem := readableItems_iff.mp h.2 _ hitem
  ofItems h hchanged := ⟨h.1, readableItems_iff.mpr hchanged⟩

end AddonUpkeep.Json
