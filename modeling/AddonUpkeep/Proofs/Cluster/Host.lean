import AddonUpkeep.Cluster.Host
import AddonUpkeep.Proofs.Json.Layers
import AddonUpkeep.Proofs.Json.RoundTrip

/-!
# What a host can do with a document

Copying a document and writing it go through its parts, with calls inside of each other.  Both come
to an end when the room is enough for the parts at every layer, and writing asks for short integers
besides.  What can be copied is not nested too deeply to be written.
-/

namespace AddonUpkeep

open AddonUpkeep.Json AddonUpkeep.Number

namespace Json

mutual

/-- A document can be gone through in some room: every part takes as many calls as its own, there is
least room in an array or an object, and the integers pass a test. -/
def Passes (own least : Nat) (test : Int → Prop) (room : Nat) : Json → Prop
  | int value => own ≤ room ∧ test value
  | arr items => own + least ≤ room ∧ ItemsPass own least test (room - own) items
  | obj fields => own + least ≤ room ∧ FieldsPass own least test (room - own) fields
  | _ => own ≤ room

/-- All items can be gone through. -/
def ItemsPass (own least : Nat) (test : Int → Prop) (room : Nat) : List Json → Prop
  | [] => True
  | item :: items => Passes own least test room item ∧ ItemsPass own least test room items

/-- The values of all fields can be gone through. -/
def FieldsPass (own least : Nat) (test : Int → Prop) (room : Nat) : List (String × Json) → Prop
  | [] => True
  | (_, value) :: fields => Passes own least test room value ∧ FieldsPass own least test room fields

end

variable {own least room : Nat} {test : Int → Prop}

theorem itemsPass_iff {items : List Json} :
    ItemsPass own least test room items ↔ ∀ item ∈ items, Passes own least test room item := by
  induction items with
  | nil => simp [ItemsPass]
  | cons item items ih => simp [ItemsPass, ih]

theorem fieldsPass_iff {fields : List (String × Json)} :
    FieldsPass own least test room fields ↔
      ∀ field ∈ fields, Passes own least test room field.2 := by
  induction fields with
  | nil => simp [FieldsPass]
  | cons field fields ih => simp [FieldsPass, ih]

theorem layered_passes (own least : Nat) (test : Int → Prop) (room : Nat) :
    Layered fun depth ↦ Passes own least test (room - own * depth) := by
  have hsucc (depth : Nat) : room - own * (depth + 1) = room - own * depth - own := by
    rw [Nat.mul_succ, Nat.sub_sub]
  constructor
  · intro depth document name value h hvalue
    rw [hsucc]
    cases document with
    | obj fields =>
      obtain ⟨entry, hentry, rfl⟩ := Option.map_eq_some_iff.mp hvalue
      exact fieldsPass_iff.mp h.2 entry (List.mem_of_find?_eq_some hentry)
    | _ => simp [field?] at hvalue
  · intro depth document value name h hvalue
    rw [hsucc] at hvalue
    cases document with
    | obj fields =>
      refine ⟨h.1, fieldsPass_iff.mpr fun field hfield ↦ ?_⟩
      rcases Table.mem_put hfield with hold | hnew
      · exact fieldsPass_iff.mp h.2 field hold
      · rw [hnew]
        exact hvalue
    | _ => exact h
  · intro depth items item h hitem
    rw [hsucc]
    exact itemsPass_iff.mp h.2 item hitem
  · intro depth items changed h hchanged
    refine ⟨h.1, itemsPass_iff.mpr fun item hitem ↦ ?_⟩
    rw [← hsucc]
    exact hchanged item hitem

mutual

/-- A document is copied when its parts leave room for the calls. -/
theorem copyCalls_le_iff {room : Nat} :
    ∀ {document : Json}, document.copyCalls ≤ room ↔ Passes 2 1 (fun _ ↦ True) room document
  | arr items => by
    have hitems : itemsCopyCalls items ≤ room - 2 ↔ _ := itemsCopyCalls_le_iff
    simp only [copyCalls, Passes, ← hitems]
    omega
  | obj fields => by
    have hfields : fieldsCopyCalls fields ≤ room - 2 ↔ _ := fieldsCopyCalls_le_iff
    simp only [copyCalls, Passes, ← hfields]
    omega
  | null | bool _ | int _ | float _ | str _ => by simp [copyCalls, Passes]

theorem itemsCopyCalls_le_iff {room : Nat} :
    ∀ {items : List Json}, itemsCopyCalls items ≤ room ↔ ItemsPass 2 1 (fun _ ↦ True) room items
  | [] => by simp [itemsCopyCalls, ItemsPass]
  | item :: items => by
    rw [itemsCopyCalls, ItemsPass, Nat.max_le, copyCalls_le_iff, itemsCopyCalls_le_iff]

theorem fieldsCopyCalls_le_iff {room : Nat} :
    ∀ {fields : List (String × Json)},
      fieldsCopyCalls fields ≤ room ↔ FieldsPass 2 1 (fun _ ↦ True) room fields
  | [] => by simp [fieldsCopyCalls, FieldsPass]
  | (_, value) :: fields => by
    rw [fieldsCopyCalls, FieldsPass, Nat.max_le, copyCalls_le_iff, fieldsCopyCalls_le_iff]

end

mutual

/-- A document is written when its integers are short and its parts leave room for the calls. -/
theorem writeFault?_eq_none_iff {room : Nat} :
    ∀ {document : Json},
      document.writeFault? room = none ↔ Passes 1 0 (isShort · = true) room document
  | int value => by
    unfold writeFault? Passes
    split
    · next hzero => simp [hzero]
    · next hpos => simp [Nat.one_le_iff_ne_zero, hpos]
  | arr items => by
    unfold writeFault? Passes
    split
    · next hzero => simp [hzero]
    · next hpos => simp [Nat.one_le_iff_ne_zero, hpos, itemsWriteFault?_eq_none_iff]
  | obj fields => by
    unfold writeFault? Passes
    split
    · next hzero => simp [hzero]
    · next hpos => simp [Nat.one_le_iff_ne_zero, hpos, fieldsWriteFault?_eq_none_iff]
  | null | bool _ | float _ | str _ => by simp [writeFault?, Passes, Nat.one_le_iff_ne_zero]

theorem itemsWriteFault?_eq_none_iff {room : Nat} :
    ∀ {items : List Json},
      itemsWriteFault? room items = none ↔ ItemsPass 1 0 (isShort · = true) room items
  | [] => by simp [itemsWriteFault?, ItemsPass]
  | item :: items => by
    rw [itemsWriteFault?, ItemsPass, Option.or_eq_none_iff, writeFault?_eq_none_iff,
      itemsWriteFault?_eq_none_iff]

theorem fieldsWriteFault?_eq_none_iff {room : Nat} :
    ∀ {fields : List (String × Json)},
      fieldsWriteFault? room fields = none ↔ FieldsPass 1 0 (isShort · = true) room fields
  | [] => by simp [fieldsWriteFault?, FieldsPass]
  | (_, value) :: fields => by
    rw [fieldsWriteFault?, FieldsPass, Option.or_eq_none_iff, writeFault?_eq_none_iff,
      fieldsWriteFault?_eq_none_iff]

end

/-- An integer that is read is short enough to be written. -/
theorem isShort_of_readable {depth : Nat} {value : Int} (h : Readable depth (.int value)) :
    isShort value = true := by
  rw [Readable] at h
  unfold isShort
  generalize digitLimit = limit at h ⊢
  exact decide_eq_true
    ((lt_pow_length_toDigits value.natAbs).trans_le (Nat.pow_le_pow_right (by decide) h))

mutual

/-- A document that was read and can be copied can be written, with half of the room. -/
theorem passes_of_copied {depth room less : Nat} (hroom : room ≤ 2 * less + 1) :
    ∀ {document : Json}, Readable depth document → Passes 2 1 (fun _ ↦ True) room document →
      Passes 1 0 (isShort · = true) less document
  | int value, hread, hcopied => by
    refine ⟨?_, isShort_of_readable hread⟩
    have := hcopied.1
    omega
  | arr items, hread, hcopied => by
    have hleast := hcopied.1
    exact ⟨by omega, itemsPass_of_copied (by omega) hread.2 hcopied.2⟩
  | obj fields, hread, hcopied => by
    have hleast := hcopied.1
    exact ⟨by omega, fieldsPass_of_copied (by omega) hread.2.2 hcopied.2⟩
  | null, _, hcopied | bool _, _, hcopied | float _, _, hcopied | str _, _, hcopied => by
    unfold Passes at hcopied ⊢
    omega

theorem itemsPass_of_copied {depth room less : Nat} (hroom : room ≤ 2 * less + 1) :
    ∀ {items : List Json}, ReadableItems depth items → ItemsPass 2 1 (fun _ ↦ True) room items →
      ItemsPass 1 0 (isShort · = true) less items
  | [], _, _ => trivial
  | _ :: _, hread, hcopied => ⟨passes_of_copied hroom hread.1 hcopied.1,
      itemsPass_of_copied hroom hread.2 hcopied.2⟩

theorem fieldsPass_of_copied {depth room less : Nat} (hroom : room ≤ 2 * less + 1) :
    ∀ {fields : List (String × Json)}, ReadableFields depth fields →
      FieldsPass 2 1 (fun _ ↦ True) room fields → FieldsPass 1 0 (isShort · = true) less fields
  | [], _, _ => trivial
  | _ :: _, hread, hcopied => ⟨passes_of_copied hroom hread.1 hcopied.1,
      fieldsPass_of_copied hroom hread.2 hcopied.2⟩

end

mutual

/-- A document is not written for want of room, or because of an integer that is too long. -/
theorem eq_of_writeFault? {room : Nat} {fault : Fault} :
    ∀ {document : Json}, document.writeFault? room = some fault →
      fault = .noRoom ∨ fault = .value .longText
  | int value, h => by
    unfold writeFault? at h
    split at h
    · exact .inl (Option.some.inj h).symm
    · split at h
      · cases h
      · exact .inr (Option.some.inj h).symm
  | arr items, h => by
    unfold writeFault? at h
    split at h
    · exact .inl (Option.some.inj h).symm
    · exact eq_of_itemsWriteFault? h
  | obj fields, h => by
    unfold writeFault? at h
    split at h
    · exact .inl (Option.some.inj h).symm
    · exact eq_of_fieldsWriteFault? h
  | null, h | bool _, h | float _, h | str _, h => by
    simp only [writeFault?, ite_eq_iff, reduceCtorEq, and_false, or_false] at h
    exact .inl (Option.some.inj h.2).symm

theorem eq_of_itemsWriteFault? {room : Nat} {fault : Fault} :
    ∀ {items : List Json}, itemsWriteFault? room items = some fault →
      fault = .noRoom ∨ fault = .value .longText
  | [], h => by cases h
  | item :: items, h => by
    rcases Option.or_eq_some_iff.mp h with hitem | ⟨-, hitems⟩
    · exact eq_of_writeFault? hitem
    · exact eq_of_itemsWriteFault? hitems

theorem eq_of_fieldsWriteFault? {room : Nat} {fault : Fault} :
    ∀ {fields : List (String × Json)}, fieldsWriteFault? room fields = some fault →
      fault = .noRoom ∨ fault = .value .longText
  | [], h => by cases h
  | (_, value) :: fields, h => by
    rcases Option.or_eq_some_iff.mp h with hvalue | ⟨-, hfields⟩
    · exact eq_of_writeFault? hvalue
    · exact eq_of_fieldsWriteFault? hfields

end

theorem mem_insertField {field other : String × Json} {fields : List (String × Json)} :
    other ∈ insertField field fields ↔ other = field ∨ other ∈ fields := by
  induction fields with
  | nil => simp [insertField]
  | cons first fields ih =>
    unfold insertField
    split
    · rw [List.mem_cons]
    · rw [List.mem_cons, ih, List.mem_cons]
      exact or_left_comm

theorem mem_sortFields {field : String × Json} {fields : List (String × Json)} :
    field ∈ sortFields fields ↔ field ∈ fields := by
  unfold sortFields
  induction fields with
  | nil => rfl
  | cons first fields ih => rw [List.foldr_cons, mem_insertField, ih, List.mem_cons]

mutual

/-- The order of the fields does not matter. -/
theorem passes_sorted_iff {room : Nat} :
    ∀ {document : Json},
      Passes own least test room document.sorted ↔ Passes own least test room document
  | arr items => by rw [sorted, Passes, Passes, itemsPass_sorted_iff]
  | obj fields => by
    have hsame : FieldsPass own least test (room - own) (sortFields (sortedFields fields)) ↔
        FieldsPass own least test (room - own) (sortedFields fields) := by
      simp only [fieldsPass_iff, mem_sortFields]
    rw [sorted, Passes, Passes, hsame, fieldsPass_sorted_iff]
  | null | bool _ | int _ | float _ | str _ => by rfl

theorem itemsPass_sorted_iff {room : Nat} :
    ∀ {items : List Json},
      ItemsPass own least test room (sortedItems items) ↔ ItemsPass own least test room items
  | [] => by rfl
  | item :: items => by
    rw [sortedItems, ItemsPass, ItemsPass, passes_sorted_iff, itemsPass_sorted_iff]

theorem fieldsPass_sorted_iff {room : Nat} :
    ∀ {fields : List (String × Json)},
      FieldsPass own least test room (sortedFields fields) ↔ FieldsPass own least test room fields
  | [] => by rfl
  | (name, value) :: fields => by
    rw [sortedFields, FieldsPass, FieldsPass, passes_sorted_iff, fieldsPass_sorted_iff]

end

end Json

namespace Host

/-- The host can write the document for its log, if it has to. -/
def Notes (host : Host) (document : Json) : Prop := host.noteFault? document = none

/-- Only the lowest level makes a host write documents.  Those that it can write have short integers
and are not nested too deeply. -/
theorem notes_iff {host : Host} {document : Json} :
    host.Notes document ↔ (host.level = .debug →
      document.Passes 1 0 (isShort · = true) (host.room - noteCalls)) := by
  unfold Notes noteFault?
  split
  · next hdebug => simp [hdebug, writeFault?_eq_none_iff, passes_sorted_iff]
  · next hother => simp [hother]

/-- A host copies a document when its parts leave room for the calls. -/
theorem copyFault?_eq_none_iff {host : Host} {between : Nat} {document : Json} :
    host.copyFault? between document = none ↔
      document.Passes 2 1 (fun _ ↦ True) (host.room - between) := by
  unfold copyFault?
  rw [← copyCalls_le_iff]
  have hleast : 2 ≤ document.copyCalls := by
    cases document <;> simp [copyCalls]
  split
  · next hroom => exact iff_of_true rfl (Nat.le_sub_of_add_le hroom)
  · next hroom => exact iff_of_false (by simp) (by omega)

theorem eq_noRoom_of_copyFault? {host : Host} {between : Nat} {document : Json} {fault : Fault}
    (h : host.copyFault? between document = some fault) : fault = .noRoom := by
  unfold copyFault? at h
  split at h
  · cases h
  · exact (Option.some.inj h).symm

/-- A document that was read, and that the host can copy, can be sent. -/
theorem sendFault?_eq_none {host : Host} {between : Nat} {document : Json}
    (hread : Readable 0 document) (hcopies : host.copyFault? between document = none) :
    host.sendFault? document = none := by
  rw [copyFault?_eq_none_iff] at hcopies
  have hroom : host.room - between ≤ 2 * (host.room - sendCalls) + 1 := by
    have := host.room_ge
    unfold sendCalls
    omega
  exact writeFault?_eq_none_iff.mpr (passes_of_copied hroom hread hcopies)

variable {host other : Host}

/-- What a host copies depends on its room only. -/
theorem copyFault?_congr (h : host.room = other.room) (between : Nat) (document : Json) :
    host.copyFault? between document = other.copyFault? between document := by
  unfold copyFault?
  rw [h]

/-- What a host sends depends on its room only. -/
theorem sendFault?_congr (h : host.room = other.room) (document : Json) :
    host.sendFault? document = other.sendFault? document := by
  unfold sendFault?
  rw [h]

end Host

end AddonUpkeep
