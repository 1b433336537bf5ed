import AddonUpkeep.Proofs.Json.Within

/-!
# Properties of documents by layers

A property of documents may depend on how many arrays and objects stand around them.  One that
passes from a document to its parts, and from new parts to the document, is kept by a change within
a document when what the change writes has it.
-/

namespace AddonUpkeep.Json

/-- A property of documents inside a number of arrays and objects.  The parts of a document have it
one layer deeper, and a document keeps it when others with it take the place of parts. -/
structure Layered (F : Nat → Json → Prop) : Prop where
  field : ∀ {depth document name value}, F depth document → document.field? name = some value →
    F (depth + 1) value
  setField : ∀ {depth document value} name, F depth document → F (depth + 1) value →
    F depth (document.setField name value)
  item : ∀ {depth items item}, F depth (arr items) → item ∈ items → F (depth + 1) item
  ofItems : ∀ {depth items changed}, F depth (arr items) →
    (∀ item ∈ changed, F (depth + 1) item) → F depth (arr changed)

/-- Related documents both have a property inside a number of arrays and objects. -/
def Keeps (F : Nat → Json → Prop) (depth : Nat) (R : Json → Json → Prop) : Prop :=
  ∀ before after, R before after → F depth before → F depth after

variable {F : Nat → Json → Prop} {R : Json → Json → Prop} {name : String} {depth : Nat}

theorem keeps_inField (hF : Layered F) (hR : Keeps F (depth + 1) R) :
    Keeps F depth (InField name R) := by
  intro before after h hbefore
  unfold InField at h
  split at h
  · rw [h]
    exact hbefore
  · next value hvalue =>
    obtain ⟨changed, hrel, rfl⟩ := h
    exact hF.setField name hbefore (hR value changed hrel (hF.field hbefore hvalue))

theorem keeps_inPath (hF : Layered F) {path : List String}
    (hR : Keeps F (depth + path.length) R) : Keeps F depth (InPath path R) := by
  induction path generalizing depth with
  | nil => exact hR
  | cons name path ih =>
    apply keeps_inField hF
    apply ih
    rw [Nat.add_assoc, Nat.add_comm 1]
    exact hR

theorem keeps_inItems (hF : Layered F) (hR : Keeps F (depth + 1) R) :
    Keeps F depth (InItems R) := by
  intro before after h hbefore
  cases before with
  | arr items =>
    obtain ⟨changed, hrel, rfl⟩ := h
    refine hF.ofItems hbefore fun item hitem ↦ ?_
    obtain ⟨old, hold, hitems⟩ := exists_of_mem_forall₂ hrel.flip hitem
    exact hR old item hitems (hF.item hbefore hold)
  | _ =>
    rw [h]
    exact hbefore

theorem keeps_inFirst (hF : Layered F) (hR : Keeps F (depth + 1) R) :
    Keeps F depth (InFirst R) := by
  intro before after h hbefore
  unfold InFirst at h
  split at h
  · next first items =>
    obtain ⟨changed, hrel, rfl⟩ := h
    refine hF.ofItems hbefore fun item hitem ↦ ?_
    rcases List.mem_cons.mp hitem with rfl | hrest
    · exact hR first item hrel (hF.item hbefore List.mem_cons_self)
    · exact hF.item hbefore (List.mem_cons_of_mem _ hrest)
  · rw [h]
    exact hbefore

/-- What iterating over a document gives has the property one layer deeper, as texts do. -/
theorem Layered.iterate (hF : Layered F) (htext : ∀ text, F (depth + 1) (str text)) {document : Json}
    {items : List Json} (h : F depth document) (hiterate : document.iterate = .ok items) :
    ∀ item ∈ items, F (depth + 1) item := by
  cases document with
  | arr listed =>
    cases hiterate
    exact fun item hitem ↦ hF.item h hitem
  | obj fields =>
    cases hiterate
    intro item hitem
    obtain ⟨field, -, rfl⟩ := List.mem_map.mp hitem
    exact htext field.1
  | str text =>
    cases hiterate
    intro item hitem
    obtain ⟨c, -, rfl⟩ := List.mem_map.mp hitem
    exact htext _
  | _ => cases hiterate

end AddonUpkeep.Json
