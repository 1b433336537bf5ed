import AddonUpkeep.Json.Shape
import AddonUpkeep.Proofs.Reading
import AddonUpkeep.Proofs.Table

/-!
# Changes within a document

Relations between a document before and after a change that say where the change may be.  Outside
of the named fields and items both documents are equal, down to the order of fields and items.  The
relations compose, so what one update keeps is kept by a row of updates.
-/

namespace AddonUpkeep

namespace Json

variable {name other : String} {R S T : Json → Json → Prop} {before middle after : Json}

theorem setField_setField_self (document : Json) (name : String) (first second : Json) :
    (document.setField name first).setField name second = document.setField name second := by
  cases document <;> simp [setField, Table.put_put_self]

theorem setField_of_field? {document value : Json} (h : document.field? name = some value) :
    document.setField name value = document := by
  cases document <;> simp [setField]
  exact Table.put_of_get? _ _ _ (by simpa [field?] using h)

theorem setField_comm (document first second : Json) (hne : name ≠ other)
    (hname : (document.field? name).isSome) (hother : (document.field? other).isSome) :
    (document.setField name first).setField other second =
      (document.setField other second).setField name first := by
  cases document <;> simp [setField]
  exact Table.put_comm _ _ _ hne (by simpa [field?] using hname) (by simpa [field?] using hother)

theorem field?_setField {document value : Json} (changed : Json)
    (h : document.field? name = some value) :
    (document.setField name changed).field? name = some changed := by
  cases document with
  | obj fields => exact field?_setField_self fields name changed
  | _ => simp [field?] at h

theorem isPresent_setField {document value : Json} (changed : Json)
    (h : document.field? name = some value) :
    (document.setField name changed).isPresent = document.isPresent := by
  cases document with
  | obj fields =>
    cases fields with
    | nil => simp [field?] at h
    | cons field rest =>
      by_cases hn : field.1 = name <;> simp [setField, Table.put, isPresent, hn]
  | _ => simp [field?] at h

/-- The value of a field is replaced by a related one.  A document without the field stays. -/
def InField (name : String) (R : Json → Json → Prop) (before after : Json) : Prop :=
  match before.field? name with
  | none => after = before
  | some value => ∃ changed, R value changed ∧ after = before.setField name changed

/-- The document at the end of a path of fields is replaced by a related one. -/
def InPath : List String → (Json → Json → Prop) → Json → Json → Prop
  | [], R => R
  | name :: path, R => InField name (InPath path R)

/-- Every item of an array is replaced by a related one.  Other documents stay. -/
def InItems (R : Json → Json → Prop) : Json → Json → Prop
  | arr items, after => ∃ changed, List.Forall₂ R items changed ∧ after = arr changed
  | before, after => after = before

/-- The first item of an array is replaced by a related one.  Other documents stay. -/
def InFirst (R : Json → Json → Prop) : Json → Json → Prop
  | arr (item :: items), after => ∃ changed, R item changed ∧ after = arr (changed :: items)
  | before, after => after = before

theorem inField_iff_of_some {value : Json} (h : before.field? name = some value) :
    InField name R before after ↔
      ∃ changed, R value changed ∧ after = before.setField name changed := by
  unfold InField
  rw [h]

theorem inField_iff_of_none (h : before.field? name = none) :
    InField name R before after ↔ after = before := by
  unfold InField
  rw [h]

theorem inField_of_some {value changed : Json} (h : before.field? name = some value)
    (hR : R value changed) : InField name R before (before.setField name changed) :=
  (inField_iff_of_some h).mpr ⟨changed, hR, rfl⟩

theorem inField_of_none (h : before.field? name = none) : InField name R before before :=
  (inField_iff_of_none h).mpr rfl

theorem InField.mono (h : InField name R before after) (hRS : ∀ a b, R a b → S a b) :
    InField name S before after := by
  unfold InField at h ⊢
  split at h
  · exact h
  · obtain ⟨changed, hR, rfl⟩ := h
    exact ⟨changed, hRS _ _ hR, rfl⟩

theorem InField.comp (hab : InField name R before middle) (hbc : InField name S middle after)
    (h : ∀ a b c, R a b → S b c → T a c) : InField name T before after := by
  cases hv : before.field? name with
  | none =>
    have hm := (inField_iff_of_none hv).mp hab
    subst hm
    rw [(inField_iff_of_none hv).mp hbc]
    exact inField_of_none hv
  | some value =>
    obtain ⟨changed, hR, rfl⟩ := (inField_iff_of_some hv).mp hab
    obtain ⟨last, hS, rfl⟩ := (inField_iff_of_some (field?_setField changed hv)).mp hbc
    rw [setField_setField_self]
    exact inField_of_some hv (h _ _ _ hR hS)

theorem InField.refl (hR : ∀ value, R value value) (document : Json) :
    InField name R document document := by
  cases hv : document.field? name with
  | none => exact inField_of_none hv
  | some value =>
    have h := inField_of_some hv (hR value)
    rwa [setField_of_field? hv] at h

/-- Other fields stay as they are. -/
theorem InField.field?_of_ne (h : InField name R before after) (hne : other ≠ name) :
    after.field? other = before.field? other := by
  unfold InField at h
  split at h
  · rw [h]
  · obtain ⟨changed, -, rfl⟩ := h
    exact field?_setField_of_ne before changed hne

theorem InField.isPresent_eq (h : InField name R before after) :
    after.isPresent = before.isPresent := by
  unfold InField at h
  split at h
  · rw [h]
  · next value hv =>
    obtain ⟨changed, -, rfl⟩ := h
    exact isPresent_setField changed hv

/-- Changes in two different fields can be made in either order. -/
theorem InField.swap (hne : name ≠ other) (hab : InField name R before middle)
    (hbc : InField other S middle after) :
    ∃ between, InField other S before between ∧ InField name R between after := by
  have hother : middle.field? other = before.field? other := hab.field?_of_ne hne.symm
  cases hv : before.field? name with
  | none =>
    have hm := (inField_iff_of_none hv).mp hab
    subst hm
    have ha : after.field? name = none := by rw [hbc.field?_of_ne hne, hv]
    exact ⟨after, hbc, inField_of_none ha⟩
  | some value =>
    obtain ⟨changed, hR, rfl⟩ := (inField_iff_of_some hv).mp hab
    cases ho : before.field? other with
    | none =>
      rw [(inField_iff_of_none (hother.trans ho)).mp hbc]
      exact ⟨before, inField_of_none ho, inField_of_some hv hR⟩
    | some held =>
      obtain ⟨last, hS, rfl⟩ := (inField_iff_of_some (hother.trans ho)).mp hbc
      refine ⟨before.setField other last, inField_of_some ho hS, ?_⟩
      rw [setField_comm before changed last hne (by simp [hv]) (by simp [ho])]
      exact inField_of_some (by rw [field?_setField_of_ne before last hne, hv]) hR

/-- A change that is made in two steps, as two changes. -/
theorem InField.split (h : InField name (fun a c ↦ ∃ b, R a b ∧ S b c) before after) :
    ∃ middle, InField name R before middle ∧ InField name S middle after := by
  cases hv : before.field? name with
  | none =>
    rw [(inField_iff_of_none hv).mp h]
    exact ⟨before, inField_of_none hv, inField_of_none hv⟩
  | some value =>
    obtain ⟨last, ⟨changed, hR, hS⟩, rfl⟩ := (inField_iff_of_some hv).mp h
    refine ⟨_, inField_of_some hv hR, ?_⟩
    rw [inField_iff_of_some (field?_setField changed hv)]
    exact ⟨last, hS, (setField_setField_self before name changed last).symm⟩

/-- A relation that leaves no choice leaves none in a field. -/
theorem rightUnique_inField (hR : Relator.RightUnique R) :
    Relator.RightUnique (InField name R) := by
  intro before first second hfirst hsecond
  cases hv : before.field? name with
  | none => rw [(inField_iff_of_none hv).mp hfirst, (inField_iff_of_none hv).mp hsecond]
  | some value =>
    obtain ⟨changed, hchanged, rfl⟩ := (inField_iff_of_some hv).mp hfirst
    obtain ⟨changed', hchanged', rfl⟩ := (inField_iff_of_some hv).mp hsecond
    rw [hR hchanged hchanged']

theorem InPath.mono : ∀ {path : List String} {before after : Json},
    InPath path R before after → (∀ a b, R a b → S a b) → InPath path S before after
  | [], _, _, h, hRS => hRS _ _ h
  | _ :: _, _, _, h, hRS => InField.mono h fun _ _ hp ↦ InPath.mono hp hRS

theorem InPath.comp : ∀ {path : List String} {before middle after : Json},
    InPath path R before middle → InPath path S middle after →
      (∀ a b c, R a b → S b c → T a c) → InPath path T before after
  | [], _, _, _, hab, hbc, h => h _ _ _ hab hbc
  | _ :: _, _, _, _, hab, hbc, h =>
    InField.comp hab hbc fun _ _ _ hab hbc ↦ InPath.comp hab hbc h

theorem InPath.refl (hR : ∀ value, R value value) :
    ∀ (path : List String) (document : Json), InPath path R document document
  | [], document => hR document
  | _ :: path, document => InField.refl (InPath.refl hR path) document

theorem InPath.split : ∀ {path : List String} {before after : Json},
    InPath path (fun a c ↦ ∃ b, R a b ∧ S b c) before after →
      ∃ middle, InPath path R before middle ∧ InPath path S middle after
  | [], _, _, h => h
  | _ :: _, _, _, h => InField.split (InField.mono h fun _ _ hrest ↦ InPath.split hrest)

theorem rightUnique_inPath (hR : Relator.RightUnique R) :
    ∀ path : List String, Relator.RightUnique (InPath path R)
  | [] => hR
  | _ :: path => rightUnique_inField (rightUnique_inPath hR path)

theorem inPath_append (path more : List String) :
    InPath (path ++ more) R = InPath path (InPath more R) := by
  induction path with
  | nil => rfl
  | cons name path ih => exact congrArg (InField name) ih

theorem InItems.mono (h : InItems R before after) (hRS : ∀ a b, R a b → S a b) :
    InItems S before after := by
  unfold InItems at h ⊢
  split at h
  · obtain ⟨changed, hR, rfl⟩ := h
    exact ⟨changed, hR.imp hRS, rfl⟩
  · exact h

theorem InItems.comp (hab : InItems R before middle) (hbc : InItems S middle after)
    (h : ∀ a b c, R a b → S b c → T a c) : InItems T before after := by
  cases before with
  | arr items =>
    obtain ⟨changed, hR, rfl⟩ := hab
    obtain ⟨last, hS, rfl⟩ := hbc
    exact ⟨last, forall₂_comp h hR hS, rfl⟩
  | _ => subst hab; exact hbc

theorem InItems.refl (hR : ∀ value, R value value) (document : Json) :
    InItems R document document := by
  cases document with
  | arr items => exact ⟨items, List.forall₂_same.mpr fun item _ ↦ hR item, rfl⟩
  | _ => rfl

theorem rightUnique_inItems (hR : Relator.RightUnique R) : Relator.RightUnique (InItems R) := by
  intro before first second hfirst hsecond
  cases before with
  | arr items =>
    obtain ⟨changed, hchanged, rfl⟩ := hfirst
    obtain ⟨changed', hchanged', rfl⟩ := hsecond
    rw [hR.forall₂ hchanged hchanged']
  | _ => exact Eq.trans hfirst (Eq.symm hsecond)

theorem InItems.isPresent_eq (h : InItems R before after) :
    after.isPresent = before.isPresent := by
  cases before with
  | arr items =>
    obtain ⟨changed, hR, rfl⟩ := h
    cases hR <;> rfl
  | _ => rw [h]

theorem InFirst.mono (h : InFirst R before after) (hRS : ∀ a b, R a b → S a b) :
    InFirst S before after := by
  unfold InFirst at h ⊢
  split at h
  · obtain ⟨changed, hR, rfl⟩ := h
    exact ⟨changed, hRS _ _ hR, rfl⟩
  · exact h

theorem InFirst.comp (hab : InFirst R before middle) (hbc : InFirst S middle after)
    (h : ∀ a b c, R a b → S b c → T a c) : InFirst T before after := by
  unfold InFirst at hab
  split at hab
  · obtain ⟨changed, hR, rfl⟩ := hab
    obtain ⟨last, hS, rfl⟩ := hbc
    exact ⟨last, h _ _ _ hR hS, rfl⟩
  · next hne =>
    subst hab
    unfold InFirst at hbc ⊢
    split at hbc
    · exact absurd rfl (hne _ _)
    · exact hbc

theorem InFirst.refl (hR : ∀ value, R value value) (document : Json) :
    InFirst R document document := by
  unfold InFirst
  split
  · exact ⟨_, hR _, rfl⟩
  · rfl

theorem rightUnique_inFirst (hR : Relator.RightUnique R) : Relator.RightUnique (InFirst R) := by
  intro before first second hfirst hsecond
  unfold InFirst at hfirst hsecond
  split at hfirst
  · obtain ⟨changed, hchanged, rfl⟩ := hfirst
    obtain ⟨changed', hchanged', rfl⟩ := hsecond
    rw [hR hchanged hchanged']
  · next hne =>
    rw [hfirst]
    split at hsecond
    · exact absurd rfl (hne _ _)
    · exact hsecond.symm

end Json

end AddonUpkeep
