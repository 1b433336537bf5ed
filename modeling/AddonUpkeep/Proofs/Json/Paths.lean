import AddonUpkeep.Json.Shape
import AddonUpkeep.Proofs.Json.Within
import AddonUpkeep.Proofs.Reading

/-!
# Reading along changed paths

A path of fields can still be read behind a change.  Where the change lies on another path it ends
at the same document; where the change lies on the path it ends at a related one.  An absent step
reads as an empty object, so a relation that is to be met at the end must keep what is absent.
-/

namespace AddonUpkeep.Json

variable {name other : String} {path : List String} {R : Json → Json → Prop} {before after : Json}

theorem lookup_eq_ok {document : Json} {value? : Option Json}
    (h : document.lookup name = .ok value?) : document.field? name = value? := by
  cases document <;> simp_all [lookup, field?]

/-- What a path ends at is what its rest ends at, from the first field or from an empty object when
that is absent. -/
theorem descend_cons_eq_ok {document leaf : Json}
    (h : document.descend (name :: path) = .ok leaf) :
    (presentOr (obj []) (document.field? name)).descend path = .ok leaf := by
  unfold descend child at h
  obtain ⟨inner, hinner, hdown⟩ := bind_eq_ok_iff.mp h
  obtain ⟨value?, hvalue, hpure⟩ := bind_eq_ok_iff.mp hinner
  rw [lookup_eq_ok hvalue]
  cases hpure
  exact hdown

/-- What is read where a default stands for an absent value is the value, unless it is the
default. -/
theorem eq_some_of_presentOr {default found : Json} {value? : Option Json}
    (h : presentOr default value? = found) (hne : found ≠ default) : value? = some found := by
  unfold presentOr at h
  cases value? with
  | none => exact absurd h.symm hne
  | some value =>
    dsimp only at h
    split at h
    · rw [h]
    · exact absurd h.symm hne

theorem lookup_of_field? {document value : Json} (h : document.field? name = some value) :
    document.lookup name = .ok (some value) := by
  cases document with
  | obj fields => exact congrArg Except.ok h
  | _ => simp [field?] at h

theorem descend_cons_of_field? {document value : Json} (h : document.field? name = some value)
    (path : List String) :
    document.descend (name :: path) =
      (if value.isPresent then value else obj []).descend path := by
  have hchild : document.child name = .ok (if value.isPresent then value else obj []) := by
    unfold child
    rw [lookup_of_field? h]
    rfl
  change document.child name >>= _ = _
  rw [hchild]
  rfl

theorem descend_empty (path : List String) : (obj []).descend path = .ok (obj []) := by
  induction path with
  | nil => rfl
  | cons name path ih => exact ih

/-- The relation holds between an absent document and itself. -/
def KeepsAbsent (R : Json → Json → Prop) : Prop := ∀ value, value.isPresent = false → R value value

theorem field?_of_absent {document : Json} (h : document.isPresent = false) (name : String) :
    document.field? name = none := by
  cases document with
  | obj fields =>
    cases fields with
    | nil => rfl
    | cons field rest => simp [isPresent] at h
  | _ => rfl

theorem keepsAbsent_inField : KeepsAbsent (InField name R) := fun _ h ↦
  inField_of_none (field?_of_absent h name)

theorem keepsAbsent_inPath (hR : KeepsAbsent R) : KeepsAbsent (InPath path R) := by
  cases path with
  | nil => exact hR
  | cons name path => exact keepsAbsent_inField

theorem keepsAbsent_inItems : KeepsAbsent (InItems R) := by
  intro value h
  cases value with
  | arr items =>
    cases items with
    | nil => exact ⟨[], .nil, rfl⟩
    | cons item items => simp [isPresent] at h
  | _ => rfl

theorem keepsAbsent_inFirst : KeepsAbsent (InFirst R) := by
  intro value h
  cases value with
  | arr items =>
    cases items with
    | nil => rfl
    | cons item items => simp [isPresent] at h
  | _ => rfl

theorem InField.lookup_of_ne (h : InField name R before after) (hne : other ≠ name) :
    after.lookup other = before.lookup other := by
  have hfield := h.field?_of_ne hne
  unfold InField at h
  split at h
  · rw [h]
  · obtain ⟨changed, -, rfl⟩ := h
    cases before with
    | obj fields => exact congrArg Except.ok hfield
    | _ => rfl

/-- A path that starts at another field leads to the same document. -/
theorem InField.descend_of_ne (h : InField name R before after) (hne : other ≠ name)
    (path : List String) : after.descend (other :: path) = before.descend (other :: path) := by
  unfold descend child
  rw [h.lookup_of_ne hne]

/-- An object is an object behind a change of a field. -/
theorem InField.lookup_ok {value? : Option Json} (h : InField name R before after)
    (hlookup : before.lookup other = .ok value?) :
    after.lookup other = .ok (after.field? other) := by
  cases before with
  | obj fields =>
    unfold InField at h
    split at h
    · rw [h]
      rfl
    · obtain ⟨changed, -, rfl⟩ := h
      rfl
  | _ => cases hlookup

/-- Items that were read from a document that counts as present are related to the ones behind a
change.  What iterating gives besides the items of an array are texts. -/
theorem InItems.iterate_ok {items : List Json} (h : InItems R before after)
    (htexts : ∀ text, R (.str text) (.str text)) (hitems : before.iterate = .ok items) :
    ∃ changed, after.iterate = .ok changed ∧ List.Forall₂ R items changed := by
  have hnames {α : Type} (name : α → String) (rows : List α) :
      List.Forall₂ R (rows.map fun row ↦ .str (name row)) (rows.map fun row ↦ .str (name row)) := by
    rw [List.forall₂_map_left_iff, List.forall₂_map_right_iff, List.forall₂_same]
    exact fun row _ ↦ htexts (name row)
  cases before with
  | arr values =>
    cases hitems
    obtain ⟨changed, hrel, rfl⟩ := h
    exact ⟨changed, rfl, hrel⟩
  | obj fields =>
    cases hitems
    rw [h]
    exact ⟨_, rfl, hnames _ fields⟩
  | str text =>
    cases hitems
    rw [h]
    exact ⟨_, rfl, hnames _ text.toList⟩
  | _ => cases hitems

/-- Items that were read from a field can be read behind a change of them. -/
theorem InField.iterate_ok {items : List Json} (h : InField name (InItems R) before after)
    (htexts : ∀ text, R (.str text) (.str text))
    (hitems : (presentOr (arr []) (before.field? name)).iterate = .ok items) :
    ∃ changed, (presentOr (arr []) (after.field? name)).iterate = .ok changed ∧
      List.Forall₂ R items changed := by
  cases hv : before.field? name with
  | none =>
    rw [hv] at hitems
    rw [(inField_iff_of_none hv).mp h, hv]
    cases hitems
    exact ⟨[], rfl, .nil⟩
  | some value =>
    obtain ⟨changed, hrel, rfl⟩ := (inField_iff_of_some hv).mp h
    rw [hv] at hitems
    rw [field?_setField changed hv]
    unfold presentOr at hitems ⊢
    dsimp only at hitems ⊢
    rw [hrel.isPresent_eq]
    split
    · next hpresent =>
      rw [if_pos hpresent] at hitems
      exact hrel.iterate_ok htexts hitems
    · next habsent =>
      rw [if_neg habsent] at hitems
      cases hitems
      exact ⟨[], rfl, .nil⟩

theorem InPath.isPresent_eq (hR : ∀ a b, R a b → b.isPresent = a.isPresent)
    (h : InPath path R before after) : after.isPresent = before.isPresent := by
  cases path with
  | nil => exact hR _ _ h
  | cons name path => exact InField.isPresent_eq h

/-- A path goes on in the same way behind a change that keeps it. -/
theorem InPath.descend_append {more : List String}
    (hR : ∀ a b, R a b → b.isPresent = a.isPresent ∧ b.descend more = a.descend more) :
    ∀ {path : List String} {before after : Json}, InPath path R before after →
      after.descend (path ++ more) = before.descend (path ++ more)
  | [], _, _, h => (hR _ _ h).2
  | name :: path, before, after, h => by
    cases hv : before.field? name with
    | none => rw [(inField_iff_of_none hv).mp h]
    | some value =>
      obtain ⟨changed, hpath, rfl⟩ := (inField_iff_of_some hv).mp h
      have hpresent : changed.isPresent = value.isPresent :=
        hpath.isPresent_eq fun _ _ hab ↦ (hR _ _ hab).1
      rw [List.cons_append, descend_cons_of_field? hv,
        descend_cons_of_field? (field?_setField changed hv), hpresent]
      split
      · exact hpath.descend_append hR
      · rfl

/-- A path that was read before a change along it can be read behind it, and ends at what is related
to what was read. -/
theorem InPath.descend_ok (hpresent : ∀ a b, R a b → b.isPresent = a.isPresent)
    (hR : KeepsAbsent R) : ∀ {path : List String} {before after leaf : Json},
      InPath path R before after → before.descend path = .ok leaf →
        ∃ changed, after.descend path = .ok changed ∧ R leaf changed
  | [], before, after, leaf, h, hleaf => by
    cases hleaf
    exact ⟨after, rfl, h⟩
  | name :: path, before, after, leaf, h, hleaf => by
    have hrest := descend_cons_eq_ok hleaf
    cases hv : before.field? name with
    | none =>
      rw [hv, presentOr, descend_empty] at hrest
      cases hrest
      rw [(inField_iff_of_none hv).mp h]
      exact ⟨_, hleaf, hR _ rfl⟩
    | some value =>
      obtain ⟨changed, hpath, rfl⟩ := (inField_iff_of_some hv).mp h
      have hsame : changed.isPresent = value.isPresent := hpath.isPresent_eq hpresent
      rw [descend_cons_of_field? (field?_setField changed hv), hsame]
      rw [hv] at hrest
      unfold presentOr at hrest
      dsimp only at hrest
      split
      · next hp =>
        rw [if_pos hp] at hrest
        exact hpath.descend_ok hpresent hR hrest
      · next hp =>
        rw [if_neg hp, descend_empty] at hrest
        cases hrest
        exact ⟨_, descend_empty path, hR _ rfl⟩

end AddonUpkeep.Json
