import AddonUpkeep.Workload.Affinity
import AddonUpkeep.Proofs.Json.Paths

/-!
# Changing the expressions of a workload

The expressions are read along one path and changed along the same path, so when all expressions can
be read and changed, the change of the workload succeeds, and it reaches the expressions only.
-/

namespace AddonUpkeep

namespace Affinity

open Json

variable {change : Json → Except ShapeProblem Json} {R : Json → Json → Prop} {name label value : String}

/-- A field can be changed when its value can, and the change stays in the field. -/
theorem changeField_ok {document : Json} (hR : KeepsAbsent R)
    (h : ∀ held, document.field? name = some held → held.isPresent →
      ∃ changed, change held = .ok changed ∧ R held changed) :
    ∃ changed, changeField name change document = .ok changed ∧
      InField name R document changed := by
  unfold changeField
  cases hf : document.field? name with
  | none => exact ⟨document, rfl, inField_of_none hf⟩
  | some held =>
    cases hp : held.isPresent with
    | false =>
      have hsame := inField_of_some hf (hR held hp)
      rw [setField_of_field? hf] at hsame
      exact ⟨document, by simp [hp, pure, Except.pure], hsame⟩
    | true =>
      obtain ⟨changed, hc, hrel⟩ := h held hf hp
      exact ⟨document.setField name changed, by simp [hp, hc, bind, Except.bind, pure, Except.pure],
        inField_of_some hf hrel⟩

/-- What can be read at the end of a path can be changed there. -/
theorem changeAt_ok (hR : KeepsAbsent R) : ∀ {path : List String} {document leaf : Json},
    document.descend path = .ok leaf → (∃ changed, change leaf = .ok changed ∧ R leaf changed) →
      ∃ changed, changeAt change path document = .ok changed ∧ InPath path R document changed
  | [], document, leaf, hleaf, hchange => by
    have hd : document = leaf := by simpa [descend] using hleaf
    rw [hd]
    exact hchange
  | name :: path, document, leaf, hleaf, hchange => by
    have hrest := descend_cons_eq_ok hleaf
    refine changeField_ok (keepsAbsent_inPath hR) fun held hheld hpresent ↦ ?_
    have hdown : held.descend path = .ok leaf := by simpa [hheld, presentOr, hpresent] using hrest
    exact changeAt_ok hR hdown hchange

theorem changeAt_append (path more : List String) (change : Json → Except ShapeProblem Json) :
    changeAt change (path ++ more) = changeAt (changeAt change more) path := by
  induction path with
  | nil => rfl
  | cons name path ih =>
    funext document
    change changeField name (changeAt change (path ++ more)) document = _
    rw [ih]
    rfl

theorem changeItems_ok {document : Json}
    (h : ∀ items, document = arr items → ∀ item ∈ items,
      ∃ changed, change item = .ok changed ∧ R item changed) :
    ∃ changed, changeItems change document = .ok changed ∧ InItems R document changed := by
  cases document with
  | arr items =>
    obtain ⟨last, hlast⟩ := exists_forall₂_of_mem (h items rfl)
    have hchanged : items.mapM change = .ok last := mapM_eq_ok_iff.mpr (hlast.imp fun _ _ ↦ And.left)
    refine ⟨arr last, ?_, last, hlast.imp fun _ _ ↦ And.right, rfl⟩
    simp [changeItems, hchanged, bind, Except.bind, pure, Except.pure]
  | _ => exact ⟨_, rfl, rfl⟩

/-- What stands between a workload and its expressions: the terms, and the rows of expressions. -/
def InExpressions (R : Json → Json → Prop) : Json → Json → Prop :=
  InItems (InField "matchExpressions" (InItems R))

theorem termExpressions_eq_ok_iff {term : Json} {expressions : List Json} :
    termExpressions term = .ok expressions ↔ ∃ listed,
      term.lookup "matchExpressions" = .ok listed ∧
        (presentOr (arr []) listed).iterate = .ok expressions :=
  bind_eq_ok_iff

/-- The expressions of one term can be changed when each of them can. -/
theorem changeTerm_ok {term : Json} {expressions : List Json}
    (hread : termExpressions term = .ok expressions)
    (h : ∀ expression ∈ expressions, ∃ changed, change expression = .ok changed ∧
      R expression changed) :
    ∃ changed, changeField "matchExpressions" (changeItems change) term = .ok changed ∧
      InField "matchExpressions" (InItems R) term changed := by
  refine changeField_ok keepsAbsent_inItems fun held hheld hpresent ↦ changeItems_ok ?_
  intro items hitems item hitem
  obtain ⟨value?, hvalue, hiterate⟩ := termExpressions_eq_ok_iff.mp hread
  have hexpr : items = expressions := by
    subst hitems
    rw [← lookup_eq_ok hvalue, hheld] at hiterate
    simpa [presentOr, hpresent, iterate] using hiterate
  exact h item (hexpr ▸ hitem)

/-- The terms and expressions that reading a workload goes through. -/
theorem matchExpressions_eq_ok_iff {workload : Json} {expressions : List Json} :
    matchExpressions workload = .ok expressions ↔ ∃ required listed terms rows,
      workload.descend (podPath ++ requiredPath) = .ok required ∧
      required.lookup "nodeSelectorTerms" = .ok listed ∧
      (presentOr (arr []) listed).iterate = .ok terms ∧
      List.Forall₂ (fun term row ↦ termExpressions term = .ok row) terms rows ∧
      expressions = rows.flatten := by
  constructor
  · intro h
    obtain ⟨found, hfound, hiterate⟩ := bind_eq_ok_iff.mp h
    obtain ⟨terms, hterms, hmap⟩ := bind_eq_ok_iff.mp hiterate
    obtain ⟨rows, hrows, hflatten⟩ := bind_eq_ok_iff.mp hmap
    obtain ⟨required, hdescend, hlookup⟩ := bind_eq_ok_iff.mp hfound
    obtain ⟨listed, hlisted, hpresent⟩ := bind_eq_ok_iff.mp hlookup
    cases hpresent
    exact ⟨required, listed, terms, rows, hdescend, hlisted, hterms, mapM_eq_ok_iff.mp hrows,
      (Except.ok.inj hflatten).symm⟩
  · rintro ⟨required, listed, terms, rows, hdescend, hlisted, hterms, hrows, rfl⟩
    unfold matchExpressions selectorTerms
    rw [hdescend, ok_bind, hlisted, ok_bind]
    change (presentOr (arr []) listed).iterate >>= _ = _
    rw [hterms, ok_bind, mapM_eq_ok_iff.mpr hrows]
    rfl

/-- The way from the specification of pods to the selector terms. -/
def termsPath : List String := requiredPath ++ ["nodeSelectorTerms"]

/-- Expressions that were read can be read behind a change of them, and are related to it. -/
theorem matchExpressions_of_inPath {before after : Json} {expressions : List Json}
    (h : InPath (podPath ++ termsPath) (InExpressions R) before after)
    (htexts : ∀ text, R (.str text) (.str text)) (hread : matchExpressions before = .ok expressions) :
    ∃ changed, matchExpressions after = .ok changed ∧ List.Forall₂ R expressions changed := by
  obtain ⟨required, listed, terms, rows, hdescend, hlisted, hterms, hrows, rfl⟩ :=
    matchExpressions_eq_ok_iff.mp hread
  rw [termsPath, ← List.append_assoc, inPath_append] at h
  obtain ⟨required', hdescend', hrequired⟩ :=
    h.descend_ok (fun _ _ ↦ InField.isPresent_eq) keepsAbsent_inField hdescend
  have hterm : ∀ text, InField "matchExpressions" (InItems R) (.str text) (.str text) :=
    fun _ ↦ inField_of_none rfl
  rw [← lookup_eq_ok hlisted] at hterms
  obtain ⟨terms', hterms', hrelated⟩ := InField.iterate_ok hrequired hterm hterms
  -- a term that was read is read again, row by row
  have hstep : ∀ term term' row, termExpressions term = .ok row →
      InField "matchExpressions" (InItems R) term term' →
        ∃ row', termExpressions term' = .ok row' ∧ List.Forall₂ R row row' := by
    intro term term' row hrow hchange
    obtain ⟨found, hfound, hiterate⟩ := termExpressions_eq_ok_iff.mp hrow
    rw [← lookup_eq_ok hfound] at hiterate
    obtain ⟨row', hrow', hrel⟩ := hchange.iterate_ok htexts hiterate
    exact ⟨row', termExpressions_eq_ok_iff.mpr ⟨_, hchange.lookup_ok hfound, hrow'⟩, hrel⟩
  obtain ⟨rows', hrows', hrel⟩ := exists_forall₂_of_step hstep hrows hrelated
  refine ⟨rows'.flatten, matchExpressions_eq_ok_iff.mpr ?_, List.rel_flatten hrel⟩
  exact ⟨required', _, terms', rows', hdescend', InField.lookup_ok hrequired hlisted, hterms',
    hrows', rfl⟩

/-- When every expression can be changed the workload can be, and it changes in its expressions
only. -/
theorem changeExpressions_ok {workload : Json} {expressions : List Json}
    (hread : matchExpressions workload = .ok expressions)
    (h : ∀ expression ∈ expressions, ∃ changed, change expression = .ok changed ∧
      R expression changed) :
    ∃ changed, changeExpressions change workload = .ok changed ∧
      InPath (podPath ++ termsPath) (InExpressions R) workload changed := by
  obtain ⟨required, listed, terms, rows, hdescend, hlisted, hterms, hrows, rfl⟩ :=
    matchExpressions_eq_ok_iff.mp hread
  rw [← lookup_eq_ok hlisted] at hterms
  have hleaf : ∃ changed, changeAt (changeItems (changeField "matchExpressions" (changeItems change)))
      ["nodeSelectorTerms"] required = .ok changed ∧
      InPath ["nodeSelectorTerms"] (InExpressions R) required changed := by
    refine changeField_ok keepsAbsent_inItems fun held hheld hpresent ↦ changeItems_ok ?_
    intro items hitems term hterm
    subst hitems
    have hsame : items = terms := by simpa [hheld, presentOr, hpresent, iterate] using hterms
    obtain ⟨row, hrow, hread⟩ := exists_of_mem_forall₂ hrows (hsame ▸ hterm)
    exact changeTerm_ok hread fun expression hexpr ↦
      h expression (List.mem_flatten.mpr ⟨row, hrow, hexpr⟩)
  have hpath : podPath ++ termsPath = (podPath ++ requiredPath) ++ ["nodeSelectorTerms"] := by
    rw [termsPath, List.append_assoc]
  unfold changeExpressions
  rw [changeAt_append, hpath, inPath_append]
  exact changeAt_ok (keepsAbsent_inPath keepsAbsent_inItems) hdescend hleaf

end Affinity

end AddonUpkeep
