import AddonUpkeep.Proofs.Workload.Reopening
import AddonUpkeep.Proofs.Workload.Shape

/-!
# Appending a value to expressions

Appending a value on a label maps one function over the expressions and touches nothing else, so its
laws are laws of that function: it is found again on its label, other labels do not see it, and it
commutes with appending on another label.
-/

namespace AddonUpkeep.Affinity

open AddonUpkeep.Json

variable {label other value another : String} {expression workload : Json}
  {expressions : List Json}

theorem key_opened (label value : String) (expression : Json) :
    (opened label value expression).field? "key" = expression.field? "key" := by
  unfold opened
  split
  · exact field?_setField_of_ne expression _ (by decide)
  · rfl

theorem isExpression_opened (label value : String) (h : isExpression expression = true) :
    isExpression (opened label value expression) = true := by
  unfold opened
  split
  · cases expression with
    | obj fields =>
      have hvalues := field?_setField_self fields "values"
        (arr (listed (obj fields) ++ [.str value]))
      unfold isExpression fits isFieldOr
      rw [hvalues]
      simp [isObject, setField, fits, isListable]
    | _ => cases h
  · exact h

/-- Appending on two labels can be done in either order, since no expression is on both. -/
theorem opened_opened_comm (hne : other ≠ label) (value another : String) (expression : Json) :
    opened other another (opened label value expression) =
      opened label value (opened other another expression) := by
  by_cases hlabel : expression.field? "key" = some (.str label)
  · have hother : expression.field? "key" ≠ some (.str other) := by
      rw [hlabel]
      simpa using hne.symm
    have hstays : opened other another expression = expression := if_neg hother
    rw [hstays, opened, key_opened, if_neg hother]
  · have hstays : opened label value expression = expression := if_neg hlabel
    rw [hstays, opened.eq_def label, key_opened, if_neg hlabel]

/-- A search on another label does not see what was appended. -/
theorem allows_opened_of_ne (hne : other ≠ label) (value another : String) (expression : Json) :
    allows other another (opened label value expression) = allows other another expression := by
  by_cases hlabel : expression.field? "key" = some (.str label)
  · have hoff {document : Json} (hkey : document.field? "key" = some (.str label)) :
        allows other another document = .ok false := by
      have hon : isOn other document = .ok false := by
        rw [isOn, lookup_of_field? hkey, ok_bind]
        exact congrArg Except.ok (beq_false_of_ne (by simpa using hne.symm))
      rw [allows, hon]
      rfl
    rw [hoff hlabel, hoff ((key_opened label value expression).trans hlabel)]
  · rw [opened, if_neg hlabel]

/-- On its label an expression has the value behind the values that it had. -/
theorem appended_opened (value : String) (hkey : expression.field? "key" = some (.str label))
    (h : isExpression expression = true) :
    Appended value expression (opened label value expression) := by
  obtain ⟨values, hvalues, hitems⟩ := iterate_of_isExpression h
  obtain ⟨value?, hlookup, hpresent⟩ := bind_eq_ok_iff.mp hvalues
  refine ⟨listed expression, ?_, if_pos hkey⟩
  rw [lookup_eq_ok hlookup, Except.ok.inj hpresent]
  exact hitems

/-- What was appended on a label is found on it. -/
theorem allows_opened_self (label value : String) (h : isExpression expression = true) :
    allows label value (opened label value expression) =
      .ok (expression.field? "key" == some (.str label)) := by
  by_cases hkey : expression.field? "key" = some (.str label)
  · rw [(allows_of_appended hkey (appended_opened value hkey h)).2, hkey, beq_self_eq_true]
  · have hstays : opened label value expression = expression := if_neg hkey
    rw [hstays, allows, isOn_of_isExpression label h, beq_false_of_ne hkey]
    rfl

theorem anyExpression_map (test : Json → Except ShapeProblem Bool) (f : Json → Json)
    (expressions : List Json) :
    anyExpression test (expressions.map f) =
      anyExpression (fun item ↦ test (f item)) expressions := by
  induction expressions with
  | nil => rfl
  | cons expression expressions ih => rw [List.map_cons, anyExpression, anyExpression, ih]

theorem anyExpression_of_ok {test : Json → Except ShapeProblem Bool} {found : Json → Bool}
    (h : ∀ expression ∈ expressions, test expression = .ok (found expression)) :
    anyExpression test expressions = .ok (expressions.any found) := by
  induction expressions with
  | nil => rfl
  | cons expression expressions ih =>
    obtain ⟨hfirst, hrest⟩ := List.forall_mem_cons.mp h
    rw [anyExpression, hfirst, ok_bind, ih hrest, List.any_cons]
    cases found expression <;> rfl

/-- Two workloads that are equal but for the required expressions, each of which goes to its value
under a function. -/
def MapsExpressions (f : Json → Json) : Json → Json → Prop :=
  InPath (podPath ++ termsPath) (InExpressions fun old new ↦ new = f old)

theorem MapsExpressions.comp {f g : Json → Json} {first middle last : Json}
    (h : MapsExpressions f first middle) (h' : MapsExpressions g middle last) :
    MapsExpressions (fun old ↦ g (f old)) first last := by
  refine InPath.comp h h' fun _ _ _ hab hbc ↦ InItems.comp hab hbc fun _ _ _ hab hbc ↦
    InField.comp hab hbc fun _ _ _ hab hbc ↦ InItems.comp hab hbc ?_
  rintro old middle new rfl rfl
  rfl

/-- The function leaves no choice of the workload behind. -/
theorem rightUnique_mapsExpressions (f : Json → Json) :
    Relator.RightUnique (MapsExpressions f) := by
  have hunique : Relator.RightUnique fun old new ↦ new = f old :=
    fun _ _ _ hfirst hsecond ↦ hfirst.trans hsecond.symm
  exact rightUnique_inPath (rightUnique_inItems (rightUnique_inField (rightUnique_inItems hunique)))
    (podPath ++ termsPath)

/-- Appending to expressions that can be read changes each of them in its place, and nothing
else. -/
theorem withValue_of_isExpression (label value : String)
    (hread : matchExpressions workload = .ok expressions)
    (h : ∀ expression ∈ expressions, isExpression expression = true) :
    ∃ changed, withValue workload label value = .ok changed ∧
      MapsExpressions (opened label value) workload changed ∧
      matchExpressions changed = .ok (expressions.map (opened label value)) := by
  obtain ⟨changed, hchanged, hwithin⟩ : ∃ changed,
      withValue workload label value = .ok changed ∧
        MapsExpressions (opened label value) workload changed :=
    withValue_of_appendTo hread fun expression hmem ↦
      ⟨appendTo_of_isExpression label value (h expression hmem), rfl⟩
  have htexts (text : String) : Json.str text = opened label value (.str text) := rfl
  obtain ⟨behind, hbehind, hrel⟩ := matchExpressions_of_inPath hwithin htexts hread
  refine ⟨changed, hchanged, hwithin, ?_⟩
  have hmapped : List.Forall₂ Eq (expressions.map (opened label value)) behind :=
    List.forall₂_map_left_iff.mpr (hrel.imp fun _ _ ↦ Eq.symm)
  rw [List.forall₂_eq_eq_eq] at hmapped
  rw [hbehind, hmapped]

/-- Appending on two labels, one after the other, comes to the same workload in either order. -/
theorem withValue_withValue_comm (hne : other ≠ label) (value another : String)
    (hread : matchExpressions workload = .ok expressions)
    (h : ∀ expression ∈ expressions, isExpression expression = true) :
    ∃ first second both,
      withValue workload label value = .ok first ∧ withValue first other another = .ok both ∧
      withValue workload other another = .ok second ∧ withValue second label value = .ok both := by
  have hopened (label value : String) :
      ∀ expression ∈ expressions.map (opened label value), isExpression expression = true := by
    intro expression hmem
    obtain ⟨old, hold, rfl⟩ := List.mem_map.mp hmem
    exact isExpression_opened label value (h old hold)
  obtain ⟨first, hfirst, hwithin, hmapped⟩ := withValue_of_isExpression label value hread h
  obtain ⟨both, hboth, hwithin', -⟩ :=
    withValue_of_isExpression other another hmapped (hopened label value)
  obtain ⟨second, hsecond, hbeside, hmapped'⟩ := withValue_of_isExpression other another hread h
  obtain ⟨last, hlast, hbeside', -⟩ :=
    withValue_of_isExpression label value hmapped' (hopened other another)
  have hway := hwithin.comp hwithin'
  have hway' := hbeside.comp hbeside'
  simp only [opened_opened_comm hne value another] at hway
  have hsame : last = both := rightUnique_mapsExpressions _ hway' hway
  exact ⟨first, second, both, hfirst, hboth, hsecond, hsame ▸ hlast⟩

/-- In a workload of the expected shape, a value can be appended on a label.  The expressions behind
it are those in front, in order, each with the value behind its own values when it is on the label,
and everything else is as it was.  So the value is found on the label exactly when some expression
is on it.  Another label does not see the change, and appending on it commutes with it. -/
theorem withValue_maps_expressions (label other value another : String)
    (h : isShaped workload = true) :
    ∃ expressions changed,
      matchExpressions workload = .ok expressions ∧
      withValue workload label value = .ok changed ∧
      matchExpressions changed = .ok (expressions.map (opened label value)) ∧
      (∀ expression ∈ expressions, if expression.field? "key" = some (.str label)
        then Appended value expression (opened label value expression)
        else opened label value expression = expression) ∧
      MapsExpressions (opened label value) workload changed ∧
      (∃ found, hasValue changed label value = .ok found ∧ (found = true ↔
        ∃ expression ∈ expressions, expression.field? "key" = some (.str label))) ∧
      (other ≠ label →
        (∃ found, hasValue workload other another = .ok found ∧
          hasValue changed other another = .ok found) ∧
        ∃ beside both, withValue workload other another = .ok beside ∧
          withValue changed other another = .ok both ∧
          withValue beside label value = .ok both) := by
  obtain ⟨expressions, hread, hexpressions⟩ := matchExpressions_of_isShaped h
  obtain ⟨changed, hchanged, hwithin, hmapped⟩ :=
    withValue_of_isExpression label value hread hexpressions
  have hsearch (key sought : String) : hasValue changed key sought =
      anyExpression (fun old ↦ allows key sought (opened label value old)) expressions := by
    rw [hasValue, hmapped, ← anyExpression_map]
    rfl
  refine ⟨expressions, changed, hread, hchanged, hmapped, ?_, hwithin, ?_, fun hne ↦ ⟨?_, ?_⟩⟩
  · intro expression hmem
    split
    · next hkey => exact appended_opened value hkey (hexpressions expression hmem)
    · next hkey => exact if_neg hkey
  · refine ⟨expressions.any fun old ↦ old.field? "key" == some (.str label), ?_, by simp⟩
    rw [hsearch]
    exact anyExpression_of_ok fun expression hmem ↦
      allows_opened_self label value (hexpressions expression hmem)
  · obtain ⟨found, hfound⟩ := hasValue_of_isShaped other another h
    refine ⟨found, hfound, ?_⟩
    rw [hsearch, ← hfound, hasValue, hread]
    simp only [allows_opened_of_ne hne]
    rfl
  · obtain ⟨first, beside, both, hfirst, hboth, hbeside, hboth'⟩ :=
      withValue_withValue_comm hne value another hread hexpressions
    obtain rfl : changed = first := Except.ok.inj (hchanged.symm.trans hfirst)
    exact ⟨beside, both, hbeside, hboth, hboth'⟩

/-- The values of one expression are a text, those of the other are not there.  On the label of the
first the value is appended to its letters, and found; the second is not seen. -/
theorem withValue_maps_text_values :
    let workload := Json.obj [("spec", .obj [("template", .obj [("spec", .obj [("affinity", .obj
      [("nodeAffinity", .obj [("requiredDuringSchedulingIgnoredDuringExecution", .obj
        [("nodeSelectorTerms", .arr [.obj [("matchExpressions", .null)], .obj [("matchExpressions",
          .arr [.obj [("key", .str archLabel), ("values", .str "x86")],
            .obj [("key", .str betaArchLabel)]])]])])])])])])])]
    isShaped workload = true ∧ betaArchLabel ≠ archLabel ∧
      ∃ changed both, withValue workload archLabel arm64 = .ok changed ∧
        matchExpressions changed = .ok
          [.obj [("key", .str archLabel),
              ("values", .arr [.str "x", .str "8", .str "6", .str arm64])],
            .obj [("key", .str betaArchLabel)]] ∧
        hasValue changed archLabel arm64 = .ok true ∧
        hasValue changed betaArchLabel arm64 = .ok false ∧
        withValue changed betaArchLabel arm64 = .ok both := by
  intro workload
  have hshaped : isShaped workload = true := by decide +kernel
  have hne : betaArchLabel ≠ archLabel := by decide
  obtain ⟨expressions, changed, hread, hchanged, hmapped, -, -, ⟨found, hfound, hon⟩, hother⟩ :=
    withValue_maps_expressions archLabel betaArchLabel arm64 arm64 hshaped
  obtain ⟨⟨found', hbefore, hafter⟩, beside, both, -, hboth, -⟩ := hother hne
  have hexpressions : matchExpressions workload = .ok
      [.obj [("key", .str archLabel), ("values", .str "x86")],
        .obj [("key", .str betaArchLabel)]] := toOption_eq_some_iff.mp (by decide +kernel)
  have hnone : hasValue workload betaArchLabel arm64 = .ok false :=
    toOption_eq_some_iff.mp (by decide +kernel)
  obtain rfl := Except.ok.inj (hread.symm.trans hexpressions)
  obtain rfl := Except.ok.inj (hbefore.symm.trans hnone)
  have htrue : found = true := hon.mpr ⟨_, List.mem_cons_self, rfl⟩
  refine ⟨hshaped, hne, changed, both, hchanged, ?_, htrue ▸ hfound, hafter, hboth⟩
  rw [hmapped]
  exact congrArg Except.ok (by decide +kernel)

end AddonUpkeep.Affinity
