import AddonUpkeep.Proofs.Workload.Renewal

/-!
# Workloads of the expected shape

Every step on the way to the expressions of a workload may be absent, and is an object when it is
there.  Terms and expressions stand in arrays of objects, and the values of an expression can be
listed.  In a workload of this shape all expressions can be read, and each of them can be searched
and appended to.
-/

namespace AddonUpkeep

namespace Json

variable {test : Json → Bool} {name : String} {path : List String} {document : Json}

/-- A document with fields. -/
def isObject : Json → Bool
  | obj _ => true
  | _ => false

/-- A document that can be listed: an array, an object or a text. -/
def isListable : Json → Bool
  | arr _ | obj _ | str _ => true
  | _ => false

/-- An array whose items all pass a test. -/
def isArrayOf (test : Json → Bool) : Json → Bool
  | arr items => items.all test
  | _ => false

/-- An object in which the field counts as absent or passes a test. -/
def isFieldOr (name : String) (test : Json → Bool) (document : Json) : Bool :=
  document.isObject && (document.field? name).all fun value ↦ !value.isPresent || test value

/-- A document in which each step of a path is an object or counts as absent, and so does the end of
the path, or it passes a test. -/
def fits (test : Json → Bool) : List String → Json → Bool
  | [] => test
  | name :: path => isFieldOr name (fits test path)

theorem fits_append (path more : List String) :
    fits test (path ++ more) = fits (fits test more) path := by
  induction path with
  | nil => rfl
  | cons name path ih => exact congrArg (isFieldOr name) ih

/-- A field is read, and what is read in its place when it is absent passes a test that the default
passes. -/
theorem lookup_of_isFieldOr (default : Json) (hdefault : test default = true)
    (h : isFieldOr name test document = true) :
    ∃ value?, document.lookup name = .ok value? ∧ test (presentOr default value?) = true := by
  obtain ⟨hobject, hvalue⟩ := Bool.and_eq_true_iff.mp h
  cases document with
  | obj fields =>
    refine ⟨_, rfl, ?_⟩
    rw [field?] at hvalue
    cases hfound : Table.get? fields name with
    | none => exact hdefault
    | some value =>
      rw [hfound, Option.all_some] at hvalue
      unfold presentOr
      dsimp only
      split
      · next hpresent =>
        rw [hpresent] at hvalue
        exact hvalue
      · exact hdefault
  | _ => cases hobject

/-- A path along which a document fits is followed to its end. -/
theorem descend_of_fits (hempty : test (obj []) = true) :
    ∀ {path : List String} {document : Json}, fits test path document = true →
      ∃ leaf, document.descend path = .ok leaf ∧ test leaf = true
  | [], document, h => ⟨document, rfl, h⟩
  | name :: path, document, h => by
    have hrest : fits test path (obj []) = true := by
      cases path with
      | nil => exact hempty
      | cons other path => rfl
    obtain ⟨value?, hlookup, hvalue⟩ := lookup_of_isFieldOr _ hrest h
    obtain ⟨leaf, hleaf, htest⟩ := descend_of_fits hempty hvalue
    refine ⟨leaf, ?_, htest⟩
    rw [descend, child, hlookup]
    exact hleaf

theorem iterate_of_isListable (h : document.isListable = true) :
    ∃ items, document.iterate = .ok items := by
  cases document with
  | arr items => exact ⟨items, rfl⟩
  | obj fields => exact ⟨_, rfl⟩
  | str text => exact ⟨_, rfl⟩
  | _ => cases h

end Json

namespace Affinity

open Json

variable {label value : String} {expression term workload : Json}

/-- An object whose values can be listed, or are absent. -/
def isExpression : Json → Bool := fits isListable ["values"]

/-- An object with an array of expressions, unless that is absent. -/
def isTerm : Json → Bool := fits (isArrayOf isExpression) ["matchExpressions"]

/-- A workload with an array of terms, unless a step on the way there is absent. -/
def isShaped : Json → Bool := fits (isArrayOf isTerm) (podPath ++ termsPath)

/-- The values of an expression are read. -/
theorem iterate_of_isExpression (h : isExpression expression = true) :
    ∃ values, expressionValues expression = .ok values ∧
      values.iterate = .ok (listed expression) := by
  obtain ⟨value?, hlookup, hvalue⟩ := lookup_of_isFieldOr (arr []) rfl h
  obtain ⟨items, hitems⟩ := iterate_of_isListable hvalue
  have hvalues : expressionValues expression = .ok (presentOr (arr []) value?) := by
    rw [expressionValues, hlookup]
    rfl
  have hlisted : listed expression = items := by
    rw [listed, hvalues]
    simp [Except.bind, hitems, Except.toOption]
  exact ⟨_, hvalues, hitems.trans (congrArg Except.ok hlisted.symm)⟩

theorem isOn_of_isExpression (label : String) (h : isExpression expression = true) :
    isOn label expression = .ok (expression.field? "key" == some (.str label)) := by
  cases expression with
  | obj fields => rfl
  | _ => cases h

/-- A value can be appended to an expression. -/
theorem appendTo_of_isExpression (label value : String) (h : isExpression expression = true) :
    appendTo label value expression = .ok (opened label value expression) := by
  obtain ⟨values, hvalues, hitems⟩ := iterate_of_isExpression h
  unfold appendTo opened
  rw [isOn_of_isExpression label h, ok_bind, hvalues, ok_bind, hitems, ok_bind]
  by_cases hkey : expression.field? "key" = some (.str label)
  · rw [if_pos (beq_iff_eq.mpr hkey), if_pos hkey]
    rfl
  · rw [if_neg (mt beq_iff_eq.mp hkey), if_neg hkey]
    rfl

/-- An expression can be searched. -/
theorem allows_of_isExpression (label value : String) (h : isExpression expression = true) :
    ∃ found, allows label value expression = .ok found := by
  obtain ⟨value?, hlookup, hvalue⟩ := lookup_of_isFieldOr (arr []) rfl h
  unfold allows expressionValues
  rw [isOn_of_isExpression label h, ok_bind, hlookup]
  split
  · change ∃ found, lists (presentOr (arr []) value?) value = .ok found
    cases hkind : presentOr (arr []) value? with
    | arr items => exact ⟨_, rfl⟩
    | obj fields => exact ⟨_, rfl⟩
    | str text => exact ⟨_, rfl⟩
    | _ =>
      rw [hkind] at hvalue
      cases hvalue
  · exact ⟨false, rfl⟩

/-- The expressions of a term are read. -/
theorem termExpressions_of_isTerm (h : isTerm term = true) :
    ∃ expressions, termExpressions term = .ok expressions ∧
      ∀ expression ∈ expressions, isExpression expression = true := by
  obtain ⟨value?, hlookup, hvalue⟩ := lookup_of_isFieldOr (arr []) rfl h
  cases hkind : presentOr (arr []) value? with
  | arr expressions =>
    rw [hkind] at hvalue
    refine ⟨expressions, ?_, List.all_eq_true.mp hvalue⟩
    rw [termExpressions, hlookup, ok_bind, hkind]
    rfl
  | _ =>
    rw [hkind] at hvalue
    cases hvalue

/-- The expressions of a workload of the expected shape are read. -/
theorem matchExpressions_of_isShaped (h : isShaped workload = true) :
    ∃ expressions, matchExpressions workload = .ok expressions ∧
      ∀ expression ∈ expressions, isExpression expression = true := by
  unfold isShaped termsPath at h
  rw [← List.append_assoc, fits_append] at h
  obtain ⟨required, hdescend, hrequired⟩ := descend_of_fits rfl h
  obtain ⟨listed?, hlookup, hlisted⟩ := lookup_of_isFieldOr (arr []) rfl hrequired
  cases hkind : presentOr (arr []) listed? with
  | arr terms =>
    rw [hkind] at hlisted
    obtain ⟨rows, hrows⟩ := exists_forall₂_of_mem fun term hterm ↦
      termExpressions_of_isTerm (List.all_eq_true.mp hlisted term hterm)
    refine ⟨rows.flatten, matchExpressions_eq_ok_iff.mpr ⟨required, listed?, terms, rows, hdescend,
      hlookup, ?_, hrows.imp fun _ _ ↦ And.left, rfl⟩, fun expression hmem ↦ ?_⟩
    · rw [hkind]
      rfl
    · obtain ⟨row, hrow, hin⟩ := List.mem_flatten.mp hmem
      obtain ⟨term, -, -, hread⟩ := exists_of_mem_forall₂ hrows.flip hrow
      exact hread expression hin
  | _ =>
    rw [hkind] at hlisted
    cases hlisted

/-- A row of expressions can be searched. -/
theorem anyExpression_of_isExpression (label value : String) {expressions : List Json}
    (h : ∀ expression ∈ expressions, isExpression expression = true) :
    ∃ found, anyExpression (allows label value) expressions = .ok found := by
  induction expressions with
  | nil => exact ⟨false, rfl⟩
  | cons expression expressions ih =>
    obtain ⟨hfirst, hrest⟩ := List.forall_mem_cons.mp h
    obtain ⟨found, hfound⟩ := allows_of_isExpression label value hfirst
    rw [anyExpression, hfound]
    cases found with
    | true => exact ⟨true, rfl⟩
    | false => exact ih hrest

/-- A workload of the expected shape can be searched. -/
theorem hasValue_of_isShaped (label value : String) (h : isShaped workload = true) :
    ∃ found, hasValue workload label value = .ok found := by
  obtain ⟨expressions, hread, hexpressions⟩ := matchExpressions_of_isShaped h
  rw [hasValue, hread]
  exact anyExpression_of_isExpression label value hexpressions

end Affinity

end AddonUpkeep
