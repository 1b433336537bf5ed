import AddonUpkeep.Proofs.Workload.Renewal

/-!
# Opening a workload once more

An update that opened a workload is found by the next one.  Where some expression is on the label,
it lists arm64 from then on, so nothing is appended again; where none is, there was nothing to
append to.  Either way two openings come to one, and a change that follows a known pattern has one
result.
-/

namespace AddonUpkeep

namespace Affinity

/-- An expression lists what was appended to it. -/
theorem allows_of_appended {label value : String} {expression changed : Json}
    (hkey : expression.field? "key" = some (.str label))
    (h : Appended value expression changed) :
    changed.field? "key" = some (.str label) ∧ allows label value changed = .ok true := by
  obtain ⟨items, -, rfl⟩ := h
  have hstays : (expression.setField "values" (.arr (items ++ [.str value]))).field? "key" =
      some (.str label) := by
    rw [Json.field?_setField_of_ne expression _ (by decide), hkey]
  have hon : isOn label (expression.setField "values" (.arr (items ++ [.str value]))) =
      .ok true := by
    unfold isOn
    rw [Json.lookup_of_field? hstays, ok_bind]
    exact congrArg Except.ok (beq_self_eq_true _)
  have hvalues : (expression.setField "values" (.arr (items ++ [.str value]))).lookup "values" =
      .ok (some (.arr (items ++ [.str value]))) := by
    cases expression with
    | obj fields => exact Json.lookup_of_field? (Json.field?_setField_self fields "values" _)
    | _ => simp [Json.field?] at hkey
  have hpresent : Json.presentOr (.arr []) (some (.arr (items ++ [.str value]))) =
      .arr (items ++ [.str value]) := by
    cases items <;> rfl
  have hlists : lists (.arr (items ++ [.str value])) value = .ok true := by
    simp [lists]
  refine ⟨hstays, ?_⟩
  unfold allows expressionValues
  rw [hon, hvalues, ok_bind, if_pos rfl, ok_bind, hpresent]
  exact hlists

/-- Some required expression of a workload is on a label. -/
def Selects (label : String) (workload : Json) : Prop :=
  ∃ expressions, matchExpressions workload = .ok expressions ∧
    ∃ expression ∈ expressions, expression.field? "key" = some (.str label)

theorem key_of_allows {label value : String} {expression : Json}
    (h : allows label value expression = .ok true) :
    expression.field? "key" = some (.str label) := by
  obtain ⟨on, hon, hrest⟩ := bind_eq_ok_iff.mp h
  cases on with
  | true => exact of_decide_eq_true (isOn_eq_ok hon).symm
  | false => cases hrest

end Affinity

namespace Workload

open AddonUpkeep.Affinity AddonUpkeep.Json

variable {image expression : Json → Json → Prop} {before after : Json}

theorem PodsAlike.isPresent_eq (h : PodsAlike image expression before after) :
    after.isPresent = before.isPresent := by
  obtain ⟨middle, hcontainers, hterms⟩ := h
  rw [← hcontainers.isPresent_eq]
  exact InField.isPresent_eq hterms

theorem keepsAbsent_podsAlike : KeepsAbsent (PodsAlike image expression) := by
  intro pod h
  exact ⟨pod, keepsAbsent_inField pod h, keepsAbsent_inField pod h⟩

/-- The image that a change writes is the image behind it. -/
theorem Alike.hasImage {reference old new : String}
    (h : Alike (fun held written ↦ held = .str old ∧ written = .str new) expression before after)
    (hbefore : HasImage before reference) : HasImage after new := by
  obtain ⟨pod, container, containers, hpod, hlisted, himage⟩ := hbefore
  obtain ⟨pod', hpod', middle, hcontainers, hterms⟩ :=
    InPath.descend_ok (fun _ _ ↦ PodsAlike.isPresent_eq) keepsAbsent_podsAlike h hpod
  obtain ⟨listed, hfirst, rfl⟩ := (inField_iff_of_some hlisted).mp hcontainers
  obtain ⟨container', hcontainer, rfl⟩ := hfirst
  obtain ⟨written, ⟨-, rfl⟩, rfl⟩ := (inField_iff_of_some himage).mp hcontainer
  refine ⟨pod', _, containers, hpod', ?_, field?_setField _ himage⟩
  -- the expressions stand in another field
  rw [InField.field?_of_ne hterms (by decide : "containers" ≠ "affinity")]
  exact field?_setField _ hlisted

/-- A change whose parts leave no choice leaves none. -/
theorem rightUnique_alike (himage : Relator.RightUnique image)
    (hexpression : Relator.RightUnique expression) :
    Relator.RightUnique (Alike image expression) := by
  apply rightUnique_inPath
  rintro before first second ⟨middle, hcontainers, hterms⟩ ⟨middle', hcontainers', hterms'⟩
  obtain rfl : middle = middle' :=
    rightUnique_inField (rightUnique_inFirst (rightUnique_inField himage)) hcontainers hcontainers'
  have hexpressions : Relator.RightUnique (InExpressions expression) :=
    rightUnique_inItems (rightUnique_inField (rightUnique_inItems hexpression))
  exact rightUnique_inPath hexpressions termsPath hterms hterms'

end Workload

namespace KubeProxy

open AddonUpkeep.Affinity AddonUpkeep.Json AddonUpkeep.Workload

variable {label : String} {allowed still : Bool}

theorem rightUnique_opens : Relator.RightUnique (Opens label allowed) := by
  intro old first second hfirst hsecond
  unfold Opens at hfirst hsecond
  split at hfirst
  · next hon =>
    rw [if_pos hon] at hsecond
    obtain ⟨-, items, hitems, rfl⟩ := hfirst
    obtain ⟨-, items', hitems', rfl⟩ := hsecond
    rw [hitems] at hitems'
    rw [Except.ok.inj hitems']
  · next hoff =>
    rw [if_neg hoff] at hsecond
    rw [hfirst, hsecond]

/-- An expression that was opened lists arm64 and is left by the next opening; one that was not is
left by both. -/
theorem Opens.comp {first middle last : Json} (hab : Opens label allowed first middle)
    (hbc : Opens label still middle last) (hstill : allowed = true → still = true) :
    Opens label allowed first last := by
  have hsame : last = middle := by
    unfold Opens at hab hbc
    split at hbc
    · next hon' =>
      exfalso
      split at hab
      · next hon =>
        obtain ⟨-, hlists⟩ := allows_of_appended hon.2 hab.2
        rw [hbc.1] at hlists
        cases hlists
      · next hoff =>
        rw [hab] at hon'
        cases allowed with
        | true => exact Bool.false_ne_true (hon'.1.symm.trans (hstill rfl))
        | false => exact hoff ⟨rfl, hon'.2⟩
    · exact hbc
  rw [hsame]
  exact hab

/-- Once expressions that do not list arm64 were opened, some lists it when some is on the label. -/
theorem anyExpression_of_opens {expressions changed : List Json}
    (h : List.Forall₂ (Opens label false) expressions changed)
    (hmissing : ∀ expression ∈ expressions, allows label arm64 expression = .ok false) :
    anyExpression (allows label arm64) changed =
      .ok (expressions.any fun expression ↦ expression.field? "key" == some (.str label)) := by
  induction h with
  | nil => rfl
  | @cons old new expressions changed hopens _ ih =>
    have hrest := ih fun expression hmem ↦ hmissing expression (List.mem_cons_of_mem _ hmem)
    unfold anyExpression
    rw [List.any_cons]
    by_cases hkey : old.field? "key" = some (.str label)
    · rw [Opens, if_pos ⟨rfl, hkey⟩] at hopens
      obtain ⟨-, hlists⟩ := allows_of_appended hkey hopens.2
      rw [hlists, hkey, beq_self_eq_true]
      rfl
    · rw [Opens, if_neg fun hon ↦ hkey hon.2] at hopens
      rw [hopens, hmissing old List.mem_cons_self, hrest, beq_false_of_ne hkey]
      rfl

/-- The expressions of a DaemonSet can be read behind an update, each as the update leaves it. -/
theorem matchExpressions_of_alike {image : Json → Json → Prop} {before after : Json}
    {expressions : List Json} (hread : matchExpressions before = .ok expressions)
    (h : Alike image (Opens label allowed) before after) :
    ∃ changed, matchExpressions after = .ok changed ∧
      List.Forall₂ (Opens label allowed) expressions changed := by
  obtain ⟨middle, hcontainers, hterms⟩ := InPath.split h
  rw [← inPath_append] at hterms
  have htexts : ∀ text, Opens label allowed (.str text) (.str text) := by
    intro text
    rw [Opens, if_neg]
    rintro ⟨-, hkey⟩
    cases hkey
  have hmiddle : matchExpressions middle = .ok expressions :=
    (matchExpressions_of_image hcontainers).trans hread
  exact matchExpressions_of_inPath hterms htexts hmiddle

/-- Behind an update arm64 is listed when some expression is on the label, and only then. -/
theorem hasValue_of_alike {image : Json → Json → Prop} {before after : Json}
    (hvalue : hasValue before label arm64 = .ok allowed)
    (h : Alike image (Opens label allowed) before after) :
    ∃ still, hasValue after label arm64 = .ok still ∧ (allowed = true → still = true) ∧
      (still = true ↔ Selects label before) := by
  obtain ⟨expressions, hread, hany⟩ := hasValue_eq_ok hvalue
  obtain ⟨changed, hchanged, hopens⟩ := matchExpressions_of_alike hread h
  have hafter : hasValue after label arm64 = anyExpression (allows label arm64) changed := by
    unfold hasValue
    rw [hchanged]
    rfl
  have hselects : Selects label before ↔
      ∃ expression ∈ expressions, expression.field? "key" = some (.str label) := by
    constructor
    · rintro ⟨expressions', hread', hon⟩
      rw [hread] at hread'
      rw [Except.ok.inj hread']
      exact hon
    · exact fun hon ↦ ⟨expressions, hread, hon⟩
  rw [hafter, hselects]
  cases allowed with
  | true =>
    have hsame : expressions = changed := by
      rw [← List.forall₂_eq_eq_eq (α := Json)]
      exact hopens.imp fun old new hnew ↦ by simpa [Opens] using Eq.symm hnew
    rw [← hsame]
    refine ⟨true, hany, id, iff_of_true rfl ?_⟩
    obtain ⟨expression, hmem, hallows⟩ := anyExpression_eq_true hany
    exact ⟨expression, hmem, key_of_allows hallows⟩
  | false =>
    refine ⟨_, anyExpression_of_opens hopens (anyExpression_eq_false hany), by simp, ?_⟩
    simp

end KubeProxy

end AddonUpkeep
