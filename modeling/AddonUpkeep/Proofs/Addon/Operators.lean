import AddonUpkeep.Proofs.Addon.DryRun
import AddonUpkeep.Proofs.Addon.Sending

/-!
# The operators of expressions

An expression with the operator `In` lets those nodes in whose label has one of its values, and one
with `NotIn` keeps them out.  An update looks at the labels and the values of expressions only.  So
it opens a workload for arm64 when the expressions on the label are with `In`, and with `NotIn`
among them it may close the workload, or take one that is closed for open.
-/

namespace AddonUpkeep

namespace Affinity

/-- The expression is on the label, with the operator. -/
def Compares (label operator : String) (expression : Json) : Prop :=
  expression.field? "key" = some (.str label) ∧ expression.field? "operator" = some (.str operator)

/-- Some of the expressions is on the label and lists arm64, with whatever operator. -/
def SomeLists (label : String) (expressions : List Json) : Prop :=
  ∃ expression ∈ expressions, allows label arm64 expression = .ok true

/-- Expressions keep arm64 out only where those in front of them did. -/
def ExcludesNoMore (label : String) : List Json → List Json → Prop :=
  List.Forall₂ fun old new ↦ Compares label "NotIn" new → allows label arm64 new = .ok true →
    allows label arm64 old = .ok true

/-- If expressions let some nodes in by the label, one of them lets arm64 in. -/
def Admits (label : String) (expressions : List Json) : Prop :=
  (∃ expression ∈ expressions, Compares label "In" expression) →
    ∃ expression ∈ expressions, Compares label "In" expression ∧
      allows label arm64 expression = .ok true

end Affinity

namespace KubeProxy

open AddonUpkeep.Affinity AddonUpkeep.Workload

variable {σ : Type} {label operator version : String} {allowed : Bool} {old new fetched : Json}
  {expressions changed : List Json}

theorem Opens.field?_of_ne {name : String} (h : Opens label allowed old new)
    (hne : name ≠ "values") : new.field? name = old.field? name := by
  unfold Opens at h
  split at h
  · obtain ⟨-, items, -, rfl⟩ := h
    exact Json.field?_setField_of_ne old _ hne
  · rw [h]

theorem Opens.compares_iff (h : Opens label allowed old new) :
    Compares label operator new ↔ Compares label operator old := by
  unfold Compares
  rw [h.field?_of_ne (by decide), h.field?_of_ne (by decide)]

/-- An expression on the label lists arm64 once it was opened. -/
theorem Opens.allows_of_key (h : Opens label false old new)
    (hkey : new.field? "key" = some (.str label)) : allows label arm64 new = .ok true := by
  have hold : old.field? "key" = some (.str label) := by rw [← hkey, h.field?_of_ne (by decide)]
  rw [Opens, if_pos ⟨rfl, hold⟩] at h
  exact (allows_of_appended hold h.2).2

theorem eq_of_opens_true (h : List.Forall₂ (Opens label true) expressions changed) :
    changed = expressions := by
  have hsame : List.Forall₂ Eq expressions changed := h.imp fun old new hopens ↦ by
    simpa [Opens] using Eq.symm hopens
  rw [List.forall₂_eq_eq_eq] at hsame
  exact hsame.symm

/-- When no expression lists arm64, opening them keeps it out by those with `NotIn`. -/
theorem excludesNoMore_of_opens_iff (h : List.Forall₂ (Opens label false) expressions changed)
    (hnone : ¬ SomeLists label expressions) :
    ExcludesNoMore label expressions changed ↔
      ¬ ∃ expression ∈ expressions, Compares label "NotIn" expression := by
  have hmissing : ∀ expression ∈ expressions, allows label arm64 expression ≠ .ok true :=
    fun expression hmem hlists ↦ hnone ⟨expression, hmem, hlists⟩
  have hboth := (List.forall₂_and_left expressions changed).mpr ⟨hmissing, h⟩
  have hstep (old new : Json)
      (hpair : allows label arm64 old ≠ .ok true ∧ Opens label false old new) :
      (Compares label "NotIn" new → allows label arm64 new = .ok true →
        allows label arm64 old = .ok true) ↔ ¬ Compares label "NotIn" old := by
    obtain ⟨hold, hopens⟩ := hpair
    rw [hopens.compares_iff]
    constructor
    · intro hnew hcompares
      have hkey := (hopens.compares_iff.mpr hcompares).1
      exact hold (hnew hcompares (hopens.allows_of_key hkey))
    · exact fun hnot hcompares ↦ absurd hcompares hnot
  rw [ExcludesNoMore, forall₂_iff_forall_mem hboth hstep]
  simp only [not_exists, not_and]

/-- Opening expressions of which none lists arm64 lets it in by those with `In`. -/
theorem admits_of_opens (h : List.Forall₂ (Opens label false) expressions changed) :
    Admits label changed := by
  rintro ⟨new, hmem, hcompares⟩
  obtain ⟨old, -, hopens⟩ := exists_of_mem_forall₂ h.flip hmem
  have hopens : Opens label false old new := hopens
  exact ⟨new, hmem, hcompares, hopens.allows_of_key hcompares.1⟩

/-- An update in earnest that ends well has sent what it made of the DaemonSet, or had nothing to
send. -/
theorem assess_of_ends {proxy : KubeProxy} {cluster : Cluster σ} {session : Session σ}
    {outcome : Outcome}
    (hread : ((cluster.fetch proxy.name proxy.scope).runOn session).1 = .ok fetched)
    (hends : ((proxy.apply cluster version false).runOn session).1 = .ok outcome) :
    ∃ host, (proxy.assess host version fetched = .ok none ∧ outcome = .noChangeNeeded ∧
        proxy.sends cluster version false session = []) ∨
      ∃ updated, proxy.assess host version fetched = .ok (some updated) ∧ outcome = .applied ∧
        proxy.sends cluster version false session = [updated] := by
  obtain ⟨found, sent, hrun⟩ := runOn_apply proxy cluster version false session
  rw [hrun] at hends
  rw [sends_eq rfl]
  generalize (cluster.fetch proxy.name proxy.scope).runOn session = read at hread hends ⊢
  obtain ⟨reading, after⟩ := read
  obtain rfl : reading = .ok fetched := hread
  refine ⟨after.host, ?_⟩
  dsimp only at hends ⊢
  rw [proposal_ok] at hends ⊢
  cases hassess : proxy.assess after.host version fetched with
  | error fault =>
    rw [hassess] at hends
    cases hends
  | ok assessment =>
    rw [hassess] at hends
    cases assessment with
    | none => exact .inl ⟨rfl, (Except.ok.inj hends).symm, rfl⟩
    | some updated =>
      cases hhinders : hindrance after.host version (.ok fetched) with
      | some fault =>
        rw [hhinders] at hends
        cases hends
      | none =>
        refine .inr ⟨updated, rfl, ?_, rfl⟩
        rw [hhinders] at hends
        unfold carriesOut at hends
        simp only [Bool.false_eq_true, if_false] at hends
        revert hends
        generalize (cluster.replace updated).runOn _ = ended
        rcases ended with ⟨answer, last⟩
        cases answer with
        | error fault => exact fun hends ↦ by cases hends
        | ok answer => exact fun hends ↦ (Except.ok.inj hends).symm

/-- The expressions that an update leaves are those that it found, opened unless arm64 is listed. -/
theorem opens_of_ends {proxy : KubeProxy} {cluster : Cluster σ} {session : Session σ}
    {outcome : Outcome}
    (hread : ((cluster.fetch proxy.name proxy.scope).runOn session).1 = .ok fetched)
    (hends : ((proxy.apply cluster version false).runOn session).1 = .ok outcome) :
    ∃ label allowed before after resulting,
      archLabelFor version = .ok label ∧
      (outcome = .noChangeNeeded ∧ proxy.sends cluster version false session = [] ∧
          resulting = fetched ∨
        outcome = .applied ∧ proxy.sends cluster version false session = [resulting]) ∧
      matchExpressions fetched = .ok before ∧ matchExpressions resulting = .ok after ∧
      (allowed = true ↔ SomeLists label before) ∧
      List.Forall₂ (Opens label allowed) before after := by
  obtain ⟨host, ⟨hassess, houtcome, hsends⟩ | ⟨updated, hassess, houtcome, hsends⟩⟩ :=
    assess_of_ends hread hends
  · obtain ⟨-, -, label, allowed, image, hlabel, hvalue, -, hmade⟩ := assess_eq_ok hassess
    obtain ⟨before, hbefore, hlists⟩ := hasValue_iff hvalue
    have hallowed : allowed = true := by
      rcases hmade with ⟨-, -, hallowed⟩ | ⟨updated, hsome, -⟩
      · exact hallowed
      · cases hsome
    have hstays : List.Forall₂ (Opens label allowed) before before := by
      rw [List.forall₂_same, hallowed]
      exact fun expression _ ↦ by simp [Opens]
    exact ⟨label, allowed, before, before, fetched, hlabel, .inl ⟨houtcome, hsends, rfl⟩, hbefore,
      hbefore, hlists, hstays⟩
  · obtain ⟨-, -, label, allowed, image, hlabel, hvalue, -, hmade⟩ := assess_eq_ok hassess
    obtain ⟨before, hbefore, hlists⟩ := hasValue_iff hvalue
    rcases hmade with ⟨hnone, -⟩ | ⟨updated', hsome, -, halike⟩
    · cases hnone
    · cases hsome
      obtain ⟨after, hafter, hopens⟩ := matchExpressions_of_alike hbefore halike
      exact ⟨label, allowed, before, after, updated, hlabel, .inr ⟨houtcome, hsends⟩, hbefore,
        hafter, hlists, hopens⟩

/-- An update leaves the labels and the operators of all expressions.  It keeps arm64 out by no
further expression exactly when none with `NotIn` is on the label or arm64 was listed before, so
that nothing is opened.  Arm64 is let in behind it exactly when it was in front, or nothing listed
it there.  This holds of what is sent, and of what is found when nothing has to be sent. -/
theorem apply_by_operators (proxy : KubeProxy) (cluster : Cluster σ) (version : String)
    (session : Session σ) {fetched : Json} {outcome : Outcome}
    (hread : ((cluster.fetch proxy.name proxy.scope).runOn session).1 = .ok fetched)
    (hends : ((proxy.apply cluster version false).runOn session).1 = .ok outcome) :
    ∃ label before after resulting,
      archLabelFor version = .ok label ∧
      (outcome = .noChangeNeeded ∧ proxy.sends cluster version false session = [] ∧
          resulting = fetched ∨
        outcome = .applied ∧ proxy.sends cluster version false session = [resulting]) ∧
      matchExpressions fetched = .ok before ∧ matchExpressions resulting = .ok after ∧
      List.Forall₂ (fun old new ↦ new.field? "key" = old.field? "key" ∧
        new.field? "operator" = old.field? "operator") before after ∧
      (ExcludesNoMore label before after ↔
        ((∃ expression ∈ before, Compares label "NotIn" expression) → SomeLists label before)) ∧
      (Admits label after ↔ (SomeLists label before → Admits label before)) := by
  obtain ⟨label, allowed, before, after, resulting, hlabel, hsent, hbefore, hafter, hlists,
    hopens⟩ := opens_of_ends hread hends
  refine ⟨label, before, after, resulting, hlabel, hsent, hbefore, hafter, ?_, ?_⟩
  · exact hopens.imp fun _ _ h ↦ ⟨h.field?_of_ne (by decide), h.field?_of_ne (by decide)⟩
  cases allowed with
  | true =>
    have hlisted : SomeLists label before := hlists.mp rfl
    rw [eq_of_opens_true hopens]
    have hstays : ExcludesNoMore label before before := List.forall₂_same.mpr fun _ _ _ h ↦ h
    exact ⟨iff_of_true hstays fun _ ↦ hlisted, fun h _ ↦ h, fun h ↦ h hlisted⟩
  | false =>
    have hnone : ¬ SomeLists label before := fun h ↦ Bool.false_ne_true (hlists.mpr h)
    rw [excludesNoMore_of_opens_iff hopens hnone]
    exact ⟨⟨fun hno hsome ↦ absurd hsome hno, fun h hsome ↦ hnone (h hsome)⟩,
      iff_of_true (admits_of_opens hopens) fun h ↦ absurd h hnone⟩

/-- A DaemonSet with the rows of required expressions, one row for each term, and with an image that
runs the tag. -/
def workloadSelecting (rows : List (List Json)) (tag : String) : Json :=
  let terms := rows.map fun row ↦ Json.obj [("matchExpressions", .arr row)]
  let affinity := Json.obj [("nodeAffinity", .obj
    [("requiredDuringSchedulingIgnoredDuringExecution", .obj [("nodeSelectorTerms", .arr terms)])])]
  .obj [("metadata", .obj [("name", .str "kube-proxy"), ("namespace", .str "kube-system")]),
    ("spec", .obj [("template", .obj [("spec", .obj [("affinity", affinity),
      ("containers", .arr [.obj [("image", .str s!"registry:{tag}")]])])])])]

/-- An expression on the settled architecture label. -/
def archExpression (operator : String) (values : List String) : Json :=
  .obj [("key", .str archLabel), ("operator", .str operator), ("values", .arr (values.map .str))]

/-- One term lets nodes in, the other keeps nodes out, and neither lists arm64.  Opening both lets
arm64 in by the first and keeps it out by the second. -/
theorem apply_by_operators_of_two_terms :
    let proxy := KubeProxy.ofSettings []
    let rows := [[archExpression "In" ["amd64"]], [archExpression "NotIn" ["s390x"]]]
    let session : Session Memory :=
      { cluster := Memory.ofList [workloadSelecting rows "v1.26-eksbuild.1"] }
    ((Memory.cluster.fetch proxy.name proxy.scope).runOn session).1 =
        .ok (workloadSelecting rows "v1.26-eksbuild.1") ∧
      ((proxy.apply Memory.cluster "1.27" false).runOn session).1 = .ok .applied ∧
      ∃ after resulting, proxy.sends Memory.cluster "1.27" false session = [resulting] ∧
        matchExpressions resulting = .ok after ∧ Admits archLabel after ∧
        ¬ ExcludesNoMore archLabel rows.flatten after := by
  intro proxy rows session
  have hread : ((Memory.cluster.fetch proxy.name proxy.scope).runOn session).1 =
      .ok (workloadSelecting rows "v1.26-eksbuild.1") := toOption_eq_some_iff.mp (by decide +kernel)
  have hends : ((proxy.apply Memory.cluster "1.27" false).runOn session).1 = .ok .applied :=
    toOption_eq_some_iff.mp (by decide +kernel)
  obtain ⟨label, before, after, resulting, hlabel, hsent, hbefore, hafter, -, hexcludes, hadmits⟩ :=
    apply_by_operators proxy Memory.cluster "1.27" session hread hends
  obtain rfl : label = archLabel :=
    Except.ok.inj (hlabel.symm.trans (toOption_eq_some_iff.mp (by decide +kernel)))
  obtain rfl : before = rows.flatten :=
    Except.ok.inj (hbefore.symm.trans (toOption_eq_some_iff.mp (by decide +kernel)))
  have hnone : ¬ SomeLists archLabel rows.flatten := by
    unfold SomeLists
    simp only [← toOption_eq_some_iff]
    decide +kernel
  have hnotIn : ∃ expression ∈ rows.flatten, Compares archLabel "NotIn" expression :=
    ⟨archExpression "NotIn" ["s390x"], by decide +kernel, rfl, rfl⟩
  rcases hsent with ⟨hunchanged, -⟩ | ⟨-, hsends⟩
  · cases hunchanged
  · exact ⟨hread, hends, after, resulting, hsends, hafter, hadmits.mpr fun h ↦ absurd h hnone,
      fun h ↦ hnone (hexcludes.mp h hnotIn)⟩

/-- Where nodes of one architecture are kept out, an update keeps those of arm64 out as well.  And
where arm64 is kept out beside nodes of another architecture that are let in, it is taken for
allowed, and nothing is sent. -/
theorem apply_closes_for_arm64 :
    let proxy := KubeProxy.ofSettings []
    let workload (row : List Json) := workloadSelecting [row]
    let session (daemonSet : Json) : Session Memory := { cluster := Memory.ofList [daemonSet] }
    let update (daemonSet : Json) :=
      ((proxy.apply Memory.cluster "1.27" false).runOn (session daemonSet)).1
    let sends (daemonSet : Json) := proxy.sends Memory.cluster "1.27" false (session daemonSet)
    let without := archExpression "NotIn" ["amd64"]
    let closed := archExpression "NotIn" ["amd64", "arm64"]
    let mixed := [archExpression "In" ["amd64"], archExpression "NotIn" ["arm64"]]
    archLabelFor "1.27" = .ok archLabel ∧
      update (workload [without] "v1.26-eksbuild.1") = .ok .applied ∧
      sends (workload [without] "v1.26-eksbuild.1") = [workload [closed] "v1.27-eksbuild.1"] ∧
      ¬ ExcludesNoMore archLabel [without] [closed] ∧
      update (workload mixed "v1.27-eksbuild.1") = .ok .noChangeNeeded ∧
      sends (workload mixed "v1.27-eksbuild.1") = [] ∧ ¬ Admits archLabel mixed := by
  intro proxy workload session update sends without closed mixed
  have hcloses : ¬ ExcludesNoMore archLabel [without] [closed] := by
    unfold ExcludesNoMore Compares
    simp only [List.forall₂_cons, List.Forall₂.nil, and_true, ← toOption_eq_some_iff]
    decide +kernel
  have hadmits : ¬ Admits archLabel mixed := by
    unfold Admits Compares
    simp only [← toOption_eq_some_iff]
    decide +kernel
  refine ⟨?_, ?_, by decide +kernel, hcloses, ?_, by decide +kernel, hadmits⟩
  · exact toOption_eq_some_iff.mp (by decide +kernel)
  · exact toOption_eq_some_iff.mp (by decide +kernel)
  · exact toOption_eq_some_iff.mp (by decide +kernel)

end KubeProxy

end AddonUpkeep
