import AddonUpkeep.Addon.KubeProxy
import AddonUpkeep.Proofs.Workload.Affinity
import AddonUpkeep.Proofs.Workload.Image

/-!
# What an update changes in a DaemonSet

The update writes the image of the first container and the values of expressions on one label.  Once
the image and the expressions could be read, both changes succeed, and everything else stays.
-/

namespace AddonUpkeep

open AddonUpkeep.Json

namespace Affinity

variable {label value : String}

/-- The values of an expression as an array would list them, none when they are absent. -/
def listed (expression : Json) : List Json :=
  ((expressionValues expression).bind Json.iterate).toOption.getD []

/-- The expression with a value behind its values, when it is on the label. -/
def opened (label value : String) (expression : Json) : Json :=
  if expression.field? "key" = some (.str label) then
    expression.setField "values" (.arr (listed expression ++ [.str value]))
  else expression

/-- The values of an expression, or an empty list when they are absent, with one more behind
them. -/
def Appended (value : String) (before after : Json) : Prop :=
  ∃ items, (presentOr (.arr []) (before.field? "values")).iterate = .ok items ∧
    after = before.setField "values" (.arr (items ++ [.str value]))

theorem isOn_eq_ok {expression : Json} {on : Bool} (h : isOn label expression = .ok on) :
    on = decide (expression.field? "key" = some (.str label)) := by
  obtain ⟨key?, hkey, hon⟩ := bind_eq_ok_iff.mp h
  rw [lookup_eq_ok hkey, ← Except.ok.inj hon]
  exact beq_eq_decide _ _

/-- Values that can be searched can be listed. -/
theorem iterate_of_lists {values : Json} {found : Bool} (h : lists values value = .ok found) :
    ∃ items, values.iterate = .ok items := by
  cases values with
  | arr items => exact ⟨items, rfl⟩
  | obj fields => exact ⟨_, rfl⟩
  | str text => exact ⟨_, rfl⟩
  | _ => simp [lists] at h

/-- The values of an expression on the label that was found not to list the value. -/
theorem appended_of_allows_false {expression : Json}
    (hkey : expression.field? "key" = some (.str label))
    (h : allows label value expression = .ok false) :
    Appended value expression (opened label value expression) := by
  obtain ⟨on, hon, hrest⟩ := bind_eq_ok_iff.mp h
  have hdecide := isOn_eq_ok hon
  rw [hkey, decide_eq_true rfl] at hdecide
  subst hdecide
  obtain ⟨values, hvalues, hlists⟩ := bind_eq_ok_iff.mp hrest
  obtain ⟨items, hitems⟩ := iterate_of_lists hlists
  have hlisted : listed expression = items := by
    simp [listed, hvalues, hitems, Except.bind, Except.toOption]
  obtain ⟨value?, hlookup, hpresent⟩ := bind_eq_ok_iff.mp hvalues
  refine ⟨items, ?_, ?_⟩
  · rw [lookup_eq_ok hlookup, Except.ok.inj hpresent]
    exact hitems
  · rw [opened, if_pos hkey, hlisted]

/-- An expression that was found not to list the value can take it. -/
theorem appendTo_of_allows_false {expression : Json}
    (h : allows label value expression = .ok false) :
    appendTo label value expression = .ok (opened label value expression) := by
  obtain ⟨on, hon, hrest⟩ := bind_eq_ok_iff.mp h
  have hdecide := isOn_eq_ok hon
  unfold appendTo opened
  cases on with
  | false =>
    have hkey : ¬ expression.field? "key" = some (.str label) := of_decide_eq_false hdecide.symm
    simp [hon, hkey, bind, Except.bind, pure, Except.pure]
  | true =>
    have hkey : expression.field? "key" = some (.str label) := of_decide_eq_true hdecide.symm
    obtain ⟨values, hvalues, hlists⟩ := bind_eq_ok_iff.mp hrest
    obtain ⟨items, hitems⟩ := iterate_of_lists hlists
    have hlisted : listed expression = items := by
      simp [listed, hvalues, hitems, Except.bind, Except.toOption]
    simp [hon, hkey, hvalues, hitems, hlisted, bind, Except.bind, pure, Except.pure]

theorem anyExpression_eq_false {test : Json → Except ShapeProblem Bool} {expressions : List Json}
    (h : anyExpression test expressions = .ok false) :
    ∀ expression ∈ expressions, test expression = .ok false := by
  induction expressions with
  | nil => simp
  | cons expression rest ih =>
    obtain ⟨found, hfound, hrest⟩ := bind_eq_ok_iff.mp h
    cases found with
    | true => cases hrest
    | false =>
      intro other hother
      rcases List.mem_cons.mp hother with rfl | hlater
      · exact hfound
      · exact ih hrest other hlater

theorem anyExpression_eq_true {test : Json → Except ShapeProblem Bool} {expressions : List Json}
    (h : anyExpression test expressions = .ok true) :
    ∃ expression ∈ expressions, test expression = .ok true := by
  induction expressions with
  | nil => cases h
  | cons expression rest ih =>
    obtain ⟨found, hfound, hrest⟩ := bind_eq_ok_iff.mp h
    cases found with
    | true => exact ⟨expression, List.mem_cons_self, hfound⟩
    | false =>
      obtain ⟨other, hother, htest⟩ := ih hrest
      exact ⟨other, List.mem_cons_of_mem _ hother, htest⟩

/-- A search that was made has read all expressions. -/
theorem hasValue_eq_ok {workload : Json} {found : Bool}
    (h : hasValue workload label value = .ok found) :
    ∃ expressions, matchExpressions workload = .ok expressions ∧
      anyExpression (allows label value) expressions = .ok found :=
  bind_eq_ok_iff.mp h

/-- A value that can be appended to every expression is appended to the workload, and only
expressions change. -/
theorem withValue_of_appendTo {workload : Json} {expressions : List Json}
    {R : Json → Json → Prop} (hread : matchExpressions workload = .ok expressions)
    (h : ∀ expression ∈ expressions,
      appendTo label value expression = .ok (opened label value expression) ∧
        R expression (opened label value expression)) :
    ∃ changed, withValue workload label value = .ok changed ∧
      InPath (podPath ++ termsPath) (InExpressions R) workload changed := by
  obtain ⟨changed, hchanged, hwithin⟩ : ∃ changed,
      changeExpressions (appendTo label value) workload = .ok changed ∧
        InPath (podPath ++ termsPath) (InExpressions R) workload changed :=
    changeExpressions_ok hread fun expression hmem ↦ ⟨_, h expression hmem⟩
  refine ⟨changed, ?_, hwithin⟩
  have hall : expressions.mapM (appendTo label value) =
      .ok (expressions.map (opened label value)) := by
    rw [mapM_eq_ok_iff, List.forall₂_map_right_iff, List.forall₂_same]
    exact fun expression hmem ↦ (h expression hmem).1
  rw [withValue, hread, ok_bind, hall, ok_bind]
  exact hchanged

/-- A value that was found to be missing can be appended, and only expressions change. -/
theorem withValue_of_hasValue_false {workload : Json}
    (h : hasValue workload label value = .ok false) :
    ∃ changed, withValue workload label value = .ok changed ∧
      InPath (podPath ++ termsPath) (InExpressions fun old new ↦
        allows label value old = .ok false ∧ new = opened label value old) workload changed := by
  obtain ⟨expressions, hread, hany⟩ := hasValue_eq_ok h
  refine withValue_of_appendTo hread fun expression hmem ↦ ?_
  have hmissing := anyExpression_eq_false hany expression hmem
  exact ⟨appendTo_of_allows_false hmissing, hmissing, rfl⟩

end Affinity

namespace Workload

open AddonUpkeep.Affinity

variable {image expression : Json → Json → Prop}

/-- The first container of the pods has a text as its image. -/
def HasImage (daemonSet : Json) (reference : String) : Prop :=
  ∃ pod container containers, daemonSet.descend podPath = .ok pod ∧
    pod.field? "containers" = some (.arr (container :: containers)) ∧
    container.field? "image" = some (.str reference)

/-- Two specifications of pods that are equal but for the image of the first container and the
required expressions, which are related as given. -/
def PodsAlike (image expression : Json → Json → Prop) (before after : Json) : Prop :=
  ∃ middle, InField "containers" (InFirst (InField "image" image)) before middle ∧
    InPath termsPath (InExpressions expression) middle after

/-- Two DaemonSets that are equal but for the image of the first container and the required
expressions, which are related as given. -/
def Alike (image expression : Json → Json → Prop) : Json → Json → Prop :=
  InPath podPath (PodsAlike image expression)

theorem Alike.refl (himage : ∀ value, image value value)
    (hexpression : ∀ value, expression value value) (daemonSet : Json) :
    Alike image expression daemonSet daemonSet :=
  InPath.refl (fun pod ↦ ⟨pod, InField.refl (InFirst.refl (InField.refl himage)) pod,
    InPath.refl (InItems.refl (InField.refl (InItems.refl hexpression))) termsPath pod⟩) podPath
    daemonSet

theorem Alike.mono {image' expression' : Json → Json → Prop} {before after : Json}
    (h : Alike image expression before after) (himage : ∀ a b, image a b → image' a b)
    (hexpression : ∀ a b, expression a b → expression' a b) :
    Alike image' expression' before after := by
  refine InPath.mono h fun _ _ ⟨middle, hcontainers, hterms⟩ ↦ ⟨middle, ?_, ?_⟩
  · exact hcontainers.mono fun _ _ hfirst ↦ hfirst.mono fun _ _ hfield ↦ hfield.mono himage
  · exact hterms.mono fun _ _ hitems ↦ InItems.mono hitems fun _ _ hterm ↦
      hterm.mono fun _ _ hrow ↦ hrow.mono hexpression

/-- Changes one after the other are one change, related by both relations in turn. -/
theorem Alike.comp {image' expression' image'' expression'' : Json → Json → Prop}
    {before middle after : Json} (hab : Alike image expression before middle)
    (hbc : Alike image' expression' middle after)
    (himage : ∀ a b c, image a b → image' b c → image'' a c)
    (hexpression : ∀ a b c, expression a b → expression' b c → expression'' a c) :
    Alike image'' expression'' before after := by
  refine InPath.comp hab hbc fun a b c hfirst hsecond ↦ ?_
  obtain ⟨first, hcontainers, hterms⟩ := hfirst
  obtain ⟨second, hcontainers', hterms'⟩ := hsecond
  -- the second image is written before the first expressions, so that like changes meet
  obtain ⟨between, hcontainers', hterms⟩ :=
    InField.swap (by decide : "affinity" ≠ "containers") hterms hcontainers'
  refine ⟨between, ?_, ?_⟩
  · exact hcontainers.comp hcontainers' fun _ _ _ hab hbc ↦ hab.comp hbc
      fun _ _ _ hab hbc ↦ hab.comp hbc himage
  · exact InPath.comp hterms hterms' fun _ _ _ hab hbc ↦ InItems.comp hab hbc
      fun _ _ _ hab hbc ↦ hab.comp hbc fun _ _ _ hab hbc ↦ hab.comp hbc hexpression

/-- Everything outside of the specification stays: metadata with its version among it. -/
theorem Alike.field?_of_ne {before after : Json} (h : Alike image expression before after)
    {name : String} (hne : name ≠ "spec") : after.field? name = before.field? name :=
  InField.field?_of_ne h hne

end Workload

namespace KubeProxy

open AddonUpkeep.Affinity AddonUpkeep.Workload

variable {proxy : KubeProxy} {daemonSet : Json} {image : Image}

theorem containers_eq_ok {containers : Json} (h : proxy.containers daemonSet = .ok containers) :
    ∃ pod, daemonSet.descend podPath = .ok pod ∧
      containers = presentOr (.arr []) (pod.field? "containers") ∧ containers ≠ .arr [] := by
  obtain ⟨found, hfound, hsize⟩ := bind_eq_ok_iff.mp h
  obtain ⟨pod, hpod, hlookup⟩ := bind_eq_ok_iff.mp (mapError_eq_ok_iff.mp hfound)
  obtain ⟨value?, hvalue, hpresent⟩ := bind_eq_ok_iff.mp hlookup
  have hsame : found = presentOr (.arr []) (pod.field? "containers") := by
    rw [lookup_eq_ok hvalue]
    exact (Except.ok.inj hpresent).symm
  have hne : found ≠ .arr [] := by
    rintro rfl
    obtain ⟨fault, hfault⟩ := proxy.name.checkText_error (.noContainers proxy.name.text)
    rw [hfault] at hsize
    cases hsize
  have hcontainers : containers = found := by
    split at hsize
    · exact absurd rfl hne
    · exact (Except.ok.inj hsize).symm
    · exact (Except.ok.inj hsize).symm
    · exact (Except.ok.inj hsize).symm
    · simp at hsize
  exact ⟨pod, hpod, hcontainers.trans hsame, hcontainers ▸ hne⟩

/-- Only the items of an array are containers that have fields. -/
theorem firstContainer_eq_ok {containers container : Json} {name : String} {value : Json}
    (h : firstContainer containers = .ok container)
    (hlookup : container.lookup name = .ok (some value)) :
    ∃ others, containers = .arr (container :: others) := by
  unfold firstContainer at h
  split at h
  · next first others =>
    cases h
    exact ⟨others, rfl⟩
  · cases h
    cases hlookup
  · cases h

/-- A reference that is read and is not empty is the image of the first container. -/
theorem imageReference_eq_ok {reference : String} (h : proxy.imageReference daemonSet = .ok reference)
    (hne : reference ≠ "") : HasImage daemonSet reference := by
  obtain ⟨listed, hlisted, hrest⟩ := bind_eq_ok_iff.mp h
  obtain ⟨pod, hpod, hpresent, hfilled⟩ := containers_eq_ok hlisted
  obtain ⟨value, hvalue, htext⟩ := bind_eq_ok_iff.mp hrest
  obtain ⟨container, hfirst, hlookup⟩ := bind_eq_ok_iff.mp (mapError_eq_ok_iff.mp hvalue)
  obtain ⟨image?, himage?, himage⟩ := bind_eq_ok_iff.mp hlookup
  have hstr : presentOr (.str "") image? = .str reference := by
    cases himage
    split at htext
    · next heq => rw [heq, Except.ok.inj htext]
    · cases htext
  have hsome : image? = some (.str reference) := by
    apply eq_some_of_presentOr hstr
    intro hempty
    exact hne (Json.str.inj hempty)
  rw [hsome] at himage?
  obtain ⟨others, rfl⟩ := firstContainer_eq_ok hfirst himage?
  exact ⟨pod, container, others, hpod, eq_some_of_presentOr hpresent.symm hfilled,
    lookup_eq_ok himage?⟩

/-- An image that is read stands in the first container, in a text with exactly one colon. -/
theorem currentImage_eq_ok (h : proxy.currentImage daemonSet = .ok image) :
    HasImage daemonSet image.reference ∧
      ':' ∉ image.repository.toList ∧ ':' ∉ image.tag.toList := by
  obtain ⟨reference, hreference, hparse⟩ := bind_eq_ok_iff.mp h
  have hparsed : Image.parse? reference = some image := by
    split at hparse
    · next found hfound => rw [hfound, Except.ok.inj hparse]
    · obtain ⟨fault, hfault⟩ :=
        proxy.name.checkText_error (.workloadImageForm reference proxy.name)
      rw [hfault] at hparse
      cases hparse
  obtain ⟨hsame, hrepository, htag⟩ := Image.parse?_eq_some hparsed
  have hne : reference ≠ "" := by
    rintro rfl
    cases hparsed
  rw [← hsame]
  exact ⟨imageReference_eq_ok hreference hne, hrepository, htag⟩

/-- An image with exactly one colon in the first container is read. -/
theorem currentImage_of_hasImage (h : HasImage daemonSet image.reference)
    (hrepository : ':' ∉ image.repository.toList) (htag : ':' ∉ image.tag.toList) :
    proxy.currentImage daemonSet = .ok image := by
  obtain ⟨pod, container, others, hpod, hlisted, himage⟩ := h
  have hcontainers : proxy.containers daemonSet = .ok (.arr (container :: others)) := by
    unfold containers
    rw [hpod, ok_bind, lookup_of_field? hlisted]
    rfl
  have hpresent : (Json.str image.reference).isPresent = true := by
    simp [isPresent, Image.reference]
  have hreference : proxy.imageReference daemonSet = .ok image.reference := by
    unfold imageReference
    rw [hcontainers, ok_bind, firstContainer, ok_bind, lookup_of_field? himage, ok_bind, presentOr,
      if_pos hpresent]
    rfl
  unfold currentImage
  rw [hreference, ok_bind, Image.parse?_reference hrepository htag]

/-- The image of the first container can be written, and nothing else changes. -/
theorem setImage_of_hasImage {reference : String} (next : Image)
    (h : HasImage daemonSet reference) :
    ∃ changed, setImage daemonSet next = .ok changed ∧
      InPath podPath (InField "containers" (InFirst (InField "image" fun old new ↦
        old = .str reference ∧ new = .str next.reference))) daemonSet changed := by
  obtain ⟨pod, container, containers, hpod, hcontainers, himage⟩ := h
  unfold setImage
  rw [changeAt_append]
  refine changeAt_ok keepsAbsent_inField hpod ?_
  refine changeField_ok keepsAbsent_inFirst fun held hheld _ ↦ ?_
  rw [hcontainers] at hheld
  cases hheld
  exact ⟨_, rfl, _, inField_of_some himage ⟨rfl, rfl⟩, rfl⟩

theorem setImage_ok (next : Image) (h : proxy.currentImage daemonSet = .ok image) :
    ∃ changed, setImage daemonSet next = .ok changed ∧
      InPath podPath (InField "containers" (InFirst (InField "image" fun old new ↦
        old = .str image.reference ∧ new = .str next.reference))) daemonSet changed :=
  setImage_of_hasImage next (currentImage_eq_ok h).1

/-- Writing an image leaves the expressions as they are. -/
theorem matchExpressions_of_image {R : Json → Json → Prop} {changed : Json}
    (h : InPath podPath (InField "containers" R) daemonSet changed) :
    matchExpressions changed = matchExpressions daemonSet := by
  have hdescend : changed.descend (podPath ++ requiredPath) =
      daemonSet.descend (podPath ++ requiredPath) :=
    h.descend_append fun _ _ hfield ↦
      ⟨hfield.isPresent_eq, hfield.descend_of_ne (by decide) _⟩
  unfold matchExpressions selectorTerms
  rw [hdescend]

theorem hasValue_of_image {R : Json → Json → Prop} {changed : Json} (label value : String)
    (h : InPath podPath (InField "containers" R) daemonSet changed) :
    hasValue changed label value = hasValue daemonSet label value := by
  unfold hasValue
  rw [matchExpressions_of_image h]

/-- How an update relates an expression to the one that it writes.  Unless some expression lists
arm64 already, arm64 is appended to every expression on the label.  Others stay. -/
def Opens (label : String) (allowed : Bool) (old new : Json) : Prop :=
  if allowed = false ∧ old.field? "key" = some (.str label) then
    allows label arm64 old = .ok false ∧ Appended arm64 old new
  else new = old

theorem opens_opened {label : String} {expression : Json}
    (h : allows label arm64 expression = .ok false) :
    Opens label false expression (opened label arm64 expression) := by
  unfold Opens
  split
  · next hon => exact ⟨h, appended_of_allows_false hon.2 h⟩
  · next hoff =>
    rw [opened, if_neg]
    exact fun hkey ↦ hoff ⟨rfl, hkey⟩

/-- Once the expressions and the image are read, the update can be made, and it changes the image
and the expressions only. -/
theorem renewed_ok {label : String} {allowed : Bool} (tag : String)
    (hvalue : hasValue daemonSet label arm64 = .ok allowed)
    (himage : proxy.currentImage daemonSet = .ok image) :
    ∃ updated, renewed daemonSet { image with tag } label allowed = .ok updated ∧
      Alike (fun old new ↦ old = .str image.reference ∧
          new = .str { image with tag }.reference)
        (Opens label allowed) daemonSet updated := by
  obtain ⟨changed, hset, hpath⟩ := setImage_ok { image with tag } himage
  have hstill := (hasValue_of_image label arm64 hpath).trans hvalue
  unfold renewed
  rw [hset]
  cases allowed with
  | true =>
    have hstays : ∀ expression, Opens label true expression expression := fun _ ↦ by simp [Opens]
    refine ⟨changed, rfl, InPath.mono hpath fun pod pod' hpod ↦ ⟨pod', hpod, ?_⟩⟩
    exact InPath.refl (InItems.refl (InField.refl (InItems.refl hstays))) termsPath pod'
  | false =>
    obtain ⟨updated, hupdated, hterms⟩ := withValue_of_hasValue_false hstill
    rw [inPath_append] at hterms
    refine ⟨updated, hupdated, InPath.comp hpath hterms fun _ middle _ hcontainers hrest ↦ ?_⟩
    refine ⟨middle, hcontainers, hrest.mono fun _ _ hitems ↦ InItems.mono hitems ?_⟩
    refine fun _ _ hterm ↦ hterm.mono fun _ _ hrow ↦ hrow.mono ?_
    rintro old new ⟨hmissing, rfl⟩
    exact opens_opened hmissing

end KubeProxy

end AddonUpkeep
