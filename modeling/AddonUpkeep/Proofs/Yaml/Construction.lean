import AddonUpkeep.Proofs.Yaml.Places
import AddonUpkeep.Yaml.Document

/-!
# Which values a document can fail at

The nodes of a document are read step by step.  A step gives tags and entries to nodes, but leaves
scalars as they are and mappings mappings.  So a fault of a document is that of a scalar whose text
is refused under its tag, that of a mapping which a tag of scalars puts in the place of one, or that
of too many mappings which are merged one into the next.
-/

namespace AddonUpkeep.Yaml

variable {α β : Type} {allowed : Fault → Prop}

/-- A tag of scalars, or the tag of an equals sign, which reading makes the one of texts. -/
def isScalarTag (tag : Tag) : Bool := (scalarValue? tag []).isSome || tag == .value

/-- The faults of a mapping under a tag of scalars.  Another text stands for it, which is refused or
never reached. -/
inductive SubstituteFault (tag : Tag) : Fault → Prop
  | scalar {text : List Char} {fault : Fault}
      (h : scalarValue? tag text = some (.error (.value fault))) : SubstituteFault tag fault
  | moment (h : tag = .timestamp) : SubstituteFault tag (.unforeseen .wrongType)
  | endless : SubstituteFault tag (.tooDeep "")

/-- The faults that a node can have. -/
inductive Node.HasFault (node : Node) : Fault → Prop
  | scalar {text : List Char} {fault : Fault} (hcontent : node.content = .scalar text)
      (h : scalarValue? node.tag text = some (.error (.value fault))) : node.HasFault fault
  | mapping {entries : List (NodeId × NodeId)} {fault : Fault}
      (hcontent : node.content = .mapping entries) (htag : isScalarTag node.tag = true)
      (h : SubstituteFault node.tag fault) : node.HasFault fault

/-- A node that has no other faults than the allowed ones. -/
def Node.Sound (allowed : Fault → Prop) (node : Node) : Prop :=
  ∀ fault, node.HasFault fault → allowed fault

namespace Reading

/-- A node is a scalar. -/
def HoldsScalar (reading : Reading) (id : NodeId) : Prop :=
  ∃ node text, reading.nodes[id]? = some node ∧ node.content = .scalar text

/-- A node is a mapping. -/
def HoldsMapping (reading : Reading) (id : NodeId) : Prop :=
  ∃ node entries, reading.nodes[id]? = some node ∧ node.content = .mapping entries

/-- A node has a text of its own, or looking for one may take too long. -/
def HasText (allowed : Fault → Prop) (reading : Reading) (id : NodeId) : Prop :=
  reading.HoldsScalar id ∨ allowed (.tooDeep "")

/-- All nodes are sound, and those with the meaning of a scalar have a text. -/
structure Sound (allowed : Fault → Prop) (reading : Reading) : Prop where
  node : ∀ {id : NodeId} {node : Node}, reading.nodes[id]? = some node → node.Sound allowed
  scalar : ∀ {id value}, reading.meanings.of? id = some (.scalar value) →
    reading.HasText allowed id

/-- Scalars and mappings stay what they are. -/
structure Extends (before after : Reading) : Prop where
  scalar : ∀ {id}, before.HoldsScalar id → after.HoldsScalar id
  mapping : ∀ {id}, before.HoldsMapping id → after.HoldsMapping id

theorem Extends.refl (reading : Reading) : reading.Extends reading := ⟨id, id⟩

theorem Extends.trans {before middle after : Reading} (h : before.Extends middle)
    (h' : middle.Extends after) : before.Extends after :=
  ⟨fun hscalar ↦ h'.scalar (h.scalar hscalar), fun hmapping ↦ h'.mapping (h.mapping hmapping)⟩

theorem Extends.hasText {before after : Reading} {id : NodeId} (h : before.Extends after)
    (hid : before.HasText allowed id) : after.HasText allowed id := hid.imp_left h.scalar

end Reading

/-- From a reading on, a step keeps the nodes sound and ends with what is promised, or it refuses
the document, and then not for a fault that is not allowed. -/
def Keeps (allowed : Fault → Prop) (reading : Reading) (step : Read α)
    (promised : α → Reading → Prop) : Prop :=
  Ends (fun found ↦ found.2.Sound allowed ∧ reading.Extends found.2 ∧ promised found.1 found.2)
    (Refusal.IsFor allowed) (step.run reading)

namespace Keeps

variable {reading : Reading} {promised : α → Reading → Prop} {last : β → Reading → Prop}

theorem pure (h : reading.Sound allowed) {value : α} (hvalue : promised value reading) :
    Keeps allowed reading (pure value) promised := ⟨h, .refl reading, hvalue⟩

theorem refuse : Keeps allowed reading (Read.refuse : Read α) promised := trivial

theorem refuse_bind {next : β → Read α} :
    Keeps allowed reading ((Read.refuse : Read β) >>= next) promised := trivial

theorem bind {step : Read α} {next : α → Read β} (h : Keeps allowed reading step promised)
    (hnext : ∀ value after, after.Sound allowed → reading.Extends after → promised value after →
      Keeps allowed after (next value) last) : Keeps allowed reading (step >>= next) last := by
  unfold Keeps
  rw [StateT.run_bind]
  refine Ends.bind h fun ⟨value, after⟩ ⟨hsound, hextends, hvalue⟩ ↦ ?_
  refine Ends.mono (hnext value after hsound hextends hvalue) (fun found hfound ↦ ?_)
    fun _ hrefusal ↦ hrefusal
  exact ⟨hfound.1, hextends.trans hfound.2.1, hfound.2.2⟩

/-- A check that refuses the document for a fault, and what follows it. -/
theorem unless_bind {condition : Prop} [Decidable condition] {fault : Fault} {next : Unit → Read α}
    (h : condition → allowed fault)
    (hnext : ¬ condition → Keeps allowed reading (next ()) promised) :
    Keeps allowed reading
      (if condition then (throw (.value fault) : Read Unit) >>= next else next ()) promised := by
  split
  · next hcondition => exact h hcondition
  · next hcondition => exact hnext hcondition

/-- What is done with a node is done on the reading as it is. -/
theorem node_bind {id : NodeId} {next : Node → Read α}
    (h : ∀ node, reading.nodes[id]? = some node → Keeps allowed reading (next node) promised) :
    Keeps allowed reading (Read.node id >>= next) promised := by
  cases hnode : reading.nodes[id]? with
  | some node =>
    have hrun : (Read.node id >>= next).run reading = (next node).run reading := by
      simp [Read.node, hnode]
    unfold Keeps
    rw [hrun]
    exact h node hnode
  | none =>
    have hrun : (Read.node id >>= next).run reading = .error (.malformed .content) := by
      simp [Read.node, hnode, Read.refuse]
      rfl
    unfold Keeps
    rw [hrun]
    exact trivial

theorem known_bind {id : NodeId} {node : Node} {next : Node → Read α}
    (hnode : reading.nodes[id]? = some node) (h : Keeps allowed reading (next node) promised) :
    Keeps allowed reading (Read.node id >>= next) promised := by
  refine node_bind fun found hfound ↦ ?_
  obtain rfl := Option.some.inj (hnode.symm.trans hfound)
  exact h

theorem get_bind {next : Reading → Read α} (h : Keeps allowed reading (next reading) promised) :
    Keeps allowed reading (get >>= next) promised := h

/-- The entries of a mapping are read as they are. -/
theorem entriesOf_bind {id : NodeId} {next : List (NodeId × NodeId) → Read α}
    (h : ∀ entries, reading.HoldsMapping id → Keeps allowed reading (next entries) promised) :
    Keeps allowed reading (Read.entriesOf id >>= next) promised := by
  unfold Read.entriesOf
  rw [bind_assoc]
  refine node_bind fun node hnode ↦ ?_
  split
  · next entries hcontent => exact h entries ⟨node, entries, hnode, hcontent⟩
  · exact refuse_bind

theorem itemsOf_bind {id : NodeId} {next : List NodeId → Read α}
    (h : ∀ items, Keeps allowed reading (next items) promised) :
    Keeps allowed reading (Read.itemsOf id >>= next) promised := by
  unfold Read.itemsOf
  rw [bind_assoc]
  refine node_bind fun node hnode ↦ ?_
  split
  · next items hcontent => exact h items
  · exact refuse_bind

/-- A step for each item, each of which goes on to the next one. -/
theorem forIn {body : β → PUnit → Read (ForInStep PUnit)} (items : List β)
    (h : ∀ item ∈ items, ∀ reading : Reading, reading.Sound allowed →
      Keeps allowed reading (body item ⟨⟩) fun _ _ ↦ True)
    (hsound : reading.Sound allowed) :
    Keeps allowed reading (forIn items ⟨⟩ body) fun _ _ ↦ True := by
  induction items generalizing reading with
  | nil => exact pure hsound trivial
  | cons item items ih =>
    rw [List.forIn_cons]
    refine (h item List.mem_cons_self reading hsound).bind fun step after hafter _ _ ↦ ?_
    cases step with
    | done value => exact pure hafter trivial
    | yield value =>
      exact ih (fun other hother ↦ h other (List.mem_cons_of_mem item hother)) hafter

theorem mapM {body : β → Read α} (items : List β)
    (h : ∀ item ∈ items, ∀ reading : Reading, reading.Sound allowed →
      Keeps allowed reading (body item) fun _ _ ↦ True)
    (hsound : reading.Sound allowed) :
    Keeps allowed reading (items.mapM body) fun _ _ ↦ True := by
  induction items generalizing reading with
  | nil => exact pure hsound trivial
  | cons item items ih =>
    rw [List.mapM_cons]
    refine (h item List.mem_cons_self reading hsound).bind fun value after hafter _ _ ↦ ?_
    refine (ih (fun other hother ↦ h other (List.mem_cons_of_mem item hother)) hafter).bind
      fun values last hlast _ _ ↦ ?_
    exact pure hlast trivial

end Keeps

section Changes

variable {reading : Reading} {id : NodeId}

/-- A scalar stays a scalar, and a mapping a mapping. -/
structure SameForm (before after : Node) : Prop where
  scalar : ∀ {text}, before.content = .scalar text → ∃ text, after.content = .scalar text
  mapping : ∀ {entries}, before.content = .mapping entries →
    ∃ entries, after.content = .mapping entries

/-- A change of one node keeps what is known of all when it keeps the form of the node. -/
theorem keeps_modify {node : Node} {change : Node → Node} (hsound : reading.Sound allowed)
    (hnode : reading.nodes[id]? = some node) (hchange : (change node).Sound allowed)
    (hform : SameForm node (change node)) :
    Keeps allowed reading (modify fun reading ↦
      { reading with nodes := reading.nodes.modify id change }) fun _ _ ↦ True := by
  set after : Reading := { reading with nodes := reading.nodes.modify id change }
  have hget (other : NodeId) : after.nodes[other]? =
      if id = other then reading.nodes[other]?.map change else reading.nodes[other]? :=
    Array.getElem?_modify
  have hid : after.nodes[id]? = some (change node) := by
    rw [hget, if_pos rfl, hnode]
    rfl
  have hother {other : NodeId} (hne : id ≠ other) : after.nodes[other]? = reading.nodes[other]? := by
    rw [hget, if_neg hne]
  have hextends : reading.Extends after := by
    constructor
    · rintro other ⟨held, text, hheld, hcontent⟩
      by_cases heq : id = other
      · subst heq
        obtain rfl := Option.some.inj (hnode.symm.trans hheld)
        obtain ⟨text', hcontent'⟩ := hform.scalar hcontent
        exact ⟨change node, text', hid, hcontent'⟩
      · exact ⟨held, text, (hother heq).trans hheld, hcontent⟩
    · rintro other ⟨held, entries, hheld, hcontent⟩
      by_cases heq : id = other
      · subst heq
        obtain rfl := Option.some.inj (hnode.symm.trans hheld)
        obtain ⟨entries', hcontent'⟩ := hform.mapping hcontent
        exact ⟨change node, entries', hid, hcontent'⟩
      · exact ⟨held, entries, (hother heq).trans hheld, hcontent⟩
  refine ⟨⟨fun {other held} hheld ↦ ?_, fun hmeaning ↦ ?_⟩, hextends, trivial⟩
  · by_cases heq : id = other
    · subst heq
      obtain rfl := Option.some.inj (hid.symm.trans hheld)
      exact hchange
    · exact hsound.node ((hother heq).symm.trans hheld)
  · exact hextends.hasText (hsound.scalar hmeaning)

/-- Setting the entries of a mapping. -/
theorem keeps_setEntries (hsound : reading.Sound allowed) (h : reading.HoldsMapping id)
    (entries : List (NodeId × NodeId)) :
    Keeps allowed reading (Read.setEntries id entries) fun _ _ ↦ True := by
  obtain ⟨node, old, hnode, hcontent⟩ := h
  refine keeps_modify hsound hnode (fun fault hfault ↦ ?_)
    ⟨fun htext ↦ ?_, fun _ ↦ ⟨entries, rfl⟩⟩
  · cases hfault with
    | scalar hscalar => cases hscalar
    | mapping _ htag h => exact hsound.node hnode fault (.mapping hcontent htag h)
  · rw [hcontent] at htext
    cases htext

/-- Making the tag of an equals sign the one of texts. -/
theorem keeps_setTag (hsound : reading.Sound allowed) {node : Node}
    (hnode : reading.nodes[id]? = some node) (htag : node.tag = .value) :
    Keeps allowed reading (Read.setTag id .str) fun _ _ ↦ True := by
  refine keeps_modify hsound hnode (fun fault hfault ↦ ?_)
    ⟨fun htext ↦ ⟨_, htext⟩, fun hentries ↦ ⟨_, hentries⟩⟩
  have hscalarTag : isScalarTag node.tag = true := by rw [htag]; rfl
  cases hfault with
  | scalar _ h => cases h
  | mapping hcontent _ h =>
    refine hsound.node hnode fault (.mapping hcontent hscalarTag ?_)
    cases h with
    | scalar h => cases h
    | moment h => cases h
    | endless => exact .endless

theorem of?_setMeaning {meaning : Meaning} {other : NodeId} {value : Setting}
    (h : Meanings.of? (reading.meanings.setIfInBounds id (some meaning)) other =
      some (.scalar value)) :
    (id = other ∧ meaning = .scalar value) ∨ reading.meanings.of? other = some (.scalar value) := by
  unfold Meanings.of? at h ⊢
  rw [Array.getElem?_setIfInBounds] at h
  split at h
  · next heq =>
    split at h
    · exact .inl ⟨heq, Option.some.inj h⟩
    · cases h
  · exact .inr h

/-- Only a node with a text may have the meaning of a scalar. -/
theorem keeps_setMeaning (hsound : reading.Sound allowed) {meaning : Meaning}
    (h : ∀ value, meaning = .scalar value → reading.HasText allowed id) :
    Keeps allowed reading (Read.setMeaning id meaning) fun _ _ ↦ True := by
  refine ⟨⟨hsound.node, fun {other value} hmeaning ↦ ?_⟩, ⟨fun hscalar ↦ hscalar,
    fun hmapping ↦ hmapping⟩, trivial⟩
  rcases of?_setMeaning hmeaning with ⟨rfl, hscalar⟩ | hold
  · exact h value hscalar
  · exact hsound.scalar hold

end Changes

section Steps

variable {reading : Reading}

/-- Merging only moves entries.  A merging entry is spent on each step further down, so where the
chain is too long there are more of them than it may have. -/
theorem keeps_flatten {merges : Nat} (hdeep : Read.chainLimit < merges → allowed (.tooDeep ""))
    (fuel : Nat) {depth : Nat} (hspent : fuel + depth ≤ merges + 1)
    (hsound : reading.Sound allowed) (id : NodeId) (gathered : List (NodeId × NodeId)) :
    Keeps allowed reading (Read.flatten fuel depth id gathered) fun _ _ ↦ True := by
  induction fuel generalizing reading depth id gathered with
  | zero => exact Keeps.refuse
  | succ fuel ih =>
    have hnext : fuel + depth ≤ merges + 1 := by omega
    have hinner : fuel + (depth + 1) ≤ merges + 1 := by omega
    unfold Read.flatten
    refine Keeps.unless_bind (fun hlimit ↦ hdeep (by omega)) fun _ ↦ ?_
    refine Keeps.entriesOf_bind fun entries hmapping ↦ Keeps.get_bind ?_
    split
    · -- nothing is left to merge, and the keys that are equals signs become texts
      refine (Keeps.forIn entries (fun entry _ before hbefore ↦ ?_) hsound).bind
        fun _ after hafter hextends _ ↦ ?_
      · refine Keeps.node_bind fun node hnode ↦ ?_
        split
        · next htag =>
          refine (keeps_setTag hbefore hnode htag).bind fun _ last hlast _ _ ↦ ?_
          exact Keeps.pure hlast trivial
        · exact Keeps.pure hbefore trivial
      · split
        · exact keeps_setEntries hafter (hextends.mapping hmapping) _
        · exact Keeps.pure hafter trivial
    · next value left _ =>
      refine (keeps_setEntries hsound hmapping left).bind fun _ after hafter hextends _ ↦ ?_
      refine Keeps.node_bind fun node hnode ↦ ?_
      split
      · refine (ih hinner hafter value []).bind fun _ merged hmerged _ _ ↦ ?_
        exact Keeps.entriesOf_bind fun entries _ ↦ ih hnext hmerged id _
      · next items _ =>
        refine (Keeps.mapM items (fun item _ before hbefore ↦ ?_) hafter).bind
          fun merged last hlast _ _ ↦ ih hnext hlast id _
        refine Keeps.entriesOf_bind fun _ _ ↦
          (ih hinner hbefore item []).bind fun _ last hlast _ _ ↦ ?_
        rw [← bind_pure (Read.entriesOf item)]
        exact Keeps.entriesOf_bind fun entries _ ↦ Keeps.pure hlast trivial
      · exact Keeps.refuse

/-- The text of a scalar is found at once. -/
theorem textOf_bind {id : NodeId} {fuel : Nat} {next : List Char → Read α}
    {promised : α → Reading → Prop} {node : Node} {text : List Char}
    (hnode : reading.nodes[id]? = some node) (hcontent : node.content = .scalar text)
    (h : Keeps allowed reading (next text) promised) :
    Keeps allowed reading (Read.textOf (fuel + 1) id >>= next) promised := by
  unfold Read.textOf
  rw [bind_assoc]
  refine Keeps.known_bind hnode ?_
  rw [hcontent]
  exact h

/-- A sequence has no text. -/
theorem textOf_bind_of_sequence {id : NodeId} {fuel : Nat} {next : List Char → Read α}
    {promised : α → Reading → Prop} {node : Node} {items : List NodeId}
    (hnode : reading.nodes[id]? = some node) (hcontent : node.content = .sequence items) :
    Keeps allowed reading (Read.textOf (fuel + 1) id >>= next) promised := by
  unfold Read.textOf
  rw [bind_assoc]
  refine Keeps.known_bind hnode ?_
  rw [hcontent]
  exact Keeps.refuse_bind

/-- The text of a mapping may be looked for without end. -/
theorem keeps_textOf (fuel : Nat) (hsound : reading.Sound allowed) (hdeep : allowed (.tooDeep ""))
    (id : NodeId) : Keeps allowed reading (Read.textOf fuel id) fun _ _ ↦ True := by
  induction fuel generalizing id with
  | zero => exact hdeep
  | succ fuel ih =>
    unfold Read.textOf
    refine Keeps.node_bind fun node _ ↦ ?_
    split
    · exact Keeps.pure hsound trivial
    · exact Keeps.refuse
    · refine Keeps.get_bind ?_
      dsimp only
      split
      · exact ih _
      · exact Keeps.refuse

theorem keeps_isScalar (hsound : reading.Sound allowed) (id : NodeId) :
    Keeps allowed reading (Read.isScalar id) fun _ _ ↦ True := by
  unfold Read.isScalar
  refine Keeps.node_bind fun node _ ↦ ?_
  split
  · exact Keeps.pure hsound trivial
  · exact Keeps.pure hsound trivial

theorem isScalar_bind {id : NodeId} {next : Bool → Read α} {promised : α → Reading → Prop}
    {node : Node} {text : List Char} (hnode : reading.nodes[id]? = some node)
    (hcontent : node.content = .scalar text) (h : Keeps allowed reading (next true) promised) :
    Keeps allowed reading (Read.isScalar id >>= next) promised := by
  unfold Read.isScalar
  rw [bind_assoc]
  refine Keeps.known_bind hnode ?_
  rw [hcontent]
  exact h

/-- A refusal of a scalar is one for a fault that its tag has. -/
theorem isFor_of_scalarValue {tag : Tag} {text : List Char} {refusal : Refusal}
    (h : scalarValue? tag text = some (.error refusal))
    (hfaults : ∀ fault, scalarValue? tag text = some (.error (.value fault)) → allowed fault) :
    refusal.IsFor allowed := by
  cases refusal with
  | malformed violation => exact trivial
  | value fault => exact hfaults fault h

/-- Under a tag of scalars a node has the value of its text, or of the text that stands for it. -/
theorem keeps_scalarMeaning (hsound : reading.Sound allowed) {id : NodeId} {node : Node}
    (hnode : reading.nodes[id]? = some node) (htag : isScalarTag node.tag = true) :
    Keeps allowed reading (Read.scalarMeaning id node.tag) fun _ after ↦
      after.HasText allowed id := by
  unfold Read.scalarMeaning
  cases hcontent : node.content with
  | scalar text =>
    refine textOf_bind hnode hcontent (isScalar_bind hnode hcontent ?_)
    rw [Bool.not_true, Bool.and_false]
    dsimp only
    split
    · next habsurd => cases habsurd
    · split
      · exact Keeps.pure hsound (.inl ⟨node, text, hnode, hcontent⟩)
      · next refusal hrefusal =>
        exact isFor_of_scalarValue hrefusal fun fault hfault ↦
          hsound.node hnode fault (.scalar hcontent hfault)
      · exact Keeps.refuse
  | sequence items => exact textOf_bind_of_sequence hnode hcontent
  | mapping entries =>
    -- the text is that of another node, so all faults of the tag count
    have hfaults (fault : Fault) (h : SubstituteFault node.tag fault) : allowed fault :=
      hsound.node hnode fault (.mapping hcontent htag h)
    refine (keeps_textOf _ hsound (hfaults _ .endless) id).bind fun text after hafter _ _ ↦ ?_
    refine (keeps_isScalar hafter id).bind fun answer last hlast _ _ ↦ ?_
    dsimp only
    split
    · next hmoment =>
      have htime : node.tag = .timestamp := by simp_all
      exact hfaults _ (.moment htime)
    · split
      · exact Keeps.pure hlast (.inr (hfaults _ .endless))
      · next refusal hrefusal =>
        exact isFor_of_scalarValue hrefusal fun fault hfault ↦ hfaults fault (.scalar hfault)
      · exact Keeps.refuse

/-- A visited node with the meaning of a scalar has a text. -/
theorem keeps_visit (hsound : reading.Sound allowed) (id : NodeId) :
    Keeps allowed reading (Read.visit id) fun meaning after ↦
      ∀ value, meaning = .scalar value → after.HasText allowed id := by
  have hempty (kind : CollectionTag) (value : Setting) : kind.empty ≠ .scalar value := by
    cases kind <;> exact fun h ↦ by cases h
  unfold Read.visit
  refine Keeps.get_bind ?_
  split
  · next meaning hmeaning =>
    refine Keeps.pure hsound fun value hvalue ↦ ?_
    exact hsound.scalar (hvalue ▸ hmeaning)
  · refine Keeps.node_bind fun node hnode ↦ ?_
    dsimp only
    split
    · next kind _ =>
      have hscalar (value : Setting) (h : kind.empty = .scalar value) : reading.HasText allowed id :=
        absurd h (hempty kind value)
      refine (keeps_setMeaning hsound hscalar).bind fun _ after hafter _ _ ↦ ?_
      refine ⟨⟨hafter.node, hafter.scalar⟩, ⟨fun h ↦ h, fun h ↦ h⟩, fun value h ↦ ?_⟩
      exact absurd h (hempty kind value)
    · split
      · exact Keeps.refuse
      · next htag =>
        have hscalarTag : isScalarTag node.tag = true := by
          unfold isScalarTag
          rw [← Option.not_isNone, Bool.eq_false_iff.mpr htag]
          rfl
        refine (keeps_scalarMeaning hsound hnode hscalarTag).bind
          fun value after hafter _ hscalar ↦ ?_
        refine (keeps_setMeaning hafter fun _ _ ↦ hscalar).bind fun _ last hlast hextends _ ↦ ?_
        exact Keeps.pure hlast fun _ _ ↦ hextends.hasText hscalar

/-- A key is a scalar, or a mapping in its place. -/
theorem keeps_keyOf (hsound : reading.Sound allowed) (id : NodeId) :
    Keeps allowed reading (Read.keyOf id) fun _ _ ↦ True := by
  unfold Read.keyOf
  refine (keeps_visit hsound id).bind fun meaning after hafter _ hscalar ↦ ?_
  split
  · rcases hscalar _ rfl with ⟨node, text, hnode, hcontent⟩ | hdeep
    · exact textOf_bind hnode hcontent (Keeps.pure hafter trivial)
    · exact (keeps_textOf _ hafter hdeep id).bind fun _ _ hlast _ _ ↦ Keeps.pure hlast trivial
  · exact Keeps.pure hafter trivial
  · exact Keeps.refuse

theorem keeps_readEntries (entries : List (NodeId × NodeId)) (hsound : reading.Sound allowed)
    (read : Table Read.Key NodeId) :
    Keeps allowed reading (Read.readEntries read entries) fun _ _ ↦ True := by
  induction entries generalizing reading read with
  | nil => exact Keeps.pure hsound trivial
  | cons entry entries ih =>
    obtain ⟨key, value⟩ := entry
    unfold Read.readEntries
    refine (keeps_keyOf hsound key).bind fun found after hafter _ _ ↦ ?_
    exact (keeps_visit hafter value).bind fun _ last hlast _ _ ↦ ih hlast _

theorem keeps_readPair (hsound : reading.Sound allowed) (id : NodeId) :
    Keeps allowed reading (Read.readPair id) fun _ _ ↦ True := by
  unfold Read.readPair
  refine Keeps.entriesOf_bind fun entries _ ↦ ?_
  split
  · next key value =>
    refine (keeps_visit hsound key).bind fun _ after hafter _ _ ↦ ?_
    exact (keeps_visit hafter value).bind fun _ last hlast _ _ ↦ Keeps.pure hlast trivial
  · exact Keeps.refuse

theorem keeps_complete {merges : Nat} (hdeep : Read.chainLimit < merges → allowed (.tooDeep ""))
    (hsound : reading.Sound allowed) (id : NodeId) (kind : CollectionTag) :
    Keeps allowed reading (Read.complete merges id kind) fun _ _ ↦ True := by
  have hmapping (reading : Reading) (hsound : reading.Sound allowed) :
      Keeps allowed reading (do
        let _ ← Read.entriesOf id
        Read.flatten (merges + 1) 0 id []
        let entries ← Read.readEntries [] (← Read.entriesOf id)
        Read.setMeaning id (if kind = .map then .map entries else .set (entries.map (·.1))))
        fun _ _ ↦ True := by
    refine Keeps.entriesOf_bind fun _ _ ↦ ?_
    refine (keeps_flatten hdeep (merges + 1) le_rfl hsound id []).bind fun _ after hafter _ _ ↦ ?_
    refine Keeps.entriesOf_bind fun entries _ ↦ ?_
    refine (keeps_readEntries entries hafter []).bind fun found last hlast _ _ ↦ ?_
    refine keeps_setMeaning hlast fun value h ↦ ?_
    split at h
    · cases h
    · cases h
  unfold Read.complete
  cases kind with
  | list =>
    refine Keeps.itemsOf_bind fun items ↦ ?_
    refine (Keeps.forIn items (fun item _ before hbefore ↦ ?_) hsound).bind
      fun _ after hafter _ _ ↦ keeps_setMeaning hafter fun value h ↦ by cases h
    exact (keeps_visit hbefore item).bind fun _ after hafter _ _ ↦ Keeps.pure hafter trivial
  | pairs =>
    refine Keeps.itemsOf_bind fun items ↦ ?_
    refine (Keeps.mapM items (fun item _ before hbefore ↦ keeps_readPair hbefore item)
      hsound).bind fun _ after hafter _ _ ↦ keeps_setMeaning hafter fun value h ↦ by cases h
  | map => exact hmapping reading hsound
  | set => exact hmapping reading hsound

theorem keeps_completeAll {merges : Nat} (hdeep : Read.chainLimit < merges → allowed (.tooDeep ""))
    (fuel : Nat) (hsound : reading.Sound allowed) :
    Keeps allowed reading (Read.completeAll merges fuel) fun _ _ ↦ True := by
  induction fuel generalizing reading with
  | zero => exact Keeps.pure hsound trivial
  | succ fuel ih =>
    unfold Read.completeAll
    refine Keeps.get_bind ?_
    split
    · exact Keeps.pure hsound trivial
    · next id kind waiting _ =>
      have hkept : Keeps allowed reading
          (modify fun reading ↦ { reading with waiting }) fun _ _ ↦ True :=
        ⟨⟨hsound.node, hsound.scalar⟩, ⟨fun h ↦ h, fun h ↦ h⟩, trivial⟩
      refine hkept.bind fun _ after hafter _ _ ↦ ?_
      exact (keeps_complete hdeep hafter id kind).bind fun _ last hlast _ _ ↦ ih hlast

end Steps

/-- A fault of a document: that of one of its nodes, or that of more merging entries than a chain of
merged mappings may have. -/
inductive Graph.HasFault (graph : Graph) : Fault → Prop
  | node {id : NodeId} {node : Node} {fault : Fault} (hnode : graph.nodes[id]? = some node)
      (h : node.HasFault fault) : graph.HasFault fault
  | merging (h : Read.chainLimit < Read.mergeCount graph.nodes) : graph.HasFault (.tooDeep "")

/-- A document is refused for a violation, or for a fault that it has. -/
theorem Graph.isFor_setting (graph : Graph) :
    Ends (fun _ ↦ True) (Refusal.IsFor graph.HasFault) graph.setting := by
  unfold Graph.setting
  cases graph.root with
  | none => exact trivial
  | some root =>
    set initial : Reading :=
      { nodes := graph.nodes, meanings := Array.replicate graph.nodes.size none } with hinitial
    have hunknown (id : NodeId) : initial.meanings.of? id = none := by
      simp only [hinitial, Meanings.of?, Array.getElem?_replicate]
      split <;> rfl
    have hsound : initial.Sound graph.HasFault := by
      refine ⟨fun hnode _ hfault ↦ .node hnode hfault, fun hmeaning ↦ ?_⟩
      rw [hunknown] at hmeaning
      cases hmeaning
    have hread := (keeps_visit hsound root).bind fun _ after hafter _ _ ↦
      keeps_completeAll .merging (graph.nodes.size + 1) hafter
    exact Ends.bind hread fun _ _ ↦ trivial

end AddonUpkeep.Yaml
