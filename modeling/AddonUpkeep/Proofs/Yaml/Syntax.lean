import AddonUpkeep.Proofs.Yaml.Places
import AddonUpkeep.Yaml.Graph

/-!
# Which faults the syntax of a text has

The tokens of a text end where the text is refused, and the nodes are built from them until there
are no more.  A step of either stays in the text and hands the refusals of the steps inside on, so a
text is refused only for a violation of the syntax, for a fault that it shows, or for nodes that are
nested too deeply.
-/

namespace AddonUpkeep.Yaml

variable {α β : Type} {text : List Char}

/-! ## Tokens -/

namespace Lexer

variable {lexer : Lexer}

theorem cursor_closeBlocks (p : Nat → Bool) (lexer : Lexer) :
    (lexer.closeBlocks p).cursor = lexer.cursor := by
  have hfold (indents : List Nat) (lexer : Lexer) :
      (indents.foldl (fun lexer _ ↦ lexer.emit .blockEnd) lexer).cursor = lexer.cursor := by
    induction indents generalizing lexer with
    | nil => rfl
    | cons indent indents ih =>
      rw [List.foldl_cons, ih]
      rfl
  unfold closeBlocks
  split
  · rfl
  · rw [hfold]

theorem cursor_openBlock (token : Token) (column : Nat) (lexer : Lexer) :
    (lexer.openBlock token column).cursor = lexer.cursor := by
  unfold openBlock
  split
  · rfl
  · rfl

theorem isIn_skipGap (left : List Char) (inComment broken : Bool) {cursor : Cursor}
    (h : cursor.IsIn text) : (skipGap inComment broken cursor left).2.IsIn text := by
  induction left generalizing inComment broken cursor with
  | nil => exact h
  | cons c left ih =>
    unfold skipGap
    split
    · exact ih _ _ h.advance
    · split
      · exact ih _ _ h.advance
      · split
        · exact ih _ _ h.advance
        · exact h

theorem isIn_toToken (h : lexer.cursor.IsIn text) : lexer.toToken.cursor.IsIn text := by
  unfold toToken
  dsimp only
  refine isIn_skipGap _ false false ?_
  split
  · exact h.advance
  · exact h

theorem stays_dropStale (h : lexer.cursor.IsIn text) : Stays text (·.cursor) lexer.dropStale :=
  Ends.ite trivial h

theorem stays_dropKey (h : lexer.cursor.IsIn text) : Stays text (·.cursor) lexer.dropKey :=
  Ends.ite trivial h

theorem stays_saveKey (h : lexer.cursor.IsIn text) : Stays text (·.cursor) lexer.saveKey := by
  unfold saveKey
  split
  · exact (stays_dropKey h).bind fun after hafter ↦ hafter
  · exact h

theorem stays_closeAll (h : lexer.cursor.IsIn text) : Stays text (·.cursor) lexer.closeAll := by
  unfold closeAll
  have hclosed : (lexer.closeBlocks fun _ ↦ true).cursor.IsIn text := by
    rw [cursor_closeBlocks]
    exact h
  exact (stays_dropKey hclosed).bind fun after hafter ↦ hafter

theorem stays_readEnd (h : lexer.cursor.IsIn text) : Stays text (·.cursor) lexer.readEnd :=
  (stays_closeAll h).bind fun _ hafter ↦ hafter

theorem stays_readBound (token : Token) (h : lexer.cursor.IsIn text) :
    Stays text (·.cursor) (lexer.readBound token) :=
  (stays_closeAll h).bind fun _ hafter ↦ Cursor.IsIn.advanceBy hafter 3

theorem stays_readOpening (token : Token) (h : lexer.cursor.IsIn text) :
    Stays text (·.cursor) (lexer.readOpening token) :=
  (stays_saveKey h).bind fun _ hafter ↦ Cursor.IsIn.advanceBy hafter 1

theorem stays_readClosing (token : Token) (h : lexer.cursor.IsIn text) :
    Stays text (·.cursor) (lexer.readClosing token) :=
  (stays_dropKey h).bind fun _ hafter ↦ Cursor.IsIn.advanceBy hafter 1

theorem stays_readFlowEntry (h : lexer.cursor.IsIn text) :
    Stays text (·.cursor) lexer.readFlowEntry := by
  have hallow : (lexer.allow true).cursor.IsIn text := h
  exact (stays_dropKey hallow).bind fun _ hafter ↦ Cursor.IsIn.advanceBy hafter 1

theorem stays_readBlockSign (opening sign : Token) (violation : Violation) (allowsKey : Bool)
    (h : lexer.cursor.IsIn text) :
    Stays text (·.cursor) (lexer.readBlockSign opening sign violation allowsKey) := by
  have hopen : ((lexer.openBlock opening lexer.cursor.column).allow allowsKey).cursor.IsIn text := by
    change (lexer.openBlock opening lexer.cursor.column).cursor.IsIn text
    rw [cursor_openBlock]
    exact h
  unfold readBlockSign
  split
  · exact trivial
  · exact (stays_dropKey hopen).bind fun _ hafter ↦ Cursor.IsIn.advanceBy hafter 1

theorem stays_readValueSign (h : lexer.cursor.IsIn text) :
    Stays text (·.cursor) lexer.readValueSign := by
  unfold readValueSign
  split
  · exact stays_readBlockSign _ _ _ _ h
  · dsimp only
    split
    · exact h.advanceBy 1
    · exact h.advanceBy 1

theorem stays_readNode {read : Cursor → Except Refusal (Token × Cursor)}
    (h : lexer.cursor.IsIn text)
    (hread : ∀ cursor : Cursor, cursor.IsIn text → Stays text (·.2) (read cursor)) :
    Stays text (·.cursor) (lexer.readNode read) :=
  (stays_saveKey h).bind fun after hafter ↦
    (hread after.cursor hafter).bind fun _ hlast ↦ hlast

theorem stays_readPlainScalar (h : lexer.cursor.IsIn text) :
    Stays text (·.cursor) lexer.readPlainScalar :=
  (stays_saveKey h).bind fun after hafter ↦
    isIn_readPlainParts after.inFlow after.innerIndent _ [] [] false hafter

theorem stays_readBlockScalar (isFolded : Bool) (h : lexer.cursor.IsIn text) :
    Stays text (·.cursor) (lexer.readBlockScalar isFolded) := by
  have hallow : (lexer.allow true).cursor.IsIn text := h
  exact (stays_dropKey hallow).bind fun _ hafter ↦
    (stays_readBlock isFolded _ hafter).bind fun _ hlast ↦ hlast

theorem stays_readToken (c : Char) (h : lexer.cursor.IsIn text) :
    Stays text (·.cursor) (lexer.readToken c) := by
  have hscalar {read : Cursor → Except Refusal (List Char × Cursor)}
      {token : List Char × Cursor → Token × Cursor} (htoken : ∀ found, (token found).2 = found.2)
      (hread : ∀ cursor : Cursor, cursor.IsIn text → Stays text (·.2) (read cursor)) :
      Stays text (·.cursor) (lexer.readNode fun cursor ↦ (read cursor).map token) := by
    refine stays_readNode h fun cursor hcursor ↦ Ends.map ?_
    refine (hread cursor hcursor).mono (fun found hfound ↦ ?_) fun _ hfault ↦ hfault
    change (token found).2.IsIn text
    rw [htoken]
    exact hfound
  exact .ite
    ((stays_closeAll h).bind fun _ _ ↦ (stays_readDirective h).bind fun _ hlast ↦ hlast) <|
    .ite (stays_readBound _ h) <| .ite (stays_readBound _ h) <|
    .ite (stays_readOpening _ h) <| .ite (stays_readOpening _ h) <|
    .ite (stays_readClosing _ h) <| .ite (stays_readClosing _ h) <|
    .ite (stays_readFlowEntry h) <|
    .ite (stays_readBlockSign _ _ _ _ h) <| .ite (stays_readBlockSign _ _ _ _ h) <|
    .ite (stays_readValueSign h) <|
    .ite (hscalar (fun _ ↦ rfl) fun _ ↦ stays_readAnchor) <|
    .ite (hscalar (fun _ ↦ rfl) fun _ ↦ stays_readAnchor) <|
    .ite (stays_readNode h fun _ ↦ stays_readTag) <|
    .ite (stays_readBlockScalar _ h) <| .ite (stays_readBlockScalar _ h) <|
    .ite (hscalar (fun _ ↦ rfl) fun _ ↦ stays_readQuoted false) <|
    .ite (hscalar (fun _ ↦ rfl) fun _ ↦ stays_readQuoted true) <|
    .ite (stays_readPlainScalar h) trivial

theorem stays_step (h : lexer.cursor.IsIn text) : Stays text (·.1.cursor) lexer.step := by
  unfold step
  refine (stays_dropStale (isIn_toToken h)).bind fun fresh hfresh ↦ ?_
  dsimp only
  have hclosed : (fresh.closeBlocks fun indent ↦
      decide (fresh.cursor.column < indent)).cursor.IsIn text := by
    rw [cursor_closeBlocks]
    exact hfresh
  split
  · exact (stays_readEnd hclosed).bind fun _ hafter ↦ hafter
  · exact (stays_readToken _ hclosed).bind fun _ hafter ↦ hafter

/-- The tokens end for a violation or a fault that the text shows. -/
theorem isFor_run (fuel : Nat) (h : lexer.cursor.IsIn text) {refusal : Refusal}
    (hrefusal : (lexer.run fuel).2 = some refusal) : refusal.IsFor (SyntaxFault text) := by
  induction fuel generalizing lexer with
  | zero =>
    obtain rfl := Option.some.inj hrefusal
    exact trivial
  | succ fuel ih =>
    have hstep := stays_step h
    unfold run at hrefusal
    split at hrefusal
    · cases hrefusal
    · next after hread =>
      rw [hread] at hstep
      exact ih hstep hrefusal
    · next problem hread =>
      rw [hread] at hstep
      obtain rfl := Option.some.inj hrefusal
      exact hstep

end Lexer

theorem TokenStream.isFor_ofText {refusal : Refusal}
    (h : (TokenStream.ofText text).refusal = some refusal) :
    refusal.IsFor (SyntaxFault text) := by
  have hstart : (Lexer.start text).cursor.IsIn text := List.suffix_refl text
  unfold ofText at h
  split at h
  · exact Lexer.isFor_run _ hstart h
  · obtain rfl := Option.some.inj h
    exact trivial

/-! ## Nodes -/

/-- The tokens of a builder end for a violation, or for an allowed fault. -/
def Builder.Sound (allowed : Fault → Prop) (builder : Builder) : Prop :=
  ∀ refusal, builder.refusal = some refusal → refusal.IsFor allowed

/-- A step of building refuses a text for a violation, or for an allowed fault. -/
def Builds (allowed : Fault → Prop) (step : Build α) : Prop :=
  ∀ builder : Builder, builder.Sound allowed →
    Ends (fun found ↦ found.2.Sound allowed) (Refusal.IsFor allowed) (step.run builder)

namespace Builds

variable {allowed : Fault → Prop} {step : Build α}

theorem pure (value : α) : Builds allowed (pure value) := fun _ h ↦ h

theorem refuse (violation : Violation) : Builds allowed (Build.refuse violation : Build α) :=
  fun _ _ ↦ trivial

theorem bind {next : α → Build β} (h : Builds allowed step)
    (hnext : ∀ value, Builds allowed (next value)) : Builds allowed (step >>= next) := by
  intro builder hbuilder
  rw [StateT.run_bind]
  exact (h builder hbuilder).bind fun found hfound ↦ hnext found.1 found.2 hfound

theorem ite {condition : Prop} [Decidable condition] {other : Build α} (h : Builds allowed step)
    (hother : Builds allowed other) : Builds allowed (if condition then step else other) := by
  split
  · exact h
  · exact hother

/-- A step that is left out at times, and what follows it. -/
theorem ite_bind_or {condition : Prop} [Decidable condition] {check : Build Unit}
    {next : Unit → Build β} (h : Builds allowed check) (hnext : Builds allowed (next ())) :
    Builds allowed (if condition then check >>= next else next ()) :=
  .ite (h.bind fun _ ↦ hnext) hnext

/-- One of two steps, and what follows either. -/
theorem ite_bind {condition : Prop} [Decidable condition] {other : Build α} {next : α → Build β}
    (h : Builds allowed step) (hother : Builds allowed other)
    (hnext : ∀ value, Builds allowed (next value)) :
    Builds allowed (if condition then step >>= next else other >>= next) :=
  .ite (h.bind hnext) (hother.bind hnext)

/-- A change that leaves the end of the tokens as it is. -/
theorem modify {change : Builder → Builder}
    (h : ∀ builder, (change builder).refusal = builder.refusal) :
    Builds allowed (modify change : Build PUnit) := by
  intro builder hbuilder refusal hrefusal
  exact hbuilder refusal ((h builder).symm.trans hrefusal)

/-- What is done with the builder as it is. -/
theorem get_bind {next : Builder → Build α}
    (h : ∀ builder, builder.Sound allowed → Builds allowed (next builder)) :
    Builds allowed (get >>= next) := fun builder hbuilder ↦ h builder hbuilder builder hbuilder

end Builds

section Steps

variable {allowed : Fault → Prop}

theorem builds_peek : Builds allowed Build.peek := by
  refine Builds.get_bind fun builder hbuilder ↦ ?_
  split
  · exact Builds.pure _
  · intro other hother
    cases hrefusal : builder.refusal with
    | none => exact trivial
    -- the refusal of the tokens is the one that was met at their end
    | some refusal => exact hbuilder refusal hrefusal

theorem builds_drop : Builds allowed Build.drop := Builds.modify fun _ ↦ rfl

theorem builds_dropIf (token : Token) : Builds allowed (Build.dropIf token) := by
  unfold Build.dropIf
  refine builds_peek.bind fun next ↦ Builds.ite ?_ (Builds.pure _)
  exact builds_drop.bind fun _ ↦ Builds.pure _

theorem builds_expect (token : Token) : Builds allowed (Build.expect token) :=
  (builds_dropIf token).bind fun _ ↦ Builds.ite (Builds.refuse _) (Builds.pure _)

theorem builds_add (node : Node) : Builds allowed (Build.add node) := fun _ h ↦ h

theorem builds_fill (id : NodeId) (content : NodeContent) :
    Builds allowed (Build.fill id content) := Builds.modify fun _ ↦ rfl

theorem builds_bindAnchor (anchor : Option (List Char)) (id : NodeId) :
    Builds allowed (Build.bindAnchor anchor id) := by
  unfold Build.bindAnchor
  split
  · exact Builds.pure _
  · refine Builds.get_bind fun builder hbuilder ↦ ?_
    split
    · exact Builds.refuse _
    · exact fun _ _ ↦ hbuilder

theorem builds_isNext (tokens : List Token) : Builds allowed (Build.isNext tokens) :=
  builds_peek.bind fun _ ↦ Builds.pure _

theorem builds_wholeTag (handle : Option (List Char)) (suffix : List Char) :
    Builds allowed (Build.wholeTag handle suffix) := by
  unfold Build.wholeTag
  split
  · exact Builds.pure _
  · refine Builds.get_bind fun builder _ ↦ ?_
    split
    · exact Builds.pure _
    · exact Builds.refuse _

theorem builds_readAnchor : Builds allowed Build.readAnchor := by
  refine builds_peek.bind fun token ↦ ?_
  split
  · exact builds_drop.bind fun _ ↦ Builds.pure _
  · exact Builds.pure _

theorem builds_readTag : Builds allowed Build.readTag := by
  refine builds_peek.bind fun token ↦ ?_
  split
  · exact builds_drop.bind fun _ ↦ Builds.pure _
  · exact Builds.pure _

theorem builds_readProperties : Builds allowed Build.readProperties := by
  unfold Build.readProperties
  refine builds_readAnchor.bind fun before ↦ builds_readTag.bind fun tag ↦ ?_
  have htag (anchor : Option (List Char))
      {whole : Option (List Char) × List Char → Build (List Char)}
      (hwhole : ∀ found, Builds allowed (whole found)) : Builds allowed (do
        let tag ← tag.mapM whole
        Pure.pure (anchor, tag)) := by
    cases tag with
    | none => exact Builds.pure _
    | some found => exact ((hwhole found).bind fun _ ↦ Builds.pure _).bind fun _ ↦ Builds.pure _
  dsimp only
  split
  · exact builds_readAnchor.bind fun anchor ↦ htag anchor fun found ↦ builds_wholeTag _ _
  · exact htag before fun found ↦ builds_wholeTag _ _

theorem builds_addScalar (anchor : Option (List Char)) (tag : Tag) (chars : List Char) :
    Builds allowed (Build.addScalar anchor tag chars) :=
  (builds_add _).bind fun _ ↦ (builds_bindAnchor _ _).bind fun _ ↦ Builds.pure _

theorem builds_addCollection (anchor : Option (List Char)) (tag : Tag)
    {content : Build NodeContent} (h : Builds allowed content) :
    Builds allowed (Build.addCollection anchor tag content) :=
  (builds_add _).bind fun _ ↦ (builds_bindAnchor _ _).bind fun _ ↦
    h.bind fun _ ↦ (builds_fill _ _).bind fun _ ↦ Builds.pure _

theorem builds_readAlias (name : List Char) : Builds allowed (Build.readAlias name) := by
  refine Builds.get_bind fun builder _ ↦ ?_
  split
  · exact builds_drop.bind fun _ ↦ Builds.pure _
  · exact Builds.refuse _

theorem builds_unlessNext (tokens : List Token) {read : Build NodeId} (h : Builds allowed read) :
    Builds allowed (Build.unlessNext tokens read) :=
  (builds_isNext tokens).bind fun _ ↦ Builds.ite (builds_add _) h

theorem builds_valueUnlessNext (tokens : List Token) {read : Build NodeId}
    (h : Builds allowed read) : Builds allowed (Build.valueUnlessNext tokens read) :=
  (builds_dropIf .value).bind fun _ ↦ Builds.ite (builds_unlessNext tokens h) (builds_add _)

/-- The readers of nodes and of the parts of collections, with some fuel. -/
structure BuildsNodes (allowed : Fault → Prop) (fuel : Nat) : Prop where
  node : ∀ depth site, Builds allowed (Build.readNode fuel depth site)
  blockItems : ∀ depth, Builds allowed (Build.readBlockItems fuel depth)
  bareItems : ∀ depth, Builds allowed (Build.readBareItems fuel depth)
  blockEntries : ∀ depth, Builds allowed (Build.readBlockEntries fuel depth)
  flowItems : ∀ depth isFirst, Builds allowed (Build.readFlowItems fuel depth isFirst)
  flowEntries : ∀ depth isFirst, Builds allowed (Build.readFlowEntries fuel depth isFirst)

variable {fuel depth : Nat}

theorem builds_readNode (hdeep : allowed (.tooDeep "")) (h : BuildsNodes allowed fuel)
    (site : Build.Site) : Builds allowed (Build.readNode (fuel + 1) depth site) := by
  have hcollection (anchor : Option (List Char)) (tag : Tag) {α : Type} {items : Build α}
      (f : α → NodeContent) (hitems : Builds allowed items) : Builds allowed (do
        Build.drop
        Build.addCollection anchor tag (return f (← items))) :=
    builds_drop.bind fun _ ↦ builds_addCollection _ _ (hitems.bind fun _ ↦ Builds.pure _)
  have htooDeep : Builds allowed (throw (.value (.tooDeep "")) : Build Unit) := fun _ _ ↦ hdeep
  unfold Build.readNode
  refine Builds.ite_bind_or htooDeep (builds_peek.bind fun token ↦ ?_)
  split
  · exact builds_readAlias _
  · refine builds_readProperties.bind fun ⟨anchor, tag⟩ ↦ builds_peek.bind fun next ↦ ?_
    dsimp only
    split
    · exact builds_drop.bind fun _ ↦ builds_addScalar _ _ _
    · exact hcollection _ _ _ (h.flowItems _ _)
    · exact hcollection _ _ _ (h.flowEntries _ _)
    · exact hcollection _ _ _ (h.blockItems _)
    · exact hcollection _ _ _ (h.blockItems _)
    · exact hcollection _ _ _ (h.blockEntries _)
    · exact hcollection _ _ _ (h.blockEntries _)
    · exact builds_addCollection _ _ ((h.bareItems _).bind fun _ ↦ Builds.pure _)
    · exact Builds.ite (Builds.refuse _) (builds_addScalar _ _ _)

theorem builds_readBlockItems (h : BuildsNodes allowed fuel) :
    Builds allowed (Build.readBlockItems (fuel + 1) depth) := by
  unfold Build.readBlockItems
  refine (builds_dropIf _).bind fun _ ↦ Builds.ite ?_ ?_
  · refine (builds_unlessNext _ (h.node depth .block)).bind fun item ↦ ?_
    exact (h.blockItems depth).bind fun _ ↦ Builds.pure _
  · exact (builds_expect _).bind fun _ ↦ Builds.pure _

theorem builds_readBareItems (h : BuildsNodes allowed fuel) :
    Builds allowed (Build.readBareItems (fuel + 1) depth) := by
  unfold Build.readBareItems
  refine (builds_dropIf _).bind fun _ ↦ Builds.ite ?_ (Builds.pure _)
  refine (builds_unlessNext _ (h.node depth .block)).bind fun item ↦ ?_
  exact (h.bareItems depth).bind fun _ ↦ Builds.pure _

theorem builds_readBlockEntries (h : BuildsNodes allowed fuel) :
    Builds allowed (Build.readBlockEntries (fuel + 1) depth) := by
  unfold Build.readBlockEntries
  refine (builds_dropIf _).bind fun _ ↦ Builds.ite ?_ ?_
  · refine (builds_unlessNext _ (h.node depth .blockPart)).bind fun key ↦ ?_
    refine (builds_valueUnlessNext _ (h.node depth .blockPart)).bind fun value ↦ ?_
    exact (h.blockEntries depth).bind fun _ ↦ Builds.pure _
  · exact (builds_expect _).bind fun _ ↦ Builds.pure _

theorem builds_readFlowItems (h : BuildsNodes allowed fuel) (isFirst : Bool) :
    Builds allowed (Build.readFlowItems (fuel + 1) depth isFirst) := by
  have hpair : Builds allowed (do
      let key ← Build.unlessNext [.value, .flowEntry, .flowSequenceEnd]
        (Build.readNode fuel (depth + 1) .flow)
      let value ← Build.valueUnlessNext [.flowEntry, .flowSequenceEnd]
        (Build.readNode fuel (depth + 1) .flow)
      return NodeContent.mapping [(key, value)]) :=
    (builds_unlessNext _ (h.node _ _)).bind fun _ ↦
      (builds_valueUnlessNext _ (h.node _ _)).bind fun _ ↦ Builds.pure _
  unfold Build.readFlowItems
  refine (builds_dropIf _).bind fun _ ↦ Builds.ite (Builds.pure _) ?_
  refine Builds.ite_bind_or (builds_expect _) ?_
  refine (builds_dropIf _).bind fun _ ↦ Builds.ite (Builds.pure _) ?_
  refine (builds_dropIf _).bind fun _ ↦ ?_
  refine Builds.ite_bind (builds_addCollection _ _ hpair) (h.node _ _) fun item ↦ ?_
  exact (h.flowItems depth false).bind fun _ ↦ Builds.pure _

theorem builds_readFlowEntries (h : BuildsNodes allowed fuel) (isFirst : Bool) :
    Builds allowed (Build.readFlowEntries (fuel + 1) depth isFirst) := by
  have hnode : Builds allowed (Build.readNode fuel depth .flow) := h.node _ _
  unfold Build.readFlowEntries
  refine (builds_dropIf _).bind fun _ ↦ Builds.ite (Builds.pure _) ?_
  refine Builds.ite_bind_or (builds_expect _) ?_
  refine (builds_dropIf _).bind fun _ ↦ Builds.ite (Builds.pure _) ?_
  refine (builds_dropIf _).bind fun _ ↦ ?_
  refine Builds.ite_bind (builds_unlessNext _ hnode) hnode fun key ↦ ?_
  refine Builds.ite_bind (builds_valueUnlessNext _ hnode) (builds_add _) fun value ↦ ?_
  exact (h.flowEntries depth false).bind fun _ ↦ Builds.pure _

/-- Every reader uses those with less fuel. -/
theorem buildsNodes (hdeep : allowed (.tooDeep "")) (fuel : Nat) : BuildsNodes allowed fuel := by
  induction fuel with
  | zero =>
    constructor
    · exact fun _ _ ↦ Builds.refuse _
    · exact fun _ ↦ Builds.refuse _
    · exact fun _ ↦ Builds.refuse _
    · exact fun _ ↦ Builds.refuse _
    · exact fun _ _ ↦ Builds.refuse _
    · exact fun _ _ ↦ Builds.refuse _
  | succ fuel ih =>
    exact ⟨fun _ ↦ builds_readNode hdeep ih, fun _ ↦ builds_readBlockItems ih,
      fun _ ↦ builds_readBareItems ih, fun _ ↦ builds_readBlockEntries ih,
      fun _ ↦ builds_readFlowItems ih, fun _ ↦ builds_readFlowEntries ih⟩

theorem builds_declaredHandles (hasVersion : Bool) (handles : List (List Char × List Char))
    (tokens : List Token) : Builds allowed (Build.declaredHandles hasVersion handles tokens) := by
  induction tokens generalizing hasVersion handles with
  | nil => exact Builds.pure _
  | cons token tokens ih =>
    unfold Build.declaredHandles
    split
    · next heq =>
      obtain ⟨-, rfl⟩ := List.cons.inj heq
      exact Builds.ite (Builds.refuse _) (ih _ _)
    · next heq =>
      obtain ⟨-, rfl⟩ := List.cons.inj heq
      exact Builds.ite (Builds.refuse _) (ih _ _)
    · next heq =>
      obtain ⟨-, rfl⟩ := List.cons.inj heq
      exact ih _ _
    · exact Builds.pure _

theorem builds_readDirectives : Builds allowed Build.readDirectives :=
  Builds.get_bind fun _ _ ↦ (builds_declaredHandles _ _ _).bind fun _ ↦ Builds.modify fun _ ↦ rfl

theorem builds_readDocument (hdeep : allowed (.tooDeep "")) : Builds allowed Build.readDocument := by
  unfold Build.readDocument
  refine builds_peek.bind fun first ↦ Builds.ite (Builds.pure _) ?_
  refine Builds.get_bind fun _ _ ↦ builds_readDirectives.bind fun _ ↦ ?_
  refine Builds.ite_bind_or (builds_expect _) (builds_peek.bind fun _ ↦ ?_)
  refine Builds.ite_bind (builds_add _) ((buildsNodes hdeep _).node 0 .block) fun root ↦ ?_
  refine Builds.bind (Builds.modify fun _ ↦ rfl) fun _ ↦ builds_peek.bind fun _ ↦ ?_
  exact Builds.ite (Builds.pure _) (Builds.refuse _)

end Steps

/-- A text is refused for a violation of the syntax, a fault that it shows, or its nesting. -/
theorem Graph.isFor_ofText (text : List Char) :
    Ends (fun _ ↦ True) (Refusal.IsFor (SyntaxFault text)) (Graph.ofText text) := by
  have hsound : Builder.Sound (SyntaxFault text)
      { tokens := (TokenStream.ofText text).tokens, refusal := (TokenStream.ofText text).refusal } :=
    fun _ ↦ TokenStream.isFor_ofText
  exact (builds_readDocument .nesting _ hsound).bind fun _ _ ↦ trivial

theorem Graph.syntaxFault_of_ofText {fault : Fault} (h : Graph.ofText text = .error (.value fault)) :
    SyntaxFault text fault := by
  have hfault := Graph.isFor_ofText text
  rw [h] at hfault
  exact hfault

end AddonUpkeep.Yaml
