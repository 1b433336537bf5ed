import AddonUpkeep.Cli.Arguments
import AddonUpkeep.Proofs.Reading
import AddonUpkeep.Proofs.Text.Pieces
import Mathlib.Data.List.Basic

/-!
# Which words approve an update

An update is approved by one word: the long name of the switch, or a start of it that no other
switch of the command has.  No short name, no joined word and no value stands for it.
-/

namespace AddonUpkeep

namespace Cli

open AddonUpkeep.Text

variable {switches : List Switch} {switch : Switch} {text name : List Char}
  {value : Option (List Char)}

namespace WordKind

theorem named?_eq_some (h : named? switches name = some switch) :
    switch ∈ switches ∧ name ∈ switch.names := by
  have hcontains := List.find?_some h
  exact ⟨List.mem_of_find?_eq_some h, List.contains_iff_mem.mp hcontains⟩

theorem mem_startingWith : (switch, name) ∈ startingWith switches text ↔
    switch ∈ switches ∧ name ∈ switch.names ∧ text <+: name := by
  unfold startingWith
  rw [List.mem_flatMap]
  constructor
  · rintro ⟨other, hother, hmem⟩
    obtain ⟨found, hfound, heq⟩ := List.mem_map.mp hmem
    cases heq
    obtain ⟨hname, hstart⟩ := List.mem_filter.mp hfound
    exact ⟨hother, hname, isSome_dropStart?_iff.mp hstart⟩
  · rintro ⟨hswitch, hname, hstart⟩
    refine ⟨switch, hswitch, List.mem_map.mpr ⟨name, ?_, rfl⟩⟩
    exact List.mem_filter.mpr ⟨hname, isSome_dropStart?_iff.mpr hstart⟩

/-- A text without a value is its own name. -/
theorem cutValue_fst (h : (cutValue text).2 = none) : (cutValue text).1 = text := by
  unfold cutValue at h ⊢
  split
  · rfl
  · next heq =>
    rw [heq] at h
    cases h

/-- How a word without a value can name a switch: by a name of it, or by the start of one name
only. -/
structure Names (switches : List Switch) (switch : Switch) (text name : List Char)
    (value : Option (List Char)) : Prop where
  mem_switches : switch ∈ switches
  mem_names : name ∈ switch.names
  of_none : value = none →
    text ∈ switch.names ∨ ['-', '-'] <+: text ∧ startingWith switches text = [(switch, name)]

theorem names_of_ofDashed (h : ofDashed switches text = .ok (.known switch name value)) :
    Names switches switch text name value := by
  unfold ofDashed at h
  dsimp only at h
  split at h
  · next found hfound =>
    -- the exact name, with a value behind an equals sign
    cases h
    split at hfound
    · next hsome =>
      obtain ⟨hswitch, hname⟩ := named?_eq_some hfound
      refine ⟨hswitch, hname, fun hnone ↦ ?_⟩
      rw [hnone] at hsome
      cases hsome
    · cases hfound
  · split at h
    · split at h
      · cases h
      · cases h
    · next one hone =>
      rw [Except.ok.inj h] at hone
      split at hone
      · next hdashes =>
        obtain ⟨⟨other, found⟩, hstarting, heq⟩ := List.map_eq_singleton_iff.mp hone
        cases heq
        have hmem : (other, found) ∈ startingWith switches (cutValue text).1 := by
          rw [hstarting]
          exact List.mem_singleton.mpr rfl
        obtain ⟨hswitch, hname, -⟩ := mem_startingWith.mp hmem
        refine ⟨hswitch, hname, fun hnone ↦ .inr ⟨isSome_dropStart?_iff.mp hdashes, ?_⟩⟩
        rw [cutValue_fst hnone] at hstarting
        exact hstarting
      · -- a short name, whose value is the rest of the word
        cases hnamed : named? switches (text.take 2) with
        | none =>
          rw [hnamed] at hone
          cases hone
        | some found =>
          rw [hnamed] at hone
          cases hone
          obtain ⟨hswitch, hname⟩ := named?_eq_some hnamed
          exact ⟨hswitch, hname, fun hnone ↦ by cases hnone⟩
    · cases h

theorem names_of_ofText (h : ofText switches text = .ok (.known switch name value)) :
    Names switches switch text name value := by
  unfold ofText at h
  split at h
  · split at h
    · next found hfound =>
      cases h
      obtain ⟨hswitch, hname⟩ := named?_eq_some hfound
      exact ⟨hswitch, hname, fun _ ↦ .inl hname⟩
    · split at h
      · cases h
      · exact names_of_ofDashed h
  · cases h

end WordKind

/-- The words that kinds were found of. -/
theorem map_classify {words : List String} {kinds : List (WordKind × String)}
    (h : classify switches words = .ok kinds) : kinds.map (·.2) = words := by
  induction words generalizing kinds with
  | nil =>
    cases h
    rfl
  | cons word words ih =>
    unfold classify at h
    split at h
    · cases h
      simp [Function.comp_def]
    · obtain ⟨kind, -, h⟩ := bind_eq_ok_iff.mp h
      obtain ⟨rest, hrest, h⟩ := bind_eq_ok_iff.mp h
      cases h
      rw [List.map_cons, ih hrest]

/-- A word of which a switch was found is not the dashes, and names the switch. -/
theorem names_of_classify {words : List String} {kinds : List (WordKind × String)} {word : String}
    (h : classify switches words = .ok kinds)
    (hmem : (WordKind.known switch name value, word) ∈ kinds) :
    word ≠ "--" ∧ WordKind.Names switches switch word.toList name value := by
  induction words generalizing kinds with
  | nil =>
    cases h
    cases hmem
  | cons first words ih =>
    unfold classify at h
    split at h
    · cases h
      rcases List.mem_cons.mp hmem with hfirst | hlater
      · cases hfirst
      · obtain ⟨other, -, heq⟩ := List.mem_map.mp hlater
        cases heq
    · next hne =>
      obtain ⟨kind, hkind, h⟩ := bind_eq_ok_iff.mp h
      obtain ⟨rest, hrest, h⟩ := bind_eq_ok_iff.mp h
      cases h
      rcases List.mem_cons.mp hmem with hfirst | hlater
      · cases hfirst
        exact ⟨hne, WordKind.names_of_ofText hkind⟩
      · exact ih hrest hlater

namespace SwitchWord

/-- The word asks for approval. -/
def Approves (word : SwitchWord) : Prop :=
  .approve ∈ word.complete.map (·.1) ∨ word.unfinished = some .approve

theorem approves_last (h : (last switch).Approves) : switch = .approve := by
  unfold last at h
  split at h
  · rcases h with hcomplete | hunfinished
    · cases hcomplete
    · exact Option.some.inj hunfinished
  · rcases h with hcomplete | hunfinished
    · exact (List.mem_singleton.mp hcomplete).symm
    · cases hunfinished

/-- No short name asks for approval, so joined names ask for it only if the first does. -/
theorem approves_joined {word : SwitchWord} (h : joined switches text switch = .ok word)
    (happroves : word.Approves) : switch = .approve := by
  induction text generalizing switch word with
  | nil =>
    cases h
    exact approves_last happroves
  | cons c rest ih =>
    unfold joined at h
    split at h
    · cases h
      rcases happroves with hcomplete | hunfinished
      · exact (List.mem_singleton.mp hcomplete).symm
      · cases hunfinished
    · split at h
      · next next hnext =>
        cases hrest : joined switches rest next with
        | error problem =>
          rw [hrest] at h
          cases h
        | ok more =>
          rw [hrest] at h
          cases h
          have hlater : ¬ more.Approves := by
            intro hmore
            have happrove := ih hrest hmore
            obtain ⟨-, hname⟩ := WordKind.named?_eq_some hnext
            rw [happrove] at hname
            have hlength := congrArg List.length (List.mem_singleton.mp hname)
            rw [List.length_cons, List.length_singleton] at hlength
            exact absurd hlength (by decide)
          rcases happroves with hcomplete | hunfinished
          · rcases List.mem_cons.mp hcomplete with heq | hmem
            · exact heq.symm
            · exact absurd (.inl hmem) hlater
          · exact absurd (.inr hunfinished) hlater
      · cases h

/-- A word that asks for approval has a name of the switch and no value. -/
theorem approves_read {word : SwitchWord} (hname : name ∈ switch.names)
    (h : read switches switch name value = .ok word) (happroves : word.Approves) :
    switch = .approve ∧ value = none := by
  unfold read at h
  split at h
  · cases h
    exact ⟨approves_last happroves, rfl⟩
  · next given =>
    split at h
    · next htakes =>
      cases h
      rcases happroves with hcomplete | hunfinished
      · have happrove : .approve = switch := List.mem_singleton.mp hcomplete
        rw [← happrove] at htakes
        cases htakes
      · cases hunfinished
    · split at h
      · next hshort =>
        have happrove := approves_joined h happroves
        rw [happrove] at hname
        have hlength := congrArg List.length (List.mem_singleton.mp hname)
        rw [hshort.1] at hlength
        exact absurd hlength (by decide)
      · cases h

end SwitchWord

/-- One more switch approves only when it is the one for it. -/
theorem approve_of_add {arguments after : Arguments} {given : Switch × Value}
    (h : arguments.add given = .ok after) (happrove : after.approve = true) :
    arguments.approve = true ∨ given.1 = .approve := by
  obtain ⟨switch, value⟩ := given
  cases switch with
  | help => cases h
  | version => cases h
  | approve => exact .inr rfl
  | _ =>
    cases h
    exact .inl happrove

theorem approve_of_foldlM_add {row : List (Switch × Value)} {arguments after : Arguments}
    (h : row.foldlM Arguments.add arguments = .ok after) (happrove : after.approve = true) :
    arguments.approve = true ∨ .approve ∈ row.map (·.1) := by
  induction row generalizing arguments with
  | nil =>
    cases h
    exact .inl happrove
  | cons given row ih =>
    rw [List.foldlM_cons] at h
    obtain ⟨next, hnext, hrest⟩ := bind_eq_ok_iff.mp h
    rcases ih hrest with hearlier | hlater
    · rcases approve_of_add hnext hearlier with hbefore | hgiven
      · exact .inl hbefore
      · exact .inr (List.mem_cons.mpr (.inl hgiven.symm))
    · exact .inr (List.mem_cons_of_mem _ hlater)

/-- Some word is the switch for approval, and has no value. -/
def HasApproval (kinds : List (WordKind × String)) : Prop :=
  ∃ name word, (WordKind.known .approve name none, word) ∈ kinds

theorem HasApproval.cons {kinds : List (WordKind × String)} (kind : WordKind × String)
    (h : HasApproval kinds) : HasApproval (kind :: kinds) := by
  obtain ⟨name, word, hmem⟩ := h
  exact ⟨name, word, List.mem_cons_of_mem _ hmem⟩

/-- Every switch among the words goes by a name of its own. -/
def WellNamed (kinds : List (WordKind × String)) : Prop :=
  ∀ switch name value word, (WordKind.known switch name value, word) ∈ kinds →
    name ∈ switch.names

theorem WellNamed.tail {kind : WordKind × String} {kinds : List (WordKind × String)}
    (h : WellNamed (kind :: kinds)) : WellNamed kinds :=
  fun switch name value word hmem ↦ h switch name value word (List.mem_cons_of_mem _ hmem)

/-- What reading words does to the approval and to the words behind. -/
structure Walked (kinds : List (WordKind × String)) (state after : Walk) : Prop where
  approve : after.arguments.approve = true → state.arguments.approve = true ∨ HasApproval kinds
  behind : ∀ word ∈ after.behind, word ∈ state.behind ∨ word ∈ kinds.map (·.2)

namespace Walked

variable {kinds : List (WordKind × String)} {state next after : Walk}

/-- One word more in front, which changes neither the approval nor the words behind. -/
theorem skip (h : Walked kinds next after) (kind : WordKind × String)
    (happrove : next.arguments = state.arguments) (hbehind : next.behind = state.behind) :
    Walked (kind :: kinds) state after where
  approve hafter := by
    rw [← happrove]
    exact (h.approve hafter).imp_right (·.cons kind)
  behind word hword := by
    rw [← hbehind]
    exact (h.behind word hword).imp_right (List.mem_cons_of_mem _)

/-- The words behind are those from a word on. -/
theorem stop (kind : WordKind × String) (rest : List (WordKind × String)) (state : Walk) :
    Walked (kind :: rest) state { state with behind := kind.2 :: rest.map (·.2) } where
  approve := .inl
  behind _ hword := .inr hword

/-- The switches of one word in front. -/
theorem add {arguments : Arguments} (h : Walked kinds { state with arguments } after)
    (kind : WordKind × String) {row : List (Switch × Value)}
    (hrow : row.foldlM Arguments.add state.arguments = .ok arguments)
    (happroves : .approve ∈ row.map (·.1) → HasApproval (kind :: kinds)) :
    Walked (kind :: kinds) state after where
  approve hafter := by
    rcases h.approve hafter with hread | hlater
    · exact (approve_of_foldlM_add hrow hread).imp_right happroves
    · exact .inr (hlater.cons kind)
  behind word hword := (h.behind word hword).imp_right (List.mem_cons_of_mem _)

end Walked

/-- The word of a switch among well named ones asks for approval only by itself. -/
theorem hasApproval_of_read {kinds : List (WordKind × String)} {word : String} {read : SwitchWord}
    (hnames : WellNamed ((.known switch name value, word) :: kinds))
    (h : SwitchWord.read switches switch name value = .ok read) (happroves : read.Approves) :
    HasApproval ((.known switch name value, word) :: kinds) := by
  have hname := hnames switch name value word List.mem_cons_self
  obtain ⟨rfl, rfl⟩ := SwitchWord.approves_read hname h happroves
  exact ⟨name, word, List.mem_cons_self⟩

theorem walked_of_walk {endsAtPlain : Bool} {kinds : List (WordKind × String)}
    {state after : Walk} (hnames : WellNamed kinds)
    (h : walk switches endsAtPlain kinds state = .ok after) : Walked kinds state after := by
  induction kinds, state using walk.induct switches endsAtPlain with
  | case1 state =>
    cases h
    exact ⟨.inl, fun _ ↦ .inl⟩
  | case2 word rest state ih => exact (ih hnames.tail h).skip _ rfl rfl
  | case3 word rest state hends =>
    rw [walk, if_pos hends] at h
    cases h
    exact .stop _ rest state
  | case4 word rest state hends ih =>
    rw [walk, if_neg hends] at h
    exact (ih hnames.tail h).skip _ rfl rfl
  | case5 word rest state hends =>
    rw [walk, if_pos hends] at h
    cases h
    exact .stop _ rest state
  | case6 word rest state hends ih =>
    rw [walk, if_neg hends] at h
    exact (ih hnames.tail h).skip _ rfl rfl
  | case7 switch name value word rest state problem hread =>
    rw [walk, hread] at h
    cases h
  | case8 switch name value word state read hread rest hunfinished ih =>
    rw [walk, hread] at h
    simp only [hunfinished] at h
    obtain ⟨arguments, hrow, hrest⟩ := bind_eq_ok_iff.mp h
    exact (ih arguments hnames.tail hrest).add _ hrow fun happroves ↦
      hasApproval_of_read hnames hread (.inl happroves)
  | case9 switch name value word state read hread unfinished given rest hunfinished ih =>
    rw [walk, hread] at h
    simp only [hunfinished] at h
    obtain ⟨arguments, hrow, hrest⟩ := bind_eq_ok_iff.mp h
    have hlater : Walked ((.plain, given) :: rest) { state with arguments } after :=
      (ih arguments hnames.tail.tail hrest).skip _ rfl rfl
    refine hlater.add _ hrow fun happroves ↦ hasApproval_of_read hnames hread ?_
    rw [List.map_append] at happroves
    rcases List.mem_append.mp happroves with hcomplete | hlast
    · exact .inl hcomplete
    · have happrove : .approve = unfinished := List.mem_singleton.mp hlast
      rw [← happrove] at hunfinished
      exact .inr hunfinished
  | case10 switch name value word rest state read hread unfinished hunfinished hplain =>
    rw [walk, hread] at h
    simp only [hunfinished] at h
    cases h

theorem wellNamed_of_classify {words : List String} {kinds : List (WordKind × String)}
    (h : classify switches words = .ok kinds) : WellNamed kinds := by
  intro switch name value word hmem
  exact (names_of_classify h hmem).2.mem_names

/-- Nothing in front of the command approves, and what stands behind is made of the words. -/
theorem front_of_walk {words : List String} {kinds : List (WordKind × String)} {front : Walk}
    (hkinds : classify commonSwitches words = .ok kinds)
    (h : walk commonSwitches true kinds {} = .ok front) :
    front.arguments.approve ≠ true ∧ ∀ word ∈ front.behind, word ∈ words := by
  have hwalked := walked_of_walk (wellNamed_of_classify hkinds) h
  constructor
  · intro happrove
    rcases hwalked.approve happrove with hstart | ⟨name, word, hmem⟩
    · cases hstart
    · have hcommon := (names_of_classify hkinds hmem).2.mem_switches
      exact absurd hcommon (by decide)
  · intro word hword
    rcases hwalked.behind word hword with hstart | hread
    · cases hstart
    · rwa [map_classify hkinds] at hread

/-- Words behind a command approve only by a switch among them, if nothing did in front. -/
theorem approval_of_readBehind {command : Command} {words : List String} {front : Walk}
    {arguments : Arguments} (h : readBehind command words front = .ok arguments)
    (hfront : front.arguments.approve ≠ true) (happrove : arguments.approve = true) :
    ∃ kinds, classify command.switches words = .ok kinds ∧ HasApproval kinds := by
  obtain ⟨kinds, hkinds, h⟩ := bind_eq_ok_iff.mp h
  obtain ⟨after, hafter, h⟩ := bind_eq_ok_iff.mp h
  have hkinds := mapError_eq_ok_iff.mp hkinds
  have harguments : after.arguments = arguments := by
    split at h
    · cases h
    · split at h
      · cases h
      · exact Except.ok.inj h
  rw [← harguments] at happrove
  have hwalked := walked_of_walk (wellNamed_of_classify hkinds) hafter
  rcases hwalked.approve happrove with hearlier | happroval
  · exact absurd hearlier hfront
  · exact ⟨kinds, hkinds, happroval⟩

/-- The command and the approval come from the words: the name of the command is one of them, and
an approval comes from a switch behind it. -/
theorem approval_of_parse {words : List String} {command : Command} {arguments : Arguments}
    (h : parse words = .ok (command, arguments)) :
    command.name ∈ words ∧ (arguments.approve = true →
      ∃ rest kinds, (∀ word ∈ rest, word ∈ words) ∧
        classify command.switches rest = .ok kinds ∧ HasApproval kinds) := by
  obtain ⟨kinds, hkinds, h⟩ := bind_eq_ok_iff.mp h
  obtain ⟨front, hwalk, h⟩ := bind_eq_ok_iff.mp h
  obtain ⟨hnone, hbehind⟩ := front_of_walk (mapError_eq_ok_iff.mp hkinds) hwalk
  split at h
  · cases h
  · next name rest hname =>
    rw [hname] at hbehind
    split at h
    · cases h
    · next found hfound =>
      obtain ⟨read, hread, h⟩ := bind_eq_ok_iff.mp h
      cases h
      have hcommand : command.name = name := by
        have hfound := List.find?_some hfound
        exact beq_iff_eq.mp hfound
      rw [hcommand]
      refine ⟨hbehind name List.mem_cons_self, fun happrove ↦ ?_⟩
      obtain ⟨kinds, hkinds, happroval⟩ := approval_of_readBehind hread hnone happrove
      exact ⟨rest, kinds, fun word hword ↦ hbehind word (List.mem_cons_of_mem _ hword), hkinds,
        happroval⟩

/-- The start of the name of the switch for approval that is left when the name is cut.  Three
characters start the name of another switch as well. -/
theorem start_of_names {word : String} (hne : word ≠ "--")
    (h : WordKind.Names Command.update.switches .approve word.toList name none) :
    4 ≤ word.toList.length ∧ word.toList <+: "--approve".toList := by
  rcases h.of_none rfl with hwhole | ⟨hdashes, hstarting⟩
  · rw [List.mem_singleton.mp hwhole]
    exact ⟨by decide, List.prefix_rfl⟩
  · have hmem : (Switch.approve, name) ∈
        WordKind.startingWith Command.update.switches word.toList := by
      rw [hstarting]
      exact List.mem_singleton.mpr rfl
    obtain ⟨-, hname, hstart⟩ := WordKind.mem_startingWith.mp hmem
    rw [List.mem_singleton.mp hname] at hstart
    refine ⟨?_, hstart⟩
    by_contra hshort
    have htwo : 2 ≤ word.toList.length := hdashes.length_le
    have htake := List.prefix_iff_eq_take.mp hstart
    obtain hlength | hlength : word.toList.length = 2 ∨ word.toList.length = 3 := by omega
    · rw [hlength] at htake
      exact hne (String.toList_injective htake)
    · rw [hlength] at htake
      rw [htake] at hstarting
      have hcount := congrArg List.length hstarting
      rw [List.length_singleton] at hcount
      exact absurd hcount (by decide)

/-- An update that is approved was asked for by its name and by a word that approves it. -/
theorem words_of_approval {words : List String} {arguments : Arguments}
    (h : parse words = .ok (.update, arguments)) (happrove : arguments.approve = true) :
    "update" ∈ words ∧ ∃ word ∈ words, 4 ≤ word.toList.length ∧
      word.toList <+: "--approve".toList := by
  obtain ⟨hcommand, happroval⟩ := approval_of_parse h
  obtain ⟨rest, kinds, hrest, hkinds, name, word, hmem⟩ := happroval happrove
  have hword : word ∈ rest := by
    rw [← map_classify hkinds]
    exact List.mem_map_of_mem hmem
  obtain ⟨hne, hnames⟩ := names_of_classify hkinds hmem
  exact ⟨hcommand, word, hrest word hword, start_of_names hne hnames⟩

end Cli

end AddonUpkeep
