import AddonUpkeep.Cli.Run
import AddonUpkeep.Proofs.Text.Pieces
import AddonUpkeep.Proofs.Text.Trimming

/-!
# Lists of names

A list of names is written with commas.  Blanks around a name and blank items do not count, so one
row of names has many lists, and every list is one of the lists of the names that are read from it.
-/

namespace AddonUpkeep.Cli

open AddonUpkeep.Text

/-- A name that can stand in a list: not empty, without commas and without blanks at its ends. -/
structure IsListable (name : String) : Prop where
  ne_empty : name ≠ ""
  not_mem : ',' ∉ name.toList
  trim_eq : trim name = name

/-- The names that the items of a list spell: each of them with blanks around it, and blank items
anywhere between them. -/
inductive Spell : List String → List String → Prop
  | nil : Spell [] []
  | blank {item : String} {items names : List String} (hblank : isBlankText item = true)
      (hrest : Spell items names) : Spell (item :: items) names
  | name {item name : String} {items names : List String} {before behind : List Char}
      (hbefore : ∀ c ∈ before, isBlank c = true) (hbehind : ∀ c ∈ behind, isBlank c = true)
      (hitem : item.toList = before ++ name.toList ++ behind) (hrest : Spell items names) :
      Spell (item :: items) (name :: names)

variable {items names : List String} {item name list : String}

theorem isBlank_ne_comma {c : Char} (h : isBlank c = true) : c ≠ ',' := by
  rintro rfl
  revert h
  decide

theorem trim_eq_empty_iff : trim item = "" ↔ isBlankText item = true := by
  rw [← String.toList_inj, toList_trim, isBlankText, List.all_eq_true]
  exact trimBlanks_eq_nil_iff

theorem trim_of_surrounded {before behind : List Char} (hbefore : ∀ c ∈ before, isBlank c = true)
    (hbehind : ∀ c ∈ behind, isBlank c = true)
    (hitem : item.toList = before ++ name.toList ++ behind) : trim item = trim name := by
  rw [← String.toList_inj, toList_trim, toList_trim, hitem, trimBlanks_surrounded hbefore hbehind]

/-- A list is cut into the items that it was joined from. -/
theorem addonNames_join_items (h : ∀ item ∈ items, ',' ∉ item.toList) :
    addonNames (join "," items) = (items.map trim).filter (!·.isEmpty) := by
  cases items with
  | nil => rfl
  | cons item items =>
    have hpieces : pieces ',' (join "," (item :: items)).toList =
        (item :: items).map String.toList := by
      rw [join, String.toList_ofList]
      exact pieces_joinPieces (List.cons_ne_nil _ _)
        (List.forall_mem_map.mpr h)
    rw [addonNames, hpieces, List.map_map]
    rfl

namespace Spell

theorem not_mem_comma (hnames : ∀ name ∈ names, IsListable name) (h : Spell items names) :
    ∀ item ∈ items, ',' ∉ item.toList := by
  induction h with
  | nil => exact List.forall_mem_nil _
  | blank hblank _ ih =>
    refine List.forall_mem_cons.mpr ⟨fun hc ↦ ?_, ih hnames⟩
    exact isBlank_ne_comma (List.all_eq_true.mp hblank _ hc) rfl
  | name hbefore hbehind hitem _ ih =>
    obtain ⟨hname, hrest⟩ := List.forall_mem_cons.mp hnames
    refine List.forall_mem_cons.mpr ⟨fun hc ↦ ?_, ih hrest⟩
    rw [hitem, List.mem_append, List.mem_append] at hc
    rcases hc with (hc | hc) | hc
    · exact isBlank_ne_comma (hbefore _ hc) rfl
    · exact hname.not_mem hc
    · exact isBlank_ne_comma (hbehind _ hc) rfl

/-- What is left of the items, without those of which nothing is left, are the names. -/
theorem filter_eq (hnames : ∀ name ∈ names, IsListable name) (h : Spell items names) :
    (items.map trim).filter (!·.isEmpty) = names := by
  induction h with
  | nil => rfl
  | blank hblank _ ih =>
    rw [List.map_cons, trim_eq_empty_iff.mpr hblank]
    exact ih hnames
  | @name item name items names before behind hbefore hbehind hitem _ ih =>
    obtain ⟨hname, hrest⟩ := List.forall_mem_cons.mp hnames
    have hkept : (!name.isEmpty) = true := by simpa using hname.ne_empty
    rw [List.map_cons, trim_of_surrounded hbefore hbehind hitem, hname.trim_eq, List.filter_cons,
      if_pos hkept, ih hrest]

/-- Names are spelled by themselves. -/
theorem refl (names : List String) : Spell names names := by
  induction names with
  | nil => exact .nil
  | cons name names ih =>
    exact .name (List.forall_mem_nil _) (List.forall_mem_nil _) (by simp) ih

/-- Items spell what is left of them. -/
theorem of_items (items : List String) : Spell items ((items.map trim).filter (!·.isEmpty)) := by
  induction items with
  | nil => exact .nil
  | cons item items ih =>
    rw [List.map_cons]
    by_cases hblank : isBlankText item = true
    · rw [trim_eq_empty_iff.mpr hblank]
      exact .blank hblank ih
    · have hkept : (!(trim item).isEmpty) = true := by
        simpa using mt trim_eq_empty_iff.mp hblank
      obtain ⟨before, behind, hbefore, hbehind, hitem⟩ := exists_surrounded item.toList
      rw [List.filter_cons, if_pos hkept]
      exact .name hbefore hbehind (by rw [toList_trim]; exact hitem) ih

end Spell

/-- The names of a list are those that its items spell. -/
theorem addonNames_of_spell (hnames : ∀ name ∈ names, IsListable name) (h : Spell items names) :
    addonNames (join "," items) = names := by
  rw [addonNames_join_items (h.not_mem_comma hnames), h.filter_eq hnames]

/-- The items between the commas of a list. -/
def itemsOf (list : String) : List String := (pieces ',' list.toList).map String.ofList

theorem join_itemsOf (list : String) : join "," (itemsOf list) = list := by
  rw [← String.toList_inj, join, String.toList_ofList, itemsOf, List.map_map]
  have hsame : String.toList ∘ String.ofList = id := funext fun _ ↦ String.toList_ofList
  rw [hsame, List.map_id]
  exact joinPieces_pieces ',' list.toList

theorem addonNames_eq (list : String) :
    addonNames list = ((itemsOf list).map trim).filter (!·.isEmpty) := by
  rw [addonNames, itemsOf, List.map_map]
  congr 2
  funext piece
  simp [trim]

theorem isListable_of_mem (h : name ∈ addonNames list) : IsListable name := by
  rw [addonNames_eq, List.mem_filter] at h
  obtain ⟨hmem, hkept⟩ := h
  obtain ⟨item, hitem, rfl⟩ := List.mem_map.mp hmem
  obtain ⟨piece, hpiece, rfl⟩ := List.mem_map.mp hitem
  refine ⟨by simpa using hkept, fun hc ↦ ?_, ?_⟩
  · rw [toList_trim, String.toList_ofList] at hc
    exact not_mem_of_mem_pieces hpiece (mem_of_mem_trimBlanks hc)
  · rw [← String.toList_inj, toList_trim, toList_trim, trimBlanks_trimBlanks]

/-- Reading a list of names.  Every name that is read is not empty, has no comma and no blanks at
its ends, and the names joined by commas are read again.  Some names are read of a list exactly when
they are such names, and the list is made of items that spell them: each name in its place, with
blanks around it, and blank items anywhere between. -/
theorem addonNames_normal (list : String) :
    (∀ name ∈ addonNames list, IsListable name) ∧
    addonNames (join "," (addonNames list)) = addonNames list ∧
    ∀ names, addonNames list = names ↔
      (∀ name ∈ names, IsListable name) ∧ ∃ items, Spell items names ∧ list = join "," items := by
  have hlistable : ∀ name ∈ addonNames list, IsListable name := fun _ ↦ isListable_of_mem
  refine ⟨hlistable, addonNames_of_spell hlistable (.refl _), fun names ↦ ⟨?_, ?_⟩⟩
  · rintro rfl
    refine ⟨hlistable, itemsOf list, ?_, (join_itemsOf list).symm⟩
    rw [addonNames_eq]
    exact .of_items _
  · rintro ⟨hnames, items, hspell, rfl⟩
    exact addonNames_of_spell hnames hspell

/-- A name that is given twice is read twice, in its places, between blank items. -/
theorem addonNames_normal_of_blank_items :
    let items := [" proxy ", "", "\tkube-proxy", "  ", "proxy"]
    let names := ["proxy", "kube-proxy", "proxy"]
    (∀ name ∈ names, IsListable name) ∧ Spell items names ∧
      addonNames (join "," items) = names := by
  intro items names
  have hlistable : ∀ name ∈ names, IsListable name := by
    have hproperties : ∀ name ∈ names, name ≠ "" ∧ ',' ∉ name.toList ∧ trim name = name := by
      decide +kernel
    intro name hname
    obtain ⟨hne, hcomma, htrim⟩ := hproperties name hname
    exact ⟨hne, hcomma, htrim⟩
  have hspell : Spell items names := by
    have hspelled : names = (items.map trim).filter (!·.isEmpty) := by decide +kernel
    rw [hspelled]
    exact .of_items items
  have hread := ((addonNames_normal (join "," items)).2.2 names).mpr
    ⟨hlistable, items, hspell, rfl⟩
  exact ⟨hlistable, hspell, hread⟩

end AddonUpkeep.Cli
