import AddonUpkeep.Table
import Mathlib.Data.List.Induction
import Mathlib.Data.List.Nodup

/-!
# Storing in tables

A key that is there keeps its place, and a new one comes last.  So a table that starts without two
entries of one key stays without, and what is stored under other keys is still found.  Of entries
that are stored one after the other, the first of a key gives the place and the last one the value.
-/

namespace AddonUpkeep

section Distinct

variable {β : Type} [BEq β] [LawfulBEq β]

/-- One more item counts only when it did not come before. -/
theorem eraseDups_concat (items : List β) (item : β) :
    (items ++ [item]).eraseDups =
      if item ∈ items then items.eraseDups else items.eraseDups ++ [item] := by
  rw [List.eraseDups_append]
  by_cases h : item ∈ items
  · simp [List.removeAll, h]
  · simp [List.removeAll, h, List.eraseDups_cons]

theorem nodup_eraseDups (items : List β) : items.eraseDups.Nodup := by
  induction items using List.reverseRecOn with
  | nil => exact List.nodup_nil
  | append_singleton items item ih =>
    rw [eraseDups_concat]
    split
    · exact ih
    · next hnew =>
      rw [← List.concat_eq_append]
      exact ih.concat fun hmem ↦ hnew (List.mem_eraseDups.mp hmem)

theorem eraseDups_of_nodup {items : List β} (h : items.Nodup) : items.eraseDups = items := by
  induction items using List.reverseRecOn with
  | nil => rfl
  | append_singleton items item ih =>
    obtain ⟨hitems, -, hnew⟩ := List.nodup_append.mp h
    rw [eraseDups_concat, if_neg fun hmem ↦ hnew item hmem item List.mem_cons_self rfl, ih hitems]

theorem eraseDups_sublist (items : List β) : items.eraseDups.Sublist items := by
  induction items using List.reverseRecOn with
  | nil => exact .slnil
  | append_singleton items item ih =>
    rw [eraseDups_concat]
    split
    · exact ih.trans (List.sublist_append_left _ _)
    · exact ih.append (.refl _)

/-- Dropping what came before shortens a list, unless no item comes twice. -/
theorem length_eraseDups_eq_iff {items : List β} :
    items.eraseDups.length = items.length ↔ items.Nodup := by
  constructor
  · intro h
    rw [← (eraseDups_sublist items).eq_of_length h]
    exact nodup_eraseDups items
  · intro h
    rw [eraseDups_of_nodup h]

end Distinct

namespace Table

variable {κ ν : Type} [BEq κ]

theorem get?_cons (entry : κ × ν) (rest : Table κ ν) (key : κ) :
    get? (entry :: rest) key = if entry.1 == key then some entry.2 else get? rest key := by
  unfold get?
  rw [List.find?_cons]
  cases entry.1 == key with
  | true => rfl
  | false => rfl

/-- An entry behind a change was there before, or has the value that was stored. -/
theorem mem_put {table : Table κ ν} {key : κ} {value : ν} {entry : κ × ν}
    (h : entry ∈ table.put key value) : entry ∈ table ∨ entry.2 = value := by
  induction table with
  | nil =>
    rw [put, List.mem_singleton] at h
    rw [h]
    exact .inr rfl
  | cons other table ih =>
    unfold put at h
    split at h
    · rcases List.mem_cons.mp h with rfl | hrest
      · exact .inr rfl
      · exact .inl (List.mem_cons_of_mem _ hrest)
    · rcases List.mem_cons.mp h with rfl | hrest
      · exact .inl (by simp)
      · rcases ih hrest with hold | hnew
        · exact .inl (List.mem_cons_of_mem _ hold)
        · exact .inr hnew

/-- The first entry that has a key is the one that is overwritten. -/
theorem put_of_first {before after : Table κ ν} {held key : κ} {old : ν} (value : ν)
    (hbefore : ∀ entry ∈ before, (entry.1 == key) = false) (hheld : (held == key) = true) :
    put (before ++ (held, old) :: after) key value = before ++ (held, value) :: after := by
  induction before with
  | nil => simp [put, hheld]
  | cons entry before ih =>
    have hne : (entry.1 == key) = false := hbefore entry List.mem_cons_self
    have hrest := ih fun other hother ↦ hbefore other (List.mem_cons_of_mem _ hother)
    simp [put, hne, hrest]

variable [LawfulBEq κ]

theorem put_put_self (table : Table κ ν) (key : κ) (first second : ν) :
    (table.put key first).put key second = table.put key second := by
  induction table with
  | nil => simp [put]
  | cons entry rest ih =>
    by_cases hk : entry.1 = key
    · simp [put, hk]
    · simpa [put, hk] using ih

/-- Storing the value that is there already changes nothing. -/
theorem put_of_get? (table : Table κ ν) (key : κ) (value : ν) (h : table.get? key = some value) :
    table.put key value = table := by
  induction table with
  | nil => simp at h
  | cons entry rest ih =>
    by_cases hk : entry.1 = key
    · have hv : entry.2 = value := by simpa [get?, hk] using h
      simp only [put, hk, beq_self_eq_true, if_true, List.cons.injEq, and_true]
      exact Prod.ext hk.symm hv.symm
    · have hrest : get? rest key = some value := by simpa [get?, hk] using h
      simpa [put, hk] using ih hrest

/-- Values under two keys that are both there can be stored in either order. -/
theorem put_comm (table : Table κ ν) {key other : κ} (first second : ν) (hne : key ≠ other)
    (hkey : (table.get? key).isSome) (hother : (table.get? other).isSome) :
    (table.put key first).put other second = (table.put other second).put key first := by
  induction table with
  | nil => simp at hkey
  | cons entry rest ih =>
    by_cases hk : entry.1 = key
    · have ho : ¬ entry.1 = other := fun he ↦ hne (hk.symm.trans he)
      have ho' : ¬ key = other := hne
      simp [put, hk, ho']
    · by_cases ho : entry.1 = other
      · have hk' : ¬ other = key := fun he ↦ hne he.symm
        simp [put, ho, hk']
      · have hkey' : (get? rest key).isSome := by simpa [get?, hk] using hkey
        have hother' : (get? rest other).isSome := by simpa [get?, ho] using hother
        simpa [put, hk, ho] using ih hkey' hother'

theorem put_of_not_mem {table : Table κ ν} {key : κ} (value : ν) (h : key ∉ table.keys) :
    table.put key value = table ++ [(key, value)] := by
  induction table with
  | nil => rfl
  | cons entry rest ih =>
    have hne : ¬ entry.1 = key := fun heq ↦ h (by simp [keys, heq])
    have hrest : key ∉ keys rest := fun hmem ↦ h (List.mem_cons_of_mem _ hmem)
    simp [put, hne, ih hrest]

/-- Storing the value that belongs to a key, among keys that all have theirs. -/
theorem put_map (keys : List κ) (value : κ → ν) (key : κ) :
    put (keys.map fun key ↦ (key, value key)) key (value key) =
      (if key ∈ keys then keys else keys ++ [key]).map fun key ↦ (key, value key) := by
  induction keys with
  | nil => simp [put]
  | cons first rest ih =>
    by_cases hk : first = key
    · subst hk
      simp [put]
    · have hne : ¬ key = first := fun heq ↦ hk heq.symm
      by_cases hmem : key ∈ rest
      · simp [put, hk, hmem, ih]
      · simp [put, hk, hne, hmem, ih]

theorem nodup_keys_put {table : Table κ ν} (h : table.keys.Nodup) (key : κ) (value : ν) :
    (table.put key value).keys.Nodup := by
  rw [keys_put]
  split
  · exact h
  · next hnew =>
    rw [← List.concat_eq_append]
    exact h.concat hnew

theorem get?_of_not_mem {table : Table κ ν} {key : κ} (h : key ∉ table.keys) :
    table.get? key = none := by
  rw [get?, Option.map_eq_none_iff, List.find?_eq_none]
  intro entry hentry heq
  apply h
  rw [← eq_of_beq heq]
  exact List.mem_map_of_mem hentry

/-- Where no key comes twice, every entry is found under its key. -/
theorem get?_of_mem {table : Table κ ν} {key : κ} {value : ν} (hnodup : table.keys.Nodup)
    (h : (key, value) ∈ table) : table.get? key = some value := by
  induction table with
  | nil => cases h
  | cons entry rest ih =>
    obtain ⟨hnew, hrest⟩ := List.nodup_cons.mp hnodup
    rcases List.mem_cons.mp h with rfl | hlater
    · simp [get?]
    · have hne : ¬ entry.1 = key := by
        rintro rfl
        exact hnew (List.mem_map.mpr ⟨_, hlater, rfl⟩)
      have hfound := ih hrest hlater
      simpa [get?, hne] using hfound

/-- Where no key comes twice, what is found under a key is what stands there. -/
theorem get?_eq_some_iff {table : Table κ ν} {key : κ} {value : ν} (hnodup : table.keys.Nodup) :
    table.get? key = some value ↔ (key, value) ∈ table := by
  refine ⟨fun h ↦ ?_, get?_of_mem hnodup⟩
  obtain ⟨entry, hfind, hvalue⟩ := Option.map_eq_some_iff.mp h
  have hkey : entry.1 = key := by simpa using List.find?_some hfind
  rw [← hkey, ← hvalue]
  exact List.mem_of_find?_eq_some hfind

/-- Of several entries with one key the last is found. -/
theorem get?_putAll (table : Table κ ν) (entries : List (κ × ν)) (key : κ) :
    (table.putAll entries).get? key = (get? entries.reverse key).or (table.get? key) := by
  induction entries using List.reverseRecOn with
  | nil => rfl
  | append_singleton entries entry ih =>
    rw [putAll_concat, List.reverse_concat]
    by_cases hkey : entry.1 = key
    · rw [hkey, get?_put_self]
      simp [get?, hkey]
    · rw [get?_put_of_ne _ _ (Ne.symm hkey), ih]
      simp [get?, hkey]

/-- Of several items that are stored under one key the last is found. -/
theorem get?_putAll_map {α : Type} (key : α → κ) (value : α → ν) (items : List α) (held : κ) :
    get? (putAll [] (items.map fun item ↦ (key item, value item))) held =
      (items.reverse.find? fun item ↦ key item == held).map value := by
  rw [get?_putAll, ← List.map_reverse, get?_nil, Option.or_none, get?, List.find?_map,
    Option.map_map]
  rfl

/-- Every key stands where it came first. -/
theorem keys_putAll (entries : List (κ × ν)) :
    (putAll [] entries).keys = (entries.map (·.1)).eraseDups := by
  induction entries using List.reverseRecOn with
  | nil => rfl
  | append_singleton entries entry ih =>
    rw [putAll_concat, keys_put, ih, List.map_append, List.map_singleton, eraseDups_concat]
    simp only [List.mem_eraseDups]

end Table

end AddonUpkeep
