/-!
# Ordered tables

A table lists its entries in the order in which their keys first came.  Storing under a key that is
already there replaces the value in place.
-/

namespace AddonUpkeep

/-- Entries in the order in which their keys first came. -/
abbrev Table (κ ν : Type) := List (κ × ν)

namespace Table

variable {κ ν : Type} [BEq κ]

/-- The value stored under a key. -/
def get? (table : Table κ ν) (key : κ) : Option ν :=
  (table.find? (·.1 == key)).map (·.2)

/-- Store a value: in place when the key is there, at the end otherwise. -/
def put (table : Table κ ν) (key : κ) (value : ν) : Table κ ν :=
  match table with
  | [] => [(key, value)]
  | entry :: rest =>
    if entry.1 == key then (entry.1, value) :: rest else entry :: put rest key value

/-- Store entries one after the other. -/
def putAll (table : Table κ ν) (entries : List (κ × ν)) : Table κ ν :=
  entries.foldl (fun table entry ↦ table.put entry.1 entry.2) table

/-- The table without a key. -/
def erase (table : Table κ ν) (key : κ) : Table κ ν := table.filter fun entry ↦ !(entry.1 == key)

/-- The keys in order. -/
def keys (table : Table κ ν) : List κ := table.map (·.1)

theorem putAll_concat (table : Table κ ν) (entries : List (κ × ν)) (entry : κ × ν) :
    table.putAll (entries ++ [entry]) = (table.putAll entries).put entry.1 entry.2 := by
  simp [putAll]

@[simp]
theorem get?_nil (key : κ) : get? ([] : Table κ ν) key = none := rfl

@[simp]
theorem get?_put_self [LawfulBEq κ] (table : Table κ ν) (key : κ) (value : ν) :
    (table.put key value).get? key = some value := by
  induction table with
  | nil => simp [put, get?]
  | cons entry rest ih =>
    by_cases h : entry.1 = key
    · simp [put, get?, h]
    · simpa [put, get?, h] using ih

theorem get?_put_of_ne [LawfulBEq κ] (table : Table κ ν) {key other : κ} (value : ν)
    (h : other ≠ key) : (table.put key value).get? other = table.get? other := by
  induction table with
  | nil => simp [put, get?, Ne.symm h]
  | cons entry rest ih =>
    by_cases hk : entry.1 = key
    · have hne : ¬ key = other := fun he ↦ h he.symm
      simp [put, get?, hk, hne]
    · by_cases ho : entry.1 = other
      · simp [put, get?, ho, h]
      · simpa [put, get?, hk, ho] using ih

/-- Storing keeps the keys that are there and adds a new one at the end. -/
theorem keys_put [LawfulBEq κ] (table : Table κ ν) (key : κ) (value : ν) :
    (table.put key value).keys = if key ∈ table.keys then table.keys else table.keys ++ [key] := by
  induction table with
  | nil => simp [put, keys]
  | cons entry rest ih =>
    simp only [keys, List.map_cons, List.mem_cons] at ih ⊢
    by_cases hk : entry.1 = key
    · simp [put, hk]
    · have hne : ¬ key = entry.1 := fun he ↦ hk he.symm
      by_cases hm : key ∈ rest.map (·.1)
      · simp [put, hk, ih, hm]
      · simp [put, hk, hne, ih, hm]

end Table

end AddonUpkeep
