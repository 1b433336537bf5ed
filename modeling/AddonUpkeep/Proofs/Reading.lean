import Mathlib.Data.List.Forall2

/-!
# Readings that succeed

When a reading made of several steps succeeds, every step does.  Readings of a row of items are
compared with their values item by item, and two readings by how they end.  What a reading promises
and allows follows from what its steps do.
-/

namespace AddonUpkeep

@[simp]
theorem ok_bind {α β ε : Type} (value : α) (next : α → Except ε β) :
    Except.ok value >>= next = next value := rfl

@[simp]
theorem error_bind {α β ε : Type} (problem : ε) (next : α → Except ε β) :
    Except.error problem >>= next = .error problem := rfl

theorem bind_eq_ok_iff {α β ε : Type} {first : Except ε α} {next : α → Except ε β} {result : β} :
    first >>= next = .ok result ↔ ∃ value, first = .ok value ∧ next value = .ok result := by
  cases first <;> simp [bind, Except.bind]

theorem toOption_eq_some_iff {α ε : Type} {reading : Except ε α} {value : α} :
    reading.toOption = some value ↔ reading = .ok value := by
  cases reading <;> simp [Except.toOption]

theorem mapError_eq_ok_iff {α ε ε' : Type} {f : ε → ε'} {reading : Except ε α} {value : α} :
    reading.mapError f = .ok value ↔ reading = .ok value := by
  cases reading with
  | ok held =>
    constructor
    · intro h
      rw [Except.ok.inj h]
    · intro h
      rw [Except.ok.inj h]
      rfl
  | error problem =>
    constructor
    · intro h
      cases h
    · intro h
      cases h

theorem mapM_eq_ok_iff {α β ε : Type} {f : α → Except ε β} {items : List α} {values : List β} :
    items.mapM f = .ok values ↔ List.Forall₂ (fun item value ↦ f item = .ok value) items values := by
  induction items generalizing values with
  | nil =>
    rw [List.mapM_nil, List.forall₂_nil_left_iff]
    exact ⟨fun h ↦ (Except.ok.inj h).symm, fun h ↦ h ▸ rfl⟩
  | cons item items ih =>
    simp only [List.mapM_cons, bind_eq_ok_iff, ih, List.forall₂_cons_left_iff]
    constructor
    · rintro ⟨value, hvalue, rest, hrest, h⟩
      exact ⟨value, rest, hvalue, hrest, (Except.ok.inj h).symm⟩
    · rintro ⟨value, rest, hvalue, hrest, rfl⟩
      exact ⟨value, hvalue, rest, hrest, rfl⟩

theorem forall₂_comp {α : Type} {R S T : α → α → Prop} (h : ∀ a b c, R a b → S b c → T a c)
    {first second third : List α} (hab : List.Forall₂ R first second)
    (hbc : List.Forall₂ S second third) : List.Forall₂ T first third := by
  induction hab generalizing third with
  | nil =>
    cases hbc
    exact .nil
  | cons hr _ ih =>
    cases hbc with
    | cons hs hrest => exact .cons (h _ _ _ hr hs) (ih hrest)

/-- When every item of a row is read, and the item in its place is read as something related, then
so is the row. -/
theorem exists_forall₂_of_step {α β : Type} {f : α → β → Prop} {S : α → α → Prop}
    {T : β → β → Prop} (hstep : ∀ a b value, f a value → S a b → ∃ other, f b other ∧ T value other)
    {items others : List α} {values : List β} (hread : List.Forall₂ f items values)
    (h : List.Forall₂ S items others) :
    ∃ results, List.Forall₂ f others results ∧ List.Forall₂ T values results := by
  induction h generalizing values with
  | nil =>
    cases hread
    exact ⟨[], .nil, .nil⟩
  | cons hS _ ih =>
    cases hread with
    | cons hvalue hrest =>
      obtain ⟨other, hother, hT⟩ := hstep _ _ _ hvalue hS
      obtain ⟨results, hresults, hrel⟩ := ih hrest
      exact ⟨other :: results, .cons hother hresults, .cons hT hrel⟩

theorem exists_of_mem_forall₂ {α β : Type} {R : α → β → Prop} {first : List α} {second : List β}
    (h : List.Forall₂ R first second) {item : α} (hitem : item ∈ first) :
    ∃ other ∈ second, R item other := by
  induction h with
  | nil => simp at hitem
  | cons hr _ ih =>
    rcases List.mem_cons.mp hitem with rfl | hlater
    · exact ⟨_, by simp, hr⟩
    · obtain ⟨other, hmem, hrel⟩ := ih hlater
      exact ⟨other, by simp [hmem], hrel⟩

/-- What holds of the pairs of two rows, and is a fact about the first of each pair, holds of the
items of the first row. -/
theorem forall₂_iff_forall_mem {α β : Type} {R S : α → β → Prop} {p : α → Prop} {first : List α}
    {second : List β} (h : List.Forall₂ R first second) (hiff : ∀ a b, R a b → (S a b ↔ p a)) :
    List.Forall₂ S first second ↔ ∀ item ∈ first, p item := by
  induction h with
  | nil => simp
  | cons hr _ ih => rw [List.forall₂_cons, hiff _ _ hr, ih, List.forall_mem_cons]

/-- When every item of a row has a related one, there is a row of them. -/
theorem exists_forall₂_of_mem {α β : Type} {R : α → β → Prop} {items : List α}
    (h : ∀ item ∈ items, ∃ value, R item value) : ∃ values, List.Forall₂ R items values := by
  induction items with
  | nil => exact ⟨[], .nil⟩
  | cons item items ih =>
    obtain ⟨value, hvalue⟩ := h item List.mem_cons_self
    obtain ⟨values, hvalues⟩ := ih fun other hother ↦ h other (List.mem_cons_of_mem _ hother)
    exact ⟨value :: values, .cons hvalue hvalues⟩

/-- Two readings that fail with the same problem, or make related values. -/
inductive EndAlike {α β ε : Type} (R : α → β → Prop) : Except ε α → Except ε β → Prop
  | failed (problem : ε) : EndAlike R (.error problem) (.error problem)
  | made {value : α} {other : β} (h : R value other) : EndAlike R (.ok value) (.ok other)

section EndAlike

variable {α β γ δ ε : Type} {R S : α → β → Prop} {first : Except ε α} {second : Except ε β}

theorem EndAlike.bind {T : γ → δ → Prop} {next : α → Except ε γ} {next' : β → Except ε δ}
    (h : EndAlike R first second)
    (hnext : ∀ value other, R value other → EndAlike T (next value) (next' other)) :
    EndAlike T (first >>= next) (second >>= next') := by
  cases h with
  | failed problem => exact .failed problem
  | made hvalues => exact hnext _ _ hvalues

theorem EndAlike.mono (h : EndAlike R first second)
    (hRS : ∀ value other, R value other → S value other) : EndAlike S first second := by
  cases h with
  | failed problem => exact .failed problem
  | made hvalues => exact .made (hRS _ _ hvalues)

theorem endAlike_of_eq (reading : Except ε α) : EndAlike Eq reading reading := by
  cases reading with
  | ok value => exact .made rfl
  | error problem => exact .failed problem

end EndAlike

/-- A reading makes a value as promised, or fails with a problem that is allowed. -/
def Ends {α ε : Type} (promised : α → Prop) (allowed : ε → Prop) : Except ε α → Prop
  | .ok value => promised value
  | .error problem => allowed problem

section Ends

variable {α β ε : Type} {promised : α → Prop} {last : β → Prop} {allowed : ε → Prop}
  {reading : Except ε α}

theorem Ends.mono (h : Ends promised allowed reading) {weaker : α → Prop} {more : ε → Prop}
    (hweaker : ∀ value, promised value → weaker value)
    (hmore : ∀ problem, allowed problem → more problem) : Ends weaker more reading := by
  cases reading with
  | ok value => exact hweaker value h
  | error problem => exact hmore problem h

theorem Ends.bind {next : α → Except ε β} (h : Ends promised allowed reading)
    (hnext : ∀ value, promised value → Ends last allowed (next value)) :
    Ends last allowed (reading >>= next) := by
  cases reading with
  | ok value => exact hnext value h
  | error problem => exact h

theorem Ends.map {f : α → β} (h : Ends (fun value ↦ last (f value)) allowed reading) :
    Ends last allowed (reading.map f) := by
  cases reading with
  | ok value => exact h
  | error problem => exact h

theorem Ends.ite {condition : Prop} [Decidable condition] {other : Except ε α}
    (h : Ends promised allowed reading) (hother : Ends promised allowed other) :
    Ends promised allowed (if condition then reading else other) := by
  split
  · exact h
  · exact hother

theorem ends_mapM {f : β → Except ε α} (items : List β)
    (h : ∀ item ∈ items, Ends (fun _ ↦ True) allowed (f item)) :
    Ends (fun _ ↦ True) allowed (items.mapM f) := by
  induction items with
  | nil => exact trivial
  | cons item items ih =>
    rw [List.mapM_cons]
    refine (h item List.mem_cons_self).bind fun value _ ↦ ?_
    refine (ih fun other hother ↦ h other (List.mem_cons_of_mem item hother)).bind fun _ _ ↦ ?_
    exact trivial

end Ends

end AddonUpkeep
