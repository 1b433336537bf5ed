import AddonUpkeep.Config.Environment
import AddonUpkeep.Proofs.Reading

/-!
# Environments that agree but for one variable

Where no other variable of an environment file refers to a variable, the environments that it
completes agree on all other variables when they did before.  A reference in the value of another
variable copies the difference.
-/

namespace AddonUpkeep

open AddonUpkeep.Text

namespace Table

variable {κ ν : Type} {key other : κ} {one two : Table κ ν}

/-- Two tables with the same keys in order, of which the values differ under one key at most. -/
def AgreeOff (key : κ) (one two : Table κ ν) : Prop :=
  List.Forall₂ (fun entry entry' ↦ entry.1 = entry'.1 ∧ (entry.1 ≠ key → entry.2 = entry'.2))
    one two

theorem AgreeOff.refl (key : κ) (table : Table κ ν) : AgreeOff key table table :=
  List.forall₂_same.mpr fun _ _ ↦ ⟨rfl, fun _ ↦ rfl⟩

variable [BEq κ] [LawfulBEq κ]

theorem AgreeOff.get? (h : AgreeOff key one two) (hne : other ≠ key) :
    one.get? other = two.get? other := by
  induction h with
  | nil => rfl
  | @cons entry entry' one two hentry _ ih =>
    obtain ⟨hkey, hvalue⟩ := hentry
    by_cases hheld : entry.1 = other
    · have hheld' : entry'.1 = other := hkey ▸ hheld
      simp [Table.get?, hheld, hheld', hvalue (hheld ▸ hne)]
    · have hheld' : ¬ entry'.1 = other := hkey ▸ hheld
      simpa [Table.get?, hheld, hheld'] using ih

theorem AgreeOff.put (h : AgreeOff key one two) {value value' : ν}
    (hvalue : other ≠ key → value = value') :
    AgreeOff key (one.put other value) (two.put other value') := by
  induction h with
  | nil => exact .cons ⟨rfl, hvalue⟩ .nil
  | @cons entry entry' one two hentry hrest ih =>
    by_cases hheld : entry.1 = other
    · have hheld' : entry'.1 = other := hentry.1 ▸ hheld
      simp only [Table.put, hheld, hheld', beq_self_eq_true, if_true]
      exact .cons ⟨rfl, hvalue⟩ hrest
    · have hheld' : ¬ entry'.1 = other := hentry.1 ▸ hheld
      simp only [Table.put, beq_iff_eq, hheld, hheld', if_false]
      exact .cons hentry ih

end Table

namespace EnvFile

/-- The value of a binding refers to a variable. -/
def Binding.RefersTo (binding : Binding) (name : String) : Prop :=
  ∃ value written default, binding.value = some value ∧
    .reference written default ∈ parts value ∧ String.ofList written = name

/-- Another variable of the file refers to a variable. -/
def Copies (text name : String) : Prop :=
  ∃ binding ∈ bindings (unifyLines text.toList),
    String.ofList binding.name ≠ name ∧ binding.RefersTo name

variable {name : String} {one two : Environment} {earlier earlier' : Table String (Option String)}

theorem Part.text_of_agreeOff (h : Table.AgreeOff name one two)
    (hearlier : Table.AgreeOff name earlier earlier') {part : Part}
    (hpart : ∀ written default, part = .reference written default → String.ofList written ≠ name) :
    part.text one earlier = part.text two earlier' := by
  cases part with
  | plain c => rfl
  | reference written default =>
    have hne := hpart written default rfl
    simp only [Part.text, h.get? hne, hearlier.get? hne]

/-- One more binding is resolved to the same value, unless it is a binding of the variable. -/
theorem value_of_agreeOff (h : Table.AgreeOff name one two)
    (hearlier : Table.AgreeOff name earlier earlier') {binding : Binding}
    (hbinding : ¬ binding.RefersTo name) :
    (binding.value.map fun value ↦
        String.ofList ((parts value).flatMap (·.text one earlier))) =
      binding.value.map fun value ↦
        String.ofList ((parts value).flatMap (·.text two earlier')) := by
  cases hvalue : binding.value with
  | none => rfl
  | some value =>
    have hparts : (parts value).flatMap (·.text one earlier) =
        (parts value).flatMap (·.text two earlier') := by
      apply List.flatMap_congr
      intro part hpart
      apply Part.text_of_agreeOff h hearlier
      rintro written default rfl hname
      exact hbinding ⟨value, written, default, hvalue, hpart, hname⟩
    simp [hparts]

theorem agreeOff_read (h : Table.AgreeOff name one two) {text : String}
    (hcopies : ¬ Copies text name) :
    Table.AgreeOff name (read one text) (read two text) := by
  -- what was read before agrees as well
  apply List.foldl_rel
  · exact .nil
  · intro binding hmem earlier earlier' hearlier
    apply hearlier.put
    intro hne
    exact value_of_agreeOff h hearlier fun hrefers ↦ hcopies ⟨binding, hmem, hne, hrefers⟩

end EnvFile

namespace Environment

variable {name first second : String} {one two : Environment}

/-- Two environments that each have a value of a variable, and agree on all other variables. -/
structure Holding (name first second : String) (one two : Environment) : Prop where
  agree : Table.AgreeOff name one two
  first : one.get? name = some first
  second : two.get? name = some second

theorem holding_put (environment : Environment) (name first second : String) :
    Holding name first second (environment.put name first) (environment.put name second) :=
  ⟨(Table.AgreeOff.refl name environment).put fun hne ↦ absurd rfl hne,
    Table.get?_put_self _ _ _, Table.get?_put_self _ _ _⟩

theorem Holding.define (h : Holding name first second one two) {other : String} (value : String)
    (hne : other ≠ name) :
    EndAlike (Holding name first second) (define one other value) (define two other value) := by
  unfold Environment.define
  split
  · exact .failed _
  · split
    · exact .failed _
    · refine .made ⟨h.agree.put fun _ ↦ rfl, ?_, ?_⟩
      · rw [Table.get?_put_of_ne _ _ hne.symm, h.first]
      · rw [Table.get?_put_of_ne _ _ hne.symm, h.second]

theorem Holding.complete (h : Holding name first second one two)
    {table table' : Table String (Option String)} (htable : Table.AgreeOff name table table') :
    EndAlike (Holding name first second) (complete one table) (complete two table') := by
  induction htable generalizing one two with
  | nil => exact .made h
  | @cons entry entry' rest rest' hentry _ ih =>
    obtain ⟨other, value⟩ := entry
    obtain ⟨other', value'⟩ := entry'
    obtain ⟨rfl, hvalue⟩ := hentry
    unfold Environment.complete
    by_cases hname : other = name
    · -- both sides have the variable, so the file cannot set it
      subst hname
      rw [h.first, h.second]
      exact ih h
    · obtain rfl := hvalue hname
      rw [← h.agree.get? hname]
      cases one.get? other with
      | some held => exact ih h
      | none =>
        cases value with
        | none => exact ih h
        | some value => exact (h.define value hname).bind fun _ _ hdefined ↦ ih hdefined

theorem Holding.withFile (h : Holding name first second one two) {envFile : Option String}
    (hcopies : ∀ text, envFile = some text → ¬ EnvFile.Copies text name) :
    EndAlike (Holding name first second) (withFile one envFile) (withFile two envFile) := by
  cases envFile with
  | none => exact .made h
  | some text => exact h.complete (EnvFile.agreeOff_read h.agree (hcopies text rfl))

end Environment

end AddonUpkeep
