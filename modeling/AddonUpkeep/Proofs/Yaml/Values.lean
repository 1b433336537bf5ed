import AddonUpkeep.Proofs.Reading
import AddonUpkeep.Yaml.Value

/-!
# Which faults a scalar has

A text that is no value under its tag is refused with a fault.  The tag tells which kinds of faults
that can be: none for texts, bytes and nothing, and for numbers, truth values and timestamps those
of the steps of their reading.
-/

namespace AddonUpkeep.Yaml

open AddonUpkeep.Text AddonUpkeep.Number

variable {α : Type} {kinds : List FaultKind}

/-- The kinds of faults that a text has under a tag. -/
def Tag.faultKinds : Tag → List FaultKind
  | .bool => [.missingKey]
  | .int => [.badValue, .missingItem]
  | .float => [.badValue, .missingItem, .overflow]
  | .timestamp => [.badValue, .wrongShape]
  | _ => []

/-- A reading that fails with faults of some kinds only. -/
def FailsIn (kinds : List FaultKind) (reading : Except Fault α) : Prop :=
  Ends (fun _ ↦ True) (fun fault ↦ fault.kind ∈ kinds) reading

theorem FailsIn.map {β : Type} {reading : Except Fault α} (h : FailsIn kinds reading) (f : α → β) :
    FailsIn kinds (reading.map f) := by
  cases reading with
  | ok value => exact trivial
  | error fault => exact h

theorem failsIn_splitSign (h : .missingItem ∈ kinds) (text : List Char) :
    FailsIn kinds (splitSign text) := by
  unfold splitSign
  split
  · exact h
  · exact trivial
  · exact trivial
  · exact trivial

theorem failsIn_integerOf (h : .badValue ∈ kinds) (base : Nat) (text : List Char) :
    FailsIn kinds (integerOf base text) := by
  unfold integerOf
  split
  · exact trivial
  · exact h
  · exact h

theorem failsIn_integerValue (text : List Char) :
    FailsIn Tag.int.faultKinds (integerValue text) := by
  have hdigits (base : Nat) (text : List Char) : FailsIn Tag.int.faultKinds (integerOf base text) :=
    failsIn_integerOf (by decide) base text
  have hmagnitude (text : List Char) : FailsIn Tag.int.faultKinds (magnitude text) := by
    unfold magnitude
    split
    · exact (by decide : FaultKind.missingItem ∈ Tag.int.faultKinds)
    · exact trivial
    · exact hdigits _ _
    · exact hdigits _ _
    · exact hdigits _ _
    · split
      · exact FailsIn.map (ends_mapM _ fun item _ ↦ hdigits 10 item) sexagesimal
      · exact hdigits _ _
  refine (failsIn_splitSign (by decide) _).bind fun ⟨isNegative, unsigned⟩ _ ↦ ?_
  exact (hmagnitude unsigned).bind fun _ _ ↦ trivial

theorem failsIn_floatOf (h : .badValue ∈ kinds) (text : List Char) :
    FailsIn kinds (floatOf text) := by
  unfold floatOf
  split
  · exact trivial
  · exact h

theorem failsIn_sexagesimalSum (h : .overflow ∈ kinds) (groups : List Binary64) (sum : Binary64)
    (weight : Int) : FailsIn kinds (sexagesimalSum sum weight groups) := by
  induction groups generalizing sum weight with
  | nil => exact trivial
  | cons group groups ih =>
    unfold sexagesimalSum
    split
    · exact h
    · exact ih _ _

theorem failsIn_floatValue (text : List Char) :
    FailsIn Tag.float.faultKinds (floatValue text) := by
  have hfloat (text : List Char) : FailsIn Tag.float.faultKinds (floatOf text) :=
    failsIn_floatOf (by decide) text
  refine (failsIn_splitSign (by decide) _).bind fun ⟨isNegative, unsigned⟩ _ ↦ ?_
  refine Ends.ite trivial (Ends.ite trivial (Ends.ite ?_ ?_))
  · refine (ends_mapM _ fun item _ ↦ hfloat item).bind fun groups _ ↦ ?_
    exact (failsIn_sexagesimalSum (by decide) groups.reverse _ _).bind fun _ _ ↦ trivial
  · exact (hfloat unsigned).bind fun _ _ ↦ trivial

theorem failsIn_truthValue (text : List Char) :
    FailsIn Tag.bool.faultKinds (truthValue text) := by
  unfold truthValue
  split
  · exact trivial
  · exact (by decide : FaultKind.missingKey ∈ Tag.bool.faultKinds)

theorem failsIn_timestampValue (text : List Char) :
    FailsIn Tag.timestamp.faultKinds (timestampValue text) := by
  unfold timestampValue
  split
  · exact (by decide : FaultKind.wrongShape ∈ Tag.timestamp.faultKinds)
  · split
    · exact trivial
    · exact trivial
    · exact (by decide : FaultKind.badValue ∈ Tag.timestamp.faultKinds)

/-- A scalar is refused with a fault of the kinds that its tag has. -/
theorem kind_mem_faultKinds {tag : Tag} {text : List Char} {fault : Fault}
    (h : scalarValue? tag text = some (.error (.value fault))) : fault.kind ∈ tag.faultKinds := by
  have hvalue {reading : Except Fault Setting} {kinds : List FaultKind}
      (hfails : FailsIn kinds reading)
      (herror : some (reading.mapError Refusal.value) = some (.error (.value fault))) :
      fault.kind ∈ kinds := by
    cases reading with
    | ok value => cases herror
    | error problem =>
      cases herror
      exact hfails
  cases tag with
  | bool => exact hvalue ((failsIn_truthValue text).map _) h
  | int => exact hvalue ((failsIn_integerValue text).map _) h
  | float => exact hvalue ((failsIn_floatValue text).map _) h
  | timestamp => exact hvalue (failsIn_timestampValue text) h
  | binary =>
    unfold scalarValue? binaryValue at h
    dsimp only at h
    split at h
    · split at h
      · cases h
      · cases h
    · cases h
  | _ => cases h

end AddonUpkeep.Yaml
