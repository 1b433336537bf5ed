import AddonUpkeep.Fault.Basic

/-!
# Outcomes of an update

An update finds nothing to change, makes its change, or only tells that a change is needed.
-/

namespace AddonUpkeep

/-- The outcome of an update. -/
inductive Outcome where
  | noChangeNeeded
  | applied
  | changePending
  deriving DecidableEq, Repr

namespace Outcome

/-- The value that stands for an outcome. -/
def value : Outcome → String
  | noChangeNeeded => "no-change-needed"
  | applied => "applied"
  | changePending => "change-pending"

/-- The outcome that a text stands for. -/
def ofText? : String → Option Outcome
  | "no-change-needed" => some noChangeNeeded
  | "applied" => some applied
  | "change-pending" => some changePending
  | _ => none

/-- The outcome of a value. -/
def ofValue (value : Setting) : Except Fault Outcome :=
  match value.asText?.bind ofText? with
  | some outcome => .ok outcome
  | none => .error (.unknownOutcome value)

/-- A change is needed and was not made. -/
def isPending : Outcome → Bool
  | changePending => true
  | _ => false

@[simp]
theorem ofValue_value (outcome : Outcome) : ofValue (.str outcome.value) = .ok outcome := by
  cases outcome <;> rfl

end Outcome

end AddonUpkeep
