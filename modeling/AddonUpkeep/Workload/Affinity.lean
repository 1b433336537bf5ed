import AddonUpkeep.Json.Shape
import AddonUpkeep.Text.Pieces

/-!
# Required node affinity

A workload may be bound to nodes by selector terms, each a row of expressions on node labels.  This
module reads the expressions, asks whether one on a label lists a value, and appends a value to all
expressions on a label.
-/

namespace AddonUpkeep.Affinity

open AddonUpkeep.Json

/-- The label that names the architecture of a node. -/
def archLabel : String := "kubernetes.io/arch"

/-- The label that named the architecture of a node in earlier clusters. -/
def betaArchLabel : String := "beta.kubernetes.io/arch"

/-- The architecture that workloads are opened for. -/
def arm64 : String := "arm64"

/-- The way from a workload to the specification of its pods. -/
def podPath : List String := ["spec", "template", "spec"]

/-- The way from the specification of pods to the required node affinity. -/
def requiredPath : List String :=
  ["affinity", "nodeAffinity", "requiredDuringSchedulingIgnoredDuringExecution"]

/-- The selector terms of a workload. -/
def selectorTerms (workload : Json) : Except ShapeProblem Json := do
  let required ← workload.descend (podPath ++ requiredPath)
  return presentOr (arr []) (← required.lookup "nodeSelectorTerms")

/-- The expressions of one selector term. -/
def termExpressions (term : Json) : Except ShapeProblem (List Json) := do
  (presentOr (arr []) (← term.lookup "matchExpressions")).iterate

/-- All expressions of a workload, term by term. -/
def matchExpressions (workload : Json) : Except ShapeProblem (List Json) := do
  return (← (← (← selectorTerms workload).iterate).mapM termExpressions).flatten

/-- A value is listed: among the items of an array, the names of an object, or inside a text. -/
def lists (values : Json) (value : String) : Except ShapeProblem Bool :=
  match values with
  | arr items => .ok (items.contains (str value))
  | obj fields => .ok (fields.any (·.1 == value))
  | str text => .ok (Text.holds text value)
  | other => .error (.hasNoMembers other.kindName)

/-- The expression is on the label. -/
def isOn (label : String) (expression : Json) : Except ShapeProblem Bool := do
  return (← expression.lookup "key") == some (str label)

/-- The values of an expression. -/
def expressionValues (expression : Json) : Except ShapeProblem Json := do
  return presentOr (arr []) (← expression.lookup "values")

/-- The expression is on the label and lists the value. -/
def allows (label value : String) (expression : Json) : Except ShapeProblem Bool := do
  if ← isOn label expression then lists (← expressionValues expression) value else return false

/-- Some expression satisfies a test.  The first that does ends the search. -/
def anyExpression (test : Json → Except ShapeProblem Bool) :
    List Json → Except ShapeProblem Bool
  | [] => .ok false
  | expression :: rest => do if ← test expression then return true else anyExpression test rest

/-- Some expression on the label lists the value. -/
def hasValue (workload : Json) (label : String) (value : String) : Except ShapeProblem Bool := do
  anyExpression (allows label value) (← matchExpressions workload)

/-- The expression with the value behind its values, when it is on the label. -/
def appendTo (label value : String) (expression : Json) : Except ShapeProblem Json := do
  if ← isOn label expression then
    let values ← (← expressionValues expression).iterate
    return expression.setField "values" (arr (values ++ [str value]))
  else return expression

/-- Change the items of an array one after the other. -/
def changeItems (change : Json → Except ShapeProblem Json) : Json → Except ShapeProblem Json
  | arr items => return arr (← items.mapM change)
  | other => .ok other

/-- Change the value of a field that is present. -/
def changeField (name : String) (change : Json → Except ShapeProblem Json) (document : Json) :
    Except ShapeProblem Json :=
  match document.field? name with
  | some value => do
    if value.isPresent then return document.setField name (← change value) else return document
  | none => .ok document

/-- Change the document at the end of a path of fields, if every step is present. -/
def changeAt (change : Json → Except ShapeProblem Json) : List String → Json →
    Except ShapeProblem Json
  | [], document => change document
  | name :: path, document => changeField name (changeAt change path) document

/-- Change every expression of a workload. -/
def changeExpressions (change : Json → Except ShapeProblem Json) (workload : Json) :
    Except ShapeProblem Json :=
  changeAt (changeItems (changeField "matchExpressions" (changeItems change)))
    (podPath ++ requiredPath ++ ["nodeSelectorTerms"]) workload

/-- The workload with the value appended to all expressions on the label.  Nothing is created, and a
value that is there already is appended again. -/
def withValue (workload : Json) (label : String) (value : String) : Except ShapeProblem Json := do
  -- the expressions are listed first, so a malformed term is a problem before any expression is
  let expressions ← matchExpressions workload
  let _ ← expressions.mapM (appendTo label value)
  changeExpressions (appendTo label value) workload

end AddonUpkeep.Affinity
