import AddonUpkeep.Number.Binary64
import AddonUpkeep.Table

/-!
# Documents

The objects of the cluster interface.  Integers have any size and are apart from floating point
numbers, and an object keeps its fields in the order in which they came.
-/

namespace AddonUpkeep

/-- A document of the cluster interface. -/
inductive Json where
  | null
  | bool (value : Bool)
  | int (value : Int)
  | float (value : Number.Binary64)
  | str (text : String)
  | arr (items : List Json)
  | obj (fields : List (String × Json))
  deriving Inhabited

namespace Json

/-- A document counts as absent when it is null, false, zero or empty. -/
def isPresent : Json → Bool
  | null => false
  | bool value => value
  | int value => value != 0
  | float value => !value.isZero
  | str text => !text.isEmpty
  | arr items => !items.isEmpty
  | obj fields => !fields.isEmpty

/-- The kind of a document as messages name it. -/
def kindName : Json → String
  | null => "NoneType"
  | bool _ => "bool"
  | int _ => "int"
  | float _ => "float"
  | str _ => "str"
  | arr _ => "list"
  | obj _ => "dict"

mutual

/-- Equality of documents, decided. -/
def decEq : (left right : Json) → Decidable (left = right)
  | null, right => match right with
    | null => isTrue rfl
    | bool _ | int _ | float _ | str _ | arr _ | obj _ => isFalse (by simp)
  | bool a, right => match right with
    | bool b => decidable_of_iff (a = b) (by simp)
    | null | int _ | float _ | str _ | arr _ | obj _ => isFalse (by simp)
  | int a, right => match right with
    | int b => decidable_of_iff (a = b) (by simp)
    | null | bool _ | float _ | str _ | arr _ | obj _ => isFalse (by simp)
  | float a, right => match right with
    | float b => decidable_of_iff (a = b) (by simp)
    | null | bool _ | int _ | str _ | arr _ | obj _ => isFalse (by simp)
  | str a, right => match right with
    | str b => decidable_of_iff (a = b) (by simp)
    | null | bool _ | int _ | float _ | arr _ | obj _ => isFalse (by simp)
  | arr a, right => match right with
    | arr b => @decidable_of_iff _ (a = b) (by simp) (decEqItems a b)
    | null | bool _ | int _ | float _ | str _ | obj _ => isFalse (by simp)
  | obj a, right => match right with
    | obj b => @decidable_of_iff _ (a = b) (by simp) (decEqFields a b)
    | null | bool _ | int _ | float _ | str _ | arr _ => isFalse (by simp)

/-- Equality of items, decided. -/
def decEqItems : (left right : List Json) → Decidable (left = right)
  | [], [] => isTrue rfl
  | [], _ :: _ | _ :: _, [] => isFalse (by simp)
  | a :: left, b :: right =>
    match decEq a b with
    | isFalse h => isFalse (by simp [h])
    | isTrue h => match decEqItems left right with
      | isFalse h' => isFalse (by simp [h'])
      | isTrue h' => isTrue (by simp [h, h'])

/-- Equality of fields, decided. -/
def decEqFields : (left right : List (String × Json)) → Decidable (left = right)
  | [], [] => isTrue rfl
  | [], _ :: _ | _ :: _, [] => isFalse (by simp)
  | (name, a) :: left, (name', b) :: right =>
    if hn : name = name' then
      match decEq a b with
      | isFalse h => isFalse (by simp [h])
      | isTrue h => match decEqFields left right with
        | isFalse h' => isFalse (by simp [h'])
        | isTrue h' => isTrue (by simp [hn, h, h'])
    else isFalse (by simp [hn])

end

instance : DecidableEq Json := decEq

/-- The value of a field; none when the document is no object or lacks the field. -/
def field? (document : Json) (name : String) : Option Json :=
  match document with
  | obj fields => Table.get? fields name
  | _ => none

/-- The document with a field set.  Only an object has fields. -/
def setField (document : Json) (name : String) (value : Json) : Json :=
  match document with
  | obj fields => obj (Table.put fields name value)
  | other => other

@[simp]
theorem field?_setField_self (fields : List (String × Json)) (name : String) (value : Json) :
    ((obj fields).setField name value).field? name = some value := by
  simp [setField, field?]

theorem field?_setField_of_ne (document : Json) {name other : String} (value : Json)
    (h : other ≠ name) : (document.setField name value).field? other = document.field? other := by
  cases document <;> simp [setField, field?, Table.get?_put_of_ne _ _ h]

end Json

end AddonUpkeep
