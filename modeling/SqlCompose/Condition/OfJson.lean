import SqlCompose.Condition.Basic
import SqlCompose.Error

/-!
# Conditions in JSON

An object lists conditions under their keys, and an array lists several such objects one after the
other. A key that starts with a dollar is a modifier with conditions of its own; any other key is
compared with a scalar. The first fault in the order of the text decides the failure.
-/

namespace SqlCompose.Condition

/-- A key compared with JSON data, which has to be a scalar. -/
def ofScalar (key : String) (value : Json) : Except BuildError Condition :=
  match value with
  | .array _ | .object _ => .error (.invalidOperand value.kind key)
  | scalar => .ok (ofKey key (.ofJson scalar))

mutual

/-- The conditions of a JSON value. -/
def listOfJson : Json → Except BuildError (List Condition)
  | .null => .error .missingConditions
  | .array items => listOfItems items
  | .object entries => listOfEntries entries
  | scalar => .error (.invalidConditions scalar.kind)

/-- The conditions of the items of an array, one after the other. -/
def listOfItems : List Json → Except BuildError (List Condition)
  | [] => .ok []
  | j :: js => do
    let here ← listOfJson j
    let rest ← listOfItems js
    return here ++ rest

/-- The conditions of the entries of an object, one for each. -/
def listOfEntries : List (String × Json) → Except BuildError (List Condition)
  | [] => .ok []
  | (key, value) :: es => do
    let here ←
      if key.toList.head? = some '$' then
        match Modifier.ofKey? key with
        | none => .error (.unknownModifier key)
        | some m => (listOfJson value).map (.group m)
      else ofScalar key value
    let rest ← listOfEntries es
    return here :: rest

end

end SqlCompose.Condition
