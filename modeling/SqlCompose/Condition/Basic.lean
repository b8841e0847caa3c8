import SqlCompose.Condition.Comparer
import SqlCompose.Text.Mark
import SqlCompose.Value.Basic

/-!
# Conditions

Conditions compare a column with a value, which is bound, or SQL with a value, which is written in
place. Groups change how the conditions in them are joined or compared.
-/

namespace SqlCompose

/-- A condition. -/
inductive Condition where
  /-- A column against a bound value. -/
  | leaf (key : String) (value : Value)
  /-- SQL against a value in place. -/
  | raw (expression : String) (value : Value)
  /-- Conditions under a modifier. -/
  | group (modifier : Modifier) (children : List Condition)
  deriving Repr

namespace Condition

/-- A key against a value. A key that starts with a colon is SQL. -/
def ofKey (key : String) (value : Value) : Condition :=
  match Text.afterMark? ':' key with
  | some expression => .raw expression value
  | none => .leaf key value

/-- A key compared with a value. -/
def comparing (comparer : Comparer) (key : String) (value : Value) : Condition :=
  .group (.compare comparer) [ofKey key value]

/-- A key that is null. -/
def isNull (key : String) : Condition := ofKey key .null

/-- A key that is not null. -/
def isNotNull (key : String) : Condition := comparing .ne key .null

/-- Conditions of which all hold. -/
def all (children : List Condition) : Condition := .group (.logical .and) children

/-- Conditions of which some hold. -/
def any (children : List Condition) : Condition := .group (.logical .or) children

end Condition

end SqlCompose
