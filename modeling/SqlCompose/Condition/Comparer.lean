/-!
# Operators and comparers

How sibling conditions are joined and how a condition compares its sides, with the keys that name
them in JSON and their SQL.
-/

namespace SqlCompose

/-- The operator between sibling conditions. -/
inductive Connective where
  | and
  | or
  deriving DecidableEq, Repr

namespace Connective

/-- The SQL keyword. -/
def keyword : Connective → String
  | and => "AND"
  | or => "OR"

/-- The key in JSON. -/
def key : Connective → String
  | and => "$and"
  | or => "$or"

end Connective

/-- How the sides of a condition are compared. -/
inductive Comparer where
  | eq
  | ne
  | lt
  | le
  | gt
  | ge
  /-- The left side matches a regular expression, letter case aside. -/
  | regexp
  deriving DecidableEq, Repr

namespace Comparer

/-- The SQL operator. -/
def symbol : Comparer → String
  | eq => "="
  | ne => "!="
  | lt => "<"
  | le => "<="
  | gt => ">"
  | ge => ">="
  | regexp => "~*"

/-- The key in JSON. -/
def key : Comparer → String
  | eq => "$eq"
  | ne => "$ne"
  | lt => "$lt"
  | le => "$lte"
  | gt => "$gt"
  | ge => "$gte"
  | regexp => "$regexp"

/-- The test for null that the comparer stands for. Only equality and its opposite have one. -/
def nullTest? : Comparer → Option String
  | eq => some "IS NULL"
  | ne => some "IS NOT NULL"
  | _ => none

end Comparer

/-- What a group changes for the conditions in it. -/
inductive Modifier where
  /-- They are joined by this operator. -/
  | logical (connective : Connective)
  /-- They compare with this comparer. -/
  | compare (comparer : Comparer)
  deriving DecidableEq, Repr

namespace Modifier

/-- All modifiers. -/
def all : List Modifier :=
  [.logical .and, .logical .or, .compare .eq, .compare .ne, .compare .lt, .compare .le,
    .compare .gt, .compare .ge, .compare .regexp]

/-- The key in JSON. -/
def key : Modifier → String
  | logical c => c.key
  | compare c => c.key

/-- The modifier of a key. -/
def ofKey? (key : String) : Option Modifier :=
  all.find? fun m => m.key == key

theorem ofKey?_key (m : Modifier) : ofKey? m.key = some m := by
  rcases m with c | c <;> cases c <;> decide

end Modifier

end SqlCompose
