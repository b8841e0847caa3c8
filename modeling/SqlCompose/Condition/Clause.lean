import SqlCompose.Condition.Basic
import SqlCompose.Error
import SqlCompose.Sql
import SqlCompose.Value.Literal

/-!
# Conditions as SQL

The tokens of a boolean SQL expression: comparisons, the words between them, and parentheses.
A group of another operator than the one around it stands in parentheses, and conditions that hold
no comparison leave no trace.
-/

namespace SqlCompose

/-- A token of a boolean expression. -/
inductive ClauseToken where
  /-- A comparison. -/
  | comparison (sql : Sql)
  | connective (c : Connective)
  | opening
  | closing
  deriving Repr

namespace ClauseToken

/-- The SQL of a token. -/
def sql : ClauseToken → Sql
  | comparison s => s
  | connective c => Sql.text (" " ++ c.keyword ++ " ")
  | opening => Sql.text "("
  | closing => Sql.text ")"

/-- The SQL of tokens. -/
def sqlOf (tokens : List ClauseToken) : Sql := tokens.flatMap sql

/-- Two expressions joined by an operator, of which either may be empty. -/
def connect (c : Connective) : List ClauseToken → List ClauseToken → List ClauseToken
  | [], right => right
  | left, [] => left
  | left, right => left ++ .connective c :: right

/-- An expression in parentheses, unless it is empty. -/
def parenthesized : List ClauseToken → List ClauseToken
  | [] => []
  | tokens => .opening :: tokens ++ [.closing]

end ClauseToken

/-- Why conditions cannot be written, and the values bound before the one that cannot. -/
structure Unwritable where
  cause : BuildError
  bound : List Value

namespace Condition

/-- The SQL of a column key. A path is written without quotes, and so is a key behind `!`. -/
def column (naming : Naming) (key : String) : String :=
  if key.toList.contains '.' then naming.bareName key
  else match Text.afterMark? '!' key with
    | some bare => naming.bareName bare
    | none => naming.quotedName key

/-- The left side of a comparison tested for null. -/
def nullTest (comparer : Comparer) (left : String) : Except Unwritable (List ClauseToken) :=
  match comparer.nullTest? with
  | some test => .ok [.comparison (Sql.text (left ++ " " ++ test))]
  | none => .error ⟨.nullComparison comparer, []⟩

/-- The left side of a comparison against SQL. -/
def compared (comparer : Comparer) (left : String) (right : Sql) : List ClauseToken :=
  [.comparison (Sql.text (left ++ " " ++ comparer.symbol ++ " ") ++ right)]

mutual

/-- The expression of a condition, under the operator and the comparer in force. -/
def clause (naming : Naming) (op : Connective) (comparer : Comparer) :
    Condition → Except Unwritable (List ClauseToken)
  | .leaf key value =>
    if value.isNull then nullTest comparer (column naming key)
    else .ok (compared comparer (column naming key) (Sql.bind value))
  | .raw expression value =>
    if value.isNull then nullTest comparer expression
    else .ok (compared comparer expression (Sql.text (value.literal naming)))
  | .group (.logical c) children =>
    (clauses naming c comparer children).map fun tokens =>
      if c = op then tokens else ClauseToken.parenthesized tokens
  | .group (.compare c) children => clauses naming op c children

/-- The expression of conditions joined by the operator in force. -/
def clauses (naming : Naming) (op : Connective) (comparer : Comparer) :
    List Condition → Except Unwritable (List ClauseToken)
  | [] => .ok []
  | c :: cs =>
    match clause naming op comparer c with
    | .error u => .error u
    | .ok left =>
      match clauses naming op comparer cs with
      | .error u => .error { u with bound := (ClauseToken.sqlOf left).values ++ u.bound }
      | .ok right => .ok (ClauseToken.connect op left right)

end

/-- The SQL of conditions, in parentheses if `wrapped`. -/
def sql (naming : Naming) (op : Connective) (comparer : Comparer) (wrapped : Bool)
    (cs : List Condition) : Except Unwritable Sql :=
  (clauses naming op comparer cs).map fun tokens =>
    ClauseToken.sqlOf (if wrapped then ClauseToken.parenthesized tokens else tokens)

/-- The SQL of conditions that all hold, which compare for equality. -/
def rootSql (naming : Naming) (cs : List Condition) : Except Unwritable Sql :=
  sql naming .and .eq false cs

/-- The text of SQL written behind the parameters `p`, or the cause why there is none, with the
parameters that result: a failure leaves the values that were bound before it. -/
def renderBehind (p : Params) : Except Unwritable Sql → Except BuildError String × Params
  | .ok s => (.ok (s.render p).1, (s.render p).2)
  | .error u => (.error u.cause, p.append u.bound)

end Condition

end SqlCompose
