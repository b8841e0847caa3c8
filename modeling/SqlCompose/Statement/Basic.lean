import SqlCompose.Assignment
import SqlCompose.Join.Basic
import SqlCompose.Text.Blank

/-!
# Statements

A statement as plain data, with names as the caller writes them.
-/

namespace SqlCompose

/-- What a statement does. -/
inductive Command where
  | select
  | insert (assignments : List Assignment)
  | update (assignments : List Assignment)
  | delete
  deriving Repr

namespace Command

/-- The name of the command. -/
def name : Command → String
  | select => "select"
  | insert _ => "insert"
  | update _ => "update"
  | delete => "delete"

/-- Is it an insert? -/
def isInsert : Command → Bool
  | insert _ => true
  | _ => false

/-- Is it a select? -/
def isSelect : Command → Bool
  | select => true
  | _ => false

end Command

/-- What is taken of the first row. -/
inductive First where
  /-- The row. -/
  | row
  /-- The value of a key. -/
  | value (key : String)
  deriving DecidableEq, Repr

/-- A statement on a table. -/
structure Statement where
  table : String
  command : Command := .select
  /-- The columns of a select, or those that an insert or update returns. Without any, all are. -/
  keys : List String := []
  conditions : List Condition := []
  joins : List Join := []
  sorting : List String := []
  offset : Nat := 0
  /-- The greatest number of rows. None and zero are no limit. -/
  limit : Option Nat := none
  groupBy : Option String := none
  conflict : Option Conflict := none
  paginated : Bool := false
  first : Option First := none
  deriving Repr

namespace Statement

/-- Does each row carry the number of all rows? -/
def hasWindowTotal (s : Statement) : Bool :=
  s.paginated && s.first.isNone && s.command.isSelect

end Statement

/-- Keys as one text with commas between them, or as a list. -/
inductive Keys where
  | text (s : String)
  | list (keys : List String)
  deriving DecidableEq, Repr

/-- The keys, in order. In a text, blanks around a key and keys of blanks alone do not count. -/
def Keys.toList : Keys → List String
  | text s =>
    ((Text.splitAt ',' s.toList).map Text.trim |>.filter (!·.isEmpty)).map String.ofList
  | list keys => keys

end SqlCompose
