import SqlCompose.Sql
import SqlCompose.Text.Cut

/-!
# The journal of a run

What a run sends and what it reports. A statement is reported just before it is sent, with its text
cut if that is long, and without its values.
-/

namespace SqlCompose

/-- What a report is about. -/
inductive Topic where
  | sql
  | page
  deriving DecidableEq, Repr

/-- How much a report matters. -/
inductive Level where
  | debug
  | trace
  deriving DecidableEq, Repr

/-- A report. -/
inductive Event where
  /-- A statement is about to be sent. -/
  | statement (command : String) (paramCount : Nat) (sql : String)
  /-- A page has no rows, so the matching ones are counted. -/
  | emptyPage (offset : Nat) (limit : Option Nat)
  /-- The count is known. -/
  | counted (total : Int)
  /-- A page with rows is complete. -/
  | complete (total : Int) (items : Nat)
  deriving DecidableEq, Repr

namespace Event

/-- The greatest number of bytes of a statement that are reported. -/
def maxSqlBytes : Nat := 200

/-- The report of a statement. -/
def ofQuery (command : String) (q : Query) : Event :=
  .statement command q.params.length (Text.shorten maxSqlBytes "..." q.sql)

/-- The topic of a report. -/
def topic : Event → Topic
  | statement .. => .sql
  | _ => .page

/-- The level of a report. -/
def level : Event → Level
  | statement .. => .debug
  | emptyPage .. => .debug
  | _ => .trace

/-- The text of an optional number. -/
def optionText : Option Nat → String
  | none => "None"
  | some n => "Some(" ++ decimalText n ++ ")"

/-- The fields of a report, by name. -/
def fields : Event → List (String × String)
  | statement command paramCount sql =>
    [("command", command), ("param_count", decimalText paramCount), ("sql", sql)]
  | emptyPage offset limit =>
    [("message", "empty page; counting matches"), ("offset", decimalText offset),
      ("limit", optionText limit)]
  | counted total => [("message", "fallback total"), ("total", decimalText total)]
  | complete total items =>
    [("message", "page complete"), ("total", decimalText total), ("items", decimalText items)]

end Event

/-- What a run has sent and reported so far. -/
structure Journal where
  calls : List Query := []
  events : List Event := []
  deriving Repr

end SqlCompose
