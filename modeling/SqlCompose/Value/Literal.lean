import SqlCompose.Json.Printer
import SqlCompose.Naming.Path
import SqlCompose.Value.Basic

/-!
# Values as SQL

How a value is written into SQL where it is not bound to a placeholder. A text is a path to a
column there; dates, times, identifiers and JSON are string constants.
-/

namespace SqlCompose.Value

/-- The text of a truth value. -/
def boolText (b : Bool) : String := if b then "true" else "false"

/-- The value as SQL, with names in the database convention. -/
def literal (naming : Naming) : Value → String
  | null => "NULL"
  | bool true => "TRUE"
  | bool false => "FALSE"
  | int n => decimalText n.toInt
  | float x => x.positionalText
  | text s => naming.bareName s
  | timestamp t => Text.quoteConstant t.text
  | date d => Text.quoteConstant d.text
  | uuid u => Text.quoteConstant u.text
  | json j => Text.quoteConstant j.text

end SqlCompose.Value
