import SqlCompose.Error
import SqlCompose.Json.Printer
import SqlCompose.Number.Integer
import SqlCompose.Row
import SqlCompose.Text.Blank
import SqlCompose.Text.Shown

/-!
# Pages

Rows with the number of all rows that match. That number comes from a column of the rows, or from
a count of its own; it may arrive as a number or as text.
-/

namespace SqlCompose

/-- Rows, and how many match in all. -/
structure Page where
  total : Int
  items : List Row
  deriving Repr

namespace Page

/-- The column that carries the number of all rows. -/
def totalColumn : String := "total"

/-- The column of a count. -/
def countColumn : String := "count"

/-- The page as a JSON object. -/
def toJson (p : Page) : Json :=
  .object [("total", .ofInt p.total), ("items", .array (p.items.map Row.toJson))]

/-- A number of rows in the column `column`. -/
def readTotal (column : String) (value : Json) : Except RunError Int :=
  let fault (found : String) := RunError.decode column ("expected an integer, got " ++ found)
  match value with
  | .null => .ok 0
  | .number n => match n.toInt64? with
    | some i => .ok i.toInt
    | none => .error (fault value.text)
  | .string s => match (IntegerRange.signed 64).read (Text.trim s.toList) with
    | .ok i => .ok i
    | .error _ => .error (fault (Text.shown s))
  | _ => .error (fault value.text)

/-- The number of rows in the first of the columns that a row has, and that column. -/
def totalOfRow (naming : Naming) (column missing : String) (r : Row) :
    Except RunError (Int × String) :=
  match r.findName? (naming.arrivals column) with
  | none => .error (.decode column missing)
  | some key => (readTotal key ((r.get? key).getD .null)).map fun n => (n, key)

/-- The page of the rows `row :: rows`, which carry the number of all rows. -/
def ofRows (naming : Naming) (row : Row) (rows : List Row) : Except RunError Page :=
  (totalOfRow naming totalColumn "window total missing from row" row).map fun (total, key) =>
    ⟨total, (row :: rows).map fun r => r.erase key⟩

/-- The number of all rows in the answer to a count. -/
def countedTotal (naming : Naming) : List Row → Except RunError Int
  | [] => .ok 0
  | row :: _ =>
    (totalOfRow naming countColumn "column missing from count row" row).map Prod.fst

end Page

end SqlCompose
