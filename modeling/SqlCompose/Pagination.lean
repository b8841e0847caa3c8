import SqlCompose.Entries
import SqlCompose.Json.Basic

/-!
# Pagination

Which rows of a result are wanted, and how JSON says so: an object with `offset` and `limit`, which
may also be called `count`, or an array of the two. The offset is zero and the limit none if they
are missing.
-/

namespace SqlCompose

/-- How many rows are passed over, and how many follow at most. -/
structure Pagination where
  offset : Nat
  limit : Option Nat
  deriving DecidableEq, Repr

namespace Pagination

/-- A limit, which may be null. -/
def limitOfJson? : Json → Option (Option Nat)
  | .null => some none
  | j => j.natural?.map some

/-- The pagination of JSON fields. -/
def ofFields? (offset limit : Option Json) : Option Pagination := do
  return ⟨← Json.field? Json.natural? 0 offset, ← Json.field? limitOfJson? none limit⟩

/-- The pagination of a JSON value. -/
def ofJson? : Json → Option Pagination
  | .object es =>
    match Entries.find? "limit" es, Entries.find? "count" es with
    | some _, some _ => none
    | limit, count => ofFields? (Entries.find? "offset" es) (limit.or count)
  | .array items => if items.length ≤ 2 then ofFields? items[0]? items[1]? else none
  | _ => none

/-- The pagination as a JSON object. -/
def toJson (p : Pagination) : Json :=
  .object [("offset", .ofInt p.offset), ("limit", (p.limit.map fun n => Json.ofInt n).getD .null)]

end Pagination

end SqlCompose
