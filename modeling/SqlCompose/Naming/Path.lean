import SqlCompose.Naming.Convention
import SqlCompose.Text.Delimited

/-!
# Names on both sides

Callers write names in one convention and the database stores them in another. A name that the
caller writes may be a path of segments between dots. Each segment is converted on its own: text
between quotes is kept, a segment that is no plain word (`*`, `count(*)`) is kept, and a leading
`!` is dropped and keeps its segment free of quotes.
-/

namespace SqlCompose

open Text

/-- A plain word: letters, digits and underscores, at least one of them. -/
def isWord (s : List Char) : Bool :=
  !s.isEmpty && s.all fun c => c == '_' || isAlphanumeric c

/-- Does the character open a quoted span? -/
def isQuote (c : Char) : Bool := c == '"' || c == '\''

/-- Where the reader of a path stands. -/
inductive PathPlace where
  /-- Outside quotes, with the part of the segment read so far. -/
  | segment (read : List Char)
  /-- Inside a span that `delimiter` closes. -/
  | span (delimiter : Char)
  deriving DecidableEq

/-- One segment in a convention, between double quotes if `quoted`. -/
def Convention.segment (conv : Convention) (quoted : Bool) (s : List Char) : List Char :=
  let (s, quoted) := match s with
    | '!' :: bare => (bare, false)
    | s => (s, quoted)
  if !isWord s then s
  else if quoted then Delimited.encode '"' (conv.apply s)
  else conv.apply s

/-- The rest of a path in a convention, read from `place`. -/
def Convention.pathFrom (conv : Convention) (quoted : Bool) : PathPlace → List Char → List Char
  | .segment read, [] => conv.segment quoted read
  | .segment read, c :: s =>
    if c = '.' then
      conv.segment quoted read ++ '.' :: conv.pathFrom quoted (.segment []) s
    else if isQuote c then
      conv.segment quoted read ++ c :: conv.pathFrom quoted (.span c) s
    else conv.pathFrom quoted (.segment (read ++ [c])) s
  | .span _, [] => []
  | .span d, c :: s =>
    c :: conv.pathFrom quoted (if c = d then .segment [] else .span d) s

/-- A path in a convention, its words between double quotes if `quoted`. -/
def Convention.path (conv : Convention) (quoted : Bool) (s : List Char) : List Char :=
  conv.pathFrom quoted (.segment []) s

/-- The two conventions of a name. -/
structure Naming where
  /-- The convention of the database. -/
  database : Convention
  /-- The convention of the caller. -/
  caller : Convention
  deriving DecidableEq, Repr

namespace Naming

/-- The database name of a path written by the caller, with quoted words. -/
def quotedName (n : Naming) (path : String) : String :=
  String.ofList (n.database.path true path.toList)

/-- The database name of a path written by the caller, without quotes of its own. -/
def bareName (n : Naming) (path : String) : String :=
  String.ofList (n.database.path false path.toList)

/-- The caller's name of a database column. Names that are no plain word are kept. -/
def callerName (n : Naming) (column : String) : String :=
  if isWord column.toList then String.ofList (n.caller.apply column.toList) else column

end Naming

end SqlCompose
