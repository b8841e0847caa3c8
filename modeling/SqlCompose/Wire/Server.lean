import SqlCompose.Execution.Run
import SqlCompose.Wire.Decode

/-!
# A server with one answer

A server that takes any statement with parameters of its types and gives the same rows each time,
or refuses to.
-/

namespace SqlCompose.Wire

/-- A server with one answer. -/
structure Server where
  paramTypes : List ColumnType
  columns : List Column
  rows : List (List (Option Bytes))
  /-- Does it refuse? -/
  refuses : Bool
  deriving Repr

namespace Server

/-- The bytes of parameters from a place on, encoded in order. -/
def encodeAll (place : Nat) : List (ColumnType × Value) → Except RunError (List (Option Bytes))
  | [] => .ok []
  | (type, value) :: rest =>
    match encode type value with
    | .error _ => .error (.query ("error serializing parameter " ++ decimalText place))
    | .ok bytes => (encodeAll (place + 1) rest).map (bytes :: ·)

/-- The bytes of the parameters of a statement, one for each type. -/
def bind (s : Server) (values : List Value) : Except RunError (List (Option Bytes)) :=
  if values.length = s.paramTypes.length then encodeAll 0 (s.paramTypes.zip values)
  else .error (.query ("expected " ++ decimalText s.paramTypes.length ++ " parameters but got " ++
    decimalText values.length))

/-- Can the text of a statement be sent? Texts end at a zero, so none may be in them. -/
def sendable (q : Query) : Bool := !q.sql.toList.contains '\x00'

/-- The answer to a statement. -/
def answer (s : Server) (q : Query) : Except RunError (List Row) := do
  if !sendable q then .error (.query "error encoding message to server")
  let _ ← s.bind q.params
  if s.refuses then .error (.query "db error")
  else s.rows.mapM (decodeRow s.columns)

/-- The server as an executor. -/
def executor (s : Server) : Executor := fun _ q => s.answer q

/-- The last statement of a run that reached the server, and the bytes of its parameters if they
were accepted. -/
def lastReceived? (s : Server) (j : Journal) : Option (Query × Option (List (Option Bytes))) :=
  (j.calls.filter sendable).getLast?.map fun q => (q, (s.bind q.params).toOption)

end Server

end SqlCompose.Wire
