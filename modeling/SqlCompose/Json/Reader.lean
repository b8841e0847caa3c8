import SqlCompose.Json.Scanner
import SqlCompose.Entries

/-!
# Values of a text

Reading a value from its tokens, one by one, with the containers that are still open on a stack.
A key that an object repeats keeps its first place and its last value. Containers may be nested up
to a limit.
-/

namespace SqlCompose.Json

/-- An open container, with what it holds so far. -/
inductive Frame where
  /-- An array with its items, the last one first. -/
  | array (items : List Json)
  /-- An object with its entries and the key whose value is due. -/
  | object (entries : List (String × Json)) (key : String)

/-- What may come next, above the stack of containers around it. -/
inductive Expected where
  /-- A value. -/
  | value (stack : List Frame)
  /-- The first item of an array, or its end. -/
  | firstItem (stack : List Frame)
  /-- A comma behind an item, or the end of the array. -/
  | nextItem (items : List Json) (stack : List Frame)
  /-- The first key of an object, or its end. -/
  | firstKey (stack : List Frame)
  /-- A key. -/
  | key (entries : List (String × Json)) (stack : List Frame)
  /-- The colon behind a key. -/
  | colon (entries : List (String × Json)) (key : String) (stack : List Frame)
  /-- A comma behind an entry, or the end of the object. -/
  | nextKey (entries : List (String × Json)) (stack : List Frame)
  /-- Nothing: the value is complete. -/
  | nothing (value : Json)

/-- What may come behind a value. -/
def Expected.after (value : Json) : List Frame → Expected
  | [] => .nothing value
  | .array items :: stack => .nextItem (value :: items) stack
  | .object entries k :: stack => .nextKey (Entries.set k value entries) stack

/-- What may come behind the first token of a value. -/
def Expected.afterFirst (limit : Nat) (stack : List Frame) : Token → Option Expected
  | .null => some (.after .null stack)
  | .bool b => some (.after (.bool b) stack)
  | .number n => some (.after (.number n) stack)
  | .string s => some (.after (.string s) stack)
  | .openArray => if stack.length < limit then some (.firstItem stack) else none
  | .openObject => if stack.length < limit then some (.firstKey stack) else none
  | _ => none

/-- What may come behind a token, if that is expected. -/
def Expected.step (limit : Nat) : Expected → Token → Option Expected
  | .value stack, t => Expected.afterFirst limit stack t
  | .firstItem stack, .closeArray => some (.after (.array []) stack)
  | .firstItem stack, t => Expected.afterFirst limit (.array [] :: stack) t
  | .nextItem items stack, .comma => some (.value (.array items :: stack))
  | .nextItem items stack, .closeArray => some (.after (.array items.reverse) stack)
  | .firstKey stack, .closeObject => some (.after (.object []) stack)
  | .firstKey stack, .string k => some (.colon [] k stack)
  | .key entries stack, .string k => some (.colon entries k stack)
  | .colon entries k stack, .colon => some (.value (.object entries k :: stack))
  | .nextKey entries stack, .comma => some (.key entries stack)
  | .nextKey entries stack, .closeObject => some (.after (.object entries) stack)
  | _, _ => none

/-- The value that a list of tokens forms. -/
def ofTokens? (limit : Nat) (tokens : List Token) : Option Json := do
  match ← tokens.foldlM (Expected.step limit) (.value []) with
  | .nothing j => some j
  | _ => none

/-- The greatest depth of nested containers. -/
def maxDepth : Nat := 127

/-- The value that a text spells. -/
def read? (s : String) : Option Json := do
  ofTokens? maxDepth (← Token.scan s.toList)

end SqlCompose.Json
