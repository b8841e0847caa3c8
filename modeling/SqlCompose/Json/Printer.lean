import SqlCompose.Json.Token

/-!
# JSON text

The text of a value: its tokens one after the other, without blanks.
-/

namespace SqlCompose.Json

mutual

/-- The tokens of a value. -/
def tokens : Json → List Token
  | .null => [.null]
  | .bool b => [.bool b]
  | .number n => [.number n]
  | .string s => [.string s]
  | .array [] => [.openArray, .closeArray]
  | .array (x :: xs) => .openArray :: tokens x ++ itemTokens xs
  | .object [] => [.openObject, .closeObject]
  | .object ((k, x) :: es) => .openObject :: .string k :: .colon :: tokens x ++ entryTokens es

/-- The tokens of the items behind another one, and of the end of their array. -/
def itemTokens : List Json → List Token
  | [] => [.closeArray]
  | x :: xs => .comma :: tokens x ++ itemTokens xs

/-- The tokens of the entries behind another one, and of the end of their object. -/
def entryTokens : List (String × Json) → List Token
  | [] => [.closeObject]
  | (k, x) :: es => .comma :: .string k :: .colon :: tokens x ++ entryTokens es

end

/-- The text of a value. -/
def text (j : Json) : String :=
  String.ofList (j.tokens.flatMap Token.text)

end SqlCompose.Json
