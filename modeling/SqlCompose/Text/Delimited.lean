/-!
# Delimited text

A text between delimiters, in which a delimiter that belongs to the text is written twice. This
is how SQL writes quoted identifiers, with `"`, and string constants, with `'`.
-/

namespace SqlCompose.Text.Delimited

/-- The text with every occurrence of `d` written twice. -/
def double (d : Char) : List Char → List Char
  | [] => []
  | c :: s => if c = d then d :: d :: double d s else c :: double d s

/-- The text between delimiters. -/
def encode (d : Char) (s : List Char) : List Char :=
  d :: double d s ++ [d]

/-- The text up to the delimiter that closes it, and what follows that delimiter. -/
def body (d : Char) : List Char → Option (List Char × List Char)
  | [] => none
  | [c] => if c = d then some ([], []) else none
  | c :: e :: s =>
    if c = d then
      if e = d then (body d s).map fun (text, rest) => (d :: text, rest)
      else some ([], e :: s)
    else (body d (e :: s)).map fun (text, rest) => (c :: text, rest)

/-- The delimited text at the front of the input, and what follows it. -/
def decode (d : Char) : List Char → Option (List Char × List Char)
  | [] => none
  | c :: s => if c = d then body d s else none

end SqlCompose.Text.Delimited

namespace SqlCompose.Text

/-- A delimited SQL identifier. -/
def quoteIdentifier (name : String) : String :=
  String.ofList (Delimited.encode '"' name.toList)

/-- An SQL string constant. -/
def quoteConstant (text : String) : String :=
  String.ofList (Delimited.encode '\'' text.toList)

end SqlCompose.Text
