import SqlCompose.Text.Split

/-!
# Marks on keys

A key may start with a mark that says how it is meant, and may end in an alias.
-/

namespace SqlCompose.Text

/-- What follows the mark at the front of a key, if it is there. -/
def afterMark? (mark : Char) (key : String) : Option String :=
  match key.toList with
  | [] => none
  | c :: s => if c = mark then some (String.ofList s) else none

/-- What stands before and behind the last colon that is next to no other colon, where `previous`
is the character in front of the text. -/
def aliasFrom? (previous : Char) : List Char → Option (List Char × List Char)
  | [] => none
  | c :: s =>
    match aliasFrom? c s with
    | some (expression, name) => some (c :: expression, name)
    | none => if c = ':' ∧ previous ≠ ':' ∧ s.head? ≠ some ':' then some ([], s) else none

/-- The expression and the alias of a key: they are separated by its last colon that is next to no
other colon and not at the front. Doubled colons are casts. -/
def splitAlias? : List Char → Option (List Char × List Char)
  | [] => none
  | c :: s => (aliasFrom? c s).map fun (expression, name) => (c :: expression, name)

end SqlCompose.Text
