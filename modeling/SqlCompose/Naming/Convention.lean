import SqlCompose.Text.Words

/-!
# Naming conventions

How a name of several words is spelled.
-/

namespace SqlCompose

open Text

/-- A way to spell names. -/
inductive Convention where
  /-- Spelled `created_at`. -/
  | snake
  /-- Spelled `createdAt`. -/
  | camel
  /-- Spelled `CreatedAt`. -/
  | pascal
  /-- Spelled `created-at`. -/
  | kebab
  /-- Spelled `CREATED_AT`. -/
  | screamingSnake
  /-- Spelled as given. -/
  | preserve
  deriving DecidableEq, Repr

namespace Convention

/-- All conventions. -/
def all : List Convention := [snake, camel, pascal, kebab, screamingSnake, preserve]

/-- The name by which a configuration refers to the convention. -/
def name : Convention → String
  | snake => "snake"
  | camel => "camel"
  | pascal => "pascal"
  | kebab => "kebab"
  | screamingSnake => "screaming_snake"
  | preserve => "preserve"

/-- The convention of that name. -/
def ofName? (s : String) : Option Convention :=
  all.find? fun c => c.name == s

theorem ofName?_name (c : Convention) : ofName? c.name = some c := by
  cases c <;> decide

/-- Words with capitals, all but the first. -/
def camelWords : List (List Char) → List Char
  | [] => []
  | w :: ws => lowerWord w ++ ws.flatMap capitalWord

/-- The spelling of a name. -/
def apply : Convention → List Char → List Char
  | snake, s => List.intercalate ['_'] ((words s).map lowerWord)
  | camel, s => camelWords (words s)
  | pascal, s => (words s).flatMap capitalWord
  | kebab, s => List.intercalate ['-'] ((words s).map lowerWord)
  | screamingSnake, s => List.intercalate ['_'] ((words s).map upperWord)
  | preserve, s => s

end Convention

end SqlCompose
