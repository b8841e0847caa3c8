import SqlCompose.Value.Basic

/-!
# SQL with bound values

A piece of SQL is text in which values are bound. When it is written out, each bound value becomes
a placeholder and goes to the end of the list of parameters, so placeholders are numbered as they
appear and the text does not depend on the values.
-/

namespace SqlCompose

/-- The values of the placeholders `$1`, `$2` and so on, in order. -/
structure Params where
  values : List Value
  deriving Repr

namespace Params

/-- No values. -/
def empty : Params := ⟨[]⟩

/-- The number of values. -/
def size (p : Params) : Nat := p.values.length

/-- Adds a value, and gives its number, which starts at one. -/
def push (p : Params) (v : Value) : Nat × Params := (p.size + 1, ⟨p.values ++ [v]⟩)

/-- The placeholder of a number. -/
def mark (n : Nat) : String := "$" ++ decimalText n

/-- Adds a value, and gives its placeholder. -/
def placeholder (p : Params) (v : Value) : String × Params := ((mark (p.push v).1), (p.push v).2)

/-- The parameters with further values behind them. -/
def append (p : Params) (vs : List Value) : Params := ⟨p.values ++ vs⟩

end Params

/-- SQL text and the values of its placeholders. -/
structure Query where
  sql : String
  params : List Value
  deriving Repr

/-- A part of SQL: text, or a bound value. -/
inductive Piece where
  | text (s : String)
  | bound (v : Value)
  deriving Repr

/-- SQL in which values are bound. -/
abbrev Sql := List Piece

namespace Sql

/-- SQL without bound values. -/
def text (s : String) : Sql := [.text s]

/-- A bound value. -/
def bind (v : Value) : Sql := [.bound v]

/-- The bound values, in order. -/
def values : Sql → List Value
  | [] => []
  | .text _ :: s => values s
  | .bound v :: s => v :: values s

/-- Is there nothing to write? -/
def isBlank : Sql → Bool
  | [] => true
  | .text s :: rest => s.isEmpty && isBlank rest
  | .bound _ :: _ => false

/-- The text, with the bound values added to `p`. -/
def render (p : Params) : Sql → String × Params
  | [] => ("", p)
  | .text s :: rest =>
    let (t, q) := render p rest
    (s ++ t, q)
  | .bound v :: rest =>
    let (m, q) := p.placeholder v
    let (t, q) := render q rest
    (m ++ t, q)

/-- Text and parameters. -/
def toQuery (s : Sql) : Query :=
  let (sql, p) := s.render .empty
  ⟨sql, p.values⟩

/-- Parts with a separator between them. -/
def joined (separator : String) : List Sql → Sql
  | [] => []
  | [s] => s
  | s :: t :: rest => s ++ .text separator :: joined separator (t :: rest)

/-- The parts that are not blank, with spaces between them. -/
def spaced (parts : List Sql) : Sql :=
  joined " " (parts.filter fun s => !s.isBlank)

@[simp] theorem values_append (s t : Sql) : values (s ++ t) = values s ++ values t := by
  induction s with
  | nil => rfl
  | cons p s ih => cases p <;> simp [values, ih]

/-- The parameters are those there were, followed by the bound values. -/
theorem render_snd (p : Params) (s : Sql) : (render p s).2 = p.append s.values := by
  induction s generalizing p with
  | nil => simp [render, values, Params.append]
  | cons x s ih =>
    cases x <;> simp [render, values, ih, Params.placeholder, Params.push, Params.append]

end Sql

end SqlCompose
