/-!
# Splitting at separators

A text is cut at every character that is a separator. There is always one piece more than there
are separators, so pieces may be empty.
-/

namespace SqlCompose.Text

/-- The pieces of a text between the characters that satisfy `sep`. -/
def splitWhere (sep : Char → Bool) : List Char → List (List Char)
  | [] => [[]]
  | c :: s =>
    if sep c then [] :: splitWhere sep s
    else match splitWhere sep s with
      | [] => [[c]]
      | piece :: pieces => (c :: piece) :: pieces

/-- The pieces of a text between the occurrences of one character. -/
def splitAt (sep : Char) (s : List Char) : List (List Char) :=
  splitWhere (· == sep) s

/-- The text before the first doubled occurrence of `c`, and what follows it. -/
def splitAtDouble (c : Char) : List Char → Option (List Char × List Char)
  | a :: b :: s =>
    if a = c ∧ b = c then some ([], s)
    else (splitAtDouble c (b :: s)).map fun (before, after) => (a :: before, after)
  | _ => none

theorem splitWhere_ne_nil (sep : Char → Bool) (s : List Char) : splitWhere sep s ≠ [] := by
  cases s with
  | nil => simp [splitWhere]
  | cons c s =>
    simp only [splitWhere]
    split
    · simp
    · split <;> simp

@[simp] theorem splitWhere_sep {sep : Char → Bool} {c : Char} (h : sep c = true) (s : List Char) :
    splitWhere sep (c :: s) = [] :: splitWhere sep s := by
  simp [splitWhere, h]

/-- A text without separators is one piece. -/
theorem splitWhere_of_none {sep : Char → Bool} {s : List Char} (h : ∀ c ∈ s, sep c = false) :
    splitWhere sep s = [s] := by
  induction s with
  | nil => rfl
  | cons c s ih => simp_all [splitWhere]

end SqlCompose.Text
