/-!
# Cutting text to a number of bytes

The longest part at the front of a text whose UTF-8 form has at most a given number of bytes.
-/

namespace SqlCompose.Text

/-- The number of bytes in the UTF-8 form. -/
def byteCount : List Char → Nat
  | [] => 0
  | c :: s => c.utf8Size + byteCount s

/-- The characters at the front that fit in `limit` bytes. -/
def cut (limit : Nat) : List Char → List Char
  | [] => []
  | c :: s => if c.utf8Size ≤ limit then c :: cut (limit - c.utf8Size) s else []

/-- What is cut off stands at the end. -/
theorem exists_eq_cut_append (limit : Nat) (s : List Char) : ∃ rest, s = cut limit s ++ rest := by
  induction s generalizing limit with
  | nil => exact ⟨[], rfl⟩
  | cons c s ih =>
    by_cases h : c.utf8Size ≤ limit
    · obtain ⟨rest, hr⟩ := ih (limit - c.utf8Size)
      exact ⟨rest, by simp [cut, h, ← hr]⟩
    · exact ⟨c :: s, by simp [cut, h]⟩

theorem byteCount_cut_le (limit : Nat) (s : List Char) : byteCount (cut limit s) ≤ limit := by
  induction s generalizing limit with
  | nil => simp [cut, byteCount]
  | cons c s ih =>
    by_cases h : c.utf8Size ≤ limit
    · have hc := ih (limit - c.utf8Size)
      simp only [cut, h, if_true, byteCount]
      omega
    · simp [cut, h, byteCount]

/-- A text of at most `limit` bytes, or the part of it that fits followed by `mark`. -/
def shorten (limit : Nat) (mark : String) (s : String) : String :=
  if s.utf8ByteSize ≤ limit then s else String.ofList (cut limit s.toList) ++ mark

end SqlCompose.Text
