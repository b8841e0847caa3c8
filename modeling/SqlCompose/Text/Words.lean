import SqlCompose.Text.Alphanumeric
import SqlCompose.Text.LetterCase
import SqlCompose.Text.Split

/-!
# Words of a name

A name is cut into words at characters that are neither letters nor digits, and at changes of
letter case: `createdAt` is `created At` and `HTTPServer` is `HTTP Server`. Words are then written
in lower case, in upper case or with a capital.
-/

namespace SqlCompose.Text

/-- The case that governs the word read so far. -/
inductive WordCase where
  | undecided
  | lower
  | upper
  deriving DecidableEq, Repr

/-- The governing case once `c` has been read. -/
def WordCase.after (k : WordCase) (c : Char) : WordCase :=
  if isLowercase c then .lower else if isUppercase c then .upper else k

/-- The words of a run of letters and digits, where `word` is the part of the first word already
read and `k` its case. A word ends after a character in lower case that a capital follows, and
before the last of several capitals that a small letter follows. -/
def wordsFrom (k : WordCase) (word : List Char) : List Char → List (List Char)
  | [] => []
  | [c] => [word ++ [c]]
  | c :: next :: s =>
    if k.after c = .lower ∧ isUppercase next then
      (word ++ [c]) :: wordsFrom .undecided [] (next :: s)
    else if k = .upper ∧ isUppercase c ∧ isLowercase next then
      word :: wordsFrom .undecided [c] (next :: s)
    else
      wordsFrom (k.after c) (word ++ [c]) (next :: s)

/-- The words of a name, in order. -/
def words (name : List Char) : List (List Char) :=
  (splitWhere (fun c => !isAlphanumeric c) name).flatMap (wordsFrom .undecided [])

/-- A word in lower case. A sigma that ends the word takes its final form. -/
def lowerWord : List Char → List Char
  | [] => []
  | [c] => if c = 'Σ' then ['ς'] else lower c
  | c :: next :: s => lower c ++ lowerWord (next :: s)

/-- A word in upper case. -/
def upperWord (word : List Char) : List Char :=
  word.flatMap upper

/-- A word with a capital and the rest in lower case. -/
def capitalWord : List Char → List Char
  | [] => []
  | c :: s => upper c ++ lowerWord s

end SqlCompose.Text
