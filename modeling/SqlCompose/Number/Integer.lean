/-!
# Integers in decimal

Writing integers, and reading them with an optional sign into a range. Reading goes digit by digit
and stops at the first character that is wrong, so a number that leaves the range before a foreign
character is out of range.
-/

namespace SqlCompose

/-- The decimal text of an integer, as characters. -/
def decimalDigits : Int → List Char
  | .ofNat n => Nat.toDigits 10 n
  | .negSucc n => '-' :: Nat.toDigits 10 (n + 1)

/-- The decimal text of an integer. -/
def decimalText (n : Int) : String :=
  String.ofList (decimalDigits n)

/-- Why a text is not an integer of a range. -/
inductive IntegerFault where
  | empty
  | invalidDigit
  | tooLarge
  | tooSmall
  deriving DecidableEq, Repr

/-- The wording of the fault. -/
def IntegerFault.message : IntegerFault → String
  | empty => "cannot parse integer from empty string"
  | invalidDigit => "invalid digit found in string"
  | tooLarge => "number too large to fit in target type"
  | tooSmall => "number too small to fit in target type"

/-- The value of a decimal digit. -/
def digitValue? (c : Char) : Option Nat :=
  if c.isDigit then some (c.toNat - '0'.toNat) else none

/-- The integers from `least` to `greatest`. -/
structure IntegerRange where
  least : Int
  greatest : Int

namespace IntegerRange

/-- The integers of `bits` bits in two's complement. -/
def signed (bits : Nat) : IntegerRange := ⟨-Nat.pow 2 (bits - 1), Nat.pow 2 (bits - 1) - 1⟩

/-- Is `n` in the range? -/
def contains (r : IntegerRange) (n : Int) : Bool := decide (r.least ≤ n) && decide (n ≤ r.greatest)

/-- The integer read so far continued with further digits, each counted with `sign`. -/
def readDigits (r : IntegerRange) (sign : Int) (read : Int) : List Char → Except IntegerFault Int
  | [] => .ok read
  | c :: s =>
    match digitValue? c with
    | none => .error .invalidDigit
    | some d =>
      let n := read * 10 + sign * d
      if n < r.least then .error .tooSmall
      else if r.greatest < n then .error .tooLarge
      else r.readDigits sign n s

/-- The integer of the range that a text spells. -/
def read (r : IntegerRange) : List Char → Except IntegerFault Int
  | [] => .error .empty
  | ['+'] => .error .invalidDigit
  | ['-'] => .error .invalidDigit
  | '+' :: s => r.readDigits 1 0 s
  | '-' :: s => r.readDigits (-1) 0 s
  | s => r.readDigits 1 0 s

end IntegerRange

end SqlCompose
