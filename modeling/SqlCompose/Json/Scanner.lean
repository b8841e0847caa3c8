import SqlCompose.Json.Numeral
import SqlCompose.Json.Token

/-!
# Tokens of a text

Cutting a text into JSON tokens, with blanks between them. Strings may hold any character but
quotes, backslashes and controls as it is; escapes of four hexadecimal digits name UTF-16 units,
and two of them that form a surrogate pair name one character.
-/

namespace SqlCompose.Json

/-- An element of a string: a character, or a UTF-16 unit that an escape names. -/
inductive StringUnit where
  | char (c : Char)
  | unit (n : Nat)
  deriving DecidableEq, Repr

/-- The character of an escape with one letter. -/
def escaped? (c : Char) : Option Char :=
  [('"', '"'), ('\\', '\\'), ('/', '/'), ('b', '\x08'), ('f', '\x0c'), ('n', '\n'), ('r', '\r'),
    ('t', '\t')].lookup c

/-- The elements of a string up to the quote that closes it, and what follows that quote. -/
def takeString : List Char → Option (List StringUnit × List Char)
  | [] => none
  | '"' :: s => some ([], s)
  | '\\' :: 'u' :: a :: b :: c :: d :: s => do
    let n ← hexNumber? [a, b, c, d]
    let (units, rest) ← takeString s
    return (.unit n :: units, rest)
  | '\\' :: c :: s => do
    let e ← escaped? c
    let (units, rest) ← takeString s
    return (.char e :: units, rest)
  | c :: s =>
    if c = '\\' ∨ c.toNat < 0x20 then none
    else (takeString s).map fun (units, rest) => (.char c :: units, rest)

/-- Is the UTF-16 unit the first of a pair? -/
def isHighSurrogate (n : Nat) : Bool := decide (0xd800 ≤ n) && decide (n ≤ 0xdbff)

/-- Is the UTF-16 unit the second of a pair? -/
def isLowSurrogate (n : Nat) : Bool := decide (0xdc00 ≤ n) && decide (n ≤ 0xdfff)

/-- The characters of a string, if its surrogates come in pairs. -/
def joinUnits : List StringUnit → Option (List Char)
  | [] => some []
  | .char c :: us => (joinUnits us).map (c :: ·)
  | .unit n :: us =>
    if isLowSurrogate n then none
    else if isHighSurrogate n then
      match us with
      | .unit m :: us =>
        if isLowSurrogate m then
          (joinUnits us).map
            (Char.ofNat (0x10000 + (n - 0xd800) * 0x400 + (m - 0xdc00)) :: ·)
        else none
      | _ => none
    else (joinUnits us).map (Char.ofNat n :: ·)

theorem length_of_takeString {s rest : List Char} {us : List StringUnit}
    (h : takeString s = some (us, rest)) : rest.length < s.length := by
  fun_induction takeString s generalizing us with
  | case1 => simp at h
  | case2 s => simp only [Option.some.injEq, Prod.mk.injEq] at h; simp [h.2]
  | case3 a b c d s ih =>
    simp only [Option.bind_eq_bind, Option.bind_eq_some_iff, Option.pure_def, Option.some.injEq,
      Prod.mk.injEq, Prod.exists] at h
    obtain ⟨_, _, vs, r, hr, _, rfl⟩ := h
    have := ih hr
    simp only [List.length_cons]
    omega
  | case4 c s _ ih =>
    simp only [Option.bind_eq_bind, Option.bind_eq_some_iff, Option.pure_def, Option.some.injEq,
      Prod.mk.injEq, Prod.exists] at h
    obtain ⟨_, _, vs, r, hr, _, rfl⟩ := h
    have := ih hr
    simp only [List.length_cons]
    omega
  | case5 => simp at h
  | case6 c s _ _ _ _ ih =>
    simp only [Option.map_eq_some_iff, Prod.mk.injEq, Prod.exists] at h
    obtain ⟨vs, r, hr, _, rfl⟩ := h
    have := ih hr
    simp only [List.length_cons]
    omega

/-- The blanks of JSON. -/
def isSpace (c : Char) : Bool := c == ' ' || c == '\n' || c == '\t' || c == '\r'

/-- A token that is a word or a mark, and what follows it. -/
def takeFixed : List Char → Option (Token × List Char)
  | '[' :: s => some (.openArray, s)
  | ']' :: s => some (.closeArray, s)
  | '\x7b' :: s => some (.openObject, s)
  | '\x7d' :: s => some (.closeObject, s)
  | ':' :: s => some (.colon, s)
  | ',' :: s => some (.comma, s)
  | 'n' :: 'u' :: 'l' :: 'l' :: s => some (.null, s)
  | 't' :: 'r' :: 'u' :: 'e' :: s => some (.bool true, s)
  | 'f' :: 'a' :: 'l' :: 's' :: 'e' :: s => some (.bool false, s)
  | _ => none

theorem length_of_takeFixed {s rest : List Char} {t : Token}
    (h : takeFixed s = some (t, rest)) : rest.length < s.length := by
  unfold takeFixed at h
  split at h <;> simp_all <;> omega

/-- The token at the front of a text, and what follows it, which is shorter. -/
def takeToken (s : List Char) : Option (Token × { rest : List Char // rest.length < s.length }) :=
  match h : takeFixed s with
  | some (t, rest) => some (t, ⟨rest, length_of_takeFixed h⟩)
  | none =>
    match s with
    | '"' :: s =>
      match h : takeString s with
      | some (us, rest) =>
        (joinUnits us).map fun cs =>
          (.string (String.ofList cs), ⟨rest, Nat.lt_succ_of_lt (length_of_takeString h)⟩)
      | none => none
    | s =>
      match h : Numeral.take s with
      | some (n, rest) => n.value?.map fun x => (.number x, ⟨rest, Numeral.length_of_take h⟩)
      | none => none

/-- The tokens of a text. -/
def Token.scan (s : List Char) : Option (List Token) :=
  match s with
  | [] => some []
  | c :: s =>
    if isSpace c then scan s
    else match takeToken (c :: s) with
      | none => none
      | some (t, ⟨rest, _⟩) => (scan rest).map (t :: ·)
termination_by s.length
decreasing_by
  · simp
  · assumption

end SqlCompose.Json
