import SqlCompose.Json.Basic
import SqlCompose.Number.Hex
import SqlCompose.Number.Integer
import SqlCompose.Number.Shortest

/-!
# Tokens of JSON

The tokens of JSON text and how each is written. Strings escape quotes, backslashes and controls
and nothing else. Floating point numbers have the shortest digits that read back, with a point up
to sixteen places before it and four zeros behind it, and an exponent otherwise.
-/

namespace SqlCompose.Json

/-- A token of JSON text. -/
inductive Token where
  | openArray
  | closeArray
  | openObject
  | closeObject
  | colon
  | comma
  | null
  | bool (value : Bool)
  | number (value : JsonNumber)
  | string (value : String)
  deriving DecidableEq, Repr

/-- A character of a string as it is written. -/
def escape (c : Char) : List Char :=
  if c = '"' then ['\\', '"']
  else if c = '\\' then ['\\', '\\']
  else if c = '\x08' then ['\\', 'b']
  else if c = '\x0c' then ['\\', 'f']
  else if c = '\n' then ['\\', 'n']
  else if c = '\r' then ['\\', 'r']
  else if c = '\t' then ['\\', 't']
  else if c.toNat < 0x20 then '\\' :: 'u' :: hexDigits 4 c.toNat
  else [c]

/-- A string as it is written. -/
def stringText (s : List Char) : List Char :=
  '"' :: s.flatMap escape ++ ['"']

/-- Digits as they are written. -/
def digitsText (d : DecimalDigits) : List Char :=
  if -5 < d.point ∧ d.point ≤ 16 then d.positional ['.', '0']
  else
    let exponent := d.point - 1
    let sign := if exponent < 0 then '-' else '+'
    let fraction := match d.digits.drop 1 with
      | [] => []
      | ds => '.' :: ds
    d.digits.take 1 ++ fraction ++ 'e' :: sign :: Nat.toDigits 10 exponent.natAbs

/-- A number as it is written. -/
def numberText : JsonNumber → List Char
  | .integer n _ => decimalDigits n
  | .float x _ =>
    let sign := if x.isNegative then ['-'] else []
    if x.magnitude = 0 then sign ++ ['0', '.', '0']
    else sign ++ digitsText (BinaryFormat.double.shortest .even x.magnitude)

/-- A token as it is written. -/
def Token.text : Token → List Char
  | openArray => ['[']
  | closeArray => [']']
  | openObject => ['\x7b']
  | closeObject => ['\x7d']
  | colon => [':']
  | comma => [',']
  | null => "null".toList
  | bool true => "true".toList
  | bool false => "false".toList
  | number n => numberText n
  | string s => stringText s.toList

end SqlCompose.Json
