import SqlCompose.Number.Hex

/-!
# Universally unique identifiers

Identifiers of 128 bits, written as 32 hexadecimal digits in groups of 8, 4, 4, 4 and 12. They are
read with or without the hyphens, and with them also in braces or behind `urn:uuid:`. Letters may be
in either case.
-/

namespace SqlCompose

/-- An identifier of 128 bits. -/
structure Uuid where
  bits : BitVec 128
  deriving DecidableEq, Repr

namespace Uuid

/-- Digits in groups of the given lengths, with hyphens between them. -/
def grouped : List Nat → List Char → List Char
  | [], s => s
  | n :: ns, s => s.take n ++ '-' :: grouped ns (s.drop n)

/-- The text of the identifier. -/
def text (u : Uuid) : String := String.ofList (grouped [8, 4, 4, 4] (hexDigits 32 u.bits.toNat))

/-- The identifier of 32 digits. -/
def ofHexDigits? (s : List Char) : Option Uuid :=
  if s.length = 32 then (hexNumber? s).map fun n => ⟨BitVec.ofNat 128 n⟩ else none

/-- The digits of a grouped text, if its hyphens stand behind groups of the given lengths. -/
def ungrouped : List Nat → List Char → Option (List Char)
  | [], s => some s
  | n :: ns, s => match s.drop n with
    | '-' :: rest => (ungrouped ns rest).map (s.take n ++ ·)
    | _ => none

/-- The identifier of a text with hyphens. -/
def ofGrouped? (s : List Char) : Option Uuid :=
  (ungrouped [8, 4, 4, 4] s).bind ofHexDigits?

/-- What stands in front of the text when it is written as a name. -/
def urn : List Char := "urn:uuid:".toList

/-- The identifier that a text spells. -/
def read? : List Char → Option Uuid
  | '\x7b' :: s => if s.getLast? = some '\x7d' then ofGrouped? s.dropLast else none
  | s =>
    if s.length = 32 then ofHexDigits? s
    else if (s.take urn.length).map Char.toLower = urn then ofGrouped? (s.drop urn.length)
    else ofGrouped? s

end Uuid

end SqlCompose
