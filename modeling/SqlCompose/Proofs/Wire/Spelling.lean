import SqlCompose.Proofs.Number.Hex
import SqlCompose.Proofs.Wire.WriteBack

/-!
# Texts for columns of other types

A text for a column of integers with sign is parsed: it is sent as the integer that it spells, or
refused. A text for a column of object numbers or of bytes is neither parsed nor refused, but sent
as the bytes that it has, and what is read from these is never what the text spells
(`encode_text_parses_iff`).
-/

namespace SqlCompose.Wire

/-- The types whose texts are sent as they are, although their values are no texts. -/
def unparsedTypes : List ColumnType := [.oid, .bytea]

/-- What a text spells in a column of the type: an integer or, as bytes are written in digits, the
text itself. -/
def SpellsValue (s : String) (j : Json) : ColumnType → Prop
  | .bytea => j = .string s
  | _ => ∃ n, Spells s.toList n ∧ j = .ofInt n

/-- Is a text refused for the type, or sent as what is read as the value that it spells? -/
def ParsedOrRefused (type : ColumnType) (s : String) : Prop :=
  ∀ sent, encode type (.text s) = .ok sent →
    ∃ bytes j, sent = some bytes ∧ SpellsValue s j type ∧
      ∀ place name, decodeCell place ⟨name, type⟩ (some bytes) = .ok j

/-! ## Integers -/

section Integers

variable {type : ColumnType} {width : Nat} (h : integerWidth? type = some width)
include h

theorem encode_text_integer (s : String) :
    encode type (.text s) = (encodeSpelled width s).map some := by
  rcases integerWidth?_cases h with ⟨rfl, rfl⟩ | ⟨rfl, rfl⟩ | ⟨rfl, rfl⟩ <;> rfl

/-- A text is sent just if it spells an integer of the type, and as the bytes of this integer. -/
theorem encode_text_eq_ok_iff {s : String} {sent : Option Bytes} :
    encode type (.text s) = .ok sent ↔ ∃ n, Spells s.toList n ∧
      (IntegerRange.signed (8 * width)).contains n = true ∧ sent = some (ofInt width n) := by
  rw [encode_text_integer h]
  unfold encodeSpelled
  cases hr : (IntegerRange.signed (8 * width)).read s.toList with
  | error fault =>
    refine iff_of_false nofun ?_
    rintro ⟨n, hs, hc, -⟩
    have hn := (IntegerRange.read_eq_ok_iff (zero_inRange h)).mpr ⟨hs, hc⟩
    cases hr.symm.trans hn
  | ok n =>
    obtain ⟨hs, hc⟩ := (IntegerRange.read_eq_ok_iff (zero_inRange h)).mp hr
    constructor
    · intro he
      cases he
      exact ⟨n, hs, hc, rfl⟩
    · rintro ⟨m, hm, -, rfl⟩
      rw [hm.unique hs]
      rfl

theorem decodeCell_ofInt {n : Int} (hn : (IntegerRange.signed (8 * width)).contains n = true)
    (place : Nat) (name : String) :
    decodeCell place ⟨name, type⟩ (some (ofInt width n)) = .ok (.ofInt n) :=
  decodeCell_eq_ok_iff.mpr ⟨_, decoder?_integer h, decodeInt?_ofInt h hn⟩

theorem parsedOrRefused_integer (s : String) : ParsedOrRefused type s := by
  intro sent he
  obtain ⟨n, hs, hc, rfl⟩ := (encode_text_eq_ok_iff h).mp he
  refine ⟨_, .ofInt n, rfl, ?_, fun place name => decodeCell_ofInt h hc place name⟩
  rcases integerWidth?_cases h with ⟨rfl, -⟩ | ⟨rfl, -⟩ | ⟨rfl, -⟩ <;> exact ⟨n, hs, rfl⟩

end Integers

/-! ## Object numbers and bytes -/

theorem encode_text_unparsed {type : ColumnType} (h : type ∈ unparsedTypes) (s : String) :
    encode type (.text s) = .ok (some (ofText s)) := by
  rcases List.mem_pair.mp h with rfl | rfl <;> rfl

theorem eq_of_ofInt_eq {n m : Int} (h : -0x8000000000000000 ≤ n ∧ n < 0x10000000000000000)
    (he : Json.ofInt n = Json.ofInt m) : n = m := by
  unfold Json.ofInt JsonNumber.ofInt? at he
  rw [dif_pos h] at he
  by_cases hm : -0x8000000000000000 ≤ m ∧ m < 0x10000000000000000
  · rw [dif_pos hm] at he
    injection he with he
    injection he
  · rw [dif_neg hm] at he
    cases he

/-- Four bytes of which the first is a sign or a digit are a number of nine digits, and four
characters spell none of these. -/
theorem not_parsedOrRefused_oid (s : String) : ¬ ParsedOrRefused .oid s := by
  intro h
  obtain ⟨bytes, j, hb, ⟨n, hs, rfl⟩, hd⟩ := h _ (encode_text_unparsed List.mem_cons_self s)
  obtain rfl := Option.some.inj hb
  obtain ⟨decode, hdecode, hj⟩ := decodeCell_eq_ok_iff.mp (hd 0 "")
  cases hdecode
  obtain ⟨bytes, he, hn⟩ := Option.map_eq_some_iff.mp hj
  obtain ⟨rfl, hl⟩ := exactly?_eq_some_iff.mp he
  obtain ⟨c, cs, hc, hlow, hhigh, hlt⟩ := hs.exists_cons
  obtain ⟨b, rest, hrest, hbc⟩ := exists_ofText_eq_cons hc (Nat.lt_of_le_of_lt hhigh (by decide))
  have hs4 : 10 ^ s.toList.length ≤ 10 ^ 4 :=
    Nat.pow_le_pow_right (by decide) (hl ▸ length_le_length_ofText s)
  have hle := le_toNat_cons b rest
  have hup := toNat_lt (ofText s)
  rw [hl] at hup
  rw [← hrest] at hle
  have hr3 : rest.length = 3 := by
    rw [hrest] at hl
    exact Nat.succ.inj hl
  rw [hr3, hbc] at hle
  change c.toNat * 0x1000000 ≤ toNat (ofText s) at hle
  change toNat (ofText s) < 0x100000000 at hup
  change 43 ≤ c.toNat at hlow
  have hnum := eq_of_ofInt_eq ⟨by omega, by omega⟩ hn
  omega

/-- In digits bytes take more characters than as text. -/
theorem not_parsedOrRefused_bytea (s : String) : ¬ ParsedOrRefused .bytea s := by
  intro h
  obtain ⟨bytes, j, hb, rfl, hd⟩ := h _ (encode_text_unparsed (by decide) s)
  obtain rfl := Option.some.inj hb
  obtain ⟨decode, hdecode, hj⟩ := decodeCell_eq_ok_iff.mp (hd 0 "")
  cases hdecode
  have hs : byteText (ofText s) = s := by
    injection hj with hj
    injection hj
  have hlen := congrArg (fun t : String => t.toList.length) hs
  unfold byteText at hlen
  rw [String.toList_ofList, List.length_cons, List.length_cons, length_hexOfBytes] at hlen
  have hle := length_le_length_ofText s
  omega

/-- What becomes of a text for a column that holds integers or bytes. For integers with sign it is
parsed or refused, and it is refused just if it spells no integer of the type. For object numbers
and for bytes it is always sent as its own bytes, and what is read from these is never what the text
spells: of bytes it is their digits. -/
theorem encode_text_parses_iff (s : String) :
    (∀ type width, integerWidth? type = some width →
      ParsedOrRefused type s ∧
      ((∃ sent, encode type (.text s) = .ok sent) ↔
        ∃ n, Spells s.toList n ∧ (IntegerRange.signed (8 * width)).contains n = true)) ∧
    (∀ type ∈ unparsedTypes,
      encode type (.text s) = .ok (some (ofText s)) ∧ ¬ ParsedOrRefused type s) ∧
    ∀ place name, decodeCell place ⟨name, .bytea⟩ (some (ofText s)) =
      .ok (.string (byteText (ofText s))) := by
  refine ⟨fun type width h => ⟨parsedOrRefused_integer h s, ?_⟩, fun type h => ?_, fun _ _ => rfl⟩
  · constructor
    · rintro ⟨sent, he⟩
      obtain ⟨n, hs, hc, -⟩ := (encode_text_eq_ok_iff h).mp he
      exact ⟨n, hs, hc⟩
    · rintro ⟨n, hs, hc⟩
      exact ⟨_, (encode_text_eq_ok_iff h).mpr ⟨n, hs, hc, rfl⟩⟩
  · refine ⟨encode_text_unparsed h s, ?_⟩
    rcases List.mem_pair.mp h with rfl | rfl
    · exact not_parsedOrRefused_oid s
    · exact not_parsedOrRefused_bytea s

/-- A number with a needless zero. -/
theorem encode_text_parses_twelve :
    integerWidth? .int4 = some 4 ∧ Spells "-012".toList (-12) ∧
      (IntegerRange.signed (8 * 4)).contains (-12) = true ∧
      (∃ sent, encode .int4 (.text "-012") = .ok sent) ∧ ParsedOrRefused .int4 "-012" ∧
      encode .int4 (.text "-012") = .ok (some [0xff, 0xff, 0xff, 0xf4]) ∧
      ColumnType.oid ∈ unparsedTypes ∧ ¬ ParsedOrRefused .oid "-012" := by
  have hs : Spells "-012".toList (-12) := .minus ⟨by decide, List.all_eq_true.mp rfl⟩
  have hc : (IntegerRange.signed (8 * 4)).contains (-12) = true := by decide
  have ho : ColumnType.oid ∈ unparsedTypes := by decide
  obtain ⟨hi, hu, -⟩ := encode_text_parses_iff "-012"
  obtain ⟨hp, he⟩ := hi .int4 4 rfl
  exact ⟨rfl, hs, hc, he.mpr ⟨-12, hs, hc⟩, hp, by decide +kernel, ho, (hu .oid ho).2⟩

/-- A text that spells an object number is sent as four digits, and is read as another number. A
text that spells two bytes is sent as six. -/
theorem not_parsedOrRefused_1234 :
    Spells "1234".toList 1234 ∧
      encode .oid (.text "1234") = .ok (some [0x31, 0x32, 0x33, 0x34]) ∧
      decodeCell 0 ⟨"owner", .oid⟩ (some [0x31, 0x32, 0x33, 0x34]) = .ok (.ofInt 825373492) ∧
      ¬ ParsedOrRefused .oid "1234" ∧
      encode .bytea (.text "\\x00ab") = .ok (some [0x5c, 0x78, 0x30, 0x30, 0x61, 0x62]) ∧
      decodeCell 0 ⟨"digest", .bytea⟩ (some [0x5c, 0x78, 0x30, 0x30, 0x61, 0x62]) =
        .ok (.string "\\x5c7830306162") ∧
      ¬ ParsedOrRefused .bytea "\\x00ab" := by
  refine ⟨spells_decimalDigits 1234, by decide +kernel, rfl, not_parsedOrRefused_oid _,
    by decide +kernel, rfl, not_parsedOrRefused_bytea _⟩

end SqlCompose.Wire
