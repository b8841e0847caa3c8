import SqlCompose.Proofs.Number.Hex
import SqlCompose.Wire.Decode

/-!
# Bytes as text

The text of bytes has two small digits for each byte behind `\x`, and it is read back as the bytes
(`byteText_reads_back`). So no two cells of bytes are decoded to the same text.
-/

namespace SqlCompose.Wire

variable {bytes other : Bytes}

theorem byteText_eq (bytes : Bytes) :
    byteText bytes = "\\x" ++ String.ofList (hexOfBytes bytes) := by
  unfold byteText
  rw [String.ofList_cons, String.ofList_cons, ← String.append_assoc]
  rfl

theorem byteText_eq_iff {digits : List Char} :
    byteText bytes = "\\x" ++ String.ofList digits ↔ digits = hexOfBytes bytes := by
  rw [byteText_eq, String.append_right_inj, String.ofList_inj, eq_comm]

theorem byteText_inj : byteText other = byteText bytes ↔ other = bytes := by
  refine ⟨fun h => ?_, congrArg byteText⟩
  have hd : hexOfBytes bytes = hexOfBytes other := byteText_eq_iff.mp (h.trans (byteText_eq bytes))
  have hb := bytesOfHex?_hexOfBytes bytes
  rw [hd, bytesOfHex?_hexOfBytes] at hb
  exact Option.some.inj hb

/-- A cell of bytes is decoded to the text of the bytes that it holds. -/
theorem decodeCell_bytea_eq_iff {place : Nat} {name : String} {cell : Option Bytes} :
    decodeCell place ⟨name, .bytea⟩ cell = .ok (.string (byteText bytes)) ↔ cell = some bytes := by
  cases cell with
  | none => exact ⟨nofun, nofun⟩
  | some other =>
    have hd : decodeCell place ⟨name, .bytea⟩ (some other) = .ok (.string (byteText other)) := rfl
    rw [hd, Except.ok.injEq, Json.string.injEq, Option.some.injEq]
    exact byteText_inj

/-- The text of bytes loses nothing. It is `\x` and behind it two small digits for each byte, the
greater one first. Small digits behind `\x` are this text just if they are the bytes, read in pairs.
A cell of bytes is decoded to this text just if it holds these bytes: other bytes give another text,
and null gives none. -/
theorem byteText_reads_back (bytes : Bytes) :
    (∃ digits, byteText bytes = "\\x" ++ String.ofList digits ∧ DigitPairs digits bytes ∧
      digits.length = 2 * bytes.length) ∧
    (∀ digits, byteText bytes = "\\x" ++ String.ofList digits ↔
      (∀ c ∈ digits, c ∈ smallHexDigits) ∧ bytesOfHex? digits = some bytes) ∧
    ∀ place name cell,
      decodeCell place ⟨name, .bytea⟩ cell = .ok (.string (byteText bytes)) ↔
        cell = some bytes := by
  refine ⟨⟨hexOfBytes bytes, byteText_eq bytes, digitPairs_iff.mpr rfl, length_hexOfBytes bytes⟩,
    fun digits => ?_, fun place name cell => decodeCell_bytea_eq_iff⟩
  rw [byteText_eq_iff]
  exact eq_hexOfBytes_iff

example : byteText [0x00, 0xab, 0x10] = "\\x00ab10" := by decide

end SqlCompose.Wire
