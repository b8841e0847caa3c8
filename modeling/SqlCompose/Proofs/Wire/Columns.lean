import Mathlib.Data.List.Forall2
import SqlCompose.Proofs.Failure
import SqlCompose.Proofs.Row
import SqlCompose.Wire.Decode

/-!
# The columns of a decoded row

A field gives an entry to its row or is at fault (`gives_or_faulty`). Fields are decoded in order, so
a row collects the entries that its fields give (`decodeRow_eq_ok_iff`), or else the first field at
fault is reported (`decodeRow_eq_error_iff`).
-/

namespace SqlCompose.Wire

/-- A column with its cell, which is none if it is null. -/
abbrev Field := Column × Option Bytes

/-- What entry does a field give to its row? Under the name of the column it is null for null, if the
type is supported, and what the bytes are decoded to. -/
inductive Gives : Field → String × Json → Prop where
  | null {column : Column} (ht : ∀ typeName, column.type ≠ .other typeName) :
      Gives (column, none) (column.name, .null)
  | value {column : Column} {bytes : Bytes} {decode : Bytes → Option Json} {j : Json}
      (hd : decoder? column.type = some decode) (hj : decode bytes = some j) :
      Gives (column, some bytes) (column.name, j)

/-- What fault is reported of a field at a place? Its type is not supported, or its bytes are none of
its type. -/
inductive Faulty (place : Nat) : Field → RunError → Prop where
  | unsupported {column : Column} {cell : Option Bytes} {typeName : String}
      (ht : column.type = .other typeName) :
      Faulty place (column, cell) (.decode column.name
        ("unsupported column type " ++ typeName ++ "; cast it to text in the projection"))
  | undecodable {column : Column} {bytes : Bytes} {decode : Bytes → Option Json}
      (hd : decoder? column.type = some decode) (hb : decode bytes = none) :
      Faulty place (column, some bytes)
        (.decode column.name ("error deserializing column " ++ decimalText place))

/-- The types that are not supported are those without an encoding of their own. -/
theorem decoder?_eq_none_iff {type : ColumnType} :
    decoder? type = none ↔ ∃ typeName, type = .other typeName := by
  cases type <;> simp [decoder?]

theorem exists_decoder? {type : ColumnType} (h : ∀ typeName, type ≠ .other typeName) :
    ∃ decode, decoder? type = some decode := by
  refine Option.ne_none_iff_exists'.mp fun hd => ?_
  obtain ⟨typeName, ht⟩ := decoder?_eq_none_iff.mp hd
  exact h typeName ht

/-! ## Cells -/

section Cell

variable {place : Nat} {column : Column} {cell : Option Bytes} {j : Json} {err : RunError}

theorem gives_or_faulty (place : Nat) (column : Column) (cell : Option Bytes) :
    (∃ j, Gives (column, cell) (column.name, j)) ∨ ∃ err, Faulty place (column, cell) err := by
  cases hd : decoder? column.type with
  | none =>
    obtain ⟨typeName, ht⟩ := decoder?_eq_none_iff.mp hd
    exact .inr ⟨_, .unsupported ht⟩
  | some decode =>
    cases cell with
    | none =>
      refine .inl ⟨.null, .null fun typeName ht => ?_⟩
      rw [decoder?_eq_none_iff.mpr ⟨typeName, ht⟩] at hd
      cases hd
    | some bytes =>
      cases hb : decode bytes with
      | none => exact .inr ⟨_, .undecodable hd hb⟩
      | some j => exact .inl ⟨j, .value hd hb⟩

theorem decodeCell_of_gives (h : Gives (column, cell) (column.name, j)) :
    decodeCell place column cell = .ok j := by
  cases h with
  | null ht =>
    obtain ⟨decode, hd⟩ := exists_decoder? ht
    simp [decodeCell, hd]
  | value hd hj => simp [decodeCell, hd, hj]

theorem decodeCell_of_faulty (h : Faulty place (column, cell) err) :
    decodeCell place column cell = .error err := by
  cases h with
  | unsupported ht => simp [decodeCell, ht, decoder?, ColumnType.typeName]
  | undecodable hd hb => simp [decodeCell, hd, hb]

theorem decodeCell_eq_ok_iff_gives :
    decodeCell place column cell = .ok j ↔ Gives (column, cell) (column.name, j) := by
  refine ⟨fun h => ?_, decodeCell_of_gives⟩
  rcases gives_or_faulty place column cell with ⟨k, hk⟩ | ⟨err, hf⟩
  · obtain rfl : j = k := Except.ok.inj (h.symm.trans (decodeCell_of_gives hk))
    exact hk
  · cases h.symm.trans (decodeCell_of_faulty hf)

end Cell

theorem Gives.exists_eq {column : Column} {cell : Option Bytes} {entry : String × Json}
    (h : Gives (column, cell) entry) : ∃ j, entry = (column.name, j) := by
  cases h <;> exact ⟨_, rfl⟩

/-! ## Rows -/

/-- The fields up to the first that is at fault give entries, which are set one after the other. -/
theorem decodeCells_eq_ok_iff {fields : List Field} {place : Nat} {row r : Row} :
    decodeCells place row fields = .ok r ↔
      ∃ entries, List.Forall₂ Gives fields entries ∧
        r = entries.foldl (fun r e => r.set e.1 e.2) row := by
  induction fields generalizing place row with
  | nil => simp [decodeCells, eq_comm]
  | cons field fields ih =>
    obtain ⟨column, cell⟩ := field
    rw [decodeCells]
    constructor
    · intro h
      obtain ⟨j, hj, hr⟩ := bind_eq_ok h
      obtain ⟨entries, hf, rfl⟩ := ih.mp hr
      exact ⟨(column.name, j) :: entries, .cons (decodeCell_eq_ok_iff_gives.mp hj) hf, rfl⟩
    · rintro ⟨_, hf, rfl⟩
      cases hf with
      | @cons _ entry _ entries hg hf =>
        obtain ⟨j, rfl⟩ := hg.exists_eq
        rw [decodeCell_of_gives hg]
        exact ih.mpr ⟨entries, hf, rfl⟩

/-- Fields that give entries are passed over. -/
theorem exists_decodeCells_append {before : List Field} (h : ∀ f ∈ before, ∃ entry, Gives f entry)
    (rest : List Field) (place : Nat) (row : Row) : ∃ r,
      decodeCells place row (before ++ rest) = decodeCells (place + before.length) r rest := by
  induction before generalizing place row with
  | nil => exact ⟨row, rfl⟩
  | cons field before ih =>
    obtain ⟨⟨entry, hg⟩, hb⟩ := List.forall_mem_cons.mp h
    obtain ⟨column, cell⟩ := field
    obtain ⟨j, rfl⟩ := hg.exists_eq
    obtain ⟨r, hr⟩ := ih hb (place + 1) (row.set column.name j)
    refine ⟨r, ?_⟩
    rw [List.cons_append, decodeCells, decodeCell_of_gives hg, List.length_cons, ← Nat.add_assoc,
      Nat.add_right_comm]
    exact hr

/-- The first field at fault is reported. -/
theorem decodeCells_eq_error_iff {fields : List Field} {place : Nat} {row : Row} {err : RunError} :
    decodeCells place row fields = .error err ↔
      ∃ before field behind, fields = before ++ field :: behind ∧
        (∀ f ∈ before, ∃ entry, Gives f entry) ∧ Faulty (place + before.length) field err := by
  constructor
  · induction fields generalizing place row with
    | nil => exact nofun
    | cons field fields ih =>
      intro h
      obtain ⟨column, cell⟩ := field
      rw [decodeCells] at h
      rcases gives_or_faulty place column cell with ⟨j, hj⟩ | ⟨err', hf⟩
      · rw [decodeCell_of_gives hj] at h
        obtain ⟨before, field, behind, rfl, hb, hf⟩ := ih h
        refine ⟨(column, cell) :: before, field, behind, rfl,
          List.forall_mem_cons.mpr ⟨⟨_, hj⟩, hb⟩, ?_⟩
        rwa [List.length_cons, ← Nat.add_assoc, Nat.add_right_comm]
      · rw [decodeCell_of_faulty hf] at h
        cases h
        exact ⟨[], (column, cell), fields, rfl, nofun, hf⟩
  · rintro ⟨before, ⟨column, cell⟩, behind, rfl, hb, hf⟩
    obtain ⟨r, hr⟩ := exists_decodeCells_append hb ((column, cell) :: behind) place row
    rw [hr, decodeCells, decodeCell_of_faulty hf]
    rfl

section Fields

variable {fields : List Field}

theorem decodeRow_eq (fields : List Field) :
    decodeRow (fields.map Prod.fst) (fields.map Prod.snd) = decodeCells 0 .empty fields := by
  unfold decodeRow
  rw [← List.zip_of_prod rfl rfl]

theorem decodeRow_eq_ok_iff {row : Row} :
    decodeRow (fields.map Prod.fst) (fields.map Prod.snd) = .ok row ↔
      ∃ entries, List.Forall₂ Gives fields entries ∧ row.Collects entries := by
  rw [decodeRow_eq, decodeCells_eq_ok_iff]
  refine exists_congr fun entries => and_congr_right fun _ => ⟨?_, Row.Collects.eq_ofList⟩
  rintro rfl
  exact Row.collects_ofList entries

theorem decodeRow_eq_error_iff {err : RunError} :
    decodeRow (fields.map Prod.fst) (fields.map Prod.snd) = .error err ↔
      ∃ before field behind, fields = before ++ field :: behind ∧
        (∀ f ∈ before, ∃ entry, Gives f entry) ∧ Faulty before.length field err := by
  rw [decodeRow_eq, decodeCells_eq_error_iff]
  simp only [Nat.zero_add]

theorem keys_of_gives {entries : List (String × Json)} (h : List.Forall₂ Gives fields entries) :
    Entries.keys entries = fields.map fun f => f.1.name := by
  induction h with
  | nil => rfl
  | cons hg _ ih =>
    obtain ⟨j, rfl⟩ := hg.exists_eq
    exact congrArg (_ :: ·) ih

/-- Columns with distinct names are all kept, each in its place. -/
theorem gives_entries_of_decodeRow {row : Row}
    (h : decodeRow (fields.map Prod.fst) (fields.map Prod.snd) = .ok row)
    (hd : (fields.map fun f => f.1.name).Nodup) : List.Forall₂ Gives fields row.entries := by
  obtain ⟨entries, hf, hc⟩ := decodeRow_eq_ok_iff.mp h
  rw [← keys_of_gives hf] at hd
  rwa [hc.entries_eq hd]

end Fields

end SqlCompose.Wire
