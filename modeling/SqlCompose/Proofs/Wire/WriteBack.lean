import SqlCompose.Proofs.Calendar.Reader
import SqlCompose.Proofs.Lists
import SqlCompose.Proofs.Uuid
import SqlCompose.Proofs.Wire.Integer

/-!
# Values written back

A value that was read from a cell can be sent as a parameter of the type of its column, and is then
read again from what was sent. For the value this is `Returns`: integers in the range of their type,
texts, identifiers, dates and instants return. For the cells of rows it is `decodeCell_writeBack`.
-/

namespace SqlCompose.Wire

/-- Can the value be encoded for the type, and is it what a cell of the type with these bytes has? -/
def Returns (type : ColumnType) (j : Json) : Prop :=
  ∃ written decode, encode type (.ofJson j) = .ok (some written) ∧ decoder? type = some decode ∧
    decode written = some j

/-! ## Integers -/

/-- An integer of 64 bits with sign is sent as one. -/
theorem exists_ofJson_ofInt {n : Int} (h : -0x8000000000000000 ≤ n) (h' : n < 0x8000000000000000) :
    ∃ i : Int64, Value.ofJson (.ofInt n) = .int i ∧ i.toInt = n := by
  have hb : -0x8000000000000000 ≤ n ∧ n < 0x10000000000000000 := ⟨h, by omega⟩
  have hj : Json.ofInt n = .number (.integer n hb) := by
    unfold Json.ofInt JsonNumber.ofInt?
    rw [dif_pos hb]
  refine ⟨.ofIntLE n h (Int.le_sub_one_of_lt h'), ?_, Int64.toInt_ofIntLE⟩
  rw [hj]
  simp [Value.ofJson, JsonNumber.toInt64?, h']

theorem encode_ofInt {n : Int} (h : -0x8000000000000000 ≤ n) (h' : n < 0x8000000000000000)
    {type : ColumnType} {bytes : Bytes} (he : encodeInt n type = .ok bytes) :
    encode type (.ofJson (.ofInt n)) = .ok (some bytes) := by
  obtain ⟨i, hi, hn⟩ := exists_ofJson_ofInt h h'
  rw [hi]
  show some <$> encodeInt i.toInt type = _
  rw [hn, he]
  rfl

/-- An integer of a type with sign returns. -/
theorem returns_integer {type : ColumnType} {width : Nat} (h : integerWidth? type = some width)
    {bytes : Bytes} {j : Json} (hj : decodeInt? width bytes = some j) : Returns type j := by
  obtain ⟨b, hb, rfl⟩ := Option.map_eq_some_iff.mp hj
  obtain ⟨rfl, hl⟩ := exactly?_eq_some_iff.mp hb
  have hc := contains_toInt h hl
  have hw := pow_width_le h
  obtain ⟨hlow, hhigh⟩ := (contains_integer_iff h).mp hc
  exact ⟨_, _, encode_ofInt (by omega) (by omega) (encodeInt_integer h hc), decoder?_integer h,
    decodeInt?_ofInt h hc⟩

/-- The number of an object has no sign. -/
theorem returns_oid {bytes : Bytes} (h : bytes.length = 4) :
    Returns .oid (.ofInt (toNat bytes)) := by
  have hl := toNat_lt bytes
  rw [h] at hl
  have hn := toNat_ofInt (Int.natCast_nonneg (toNat bytes)) (Int.ofNat_lt.mpr hl)
  change toNat bytes < 0x100000000 at hl
  have hc : IntegerRange.contains ⟨0, 0xffffffff⟩ (toNat bytes) = true :=
    IntegerRange.contains_iff.mpr ⟨Int.natCast_nonneg _, Int.ofNat_le.mpr (Nat.le_of_lt_succ hl)⟩
  refine ⟨_, _, encode_ofInt (by omega) (by omega) (encodeInRange_eq_ok_iff.mpr ⟨hc, rfl⟩), rfl, ?_⟩
  · rw [exactly?_eq_some_iff.mpr ⟨rfl, length_ofInt 4 _⟩, Option.map_some, hn]

/-! ## Texts -/

theorem returns_bool (b : Bool) : Returns .bool (.bool b) := by
  cases b <;> exact ⟨_, _, rfl, rfl, rfl⟩

theorem returns_text {type : ColumnType} (h : type.isText = true) (s : String) :
    Returns type (.string s) := by
  have he : encode type (.ofJson (.string s)) = .ok (some (ofText s)) := by
    cases type <;> first | rfl | cases h
  have hd : decoder? type = some fun bytes => (toText? bytes).map .string := by
    cases type <;> first | rfl | cases h
  refine ⟨_, _, he, hd, ?_⟩
  rw [toText?_ofText, Option.map_some]

theorem decode_encodeUuid (u : Uuid) :
    Uuid.mk (BitVec.ofNat 128 (toNat (encodeUuid u))) = u := by
  have hl : u.bits.toNat < Nat.pow 256 16 := u.bits.isLt
  unfold encodeUuid
  rw [toNat_ofNat, Nat.mod_eq_of_lt hl, BitVec.ofNat_toNat, BitVec.setWidth_eq]

theorem returns_uuid (u : Uuid) : Returns .uuid (.string u.text) := by
  have he : encode .uuid (.ofJson (.string u.text)) = .ok (some (encodeUuid u)) := by
    show some <$> spelled .uuid encodeUuid (Uuid.read? u.text.toList) = _
    rw [u.read?_text]
    rfl
  have hl : exactly? 16 (encodeUuid u) = some (encodeUuid u) :=
    exactly?_eq_some_iff.mpr ⟨rfl, length_ofNat 16 _⟩
  refine ⟨_, _, he, rfl, ?_⟩
  rw [hl, Option.map_some, decode_encodeUuid]

/-! ## Dates and instants -/

theorem decodeDate?_encodeDate (d : Date) : decodeDate? (encodeDate d) = some d := by
  have hf : Calendar.firstDay = -96465292 := rfl
  have hl : Calendar.lastDay = 95026236 := rfl
  have hs : Timestamp.startOf2000 / (daySeconds : Int) = 10957 := rfl
  have hr := d.inRange
  rw [hf, hl] at hr
  unfold decodeDate? encodeDate
  rw [exactly?_eq_some_iff.mpr ⟨rfl, length_ofInt 4 _⟩, Option.bind_some, hs, toInt_ofInt]
  · rw [Int.sub_add_cancel, Date.ofDay?_day]
  · show -(0x100000000 : Int) ≤ _
    omega
  · show _ < (0x100000000 : Int)
    omega

theorem returns_date {d : Date} (hy : 0 ≤ d.year ∧ d.year ≤ 9999) :
    Returns .date (.string d.text) := by
  have he : encode .date (.ofJson (.string d.text)) = .ok (some (encodeDate d)) := by
    show some <$> spelled .calendar encodeDate (Calendar.readDate d.text.toList) = _
    rw [Calendar.readDate_text hy]
    rfl
  refine ⟨_, _, he, rfl, ?_⟩
  rw [decodeDate?_encodeDate, Option.map_some]

section Instants

variable {bytes : Bytes} {t : Timestamp} (h : decodeTimestamp? bytes = some t)
include h

/-- An instant that was read is sent as the same microseconds. -/
theorem decodeTimestamp?_encodeTimestamp : decodeTimestamp? (encodeTimestamp t) = some t := by
  obtain ⟨b, hb, hm⟩ := Option.bind_eq_some_iff.mp h
  obtain ⟨rfl, hl⟩ := exactly?_eq_some_iff.mp hb
  obtain ⟨hlow, hhigh⟩ := toInt_bounds (by decide) hl
  unfold decodeTimestamp? encodeTimestamp
  rw [exactly?_eq_some_iff.mpr ⟨rfl, length_ofInt 8 _⟩, Option.bind_some,
    Timestamp.micros_of_ofMicros? hm, toInt_ofInt hlow hhigh, hm]

theorem nano_lt_of_decodeTimestamp? : t.time.nano < secondNanos := by
  obtain ⟨b, -, hm⟩ := Option.bind_eq_some_iff.mp h
  exact Timestamp.nano_lt_of_ofMicros? hm

variable (hy : 0 ≤ t.date.year ∧ t.date.year ≤ 9999)
include hy

theorem returns_timestamptz : Returns .timestamptz (.string t.text) := by
  have hn := nano_lt_of_decodeTimestamp? h
  have he : encode .timestamptz (.ofJson (.string t.text)) = .ok (some (encodeTimestamp t)) := by
    show some <$> spelled .calendar encodeTimestamp (Calendar.readStrict t.text.toList) = _
    rw [Calendar.readStrict_text hy, Timestamp.written_of_lt hn]
    rfl
  refine ⟨_, _, he, rfl, ?_⟩
  rw [decodeTimestamp?_encodeTimestamp h, Option.map_some]

/-- Without an offset the text is not read in the strict form, but in the lenient one. -/
theorem returns_timestamp : Returns .timestamp (.string t.localText) := by
  have hn := nano_lt_of_decodeTimestamp? h
  have he : encode .timestamp (.ofJson (.string t.localText)) =
      .ok (some (encodeTimestamp t)) := by
    show some <$> spelled .calendar encodeTimestamp ((Calendar.readStrict t.localText.toList).or
      (Calendar.readLenient t.localText.toList)) = _
    rw [Calendar.readStrict_localText hy, Calendar.readLenient_localText hy,
      Timestamp.written_of_lt hn]
    rfl
  refine ⟨_, _, he, rfl, ?_⟩
  rw [decodeTimestamp?_encodeTimestamp h, Option.map_some]

end Instants

/-! ## Cells -/

theorem decodeCell_eq_ok_iff {place : Nat} {column : Column} {bytes : Bytes} {j : Json} :
    decodeCell place column (some bytes) = .ok j ↔
      ∃ decode, decoder? column.type = some decode ∧ decode bytes = some j := by
  unfold decodeCell
  cases decoder? column.type with
  | none => simp
  | some decode => cases hj : decode bytes <;> simp [hj]

/-- Cells may be exchanged for others that are decoded as they are. -/
theorem decodeCells_set {column : Column} {cell other : Option Bytes} {k : Nat}
    {cells : List (Column × Option Bytes)} (hk : cells[k]? = some (column, cell)) (place : Nat)
    (h : decodeCell (place + k) column other = decodeCell (place + k) column cell) (row : Row) :
    decodeCells place row (cells.set k (column, other)) = decodeCells place row cells := by
  induction cells generalizing k place row with
  | nil => rfl
  | cons c cells ih =>
    cases k with
    | zero =>
      cases hk
      rw [Nat.add_zero] at h
      rw [List.set_cons_zero, decodeCells, decodeCells, h]
    | succ k =>
      have hp : place + (k + 1) = place + 1 + k := by omega
      rw [hp] at h
      obtain ⟨d, x⟩ := c
      rw [List.set_cons_succ, decodeCells, decodeCells]
      exact bind_congr fun value => ih hk (place + 1) h (row.set d.name value)

/-- A row is decoded as before when one of its cells is exchanged for another that is decoded as it
is. -/
theorem decodeRow_set {columns : List Column} {cells : List (Option Bytes)} {k : Nat}
    {column : Column} {cell other : Option Bytes} (hc : columns[k]? = some column)
    (hx : cells[k]? = some cell) (h : decodeCell k column other = decodeCell k column cell) :
    decodeRow columns (cells.set k other) = decodeRow columns cells := by
  have hz : (columns.zip cells)[k]? = some (column, cell) := by
    rw [List.getElem?_zip_eq_some]
    exact ⟨hc, hx⟩
  unfold decodeRow
  rw [zip_set hc]
  exact decodeCells_set hz 0 (by rwa [Nat.zero_add]) .empty

/-- The types whose values return: truth values, integers, texts, identifiers, dates and instants. -/
def returningTypes : List ColumnType :=
  [.bool, .int2, .int4, .int8, .oid, .text, .varchar, .bpchar, .name, .unknown, .uuid, .date,
    .timestamp, .timestamptz]

/-- The day on which a cell of a date or an instant falls. -/
def dayOf? : ColumnType → Bytes → Option Date
  | .date, bytes => decodeDate? bytes
  | .timestamp, bytes | .timestamptz, bytes => (decodeTimestamp? bytes).map Timestamp.date
  | _, _ => none

/-- A value that was read from a cell returns, if the year of its date has four digits. -/
theorem returns_of_decode {type : ColumnType} (ht : type ∈ returningTypes)
    {decode : Bytes → Option Json} (hd : decoder? type = some decode) {bytes : Bytes} {j : Json}
    (h : decode bytes = some j)
    (hy : ∀ d, dayOf? type bytes = some d → 0 ≤ d.year ∧ d.year ≤ 9999) : Returns type j := by
  have htext (hx : decoder? type = some fun bytes => (toText? bytes).map .string)
      (hi : type.isText = true) : Returns type j := by
    rw [hx] at hd
    cases hd
    obtain ⟨s, -, rfl⟩ := Option.map_eq_some_iff.mp h
    exact returns_text hi s
  cases type with
  | text | varchar | bpchar | name | unknown => exact htext rfl rfl
  | int2 | int4 | int8 =>
    cases hd
    exact returns_integer rfl h
  | bool =>
    cases hd
    obtain ⟨b, -, rfl⟩ := Option.map_eq_some_iff.mp h
    exact returns_bool _
  | oid =>
    cases hd
    obtain ⟨b, hb, rfl⟩ := Option.map_eq_some_iff.mp h
    obtain ⟨rfl, hl⟩ := exactly?_eq_some_iff.mp hb
    exact returns_oid hl
  | uuid =>
    cases hd
    obtain ⟨b, -, rfl⟩ := Option.map_eq_some_iff.mp h
    exact returns_uuid _
  | date =>
    cases hd
    obtain ⟨d, hb, rfl⟩ := Option.map_eq_some_iff.mp h
    exact returns_date (hy d hb)
  | timestamp =>
    cases hd
    obtain ⟨t, hb, rfl⟩ := Option.map_eq_some_iff.mp h
    exact returns_timestamp hb (hy t.date (Option.map_eq_some_iff.mpr ⟨t, hb, rfl⟩))
  | timestamptz =>
    cases hd
    obtain ⟨t, hb, rfl⟩ := Option.map_eq_some_iff.mp h
    exact returns_timestamptz hb (hy t.date (Option.map_eq_some_iff.mpr ⟨t, hb, rfl⟩))
  | float4 | float8 | numeric | bytea | json | jsonb | time => simp [returningTypes] at ht
  | other typeName => simp [returningTypes] at ht

/-- The value of a cell can be written back. A value that was read from a cell of a type whose values
return, in a year of four digits if it is a date or an instant, can be encoded for that type, and
the bytes are a cell with the same value: exchanged for the one that was read, it leaves every row
as it is. -/
theorem decodeCell_writeBack {place : Nat} {column : Column} (ht : column.type ∈ returningTypes)
    {bytes : Bytes} {j : Json} (h : decodeCell place column (some bytes) = .ok j)
    (hy : ∀ d, dayOf? column.type bytes = some d → 0 ≤ d.year ∧ d.year ≤ 9999) :
    ∃ written, encode column.type (.ofJson j) = .ok (some written) ∧
      decodeCell place column (some written) = .ok j ∧
      ∀ columns cells, columns[place]? = some column → cells[place]? = some (some bytes) →
        decodeRow columns (cells.set place (some written)) = decodeRow columns cells := by
  obtain ⟨decode, hd, hj⟩ := decodeCell_eq_ok_iff.mp h
  obtain ⟨written, read, he, hr, hw⟩ := returns_of_decode ht hd hj hy
  have hc : decodeCell place column (some written) = .ok j :=
    decodeCell_eq_ok_iff.mpr ⟨read, hr, hw⟩
  exact ⟨written, he, hc, fun columns cells hcol hcell => decodeRow_set hcol hcell (hc.trans h.symm)⟩

/-- A cell with an instant of a leap day. -/
def leapDay : Bytes := [0x00, 0x02, 0xb5, 0x83, 0x41, 0x66, 0x7f, 0x15]

theorem decodeCell_writeBack_leapDay :
    ColumnType.timestamptz ∈ returningTypes ∧
      decodeCell 0 ⟨"seen", .timestamptz⟩ (some leapDay) =
        .ok (.string "2024-02-29T12:34:56.000789+00:00") ∧
      (∀ d, dayOf? .timestamptz leapDay = some d → 0 ≤ d.year ∧ d.year ≤ 9999) ∧
      ∃ written, encode .timestamptz (.text "2024-02-29T12:34:56.000789+00:00") =
          .ok (some written) ∧
        decodeCell 0 ⟨"seen", .timestamptz⟩ (some written) =
          .ok (.string "2024-02-29T12:34:56.000789+00:00") := by
  have ht : ColumnType.timestamptz ∈ returningTypes := by decide
  have hx : (decodeTimestamp? leapDay).map Timestamp.text =
      some "2024-02-29T12:34:56.000789+00:00" := by decide +kernel
  have hd : decodeCell 0 ⟨"seen", .timestamptz⟩ (some leapDay) =
      .ok (.string "2024-02-29T12:34:56.000789+00:00") := by
    obtain ⟨t, hm, htext⟩ := Option.map_eq_some_iff.mp hx
    refine decodeCell_eq_ok_iff.mpr ⟨_, rfl, ?_⟩
    rw [hm, Option.map_some, htext]
  have hyear : ((dayOf? .timestamptz leapDay).all fun d =>
      decide (0 ≤ d.year ∧ d.year ≤ 9999)) = true := by decide +kernel
  have hy : ∀ d, dayOf? .timestamptz leapDay = some d → 0 ≤ d.year ∧ d.year ≤ 9999 := by
    intro d h
    rw [h] at hyear
    exact of_decide_eq_true hyear
  obtain ⟨written, he, hw, -⟩ := @decodeCell_writeBack 0 ⟨"seen", .timestamptz⟩ ht _ _ hd hy
  exact ⟨ht, hd, hy, written, he, hw⟩

end SqlCompose.Wire
