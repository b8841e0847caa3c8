import SqlCompose.Proofs.Failure
import SqlCompose.Proofs.Wire.Spelling

/-!
# Texts in place of typed values

A value may come as itself or, out of JSON, as its text. Integers, identifiers, dates and instants
are sent as the same bytes either way, for each type of column that has values of their kind, and
dates and instants may stand for each other (`encode_text_as_typed`).
-/

namespace SqlCompose.Wire

/-- Are the values sent as the same bytes for the type, if one of them is sent at all? -/
def SentAlike (type : ColumnType) (v w : Value) : Prop :=
  ∀ sent, encode type v = .ok sent ↔ encode type w = .ok sent

/-- Are the values sent for the type, and as the same bytes? -/
def SentAsOne (type : ColumnType) (v w : Value) : Prop :=
  ∃ bytes, encode type v = .ok (some bytes) ∧ encode type w = .ok (some bytes)

/-- The types of columns of instants. -/
def instantTypes : List ColumnType := [.timestamp, .timestamptz]

variable {type : ColumnType}

/-! ## Integers -/

/-- Every integer of 64 bits is one of the widest type. -/
theorem encodeInt_eq_ok_iff {width : Nat} (h : integerWidth? type = some width) {n : Int64}
    {bytes : Bytes} : encodeInt n.toInt type = .ok bytes ↔
      (IntegerRange.signed (8 * width)).contains n.toInt = true ∧ bytes = ofInt width n.toInt := by
  rcases integerWidth?_cases h with ⟨rfl, rfl⟩ | ⟨rfl, rfl⟩ | ⟨rfl, rfl⟩
  · exact encodeInRange_eq_ok_iff
  · exact encodeInRange_eq_ok_iff
  · have hc : (IntegerRange.signed (8 * 8)).contains n.toInt = true :=
      IntegerRange.contains_iff.mpr ⟨n.le_toInt, Int.le_sub_one_of_lt n.toInt_lt⟩
    rw [and_iff_right hc]
    exact ⟨fun h => (Except.ok.inj h).symm, fun h => congrArg Except.ok h.symm⟩

theorem encode_int_eq_ok_iff {width : Nat} (h : integerWidth? type = some width) {n : Int64}
    {sent : Option Bytes} : encode type (.int n) = .ok sent ↔
      (IntegerRange.signed (8 * width)).contains n.toInt = true ∧
        sent = some (ofInt width n.toInt) := by
  constructor
  · intro he
    obtain ⟨bytes, hb, rfl⟩ := map_eq_ok he
    obtain ⟨hc, rfl⟩ := (encodeInt_eq_ok_iff h).mp hb
    exact ⟨hc, rfl⟩
  · rintro ⟨hc, rfl⟩
    show some <$> encodeInt n.toInt type = _
    rw [(encodeInt_eq_ok_iff h).mpr ⟨hc, rfl⟩]
    rfl

theorem sentAlike_int {width : Nat} (h : integerWidth? type = some width) (n : Int64) :
    SentAlike type (.text (decimalText n.toInt)) (.int n) := by
  intro sent
  have hs : (decimalText n.toInt).toList = decimalDigits n.toInt := String.toList_ofList
  rw [encode_text_eq_ok_iff h, encode_int_eq_ok_iff h, hs]
  constructor
  · rintro ⟨m, hm, hc, rfl⟩
    rw [hm.unique (spells_decimalDigits n.toInt)] at hc ⊢
    exact ⟨hc, rfl⟩
  · rintro ⟨hc, rfl⟩
    exact ⟨_, spells_decimalDigits _, hc, rfl⟩

/-! ## Identifiers, dates and instants -/

theorem sentAsOne_uuid (u : Uuid) : SentAsOne .uuid (.text u.text) (.uuid u) := by
  refine ⟨encodeUuid u, ?_, rfl⟩
  show some <$> spelled .uuid encodeUuid (Uuid.read? u.text.toList) = _
  rw [u.read?_text]
  rfl

theorem sentAsOne_date {d : Date} (hy : 0 ≤ d.year ∧ d.year ≤ 9999) :
    SentAsOne .date (.text d.text) (.date d) := by
  refine ⟨encodeDate d, ?_, rfl⟩
  show some <$> spelled .calendar encodeDate (Calendar.readDate d.text.toList) = _
  rw [Calendar.readDate_text hy]
  rfl

/-- An instant with a leap second that is none of a minute is written as another instant, but as
many microseconds are sent of both. -/
theorem sentAsOne_timestamp (h : type ∈ instantTypes) {t : Timestamp}
    (hy : 0 ≤ t.date.year ∧ t.date.year ≤ 9999) : SentAsOne type (.text t.text) (.timestamp t) := by
  have hw : encodeTimestamp t.written = encodeTimestamp t := by
    unfold encodeTimestamp
    rw [t.micros_written]
  have hr := Calendar.readStrict_text hy
  refine ⟨encodeTimestamp t, ?_, ?_⟩
  · rcases List.mem_pair.mp h with rfl | rfl
    · show some <$> spelled .calendar encodeTimestamp ((Calendar.readStrict t.text.toList).or
        (Calendar.readLenient t.text.toList)) = _
      rw [hr, ← hw]
      rfl
    · show some <$> spelled .calendar encodeTimestamp (Calendar.readStrict t.text.toList) = _
      rw [hr, ← hw]
      rfl
  · rcases List.mem_pair.mp h with rfl | rfl <;> rfl

/-- The start of a day is its instant without a second. -/
theorem eq_ofDate {d : Date} {t : Timestamp} (hs : t.seconds = d.day * daySeconds)
    (hn : t.time.nano = 0) : t = .ofDate d := by
  have hd : (Timestamp.ofDate d).seconds = d.day * daySeconds := Int.add_zero _
  have ht := Timestamp.ofSeconds?_eq_some_iff (t := .ofDate d).mpr ⟨hs.trans hd.symm, hn⟩
  exact Option.some.inj (t.ofSeconds?_seconds.symm.trans ht)

theorem sentAsOne_midnight (h : type ∈ instantTypes) {d : Date} {t : Timestamp}
    (hs : t.seconds = d.day * daySeconds) (hn : t.time.nano = 0) :
    SentAsOne type (.date d) (.timestamp t) := by
  rw [eq_ofDate hs hn]
  refine ⟨encodeTimestamp (.ofDate d), ?_⟩
  rcases List.mem_pair.mp h with rfl | rfl <;> exact ⟨rfl, rfl⟩

theorem sentAsOne_dayOf {d : Date} {t : Timestamp} (hd : d.day = t.seconds / daySeconds) :
    SentAsOne .date (.timestamp t) (.date d) := by
  have hs := t.time.second_lt
  have ht : t.date.day = d.day := by
    rw [hd]
    unfold Timestamp.seconds
    unfold daySeconds at hs ⊢
    omega
  refine ⟨encodeDate t.date, rfl, ?_⟩
  show Except.ok (some (encodeDate d)) = _
  unfold encodeDate
  rw [ht]

/-- A value is sent as the same bytes whether it comes as itself or as its text: an integer for each
type of integers, which takes both or refuses both, an identifier, and a date or an instant of the
years from 0 to 9999. A date is sent as an instant like the start of its day, and an instant is sent
as a date like the day on which it falls. -/
theorem encode_text_as_typed :
    (∀ type width, integerWidth? type = some width → ∀ n : Int64,
      SentAlike type (.text (decimalText n.toInt)) (.int n)) ∧
    (∀ u : Uuid, SentAsOne .uuid (.text u.text) (.uuid u)) ∧
    (∀ d : Date, 0 ≤ d.year ∧ d.year ≤ 9999 → SentAsOne .date (.text d.text) (.date d)) ∧
    (∀ type ∈ instantTypes, ∀ t : Timestamp, 0 ≤ t.date.year ∧ t.date.year ≤ 9999 →
      SentAsOne type (.text t.text) (.timestamp t)) ∧
    (∀ type ∈ instantTypes, ∀ (d : Date) (t : Timestamp), t.seconds = d.day * daySeconds →
      t.time.nano = 0 → SentAsOne type (.date d) (.timestamp t)) ∧
    ∀ (t : Timestamp) (d : Date), d.day = t.seconds / daySeconds →
      SentAsOne .date (.timestamp t) (.date d) :=
  ⟨fun _ _ h n => sentAlike_int h n, sentAsOne_uuid, fun _ hy => sentAsOne_date hy,
    fun _ h _ hy => sentAsOne_timestamp h hy, fun _ h _ _ hs hn => sentAsOne_midnight h hs hn,
    fun _ _ hd => sentAsOne_dayOf hd⟩

/-- The last day of 2016. -/
def yearsEnd : Date := ⟨17166, by decide⟩

/-- The middle of its leap second. -/
def leapSecond : Timestamp := ⟨yearsEnd, ⟨86399, 1500000000, by decide, by decide⟩⟩

theorem encode_text_as_typed_leapSecond :
    (integerWidth? .int2 = some 2 ∧ SentAlike .int2 (.text "-32769") (.int (-32769))) ∧
    (0 ≤ yearsEnd.year ∧ yearsEnd.year ≤ 9999) ∧
    SentAsOne .date (.text "2016-12-31") (.date yearsEnd) ∧
    ColumnType.timestamptz ∈ instantTypes ∧
    SentAsOne .timestamptz (.text "2016-12-31T23:59:60.500+00:00") (.timestamp leapSecond) ∧
    ((Timestamp.ofDate yearsEnd).seconds = yearsEnd.day * daySeconds ∧
      SentAsOne .timestamptz (.date yearsEnd) (.timestamp (.ofDate yearsEnd))) ∧
    yearsEnd.day = leapSecond.seconds / daySeconds ∧
    SentAsOne .date (.timestamp leapSecond) (.date yearsEnd) := by
  have hi : integerWidth? .int2 = some 2 := rfl
  have hy : 0 ≤ yearsEnd.year ∧ yearsEnd.year ≤ 9999 := by decide +kernel
  have ht : ColumnType.timestamptz ∈ instantTypes := by decide
  have hs : (Timestamp.ofDate yearsEnd).seconds = yearsEnd.day * daySeconds := by decide
  have hd : yearsEnd.day = leapSecond.seconds / daySeconds := by decide
  have htext : leapSecond.text = "2016-12-31T23:59:60.500+00:00" := by decide +kernel
  have hdate : yearsEnd.text = "2016-12-31" := by decide +kernel
  obtain ⟨hint, -, hday, hinstant, hmidnight, hdayOf⟩ := encode_text_as_typed
  have h1 := hday yearsEnd hy
  have h2 := hinstant .timestamptz ht leapSecond hy
  rw [hdate] at h1
  rw [htext] at h2
  exact ⟨⟨hi, hint .int2 2 hi (-32769)⟩, hy, h1, ht, h2,
    ⟨hs, hmidnight .timestamptz ht yearsEnd (.ofDate yearsEnd) hs rfl⟩, hd,
    hdayOf leapSecond yearsEnd hd⟩

end SqlCompose.Wire
