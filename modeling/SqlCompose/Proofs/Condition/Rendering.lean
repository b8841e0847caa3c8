import SqlCompose.Proofs.Condition.Grammar
import SqlCompose.Proofs.Number.Rounding

/-!
# Conditions written as JSON

Conditions are written as an array of objects with one entry each: a column under its key, SQL
behind a colon, a group under the key of its modifier. What is written keeps to the grammar and
denotes the conditions (`grammatical_listToJson`), so it is read back as they are.
-/

namespace SqlCompose

/-! ## Values -/

namespace Value

/-- Is the value that of a JSON scalar? -/
def OfScalar (v : Value) : Prop := ∃ j : Json, j.isScalar = true ∧ ofJson j = v

/-- The JSON scalar of a value, null if it has none. -/
def toJson : Value → Json
  | bool b => .bool b
  | int n => .ofInt64 n
  | float x => .ofFloat x
  | text s => .string s
  | _ => .null

theorem ofJson_ofInt64 (n : Int64) : ofJson (.ofInt64 n) = int n := by
  have hn : n.toInt < 0x8000000000000000 := n.toInt_lt
  unfold Json.ofInt64 ofJson
  simp [JsonNumber.toInt64?, hn]

theorem ofFloat_of_isFinite {x : Binary64} (h : x.isFinite = true) :
    Json.ofFloat x = .number (.float x h) := by
  simp [Json.ofFloat, JsonNumber.ofFloat?, h]

/-- A JSON number is an integer of 64 bits with sign, or else a finite binary number. -/
theorem ofJson_number (n : JsonNumber) :
    (∃ i, ofJson (.number n) = int i) ∨ ∃ x, x.isFinite = true ∧ ofJson (.number n) = float x := by
  cases n with
  | integer m h =>
    by_cases hm : m < 0x8000000000000000
    · exact .inl ⟨.ofIntLE m h.1 (Int.le_sub_one_of_lt hm),
        by simp [ofJson, JsonNumber.toInt64?, hm]⟩
    · exact .inr ⟨.ofInt m, Binary64.isFinite_ofInt (by omega) h.2,
        by simp [ofJson, JsonNumber.toInt64?, hm]⟩
  | float x h => exact .inr ⟨x, h, rfl⟩

theorem OfScalar.toJson {v : Value} (h : v.OfScalar) :
    v.toJson.isScalar = true ∧ ofJson v.toJson = v := by
  obtain ⟨j, hj, rfl⟩ := h
  cases j with
  | null => exact ⟨rfl, rfl⟩
  | bool b => exact ⟨rfl, rfl⟩
  | string s => exact ⟨rfl, rfl⟩
  | array items => cases hj
  | object es => cases hj
  | number n =>
    rcases ofJson_number n with ⟨i, hi⟩ | ⟨x, hx, hn⟩
    · rw [hi]
      exact ⟨rfl, ofJson_ofInt64 i⟩
    · rw [hn]
      show (Json.ofFloat x).isScalar = true ∧ ofJson (Json.ofFloat x) = float x
      rw [ofFloat_of_isFinite hx]
      exact ⟨rfl, rfl⟩

end Value

/-! ## Conditions -/

namespace Condition

/-- Conditions that JSON can express: a key does not look like another kind of entry, and values are
those of JSON scalars. -/
inductive Expressible : Condition → Prop
  | leaf {key : String} {value : Value} (hm : key.toList.head? ≠ some '$')
    (hr : key.toList.head? ≠ some ':') (hv : value.OfScalar) : Expressible (.leaf key value)
  | raw {expression : String} {value : Value} (hv : value.OfScalar) :
    Expressible (.raw expression value)
  | group {m : Modifier} {children : List Condition} (h : ∀ c ∈ children, Expressible c) :
    Expressible (.group m children)

mutual

/-- The entry of a condition. -/
def entry : Condition → String × Json
  | .leaf key value => (key, value.toJson)
  | .raw expression value => (":" ++ expression, value.toJson)
  | .group m children => (m.key, .array (listToJson children))

/-- Conditions as objects with one entry each. -/
def listToJson : List Condition → List Json
  | [] => []
  | c :: cs => .object [entry c] :: listToJson cs

end

mutual

theorem grammatical_entry : ∀ {c : Condition}, Expressible c →
    GrammaticalEntry (entry c).1 (entry c).2 ∧ Denotes (entry c) c
  | .leaf key value, h => by
    cases h with
    | leaf hm hr hv =>
      obtain ⟨hs, hj⟩ := hv.toJson
      have hd : Denotes (key, value.toJson) (.leaf key (.ofJson value.toJson)) := .leaf hm hr
      rw [hj] at hd
      exact ⟨.operand hm hs, hd⟩
  | .raw expression value, h => by
    cases h with
    | raw hv =>
      obtain ⟨hs, hj⟩ := hv.toJson
      have hd : Denotes (":" ++ expression, value.toJson) (.raw expression (.ofJson value.toJson)) :=
        .raw rfl
      rw [hj] at hd
      refine ⟨.operand ?_ hs, hd⟩
      show (":" ++ expression).toList.head? ≠ some '$'
      simp
  | .group m children, h => by
    cases h with
    | group h =>
      obtain ⟨hg, hd⟩ := grammatical_listToJson h
      exact ⟨.modifier m.key_mem_keys (.array hg), .modifier rfl hd⟩

/-- What is written for conditions is conditions in JSON, namely these. -/
theorem grammatical_listToJson : ∀ {cs : List Condition}, (∀ c ∈ cs, Expressible c) →
    (∀ j ∈ listToJson cs, Grammatical j) ∧ List.Forall₂ Denotes (itemEntries (listToJson cs)) cs
  | [], _ => ⟨fun _ h => absurd h List.not_mem_nil, .nil⟩
  | c :: cs, h => by
    obtain ⟨hc, hr⟩ := List.forall_mem_cons.mp h
    obtain ⟨hg, hd⟩ := grammatical_entry hc
    obtain ⟨hgs, hds⟩ := grammatical_listToJson hr
    have ho : Grammatical (.object [entry c]) := .object fun e he => by
      rw [List.mem_singleton.mp he]
      exact hg
    exact ⟨List.forall_mem_cons.mpr ⟨ho, hgs⟩, .cons hd hds⟩

end

/-! ## Reading -/

/-- JSON is read as conditions if and only if it keeps to the grammar, and then as those that its
entries denote, one for each and in order. Otherwise the first of all offences in the order of the
text is the error. Conditions that JSON can express are read back as they are written. -/
theorem listOfJson_reads_grammar :
    (∀ j, (∃ cs, listOfJson j = .ok cs) ↔ Grammatical j) ∧
    (∀ j cs, listOfJson j = .ok cs ↔
      Grammatical j ∧ List.Forall₂ Denotes (flatEntries j) cs) ∧
    (∀ j err, listOfJson j = .error err ↔ (offences j).head? = some err) ∧
    ∀ cs, (∀ c ∈ cs, Expressible c) → listOfJson (.array (listToJson cs)) = .ok cs := by
  refine ⟨exists_listOfJson_iff, listOfJson_eq_ok_iff, ?_, ?_⟩
  · intro j err
    rw [← Except.failure?_eq_some_iff, failure?_listOfJson]
  · intro cs h
    obtain ⟨hg, hd⟩ := grammatical_listToJson h
    exact (listOfJson_eq_ok_iff _ cs).mpr ⟨.array hg, hd⟩

/-- Admins, and those who are older than 17, by an address. -/
def adminsByMail : List Condition :=
  [any [.leaf "admin" (.bool true), comparing .gt "age" (.int 17)],
    .raw "lower(mail)" (.text "a@b.c")]

/-- An unknown modifier in front of a value that is wrong too, behind an entry that is not. -/
def unlikeAge : Json :=
  .array [.object [("age", .null)], .object [("$like", .object [("age", .array [])])], .null]

theorem adminsByMail_reads :
    (∀ c ∈ adminsByMail, Expressible c) ∧
      listOfJson (.array (listToJson adminsByMail)) = .ok adminsByMail ∧
      offences unlikeAge =
        [.unknownModifier "$like", .invalidOperand "array" "age", .missingConditions] ∧
      listOfJson unlikeAge = .error (.unknownModifier "$like") := by
  have hv : (Value.int 17).OfScalar := ⟨.ofInt64 17, rfl, Value.ofJson_ofInt64 17⟩
  have h : ∀ c ∈ adminsByMail, Expressible c := by
    refine List.forall_mem_cons.mpr ⟨.group ?_, List.forall_mem_singleton.mpr ?_⟩
    · refine List.forall_mem_cons.mpr ⟨?_, List.forall_mem_singleton.mpr (.group ?_)⟩
      · exact .leaf (by decide) (by decide) ⟨.bool true, rfl, rfl⟩
      · exact List.forall_mem_singleton.mpr (.leaf (by decide) (by decide) hv)
    · exact .raw ⟨.string "a@b.c", rfl, rfl⟩
  have ho : offences unlikeAge =
      [.unknownModifier "$like", .invalidOperand "array" "age", .missingConditions] := by rfl
  obtain ⟨-, -, he, hr⟩ := listOfJson_reads_grammar
  refine ⟨h, hr adminsByMail h, ho, (he unlikeAge _).mpr ?_⟩
  rw [ho]
  rfl

end Condition

end SqlCompose
