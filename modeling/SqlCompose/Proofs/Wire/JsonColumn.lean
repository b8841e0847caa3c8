import SqlCompose.Proofs.Json.Reader
import SqlCompose.Proofs.Wire.WriteBack

/-!
# JSON in columns of JSON

A text, an array or an object can be sent to a column of JSON; a truth value or a number cannot. What
was sent is read back if it is nested no deeper than the reader goes and the text of each of its
floating point numbers spells that number (`encode_json_returns`).
-/

namespace SqlCompose.Wire

/-- The types of columns of JSON. -/
def jsonTypes : List ColumnType := [.json, .jsonb]

theorem mem_jsonTypes {type : ColumnType} : type ∈ jsonTypes ↔ type = .json ∨ type = .jsonb := by
  simp [jsonTypes]

/-- The values that can be sent to a column of JSON: texts, arrays and objects. -/
def storable : Json → Bool
  | .string _ | .array _ | .object _ => true
  | _ => false

variable {type : ColumnType}

theorem encode_storable (ht : type ∈ jsonTypes) {j : Json} (h : storable j = true) :
    encode type (.ofJson j) = .ok (some (encodeJson (type == .jsonb) j)) := by
  obtain rfl | rfl := mem_jsonTypes.mp ht
  all_goals
    cases j with
    | null | bool b | number x => cases h
    | _ => rfl

/-- The names of the kinds of values that cannot be sent to a column of JSON. -/
def refusedKinds : List String := ["boolean", "integer", "float"]

theorem encode_not_storable (ht : type ∈ jsonTypes) {j : Json} (h : storable j = false)
    (hn : j.isNull = false) :
    ∃ kind ∈ refusedKinds, encode type (.ofJson j) = .error (.unsupported kind type) := by
  obtain rfl | rfl := mem_jsonTypes.mp ht
  all_goals
    cases j with
    | null => cases hn
    | bool b => exact ⟨"boolean", by decide, rfl⟩
    | number x =>
      obtain ⟨i, hi⟩ | ⟨y, hy⟩ : (∃ i, Value.ofJson (.number x) = .int i) ∨
          ∃ y, Value.ofJson (.number x) = .float y := by
        unfold Value.ofJson
        dsimp only
        split <;> simp
      · exact ⟨"integer", by decide, by rw [hi]; rfl⟩
      · exact ⟨"float", by decide, by rw [hy]; rfl⟩
    | _ => cases h

/-- What was written of a value for a column of JSON is read there as its text is. -/
theorem decodeCell_encodeJson_iff (ht : type ∈ jsonTypes) (place : Nat) (name : String)
    {j k : Json} :
    decodeCell place ⟨name, type⟩ (some (encodeJson (type == .jsonb) j)) = .ok k ↔
      Json.read? j.text = some k := by
  have hr : decodeJson? (ofText j.text) = Json.read? j.text := by
    unfold decodeJson?
    rw [toText?_ofText, Option.bind_some]
  rw [decodeCell_eq_ok_iff, ← hr]
  obtain rfl | rfl := mem_jsonTypes.mp ht
  all_goals
    constructor
    · rintro ⟨decode, hd, h⟩
      cases hd
      exact h
    · exact fun h => ⟨_, rfl, h⟩

/-- Are all floating point numbers of the value spelled by their own texts? -/
def FloatsReread (j : Json) : Prop :=
  ∀ x h, Json.Token.number (.float x h) ∈ j.tokens →
    Json.reread? (.float x h) = some (.float x h)

theorem floatsReread_iff {j : Json} : FloatsReread j ↔
    ∀ x, Json.Token.number x ∈ j.tokens → Json.reread? x = some x := by
  constructor
  · intro h x hx
    cases x with
    | integer n hn => exact Json.reread?_integer hn
    | float x hf => exact h x hf hx
  · exact fun h x hf => h (.float x hf)

instance (j : Json) : Decidable (FloatsReread j) :=
  decidable_of_iff (j.tokens.mapM Json.Token.reread? = some j.tokens)
    (Json.mapM_reread?_eq_some_self_iff.trans floatsReread_iff.symm)

/-- The reader takes `1e-23` for the number next to the one that is written so. -/
example : ¬ FloatsReread (.ofFloat ⟨0x3b282db34012b251⟩) := by decide +kernel

/-- What a column of JSON keeps. A text, an array or an object can be sent to it, and what was sent
is read back just if its containers are nested no deeper than the reader goes and its floating point
numbers are spelled by their texts. Any other value but null is refused. -/
theorem encode_json_returns (ht : type ∈ jsonTypes) {j : Json} (hk : j.KeysDistinct) (place : Nat)
    (name : String) :
    (storable j = true → ∃ written, encode type (.ofJson j) = .ok (some written) ∧
      (decodeCell place ⟨name, type⟩ (some written) = .ok j ↔
        j.depth ≤ Json.maxDepth ∧ FloatsReread j)) ∧
    (storable j = false → j.isNull = false →
      ∃ kind ∈ refusedKinds, encode type (.ofJson j) = .error (.unsupported kind type)) := by
  refine ⟨fun h => ⟨_, encode_storable ht h, ?_⟩, encode_not_storable ht⟩
  rw [decodeCell_encodeJson_iff ht, Json.read?_text_eq_some_iff hk, floatsReread_iff]

/-- A value with containers in each other, all kinds of scalars and a text to be escaped. -/
def profile : Json :=
  .object [("name", .string "a \"b\"\n\x01"), ("tags", .array [.bool true, .null, .array []]),
    ("score", .object [("n", .ofInt (-7)), ("mean", .ofFloat ⟨0x3ff8000000000000⟩)])]

theorem encode_json_returns_profile :
    ColumnType.jsonb ∈ jsonTypes ∧ profile.KeysDistinct ∧
      ∃ written, encode .jsonb (.ofJson profile) = .ok (some written) ∧
        decodeCell 3 ⟨"profile", .jsonb⟩ (some written) = .ok profile := by
  have ht : ColumnType.jsonb ∈ jsonTypes := by decide
  have hk : profile.KeysDistinct := by
    simp [profile, Json.KeysDistinct, Json.ItemsDistinct, Json.EntriesDistinct, Entries.keys]
    exact ⟨trivial, trivial⟩
  have hd : profile.depth ≤ Json.maxDepth := by decide
  have hf : FloatsReread profile := by decide +kernel
  obtain ⟨written, he, hr⟩ := (encode_json_returns ht hk 3 "profile").1 rfl
  exact ⟨ht, hk, written, he, hr.mpr ⟨hd, hf⟩⟩

/-- An integer does not return from a column of JSON, since it cannot be sent to one. -/
theorem not_returns_three_jsonb : (Json.ofInt 3).isNull = false ∧
    encode .jsonb (.ofJson (.ofInt 3)) = .error (.unsupported "integer" .jsonb) ∧
    ¬ Returns .jsonb (.ofInt 3) := by
  refine ⟨rfl, rfl, ?_⟩
  rintro ⟨written, decode, he, -⟩
  cases he

end SqlCompose.Wire
