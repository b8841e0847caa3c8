import SqlCompose.Join.Basic
import SqlCompose.Proofs.Condition.Grammar

/-!
# Joins in JSON

Which JSON describes a join, which join that is, and what is wrong with JSON that describes none.
`Join.Reads` relates JSON to a join made by calls or to a fault, with one constructor for each way a
reading can end: what is wrong first decides the fault, and of the fields `cross` wins over
`conditions`, which win over `local` and `foreign`. The reader does just this
(`Join.ofJson_eq_iff`).
-/

namespace SqlCompose

namespace Required

/-- The name of the required sides. -/
def name : Required → String
  | neither => "none"
  | own => "local"
  | joined => "foreign"
  | both => "both"

theorem ofName_name (r : Required) : ofName r.name = .ok r := by
  cases r <;> rfl

theorem ofName_of_unknown {s : String} (h : ∀ r : Required, s ≠ r.name) :
    ofName s = .error (.invalidRequired s) := by
  have hn := h .neither
  have ho := h .own
  have hj := h .joined
  have hb := h .both
  unfold name at hn ho hj hb
  unfold ofName
  rw [if_neg hn, if_neg ho, if_neg hj, if_neg hb]

end Required

namespace Join

/-! ## Fields -/

/-- The field `key` is the text `s`, which is not empty. -/
def HasText (key : String) (es : List (String × Json)) (s : String) : Prop :=
  Entries.find? key es = some (.string s) ∧ s ≠ ""

/-- The field `key` is not there, or null. -/
def Lacks (key : String) (es : List (String × Json)) : Prop :=
  Entries.find? key es = none ∨ Entries.find? key es = some .null

/-- The field `key` is `value`, which is not null. -/
def Has (key : String) (es : List (String × Json)) (value : Json) : Prop :=
  Entries.find? key es = some value ∧ value ≠ .null

/-- The field `cross` is true. -/
def Crosses (es : List (String × Json)) : Prop := Entries.find? "cross" es = some (.bool true)

/-- The sides that the fields require: both if nothing is said. -/
inductive Requires (es : List (String × Json)) : Required → Prop where
  | default (h : Lacks "required" es) : Requires es .both
  | named (r : Required) (h : Entries.find? "required" es = some (.string r.name)) : Requires es r

variable {key : String} {es : List (String × Json)}

theorem lacks_or_has (key : String) (es : List (String × Json)) :
    Lacks key es ∨ ∃ value, Has key es value := by
  unfold Lacks Has
  cases Entries.find? key es with
  | none => exact .inl (.inl rfl)
  | some value =>
    cases value with
    | null => exact .inl (.inr rfl)
    | _ => exact .inr ⟨_, rfl, nofun⟩

theorem textField?_eq_some_iff {s : String} : textField? key es = some s ↔ HasText key es s := by
  unfold textField? HasText
  cases Entries.find? key es with
  | none => simp
  | some value =>
    cases value with
    | string t =>
      by_cases ht : t = ""
      · refine iff_of_false (by simp [ht]) ?_
        rintro ⟨h, hs⟩
        cases h
        exact hs ht
      · simpa [ht] using fun h => h ▸ ht
    | _ => simp

theorem textField?_eq_none_iff : textField? key es = none ↔ ∀ s, ¬ HasText key es s := by
  rw [Option.eq_none_iff_forall_ne_some]
  exact forall_congr' fun s => not_congr textField?_eq_some_iff

theorem requiredOfJson_of_requires {r : Required} (h : Requires es r) :
    requiredOfJson (Entries.find? "required" es) = .ok r := by
  cases h with
  | default h => rcases h with h | h <;> rw [h] <;> rfl
  | named r h =>
    rw [h]
    exact Required.ofName_name r

theorem onOfJson_of_crosses (h : Crosses es) : onOfJson es = .ok .cross := by
  unfold onOfJson
  rw [show Entries.find? "cross" es = some (.bool true) from h]

theorem onOfJson_of_lacks (hc : ¬ Crosses es) (h : Lacks "conditions" es) :
    onOfJson es = .ok (.keys (textField? "local" es) (textField? "foreign" es)) := by
  unfold onOfJson
  split
  · rename_i hcross
    exact absurd hcross hc
  · rfl
  · rfl
  · rename_i hn hv _
    rcases h with h | h
    · rw [h] at hv
      cases hv
    · rw [h] at hv
      cases hv
      exact (hn rfl).elim

theorem onOfJson_of_has (hc : ¬ Crosses es) {value : Json} (h : Has "conditions" es value) :
    onOfJson es = (Condition.listOfJson value).map .conditions := by
  unfold onOfJson
  rw [h.1]
  split
  · rename_i hcross
    exact absurd hcross hc
  · rename_i hv _
    cases hv
  · rename_i hv _
    exact absurd (Option.some.inj hv) h.2
  · rename_i hv _
    rw [Option.some.inj hv]

/-! ## Readings -/

/-- The join with the columns that are given. -/
def withKeys (j : Join) (own joined : Option String) : Join :=
  let j := (own.map j.withOwn).getD j
  (joined.map j.withJoined).getD j

/-- JSON and what is read from it: the fault, which is that of the first of table, required sides
and conditions to have one, or the join, as calls make it of the fields. -/
inductive Reads : Json → Except BuildError Join → Prop where
  | noObject {v : Json} (h : ∀ es, v ≠ .object es) : Reads v (.error (.invalidJoin v.kind))
  | noTable {es : List (String × Json)} (h : ∀ s, ¬ HasText "table" es s) :
    Reads (.object es) (.error .missingJoinTable)
  | unknownRequired {es : List (String × Json)} {table mode : String}
    (ht : HasText "table" es table) (h : Has "required" es (.string mode))
    (hn : ∀ r : Required, mode ≠ r.name) : Reads (.object es) (.error (.invalidRequired mode))
  | invalidRequired {es : List (String × Json)} {table : String} {value : Json}
    (ht : HasText "table" es table) (h : Has "required" es value)
    (hn : ∀ mode, value ≠ .string mode) :
    Reads (.object es) (.error (.invalidRequired value.text))
  | invalidConditions {es : List (String × Json)} {table : String} {r : Required} {value : Json}
    {e : BuildError} (ht : HasText "table" es table) (hr : Requires es r) (hc : ¬ Crosses es)
    (hv : Has "conditions" es value) (he : Condition.listOfJson value = .error e) :
    Reads (.object es) (.error e)
  | cross {es : List (String × Json)} {table : String} {r : Required}
    (ht : HasText "table" es table) (hr : Requires es r) (hc : Crosses es) :
    Reads (.object es) (.ok ((cross table).withRequired r))
  | conditions {es : List (String × Json)} {table : String} {r : Required} {value : Json}
    {cs : List Condition} (ht : HasText "table" es table) (hr : Requires es r) (hc : ¬ Crosses es)
    (hv : Has "conditions" es value) (hcs : Condition.listOfJson value = .ok cs) :
    Reads (.object es) (.ok (((inner table).withConditions cs).withRequired r))
  | keys {es : List (String × Json)} {table : String} {r : Required} {own joined : Option String}
    (ht : HasText "table" es table) (hr : Requires es r) (hc : ¬ Crosses es)
    (hv : Lacks "conditions" es) (ho : ∀ s, own = some s ↔ HasText "local" es s)
    (hj : ∀ s, joined = some s ↔ HasText "foreign" es s) :
    Reads (.object es) (.ok (((inner table).withKeys own joined).withRequired r))

theorem withKeys_inner (table : String) (own joined : Option String) :
    (inner table).withKeys own joined = ⟨table, .keys own joined, .both⟩ := by
  cases own <;> cases joined <;> rfl

theorem eq_textField? {text : Option String} (h : ∀ s, text = some s ↔ HasText key es s) :
    text = textField? key es :=
  Option.ext fun s => (h s).trans textField?_eq_some_iff.symm

section OfJson

variable {table : String} (ht : HasText "table" es table)

include ht

theorem ofJson_object : ofJson (.object es) =
    (requiredOfJson (Entries.find? "required" es)).bind fun r =>
      (onOfJson es).map fun on => ⟨table, on, r⟩ := by
  unfold ofJson
  dsimp only
  rw [textField?_eq_some_iff.mpr ht]
  rfl

theorem ofJson_of_requires {r : Required} (hr : Requires es r) :
    ofJson (.object es) = (onOfJson es).map fun on => ⟨table, on, r⟩ := by
  rw [ofJson_object ht, requiredOfJson_of_requires hr]
  rfl

end OfJson

theorem ofJson_of_reads {v : Json} {result : Except BuildError Join} (h : Reads v result) :
    ofJson v = result := by
  cases h with
  | noObject h =>
    cases v with
    | object es => exact absurd rfl (h es)
    | _ => rfl
  | noTable h =>
    unfold ofJson
    dsimp only
    rw [textField?_eq_none_iff.mpr h]
    rfl
  | unknownRequired ht h hn =>
    rw [ofJson_object ht, h.1]
    show (Required.ofName _).bind _ = _
    rw [Required.ofName_of_unknown hn]
    rfl
  | @invalidRequired es table value ht h hn =>
    rw [ofJson_object ht, h.1]
    cases value with
    | null => exact absurd rfl h.2
    | string mode => exact absurd rfl (hn mode)
    | _ => rfl
  | invalidConditions ht hr hc hv he =>
    rw [ofJson_of_requires ht hr, onOfJson_of_has hc hv, he]
    rfl
  | cross ht hr hc =>
    rw [ofJson_of_requires ht hr, onOfJson_of_crosses hc]
    rfl
  | conditions ht hr hc hv hcs =>
    rw [ofJson_of_requires ht hr, onOfJson_of_has hc hv, hcs]
    rfl
  | keys ht hr hc hv ho hj =>
    rw [ofJson_of_requires ht hr, onOfJson_of_lacks hc hv, withKeys_inner, eq_textField? ho,
      eq_textField? hj]
    rfl

/-- Whatever the JSON, its reading ends in one of these ways. -/
theorem exists_reads (v : Json) : ∃ result, Reads v result := by
  by_cases hv : ∃ es, v = .object es
  swap
  · exact ⟨_, .noObject (not_exists.mp hv)⟩
  obtain ⟨es, rfl⟩ := hv
  by_cases ht : ∃ table, HasText "table" es table
  swap
  · exact ⟨_, .noTable (not_exists.mp ht)⟩
  obtain ⟨table, ht⟩ := ht
  have hon {r : Required} (hr : Requires es r) : ∃ result, Reads (.object es) result := by
    by_cases hc : Crosses es
    · exact ⟨_, .cross ht hr hc⟩
    rcases lacks_or_has "conditions" es with hl | ⟨value, hv⟩
    · exact ⟨_, .keys ht hr hc hl (fun _ => textField?_eq_some_iff) fun _ => textField?_eq_some_iff⟩
    · cases hcs : Condition.listOfJson value with
      | error e => exact ⟨_, .invalidConditions ht hr hc hv hcs⟩
      | ok cs => exact ⟨_, .conditions ht hr hc hv hcs⟩
  rcases lacks_or_has "required" es with hl | ⟨value, hv⟩
  · exact hon (.default hl)
  by_cases hs : ∃ mode, value = .string mode
  swap
  · exact ⟨_, .invalidRequired ht hv (not_exists.mp hs)⟩
  obtain ⟨mode, rfl⟩ := hs
  by_cases hm : ∃ r : Required, mode = r.name
  swap
  · exact ⟨_, .unknownRequired ht hv (not_exists.mp hm)⟩
  obtain ⟨r, rfl⟩ := hm
  exact hon (.named r hv.1)

theorem ofJson_eq_iff {v : Json} {result : Except BuildError Join} :
    ofJson v = result ↔ Reads v result := by
  refine ⟨fun h => ?_, ofJson_of_reads⟩
  obtain ⟨other, hr⟩ := exists_reads v
  rwa [← h, ofJson_of_reads hr]

/-! ## Acceptance -/

/-- The JSON is an object with a table, with required sides that are known or not said, and with
conditions where these count and are said. -/
def Describes (v : Json) : Prop :=
  ∃ es, v = .object es ∧ (∃ table, HasText "table" es table) ∧ (∃ r, Requires es r) ∧
    (Crosses es ∨ Lacks "conditions" es ∨
      ∃ value, Entries.find? "conditions" es = some value ∧ Condition.Grammatical value)

theorem exists_ofJson_iff (v : Json) : (∃ j, ofJson v = .ok j) ↔ Describes v := by
  constructor
  · rintro ⟨j, h⟩
    cases ofJson_eq_iff.mp h with
    | @cross es table r ht hr hc => exact ⟨es, rfl, ⟨table, ht⟩, ⟨r, hr⟩, .inl hc⟩
    | @conditions es table r value cs ht hr hc hv hcs =>
      have hg := (Condition.exists_listOfJson_iff value).mp ⟨cs, hcs⟩
      exact ⟨es, rfl, ⟨table, ht⟩, ⟨r, hr⟩, .inr (.inr ⟨value, hv.1, hg⟩)⟩
    | @keys es table r own joined ht hr hc hv ho hj =>
      exact ⟨es, rfl, ⟨table, ht⟩, ⟨r, hr⟩, .inr (.inl hv)⟩
  · rintro ⟨es, rfl, ⟨table, ht⟩, ⟨r, hr⟩, ho⟩
    by_cases hc : Crosses es
    · exact ⟨_, ofJson_of_reads (.cross ht hr hc)⟩
    rcases ho with ho | hl | ⟨value, hv, hg⟩
    · exact absurd ho hc
    · exact ⟨_, ofJson_of_reads (.keys ht hr hc hl (fun _ => textField?_eq_some_iff)
        fun _ => textField?_eq_some_iff)⟩
    · obtain ⟨cs, hcs⟩ := (Condition.exists_listOfJson_iff value).mpr hg
      have hn : value ≠ .null := by
        rintro rfl
        cases hg
      exact ⟨_, ofJson_of_reads (.conditions ht hr hc ⟨hv, hn⟩ hcs)⟩

/-! ## Lists -/

theorem failure?_listOfJson_array (items : List Json) : (listOfJson (.array items)).failure? =
    (items.filter (!·.isNull)).findSome? fun v => (ofJson v).failure? := by
  have hm : ((items.filter (!·.isNull)).mapM ofJson).failure? =
      ((items.filter (!·.isNull)).flatMap fun v => (ofJson v).failure?.toList).head? :=
    Except.failure?_mapM fun v _ => Option.head?_toList.symm
  refine hm.trans ?_
  rw [List.head?_flatMap]
  simp only [Option.head?_toList]

/-- A join in JSON. An object describes one if it has a table, if its required sides are known and
its conditions hold conditions, unless it crosses. Then it is the join that calls make of the
fields, and otherwise the fault is the first of these. Several joins are read one by one without
those that are null, and the first that fails decides; a single one may stand by itself. -/
theorem ofJson_reads_fields (v : Json) (items : List Json) :
    (∀ result, ofJson v = result ↔ Reads v result) ∧
    ((∃ j, ofJson v = .ok j) ↔ Describes v) ∧
    (∀ js, listOfJson (.array items) = .ok js ↔
      (items.filter (!·.isNull)).map ofJson = js.map .ok) ∧
    (listOfJson (.array items)).failure? =
      (items.filter (!·.isNull)).findSome? (fun w => (ofJson w).failure?) ∧
    listOfJson .null = .ok [] ∧
    (v ≠ .null → (∀ items, v ≠ .array items) → listOfJson v = (ofJson v).map fun j => [j]) := by
  refine ⟨fun _ => ofJson_eq_iff, exists_ofJson_iff v, fun js => mapM_eq_ok_iff,
    failure?_listOfJson_array items, rfl, fun hn ha => ?_⟩
  cases v with
  | null => exact absurd rfl hn
  | array items => exact absurd rfl (ha items)
  | _ => rfl

example : ofJson (.object [("required", .string "local"), ("foreign", .string ""),
      ("table", .string "posts"), ("local", .string "authorId"), ("conditions", .null)]) =
    .ok (((inner "posts").withOwn "authorId").withRequired .own) := rfl

end Join

end SqlCompose
