import SqlCompose.Condition.OfJson
import SqlCompose.Proofs.Failure
import SqlCompose.Proofs.Lists
import SqlCompose.Proofs.Text.Mark

/-!
# The grammar of conditions in JSON

Which JSON holds conditions, which conditions these are, and what is wrong with JSON that holds
none, each said without the reader.

1. `Grammatical` is the grammar: objects, or arrays of such, nested at will.
2. `Denotes` relates an entry to its condition; arrays are flattened by `flatEntries`.
3. `offences` lists all that is wrong, in the order of the text.

The reader accepts the grammar with the conditions denoted (`listOfJson_eq_ok_iff`), and fails with
the first offence (`failure?_listOfJson`).
-/

namespace SqlCompose

/-! ## JSON as a tree -/

namespace Json

/-- Neither an array nor an object. -/
def isScalar : Json → Bool
  | array _ => false
  | object _ => false
  | _ => true

/-- What holds of scalars, and of an array or an object if it holds of all values in it, holds of
all JSON. -/
theorem tree_induction {P : Json → Prop} (scalar : ∀ j, j.isScalar = true → P j)
    (array : ∀ items, (∀ j ∈ items, P j) → P (.array items))
    (object : ∀ es : List (String × Json), (∀ e ∈ es, P e.2) → P (.object es)) : ∀ j, P j
  | .null => scalar _ rfl
  | .bool _ => scalar _ rfl
  | .number _ => scalar _ rfl
  | .string _ => scalar _ rfl
  | .array items => array items fun j _ => tree_induction scalar array object j
  | .object es => object es fun e _ => tree_induction scalar array object e.2
termination_by j => sizeOf j
decreasing_by
  · have := List.sizeOf_lt_of_mem ‹j ∈ items›
    rw [Json.array.sizeOf_spec]
    omega
  · have := List.sizeOf_lt_of_mem ‹e ∈ es›
    obtain ⟨key, value⟩ := e
    rw [Json.object.sizeOf_spec]
    rw [Prod.mk.sizeOf_spec] at this
    show sizeOf value < _
    omega

end Json

/-! ## Keys -/

namespace Modifier

/-- The keys of modifiers. -/
def keys : List String :=
  ["$and", "$or", "$eq", "$ne", "$lt", "$lte", "$gt", "$gte", "$regexp"]

theorem map_key_all : all.map key = keys := rfl

theorem ofKey?_eq_some_iff {k : String} {m : Modifier} : ofKey? k = some m ↔ k = m.key := by
  constructor
  · intro h
    unfold ofKey? at h
    have hm := List.find?_some h
    exact (eq_of_beq hm).symm
  · rintro rfl
    exact ofKey?_key m

theorem ofKey?_eq_none_iff {k : String} : ofKey? k = none ↔ k ∉ keys := by
  unfold ofKey?
  rw [← map_key_all, List.find?_eq_none, List.mem_map]
  simp

theorem exists_key {k : String} (h : k ∈ keys) : ∃ m : Modifier, k = m.key := by
  rw [← map_key_all] at h
  obtain ⟨m, -, rfl⟩ := List.mem_map.mp h
  exact ⟨m, rfl⟩

theorem key_mem_keys (m : Modifier) : m.key ∈ keys := by
  cases m with
  | logical c => cases c <;> decide
  | compare c => cases c <;> decide

theorem head?_key (m : Modifier) : m.key.toList.head? = some '$' := by
  cases m with
  | logical c => cases c <;> decide
  | compare c => cases c <;> decide

theorem head?_of_mem_keys {k : String} (h : k ∈ keys) : k.toList.head? = some '$' := by
  obtain ⟨m, rfl⟩ := exists_key h
  exact m.head?_key

theorem key_injective {m n : Modifier} (h : m.key = n.key) : m = n := by
  have hm := ofKey?_key m
  rw [h, ofKey?_key] at hm
  exact (Option.some.inj hm).symm

end Modifier

namespace Condition

/-! ## Grammar -/

mutual

/-- JSON that holds conditions: an object of entries that do, or an array of such JSON. -/
inductive Grammatical : Json → Prop
  | array {items : List Json} (h : ∀ j ∈ items, Grammatical j) : Grammatical (.array items)
  | object {es : List (String × Json)} (h : ∀ e ∈ es, GrammaticalEntry e.1 e.2) :
    Grammatical (.object es)

/-- An entry that holds a condition: a modifier of conditions, or a key with a scalar. -/
inductive GrammaticalEntry : String → Json → Prop
  | modifier {key : String} {value : Json} (hk : key ∈ Modifier.keys) (h : Grammatical value) :
    GrammaticalEntry key value
  | operand {key : String} {value : Json} (hk : key.toList.head? ≠ some '$')
    (h : value.isScalar = true) : GrammaticalEntry key value

end

mutual

/-- The entries of an object, or of the objects in an array, in order. -/
def flatEntries : Json → List (String × Json)
  | .array items => itemEntries items
  | .object es => es
  | _ => []

/-- The entries of the items of an array, in order. -/
def itemEntries : List Json → List (String × Json)
  | [] => []
  | j :: js => flatEntries j ++ itemEntries js

end

/-- An entry and its condition: a group under a modifier, SQL behind a colon, or else a column. -/
inductive Denotes : String × Json → Condition → Prop
  | modifier {e : String × Json} {m : Modifier} {children : List Condition} (hk : e.1 = m.key)
    (h : List.Forall₂ Denotes (flatEntries e.2) children) : Denotes e (.group m children)
  | raw {e : String × Json} {expression : String} (hk : e.1 = ":" ++ expression) :
    Denotes e (.raw expression (.ofJson e.2))
  | leaf {e : String × Json} (hm : e.1.toList.head? ≠ some '$')
    (hr : e.1.toList.head? ≠ some ':') : Denotes e (.leaf e.1 (.ofJson e.2))

/-- All that is wrong with an entry, where `inner` is wrong with its value as conditions. A key that
starts with a dollar and is no modifier is wrong before its value is. -/
def offencesAt (key : String) (value : Json) (inner : List BuildError) : List BuildError :=
  if key.toList.head? = some '$' then
    (if key ∈ Modifier.keys then [] else [.unknownModifier key]) ++ inner
  else if value.isScalar then []
  else [.invalidOperand value.kind key]

mutual

/-- All that is wrong with JSON that should hold conditions, in the order of the text. -/
def offences : Json → List BuildError
  | .null => [.missingConditions]
  | .array items => itemOffences items
  | .object es => entryOffences es
  | scalar => [.invalidConditions scalar.kind]

/-- All that is wrong with the items of an array. -/
def itemOffences : List Json → List BuildError
  | [] => []
  | j :: js => offences j ++ itemOffences js

/-- All that is wrong with the entries of an object. -/
def entryOffences : List (String × Json) → List BuildError
  | [] => []
  | (key, value) :: es => offencesAt key value (offences value) ++ entryOffences es

end

/-! ## The reader -/

/-- The condition of an entry. -/
def ofEntry (key : String) (value : Json) : Except BuildError Condition :=
  if key.toList.head? = some '$' then
    match Modifier.ofKey? key with
    | none => .error (.unknownModifier key)
    | some m => (listOfJson value).map (.group m)
  else ofScalar key value

theorem listOfItems_cons (j : Json) (js : List Json) :
    listOfItems (j :: js) =
      listOfJson j >>= fun here => (listOfItems js).map fun rest => here ++ rest := by
  rw [listOfItems]
  congr 1

theorem listOfEntries_cons (key : String) (value : Json) (es : List (String × Json)) :
    listOfEntries ((key, value) :: es) =
      ofEntry key value >>= fun here => (listOfEntries es).map fun rest => here :: rest := by
  rw [listOfEntries]
  unfold ofEntry
  split
  · cases Modifier.ofKey? key <;> rfl
  · rfl

theorem ofScalar_eq_ok_iff {key : String} {value : Json} {c : Condition} :
    ofScalar key value = .ok c ↔ value.isScalar = true ∧ c = ofKey key (.ofJson value) := by
  cases value <;> simp [ofScalar, Json.isScalar, eq_comm]

/-! ## Offences -/

theorem failure?_ofScalar (key : String) (value : Json) : (ofScalar key value).failure? =
    if value.isScalar then none else some (.invalidOperand value.kind key) := by
  cases value <;> rfl

theorem failure?_ofEntry (key : String) {value : Json}
    (h : (listOfJson value).failure? = (offences value).head?) :
    (ofEntry key value).failure? = (offencesAt key value (offences value)).head? := by
  unfold ofEntry offencesAt
  by_cases hd : key.toList.head? = some '$'
  · rw [if_pos hd, if_pos hd]
    cases hm : Modifier.ofKey? key with
    | none =>
      rw [if_neg (Modifier.ofKey?_eq_none_iff.mp hm)]
      rfl
    | some m =>
      obtain rfl := Modifier.ofKey?_eq_some_iff.mp hm
      rw [if_pos m.key_mem_keys, Except.failure?_map, h]
      rfl
  · rw [if_neg hd, if_neg hd, failure?_ofScalar]
    split <;> rfl

theorem failure?_listOfItems {js : List Json}
    (h : ∀ j ∈ js, (listOfJson j).failure? = (offences j).head?) :
    (listOfItems js).failure? = (itemOffences js).head? := by
  induction js with
  | nil => rfl
  | cons j js ih =>
    have hr := ih fun i hi => h i (List.mem_cons_of_mem j hi)
    rw [listOfItems_cons, Except.failure?_bind fun here _ => Except.failure?_map _ _,
      h j List.mem_cons_self, hr, itemOffences, List.head?_append]

theorem failure?_listOfEntries {es : List (String × Json)}
    (h : ∀ e ∈ es, (listOfJson e.2).failure? = (offences e.2).head?) :
    (listOfEntries es).failure? = (entryOffences es).head? := by
  induction es with
  | nil => rfl
  | cons e es ih =>
    obtain ⟨key, value⟩ := e
    have hr := ih fun e he => h e (List.mem_cons_of_mem _ he)
    have he := failure?_ofEntry key (h (key, value) List.mem_cons_self)
    rw [listOfEntries_cons, Except.failure?_bind fun here _ => Except.failure?_map _ _, he, hr,
      entryOffences, List.head?_append]

/-- The reader fails with the first of all offences. -/
theorem failure?_listOfJson (j : Json) : (listOfJson j).failure? = (offences j).head? := by
  induction j using Json.tree_induction with
  | scalar j hj =>
    cases j with
    | array items => cases hj
    | object es => cases hj
    | _ => rfl
  | array items ih => exact failure?_listOfItems ih
  | object es ih => exact failure?_listOfEntries ih

/-! ## Acceptance -/

theorem ofKey_denotes_iff {key : String} {value : Json} (hd : key.toList.head? ≠ some '$')
    {c : Condition} : c = ofKey key (.ofJson value) ↔ Denotes (key, value) c := by
  constructor
  · rintro rfl
    unfold ofKey
    split
    · rename_i expression ha
      refine .raw (String.toList_inj.mp ?_)
      rw [Text.afterMark?_eq_some_iff.mp ha, String.toList_append]
      rfl
    · rename_i ha
      exact .leaf hd (Text.afterMark?_eq_none_iff.mp ha)
  · intro h
    cases h with
    | @modifier _ m children hk h =>
      refine absurd ?_ hd
      rw [show key = m.key from hk, m.head?_key]
    | @raw _ expression hk =>
      have ha : Text.afterMark? ':' key = some expression := by
        rw [Text.afterMark?_eq_some_iff, show key = ":" ++ expression from hk, String.toList_append]
        rfl
      rw [ofKey, ha]
    | leaf hm hr =>
      rw [ofKey, Text.afterMark?_eq_none_iff.mpr hr]

theorem GrammaticalEntry.of_dollar {key : String} {value : Json} (h : GrammaticalEntry key value)
    (hd : key.toList.head? = some '$') : Grammatical value := by
  cases h with
  | modifier hk hg => exact hg
  | operand hk hs => exact absurd hd hk

theorem GrammaticalEntry.of_not_dollar {key : String} {value : Json}
    (h : GrammaticalEntry key value) (hd : key.toList.head? ≠ some '$') :
    value.isScalar = true := by
  cases h with
  | modifier hk hg => exact absurd (Modifier.head?_of_mem_keys hk) hd
  | operand hk hs => exact hs

/-- What an entry under a modifier denotes is a group under that modifier. -/
theorem Denotes.of_modifier {m : Modifier} {value : Json} {c : Condition}
    (h : Denotes (m.key, value) c) :
    ∃ children, c = .group m children ∧ List.Forall₂ Denotes (flatEntries value) children := by
  cases h with
  | @modifier _ n children hk h =>
    obtain rfl := Modifier.key_injective hk
    exact ⟨children, rfl, h⟩
  | @raw _ expression hk =>
    have hd := m.head?_key
    rw [show m.key = ":" ++ expression from hk, String.toList_append] at hd
    exact absurd hd (by simp)
  | leaf hm hr => exact absurd m.head?_key hm

variable {value : Json} {es : List (String × Json)} {js : List Json}
  {cs : List Condition}

theorem ofEntry_eq_ok_iff (key : String) (c : Condition)
    (ih : ∀ cs, listOfJson value = .ok cs ↔
      Grammatical value ∧ List.Forall₂ Denotes (flatEntries value) cs) :
    ofEntry key value = .ok c ↔ GrammaticalEntry key value ∧ Denotes (key, value) c := by
  unfold ofEntry
  by_cases hd : key.toList.head? = some '$'
  · rw [if_pos hd]
    cases hm : Modifier.ofKey? key with
    | none =>
      refine ⟨nofun, ?_⟩
      rintro ⟨hk | hk, -⟩
      · exact absurd hk (Modifier.ofKey?_eq_none_iff.mp hm)
      · exact absurd hd hk
    | some m =>
      obtain rfl := Modifier.ofKey?_eq_some_iff.mp hm
      constructor
      · intro h
        obtain ⟨children, hc, rfl⟩ := map_eq_ok h
        obtain ⟨hg, hf⟩ := (ih children).mp hc
        exact ⟨.modifier m.key_mem_keys hg, .modifier rfl hf⟩
      · rintro ⟨hg, hden⟩
        obtain ⟨children, rfl, hf⟩ := hden.of_modifier
        show (listOfJson value).map (Condition.group m) = _
        rw [(ih children).mpr ⟨hg.of_dollar hd, hf⟩]
        rfl
  · rw [if_neg hd, ofScalar_eq_ok_iff, ofKey_denotes_iff hd]
    constructor
    · rintro ⟨hs, hden⟩
      exact ⟨.operand hd hs, hden⟩
    · rintro ⟨hg, hden⟩
      exact ⟨hg.of_not_dollar hd, hden⟩

theorem listOfItems_eq_ok_iff (h : ∀ j ∈ js, ∀ cs, listOfJson j = .ok cs ↔
      Grammatical j ∧ List.Forall₂ Denotes (flatEntries j) cs) :
    listOfItems js = .ok cs ↔
      (∀ j ∈ js, Grammatical j) ∧ List.Forall₂ Denotes (itemEntries js) cs := by
  induction js generalizing cs with
  | nil =>
    rw [itemEntries, List.forall₂_nil_left_iff, listOfItems, Except.ok.injEq]
    simp [eq_comm]
  | cons j js ih =>
    have hj := h j List.mem_cons_self
    have hr (cs) := @ih cs fun i hi => h i (List.mem_cons_of_mem j hi)
    rw [listOfItems_cons, itemEntries]
    constructor
    · intro hc
      obtain ⟨here, hh, hc⟩ := bind_eq_ok hc
      obtain ⟨rest, ht, rfl⟩ := map_eq_ok hc
      obtain ⟨hgj, hdj⟩ := (hj here).mp hh
      obtain ⟨hgr, hdr⟩ := (hr rest).mp ht
      exact ⟨List.forall_mem_cons.mpr ⟨hgj, hgr⟩, List.rel_append hdj hdr⟩
    · rintro ⟨hg, hd⟩
      obtain ⟨hgj, hgr⟩ := List.forall_mem_cons.mp hg
      obtain ⟨here, rest, rfl, hdj, hdr⟩ := forall₂_append_left hd
      rw [(hj here).mpr ⟨hgj, hdj⟩, (hr rest).mpr ⟨hgr, hdr⟩]
      rfl

theorem listOfEntries_eq_ok_iff (h : ∀ e ∈ es, ∀ cs, listOfJson e.2 = .ok cs ↔
      Grammatical e.2 ∧ List.Forall₂ Denotes (flatEntries e.2) cs) :
    listOfEntries es = .ok cs ↔
      (∀ e ∈ es, GrammaticalEntry e.1 e.2) ∧ List.Forall₂ Denotes es cs := by
  induction es generalizing cs with
  | nil =>
    rw [List.forall₂_nil_left_iff, listOfEntries, Except.ok.injEq]
    simp [eq_comm]
  | cons e es ih =>
    obtain ⟨key, value⟩ := e
    have he (c) := ofEntry_eq_ok_iff key c (h (key, value) List.mem_cons_self)
    have hr (cs) := @ih cs fun e hm => h e (List.mem_cons_of_mem _ hm)
    rw [listOfEntries_cons]
    constructor
    · intro hc
      obtain ⟨here, hh, hc⟩ := bind_eq_ok hc
      obtain ⟨rest, ht, rfl⟩ := map_eq_ok hc
      obtain ⟨hge, hde⟩ := (he here).mp hh
      obtain ⟨hgr, hdr⟩ := (hr rest).mp ht
      exact ⟨List.forall_mem_cons.mpr ⟨hge, hgr⟩, .cons hde hdr⟩
    · rintro ⟨hg, hd⟩
      obtain ⟨hge, hgr⟩ := List.forall_mem_cons.mp hg
      obtain ⟨here, rest, hde, hdr, rfl⟩ := List.forall₂_cons_left_iff.mp hd
      rw [(he here).mpr ⟨hge, hde⟩, (hr rest).mpr ⟨hgr, hdr⟩]
      rfl

/-- The reader accepts the grammar, and reads one condition for each entry. -/
theorem listOfJson_eq_ok_iff (j : Json) : ∀ cs : List Condition, listOfJson j = .ok cs ↔
    Grammatical j ∧ List.Forall₂ Denotes (flatEntries j) cs := by
  induction j using Json.tree_induction with
  | scalar j hj =>
    intro cs
    constructor
    · intro h
      cases j with
      | array items => cases hj
      | object es => cases hj
      | _ => cases h
    · rintro ⟨hg, -⟩
      cases hg <;> cases hj
  | array items ih =>
    intro cs
    refine (listOfItems_eq_ok_iff ih).trans (and_congr_left' ⟨.array, ?_⟩)
    rintro ⟨h⟩
    exact h
  | object es ih =>
    intro cs
    refine (listOfEntries_eq_ok_iff ih).trans (and_congr_left' ⟨.object, ?_⟩)
    rintro (_ | h)
    exact h

theorem offencesAt_eq_nil_iff (key : String) (ih : offences value = [] ↔ Grammatical value) :
    offencesAt key value (offences value) = [] ↔ GrammaticalEntry key value := by
  unfold offencesAt
  by_cases hd : key.toList.head? = some '$'
  · rw [if_pos hd, List.append_eq_nil_iff, ih]
    constructor
    · rintro ⟨hk, hg⟩
      refine .modifier (by_contra fun hn => ?_) hg
      rw [if_neg hn] at hk
      cases hk
    · intro hg
      obtain ⟨hk, -⟩ | ⟨hk, -⟩ := id hg
      · exact ⟨if_pos hk, hg.of_dollar hd⟩
      · exact absurd hd hk
  · rw [if_neg hd]
    constructor
    · intro h
      refine .operand hd (by_contra fun hn => ?_)
      rw [if_neg hn] at h
      cases h
    · intro hg
      exact if_pos (hg.of_not_dollar hd)

theorem itemOffences_eq_nil_iff (h : ∀ j ∈ js, offences j = [] ↔ Grammatical j) :
    itemOffences js = [] ↔ ∀ j ∈ js, Grammatical j := by
  induction js with
  | nil => simp [itemOffences]
  | cons j js ih =>
    have hr := ih fun i hi => h i (List.mem_cons_of_mem j hi)
    rw [itemOffences, List.append_eq_nil_iff, h j List.mem_cons_self, hr, List.forall_mem_cons]

theorem entryOffences_eq_nil_iff (h : ∀ e ∈ es, offences e.2 = [] ↔ Grammatical e.2) :
    entryOffences es = [] ↔ ∀ e ∈ es, GrammaticalEntry e.1 e.2 := by
  induction es with
  | nil => simp [entryOffences]
  | cons e es ih =>
    have he := offencesAt_eq_nil_iff e.1 (h e List.mem_cons_self)
    have hr := ih fun e hm => h e (List.mem_cons_of_mem _ hm)
    rw [entryOffences, List.append_eq_nil_iff, he, hr, List.forall_mem_cons]

/-- Nothing is wrong with the grammar, and something with all other JSON. -/
theorem offences_eq_nil_iff (j : Json) : offences j = [] ↔ Grammatical j := by
  induction j using Json.tree_induction with
  | scalar j hj =>
    refine ⟨fun h => ?_, fun hg => ?_⟩
    · cases j with
      | array items => cases hj
      | object es => cases hj
      | _ => cases h
    · cases hg <;> cases hj
  | array items ih =>
    refine (itemOffences_eq_nil_iff ih).trans ⟨.array, ?_⟩
    rintro ⟨h⟩
    exact h
  | object es ih =>
    refine (entryOffences_eq_nil_iff ih).trans ⟨.object, ?_⟩
    rintro (_ | h)
    exact h

theorem exists_listOfJson_iff (j : Json) : (∃ cs, listOfJson j = .ok cs) ↔ Grammatical j := by
  rw [← Except.failure?_eq_none_iff, failure?_listOfJson, List.head?_eq_none_iff,
    offences_eq_nil_iff]

end Condition

end SqlCompose
