import SqlCompose.Json.Printer
import SqlCompose.Json.Reader
import SqlCompose.Proofs.Json.Scanner
import SqlCompose.Proofs.Row

/-!
# JSON values are read back

A value is read back from its tokens if containers are nested no deeper than the limit and no object
repeats a key (`run_tokens`). From its text it is read back if each of its numbers is, too, and only
then (`read?_text_eq_some_iff`): what is read has the numbers that the text spells.
-/

namespace SqlCompose.Json

/-! ## Depth and keys -/

mutual

/-- How many containers are nested in each other. -/
def depth : Json → Nat
  | .array items => depthOfItems items + 1
  | .object es => depthOfEntries es + 1
  | _ => 0

/-- The greatest depth of items. -/
def depthOfItems : List Json → Nat
  | [] => 0
  | x :: xs => max (depth x) (depthOfItems xs)

/-- The greatest depth of the values of entries. -/
def depthOfEntries : List (String × Json) → Nat
  | [] => 0
  | (_, x) :: es => max (depth x) (depthOfEntries es)

end

mutual

/-- Does no object in the value repeat a key? -/
def KeysDistinct : Json → Prop
  | .array items => ItemsDistinct items
  | .object es => (Entries.keys es).Nodup ∧ EntriesDistinct es
  | _ => True

/-- Does no object in the items repeat a key? -/
def ItemsDistinct : List Json → Prop
  | [] => True
  | x :: xs => KeysDistinct x ∧ ItemsDistinct xs

/-- Does no object in the values of the entries repeat a key? -/
def EntriesDistinct : List (String × Json) → Prop
  | [] => True
  | (_, x) :: es => KeysDistinct x ∧ EntriesDistinct es

end

/-! ## Reading tokens -/

namespace Expected

/-- What may come behind a list of tokens, if each of them is expected. -/
def run (limit : Nat) (e : Expected) (ts : List Token) : Option Expected :=
  ts.foldlM (step limit) e

variable {limit : Nat} {stack : List Frame}

theorem run_cons (e : Expected) (t : Token) (ts : List Token) :
    run limit e (t :: ts) = (step limit e t).bind fun e' => run limit e' ts :=
  List.foldlM_cons

theorem run_append (e : Expected) (ts us : List Token) :
    run limit e (ts ++ us) = (run limit e ts).bind fun e' => run limit e' us :=
  List.foldlM_append

/-- The first item of an array is read as any value in it. -/
theorem run_firstItem (x : Json) (ts : List Token) :
    run limit (.firstItem stack) (x.tokens ++ ts) =
      run limit (.value (.array [] :: stack)) (x.tokens ++ ts) := by
  cases x with
  | array items => cases items <;> rfl
  | object es => cases es <;> rfl
  | _ => rfl

end Expected

open Expected

/-- Two conditions in a row are one. -/
theorem guard_bind {α β : Type} {p q r : Prop} [Decidable p] [Decidable q] [Decidable r]
    (h : r ↔ p ∧ q) {a : α} {b : β} {f : α → Option β} (hf : p → f a = if q then some b else none) :
    (if p then some a else none).bind f = if r then some b else none := by
  by_cases hp : p
  · rw [if_pos hp, Option.bind_some, hf hp]
    simp [h, hp]
  · rw [if_neg hp, Option.bind_none, if_neg fun hr => hp (h.mp hr).1]

variable {limit : Nat}

-- The induction is on the value, for any stack: what a container holds is read with the frame of
-- that container on the stack, so it is one deeper and may be nested one less.
mutual

/-- The tokens of a value lead to what comes behind it, unless it is nested too deep. -/
theorem run_tokens (j : Json) (hk : j.KeysDistinct) (stack : List Frame)
    (hs : stack.length ≤ limit) : run limit (.value stack) j.tokens =
      if stack.length + j.depth ≤ limit then some (.after j stack) else none := by
  cases j with
  | null | bool b | number x | string s => exact (if_pos hs).symm
  | array items =>
    cases items with
    | nil =>
      rw [tokens, run_cons]
      exact guard_bind (q := True) ⟨fun h => ⟨h, trivial⟩, fun h => h.1⟩ fun _ => rfl
    | cons x xs =>
      rw [tokens, List.cons_append, run_cons]
      refine guard_bind (q := stack.length + 1 + depthOfItems (x :: xs) ≤ limit) ?_ fun hl => ?_
      · simp only [depth]
        omega
      · rw [run_firstItem, run_append, run_tokens x hk.1 (.array [] :: stack) hl]
        refine guard_bind (q := stack.length + 1 + depthOfItems xs ≤ limit) ?_ fun _ =>
          run_itemTokens xs hk.2 [x] hl
        simp only [List.length_cons, depthOfItems]
        omega
  | object es =>
    cases es with
    | nil =>
      rw [tokens, run_cons]
      exact guard_bind (q := True) ⟨fun h => ⟨h, trivial⟩, fun h => h.1⟩ fun _ => rfl
    | cons e es =>
      obtain ⟨k, x⟩ := e
      obtain ⟨hn, hx, he⟩ := hk
      rw [tokens, List.cons_append, run_cons]
      refine guard_bind (q := stack.length + 1 + depthOfEntries ((k, x) :: es) ≤ limit) ?_
        fun hl => ?_
      · simp only [depth]
        omega
      · show run limit (.value (.object [] k :: stack)) (x.tokens ++ entryTokens es) = _
        rw [run_append, run_tokens x hx (.object [] k :: stack) hl]
        refine guard_bind (q := stack.length + 1 + depthOfEntries es ≤ limit) ?_ fun _ =>
          run_entryTokens es he [(k, x)] hn hl
        simp only [List.length_cons, depthOfEntries]
        omega

/-- The tokens of further items lead to what comes behind the array. -/
theorem run_itemTokens (xs : List Json) (hk : ItemsDistinct xs) {stack : List Frame}
    (items : List Json) (hs : stack.length < limit) :
    run limit (.nextItem items stack) (itemTokens xs) =
      if stack.length + 1 + depthOfItems xs ≤ limit then
        some (.after (.array (items.reverse ++ xs)) stack) else none := by
  cases xs with
  | nil =>
    have hd : stack.length + 1 + depthOfItems [] ≤ limit := hs
    rw [if_pos hd, List.append_nil]
    rfl
  | cons x xs =>
    show run limit (.value (.array items :: stack)) (x.tokens ++ itemTokens xs) = _
    rw [run_append, run_tokens x hk.1 (.array items :: stack) hs]
    refine guard_bind (q := stack.length + 1 + depthOfItems xs ≤ limit) ?_ fun _ => ?_
    · simp only [List.length_cons, depthOfItems]
      omega
    · refine (run_itemTokens xs hk.2 (x :: items) hs).trans ?_
      rw [List.reverse_cons, List.append_assoc]
      rfl

/-- The tokens of further entries lead to what comes behind the object. -/
theorem run_entryTokens (es : List (String × Json)) (hk : EntriesDistinct es) {stack : List Frame}
    (entries : List (String × Json)) (hn : (Entries.keys (entries ++ es)).Nodup)
    (hs : stack.length < limit) :
    run limit (.nextKey entries stack) (entryTokens es) =
      if stack.length + 1 + depthOfEntries es ≤ limit then
        some (.after (.object (entries ++ es)) stack) else none := by
  match es with
  | [] =>
    have hd : stack.length + 1 + depthOfEntries [] ≤ limit := hs
    rw [if_pos hd, List.append_nil]
    rfl
  | (k, x) :: es =>
    have hset : Entries.set k x entries = entries ++ [(k, x)] := by
      unfold Entries.keys at hn
      rw [List.map_append, List.nodup_append] at hn
      exact Entries.set_of_not_mem (fun hm => hn.2.2 k hm k List.mem_cons_self rfl) x
    have happ : entries ++ (k, x) :: es = entries ++ [(k, x)] ++ es := by simp
    show run limit (.value (.object entries k :: stack)) (x.tokens ++ entryTokens es) = _
    rw [run_append, run_tokens x hk.1 (.object entries k :: stack) hs]
    refine guard_bind (q := stack.length + 1 + depthOfEntries es ≤ limit) ?_ fun _ => ?_
    · simp only [List.length_cons, depthOfEntries]
      omega
    · rw [happ] at hn ⊢
      rw [Expected.after, hset]
      exact run_entryTokens es hk.2 _ hn hs

end

theorem ofTokens?_tokens {j : Json} (hk : j.KeysDistinct) :
    ofTokens? limit j.tokens = if j.depth ≤ limit then some j else none := by
  have hr := run_tokens j hk [] (Nat.zero_le limit)
  rw [List.length_nil, Nat.zero_add] at hr
  show (run limit (.value []) j.tokens).bind _ = _
  rw [hr]
  exact guard_bind (q := True) (by simp) fun _ => rfl

/-! ## Numbers that change -/

mutual

/-- The value with its numbers changed. -/
def mapNumbers (f : JsonNumber → JsonNumber) : Json → Json
  | .number x => .number (f x)
  | .array items => .array (mapItems f items)
  | .object es => .object (mapEntries f es)
  | j => j

/-- The items with their numbers changed. -/
def mapItems (f : JsonNumber → JsonNumber) : List Json → List Json
  | [] => []
  | x :: xs => mapNumbers f x :: mapItems f xs

/-- The entries with the numbers of their values changed. -/
def mapEntries (f : JsonNumber → JsonNumber) : List (String × Json) → List (String × Json)
  | [] => []
  | (k, x) :: es => (k, mapNumbers f x) :: mapEntries f es

end

/-- The token with its number changed. -/
def Token.mapNumber (f : JsonNumber → JsonNumber) : Token → Token
  | number x => number (f x)
  | t => t

variable (f : JsonNumber → JsonNumber)

mutual

theorem tokens_mapNumbers (j : Json) :
    (j.mapNumbers f).tokens = j.tokens.map (Token.mapNumber f) := by
  cases j with
  | null | bool b | number x | string s => rfl
  | array items =>
    cases items with
    | nil => rfl
    | cons x xs =>
      simp [mapNumbers, mapItems, tokens, tokens_mapNumbers x, itemTokens_mapItems xs,
        Token.mapNumber]
  | object es =>
    match es with
    | [] => rfl
    | (k, x) :: es =>
      simp [mapNumbers, mapEntries, tokens, tokens_mapNumbers x, entryTokens_mapEntries es,
        Token.mapNumber]

theorem itemTokens_mapItems (xs : List Json) :
    itemTokens (mapItems f xs) = (itemTokens xs).map (Token.mapNumber f) := by
  cases xs with
  | nil => rfl
  | cons x xs =>
    simp [mapItems, itemTokens, tokens_mapNumbers x, itemTokens_mapItems xs, Token.mapNumber]

theorem entryTokens_mapEntries (es : List (String × Json)) :
    entryTokens (mapEntries f es) = (entryTokens es).map (Token.mapNumber f) := by
  match es with
  | [] => rfl
  | (k, x) :: es =>
    simp [mapEntries, entryTokens, tokens_mapNumbers x, entryTokens_mapEntries es, Token.mapNumber]

end

mutual

theorem depth_mapNumbers (j : Json) : (j.mapNumbers f).depth = j.depth := by
  cases j with
  | null | bool b | number x | string s => rfl
  | array items => exact congrArg (· + 1) (depthOfItems_mapItems items)
  | object es => exact congrArg (· + 1) (depthOfEntries_mapEntries es)

theorem depthOfItems_mapItems (xs : List Json) :
    depthOfItems (mapItems f xs) = depthOfItems xs := by
  cases xs with
  | nil => rfl
  | cons x xs => exact congrArg₂ max (depth_mapNumbers x) (depthOfItems_mapItems xs)

theorem depthOfEntries_mapEntries (es : List (String × Json)) :
    depthOfEntries (mapEntries f es) = depthOfEntries es := by
  match es with
  | [] => rfl
  | (k, x) :: es => exact congrArg₂ max (depth_mapNumbers x) (depthOfEntries_mapEntries es)

end

theorem keys_mapEntries (es : List (String × Json)) :
    Entries.keys (mapEntries f es) = Entries.keys es := by
  induction es with
  | nil => rfl
  | cons e es ih => exact congrArg (e.1 :: ·) ih

mutual

theorem keysDistinct_mapNumbers {j : Json} (h : j.KeysDistinct) :
    (j.mapNumbers f).KeysDistinct := by
  cases j with
  | null | bool b | number x | string s => trivial
  | array items => exact itemsDistinct_mapItems h
  | object es => exact ⟨(keys_mapEntries f es).symm ▸ h.1, entriesDistinct_mapEntries h.2⟩

theorem itemsDistinct_mapItems {xs : List Json} (h : ItemsDistinct xs) :
    ItemsDistinct (mapItems f xs) := by
  cases xs with
  | nil => trivial
  | cons x xs => exact ⟨keysDistinct_mapNumbers h.1, itemsDistinct_mapItems h.2⟩

theorem entriesDistinct_mapEntries {es : List (String × Json)} (h : EntriesDistinct es) :
    EntriesDistinct (mapEntries f es) := by
  match es with
  | [] => trivial
  | (k, x) :: es => exact ⟨keysDistinct_mapNumbers h.1, entriesDistinct_mapEntries h.2⟩

end

/-! ## Reading text -/

/-- The number that the text of a number spells, or the number itself if its text spells none. -/
def spelled (x : JsonNumber) : JsonNumber := (reread? x).getD x

theorem Token.eq_mapNumber_of_reread? {t u : Token} (h : t.reread? = some u) :
    u = t.mapNumber spelled := by
  cases t with
  | number x =>
    obtain ⟨y, hy, rfl⟩ := Option.map_eq_some_iff.mp h
    show _ = Token.number ((Json.reread? x).getD x)
    rw [hy, Option.getD_some]
  | _ => exact (Option.some.inj h).symm

theorem eq_map_of_mapM_reread? {ts us : List Token} (h : ts.mapM Token.reread? = some us) :
    us = ts.map (Token.mapNumber spelled) := by
  induction ts generalizing us with
  | nil => exact (Option.some.inj h).symm
  | cons t ts ih =>
    rw [List.mapM_cons] at h
    obtain ⟨u, hu, h⟩ := Option.bind_eq_some_iff.mp h
    obtain ⟨vs, hv, h⟩ := Option.bind_eq_some_iff.mp h
    cases h
    rw [List.map_cons, ← ih hv, ← Token.eq_mapNumber_of_reread? hu]

theorem Token.reread?_eq_some_self_iff {t : Token} :
    t.reread? = some t ↔ ∀ x, t = .number x → Json.reread? x = some x := by
  cases t with
  | number x => simp [Token.reread?]
  | _ => simp [Token.reread?]

/-- Tokens are read again as they are just if their numbers are. -/
theorem mapM_reread?_eq_some_self_iff {ts : List Token} :
    ts.mapM Token.reread? = some ts ↔ ∀ x, .number x ∈ ts → reread? x = some x := by
  induction ts with
  | nil => simp
  | cons t ts ih =>
    have hc : (t :: ts).mapM Token.reread? = some (t :: ts) ↔
        t.reread? = some t ∧ ts.mapM Token.reread? = some ts := by
      rw [List.mapM_cons]
      cases t.reread? <;> cases ts.mapM Token.reread? <;> simp
    rw [hc, ih, Token.reread?_eq_some_self_iff]
    simp only [List.mem_cons, or_imp, forall_and]
    exact and_congr_left' (forall_congr' fun x => by rw [eq_comm])

/-- A value is read back from its text just if its containers are not nested too deep and each of
its numbers is read back from its own text. -/
theorem read?_text_eq_some_iff {j : Json} (hk : j.KeysDistinct) : read? j.text = some j ↔
    j.depth ≤ maxDepth ∧ ∀ x, .number x ∈ j.tokens → reread? x = some x := by
  rw [← mapM_reread?_eq_some_self_iff]
  unfold read?
  rw [scan_text]
  constructor
  · intro h
    obtain ⟨ts, hts, hj⟩ := Option.bind_eq_some_iff.mp h
    -- The tokens that were read are those of the value with the numbers that its text spells.
    have hm : ts = (j.mapNumbers spelled).tokens :=
      (eq_map_of_mapM_reread? hts).trans (tokens_mapNumbers spelled j).symm
    rw [hm, ofTokens?_tokens (keysDistinct_mapNumbers spelled hk), depth_mapNumbers] at hj
    split at hj
    · rename_i hd
      rw [Option.some.inj hj] at hm
      exact ⟨hd, hm ▸ hts⟩
    · cases hj
  · rintro ⟨hd, hts⟩
    rw [hts, Option.bind_eq_bind, Option.bind_some, ofTokens?_tokens hk, if_pos hd]

end SqlCompose.Json
