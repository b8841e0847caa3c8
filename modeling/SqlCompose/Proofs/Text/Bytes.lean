import SqlCompose.Proofs.Text.Alias
import SqlCompose.Proofs.Wire.Bytes

/-!
# The alias in the bytes of a key

In UTF-8 the byte of a colon occurs for a colon only (`marks_utf8EncodeChar`), so the bytes of a key
are cut in the same way as the key and at the same place (`cutsAt_ofText_iff`), which is between
characters. That holds of all lists that are encoded element by element (`cutsAt_flatMap_iff`).
-/

namespace SqlCompose.Text

section Encoding

variable {α β : Type} {x : α} {y : β} {f : α → List β}

/-- Does `y` mark the element `x` in lists that `f` encodes element by element? It is all that `x` is
encoded as, it is in the encoding of no other element, and no element is encoded as nothing. -/
structure Marks (f : α → List β) (x : α) (y : β) : Prop where
  self : f x = [y]
  eq_of_mem : ∀ a, y ∈ f a → a = x
  ne_nil : ∀ a, f a ≠ []

variable (h : Marks f x y)
include h

theorem flatMap_eq_append_cons_iff {s : List α} {front behind : List β} :
    s.flatMap f = front ++ y :: behind ↔ ∃ front' behind', s = front' ++ x :: behind' ∧
      front = front'.flatMap f ∧ behind = behind'.flatMap f := by
  constructor
  · induction s generalizing front with
    | nil => simp
    | cons a s ih =>
      intro he
      rw [List.flatMap_cons, List.append_eq_append_iff] at he
      -- Either `y` stands in the rest of the list, or the encoding of `a` goes beyond it.
      rcases he with ⟨rest, rfl, hs⟩ | ⟨rest, ha, hs⟩
      · obtain ⟨front', behind', rfl, rfl, rfl⟩ := ih hs
        exact ⟨a :: front', behind', rfl, List.flatMap_cons.symm, rfl⟩
      · cases rest with
        | nil =>
          have hr : s.flatMap f = [] ++ y :: behind := hs.symm
          obtain ⟨front', behind', rfl, hf, rfl⟩ := ih hr
          have hn : front' = [] := by
            cases front' with
            | nil => rfl
            | cons b front' => exact absurd hf.symm (by simp [h.ne_nil b])
          subst hn
          exact ⟨[a], behind', rfl, by simpa using ha.symm, rfl⟩
        | cons b rest =>
          obtain ⟨rfl, rfl⟩ := List.cons.inj hs
          obtain rfl : a = x := h.eq_of_mem a (ha ▸ by simp)
          rw [h.self] at ha
          cases front with
          | nil =>
            cases ha
            exact ⟨[], s, rfl, rfl, rfl⟩
          | cons c front => simp at ha
  · rintro ⟨front', behind', rfl, rfl, rfl⟩
    rw [List.flatMap_append, List.flatMap_cons, h.self, List.singleton_append]

theorem head?_flatMap_iff {s : List α} : (s.flatMap f).head? = some y ↔ s.head? = some x := by
  cases s with
  | nil => simp
  | cons a s =>
    rw [List.flatMap_cons, List.head?_append_of_ne_nil _ (h.ne_nil a), List.head?_cons]
    constructor
    · intro ha
      rw [h.eq_of_mem a (List.mem_of_head? ha)]
    · intro ha
      rw [Option.some.inj ha, h.self]
      rfl

theorem getLast?_flatMap_iff {s : List α} :
    (s.flatMap f).getLast? = some y ↔ s.getLast? = some x := by
  cases s using List.reverseRecOn with
  | nil => simp
  | append_singleton s a =>
    rw [List.flatMap_append, List.flatMap_singleton, List.getLast?_append_of_ne_nil _ (h.ne_nil a),
      List.getLast?_concat]
    constructor
    · intro ha
      rw [h.eq_of_mem a (List.mem_of_getLast? ha)]
    · intro ha
      rw [Option.some.inj ha, h.self]
      rfl

theorem standsAlone_flatMap_iff {front behind : List α} :
    StandsAlone y ((front ++ x :: behind).flatMap f) (front.flatMap f).length ↔
      StandsAlone x (front ++ x :: behind) front.length := by
  have he := (flatMap_eq_append_cons_iff h).mpr ⟨front, behind, rfl, rfl, rfl⟩
  rw [he, standsAlone_length_iff, standsAlone_length_iff, ne_eq, ne_eq, head?_flatMap_iff h,
    getLast?_flatMap_iff h]

/-- Of two parts in front, the encoding of the longer one is longer. -/
theorem length_flatMap_lt_iff {s part other : List α} (hp : part <+: s) (ho : other <+: s) :
    (part.flatMap f).length < (other.flatMap f).length ↔ part.length < other.length := by
  constructor
  · intro hlt
    by_contra hle
    obtain ⟨rest, rfl⟩ := List.prefix_of_prefix_length_le ho hp (Nat.le_of_not_lt hle)
    rw [List.flatMap_append, List.length_append] at hlt
    omega
  · intro hlt
    obtain ⟨rest, rfl⟩ := List.prefix_of_prefix_length_le hp ho (Nat.le_of_lt hlt)
    cases rest with
    | nil => simp at hlt
    | cons a rest =>
      have ha := List.length_pos_iff.mpr (h.ne_nil a)
      rw [List.flatMap_append, List.flatMap_cons, List.length_append, List.length_append]
      omega

/-- The encoding is cut where the list is. -/
theorem cutsAt_flatMap_iff {s : List α} {front behind : List β} :
    CutsAt y (s.flatMap f) front behind ↔ ∃ front' behind', CutsAt x s front' behind' ∧
      front = front'.flatMap f ∧ behind = behind'.flatMap f := by
  constructor
  · intro hc
    obtain ⟨front', behind', rfl, rfl, rfl⟩ := (flatMap_eq_append_cons_iff h).mp hc.eq_append
    refine ⟨front', behind', ⟨rfl, ?_, (standsAlone_flatMap_iff h).mp hc.alone, ?_⟩, rfl, rfl⟩
    · rintro rfl
      exact hc.ne_nil rfl
    · intro i hi ha
      obtain ⟨front, behind, hs, rfl⟩ := exists_append_of_standsAlone ha
      have hlt := (length_flatMap_lt_iff h ⟨_, rfl⟩ ⟨_, hs.symm⟩).mpr hi
      rw [hs] at ha hc
      exact hc.last _ hlt ((standsAlone_flatMap_iff h).mpr ha)
  · rintro ⟨front', behind', hc, rfl, rfl⟩
    obtain rfl := hc.eq_append
    refine ⟨(flatMap_eq_append_cons_iff h).mpr ⟨_, _, rfl, rfl, rfl⟩, ?_,
      (standsAlone_flatMap_iff h).mpr hc.alone, ?_⟩
    · obtain ⟨a, rest, rfl⟩ := List.exists_cons_of_ne_nil hc.ne_nil
      simp [h.ne_nil a]
    · intro i hi ha
      obtain ⟨front, behind, hb, rfl⟩ := exists_append_of_standsAlone ha
      obtain ⟨front, behind, hs, rfl, rfl⟩ := (flatMap_eq_append_cons_iff h).mp hb
      have hlt := (length_flatMap_lt_iff h ⟨_, rfl⟩ ⟨_, hs.symm⟩).mp hi
      rw [hs] at ha hc
      exact hc.last _ hlt ((standsAlone_flatMap_iff h).mp ha)

end Encoding

/-- In UTF-8 the byte of a colon is that of no other character. -/
theorem marks_utf8EncodeChar : Marks String.utf8EncodeChar ':' 0x3a where
  self := by decide
  eq_of_mem := by
    intro c hc
    have hy : (0x3a : UInt8).toNat = 0x3a := rfl
    revert hc
    fun_cases String.utf8EncodeChar c with
    | case1 n hn =>
      intro hc
      have hb : 0x3a = c.toNat % 2 ^ 8 := congrArg UInt8.toNat (List.mem_singleton.mp hc)
      have hl : c.toNat ≤ 127 := hn
      have hv : c.toNat = 0x3a := by omega
      exact Char.toNat_inj.mp hv
    | _ =>
      -- The bytes of all other characters are greater than those of ASCII.
      simp only [List.mem_cons, List.not_mem_nil, or_false, ← UInt8.toNat_inj, UInt8.toNat_ofNat']
      omega
  ne_nil _ := String.utf8EncodeChar_ne_nil

/-- The bytes of a key are cut where the key is, so never inside a character. -/
theorem cutsAt_ofText_iff {key : String} {front behind : List UInt8} :
    CutsAt 0x3a (Wire.ofText key) front behind ↔ ∃ e n : String,
      splitAlias? key.toList = some (e.toList, n.toList) ∧ front = Wire.ofText e ∧
        behind = Wire.ofText n := by
  have hk := Wire.ofText_ofList key.toList
  rw [String.ofList_toList] at hk
  rw [hk, cutsAt_flatMap_iff marks_utf8EncodeChar]
  constructor
  · rintro ⟨e, n, hc, rfl, rfl⟩
    refine ⟨String.ofList e, String.ofList n, ?_, (Wire.ofText_ofList e).symm,
      (Wire.ofText_ofList n).symm⟩
    rw [String.toList_ofList, String.toList_ofList]
    exact splitAlias?_eq_some_iff.mpr hc
  · rintro ⟨e, n, hs, rfl, rfl⟩
    refine ⟨e.toList, n.toList, splitAlias?_eq_some_iff.mp hs, ?_, ?_⟩
    · rw [← Wire.ofText_ofList, String.ofList_toList]
    · rw [← Wire.ofText_ofList, String.ofList_toList]

end SqlCompose.Text
