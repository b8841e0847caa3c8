import Mathlib.Data.List.Basic
import Mathlib.Data.List.Forall2

/-!
# Lists

Facts about lists of any elements: what is in a list that was put together, and how the parts are
found again in it. Parts that start with an element of a kind, and have no other of it, are found
again if there are no fewer parts on the other side (`eq_of_flatten_eq`).
-/

namespace SqlCompose

variable {α β : Type}

/-! ## Elements -/

theorem getElem?_append_length_add (front s : List α) (k : Nat) :
    (front ++ s)[front.length + k]? = s[k]? := by
  rw [List.getElem?_append_right (Nat.le_add_right _ _), Nat.add_sub_cancel_left]

theorem mem_of_lookup_eq_some [BEq α] [LawfulBEq α] {es : List (α × β)} {k : α} {v : β}
    (h : es.lookup k = some v) : (k, v) ∈ es := by
  obtain ⟨l₁, l₂, rfl, -⟩ := List.lookup_eq_some_iff.mp h
  exact List.mem_append_right l₁ List.mem_cons_self

theorem eraseDups_concat [BEq α] [LawfulBEq α] (l : List α) (a : α) :
    (l ++ [a]).eraseDups = if a ∈ l then l.eraseDups else l.eraseDups ++ [a] := by
  rw [List.eraseDups_append]
  by_cases h : a ∈ l
  · simp [List.removeAll, h]
  · have hr : [a].removeAll l = [a] := by simp [List.removeAll, h]
    rw [hr, if_neg h]
    rfl

theorem exists_first_of_findSome?_range {f : Nat → Option α} {bound i : Nat} {a : α}
    (hi : i < bound) (ha : f i = some a) :
    ∃ k ≤ i, ∃ b, (List.range bound).findSome? f = some b ∧ f k = some b ∧
      ∀ j < k, f j = none := by
  have hm : i ∈ List.range bound := List.mem_range.mpr hi
  cases hf : (List.range bound).findSome? f with
  | none =>
    rw [List.findSome?_eq_none_iff.mp hf i hm] at ha
    cases ha
  | some b =>
    obtain ⟨before, k, behind, hr, hk, hn⟩ := List.findSome?_eq_some_iff.mp hf
    have hp : (before ++ k :: behind).Pairwise (· < ·) := hr ▸ List.pairwise_lt_range
    obtain ⟨-, hb, hc⟩ := List.pairwise_append.mp hp
    -- Whatever is smaller stands in front, and everything in front is smaller.
    have hlt (j : Nat) (hj : j ∈ List.range bound) (hne : j < k) : j ∈ before := by
      rw [hr] at hj
      rcases List.mem_append.mp hj with hj | hj
      · exact hj
      · rcases List.mem_cons.mp hj with rfl | hj
        · omega
        · have := (List.pairwise_cons.mp hb).1 j hj
          omega
    have hkb : k < bound := List.mem_range.mp (by rw [hr]; simp)
    have hki : k ≤ i := Nat.le_of_not_lt fun hik => by
      rw [hn i (hlt i hm hik)] at ha
      cases ha
    exact ⟨k, hki, b, rfl, hk, fun j hj => hn j (hlt j (List.mem_range.mpr (by omega)) hj)⟩

/-! ## Two lists -/

theorem zip_set {xs : List α} {x : α} {k : Nat} (hk : xs[k]? = some x) (ys : List β) (y : β) :
    xs.zip (ys.set k y) = (xs.zip ys).set k (x, y) := by
  induction xs generalizing ys k with
  | nil => cases hk
  | cons a xs ih =>
    cases ys with
    | nil => simp
    | cons b ys =>
      cases k with
      | zero =>
        cases hk
        rfl
      | succ k => exact congrArg ((a, b) :: ·) (ih hk ys)

theorem forall₂_append_left {R : α → β → Prop} {xs ys : List α} {zs : List β}
    (h : List.Forall₂ R (xs ++ ys) zs) :
    ∃ us vs, zs = us ++ vs ∧ List.Forall₂ R xs us ∧ List.Forall₂ R ys vs :=
  ⟨_, _, (List.take_append_drop xs.length zs).symm,
    (List.forall₂_take_append zs xs ys h.flip).flip, (List.forall₂_drop_append zs xs ys h.flip).flip⟩

/-! ## Lists put together -/

theorem mem_flatten_iff_tail_or_head {ls : List (List α)} {a : α} :
    a ∈ ls.flatten ↔ a ∈ ls.flatMap List.tail ∨ a ∈ ls.filterMap List.head? := by
  have hl : ∀ l : List α, a ∈ l ↔ a ∈ l.tail ∨ l.head? = some a := by
    intro l
    cases l with
    | nil => simp
    | cons x l => simp [eq_comm, or_comm]
  simp only [List.mem_flatten, List.mem_flatMap, List.mem_filterMap, ← exists_or, ← and_or_left]
  exact exists_congr fun l => and_congr_right fun _ => hl l

theorem mem_intercalate {sep : List α} {ls : List (List α)} {a : α}
    (h : a ∈ List.intercalate sep ls) : a ∈ sep ∨ ∃ l ∈ ls, a ∈ l := by
  induction ls with
  | nil => cases h
  | cons l ls ih =>
    cases ls with
    | nil =>
      rw [List.intercalate_singleton] at h
      exact .inr ⟨l, List.mem_cons_self, h⟩
    | cons next ls =>
      rw [List.intercalate_cons_cons] at h
      simp only [List.mem_append] at h
      rcases h with (h | h) | h
      · exact .inr ⟨l, List.mem_cons_self, h⟩
      · exact .inl h
      · rcases ih h with h | ⟨p, hp, h⟩
        · exact .inl h
        · exact .inr ⟨p, List.mem_cons_of_mem l hp, h⟩

theorem forall_mem_intercalate_iff {P : α → Prop} {sep : α} {ls : List (List α)} :
    (∀ a ∈ List.intercalate [sep] ls, P a) ↔ (ls.length ≤ 1 ∨ P sep) ∧ ∀ l ∈ ls, ∀ a ∈ l, P a := by
  induction ls with
  | nil => simp
  | cons l ls ih =>
    cases ls with
    | nil => simp
    | cons next ls =>
      have hl : ¬ (l :: next :: ls).length ≤ 1 := by simp
      rw [List.intercalate_cons_cons, List.forall_mem_append, List.forall_mem_append,
        List.forall_mem_singleton, ih, or_iff_right hl, List.forall_mem_cons (a := l)]
      constructor
      · rintro ⟨⟨hp, hs⟩, -, hr⟩
        exact ⟨hs, hp, hr⟩
      · rintro ⟨hs, hp, hr⟩
        exact ⟨⟨hp, hs⟩, .inr hs, hr⟩

section FlatMap

variable {f : α → List β} {l : List α} (hn : ∀ a ∈ l, f a ≠ [])
include hn

theorem length_le_length_flatMap : l.length ≤ (l.flatMap f).length := by
  induction l with
  | nil => exact Nat.le_refl 0
  | cons a l ih =>
    obtain ⟨ha, hl⟩ := List.forall_mem_cons.mp hn
    have hp := List.length_pos_of_ne_nil ha
    have hi := ih hl
    rw [List.flatMap_cons, List.length_append, List.length_cons]
    omega

/-- If there are no more elements than before, each has given one. -/
theorem exists_eq_singleton_of_length_flatMap_le (h : (l.flatMap f).length ≤ l.length) :
    ∀ a ∈ l, ∃ b, f a = [b] := by
  induction l with
  | nil => nofun
  | cons a l ih =>
    obtain ⟨ha, hl⟩ := List.forall_mem_cons.mp hn
    have hp := List.length_pos_of_ne_nil ha
    have hr := length_le_length_flatMap hl
    rw [List.flatMap_cons, List.length_append, List.length_cons] at h
    exact List.forall_mem_cons.mpr ⟨List.length_eq_one_iff.mp (by omega), ih hl (by omega)⟩

end FlatMap

/-! ## Parts with a mark in front -/

/-- Does the first element of the list satisfy `p`? -/
def Leads (p : α → Bool) (l : List α) : Prop := ∃ a s, l = a :: s ∧ p a = true

/-- Does the first element of the list satisfy `p`, and no other one? -/
def LeadsAlone (p : α → Bool) (l : List α) : Prop :=
  ∃ a s, l = a :: s ∧ p a = true ∧ ∀ b ∈ s, p b = false

variable {p : α → Bool} {xs ys : List (List α)}

theorem LeadsAlone.leads {l : List α} (h : LeadsAlone p l) : Leads p l := by
  obtain ⟨a, s, hl, ha, -⟩ := h
  exact ⟨a, s, hl, ha⟩

theorem leads_cons {a : α} (h : p a = true) (s : List α) : Leads p (a :: s) := ⟨a, s, rfl, h⟩

theorem Leads.of_append {l s : List α} (h : Leads p (l ++ s)) (hl : l ≠ []) : Leads p l := by
  cases l with
  | nil => exact absurd rfl hl
  | cons b l =>
    obtain ⟨a, t, he, ha⟩ := h
    obtain ⟨rfl, -⟩ := List.cons.inj he
    exact leads_cons ha l

theorem Leads.of_flatten_eq_cons (h : ∀ l ∈ xs, Leads p l) {a : α} {s : List α}
    (hs : xs.flatten = a :: s) : p a = true := by
  cases xs with
  | nil => cases hs
  | cons l xs =>
    obtain ⟨b, t, rfl, hb⟩ := h l List.mem_cons_self
    obtain ⟨rfl, -⟩ := List.cons.inj hs
    exact hb

theorem length_le_countP_flatten (h : ∀ l ∈ xs, Leads p l) :
    xs.length ≤ xs.flatten.countP p := by
  induction xs with
  | nil => exact Nat.le_refl 0
  | cons l xs ih =>
    obtain ⟨⟨a, s, rfl, ha⟩, hs⟩ := List.forall_mem_cons.mp h
    have hi := ih hs
    rw [List.flatten_cons, List.countP_append, List.countP_cons_of_pos ha, List.length_cons]
    omega

theorem countP_flatten (h : ∀ l ∈ ys, LeadsAlone p l) : ys.flatten.countP p = ys.length := by
  induction ys with
  | nil => rfl
  | cons l ys ih =>
    obtain ⟨⟨a, s, rfl, ha, hn⟩, hs⟩ := List.forall_mem_cons.mp h
    have hz : s.countP p = 0 := List.countP_eq_zero.mpr fun b hb => by simp [hn b hb]
    rw [List.flatten_cons, List.countP_append, List.countP_cons_of_pos ha, ih hs, hz,
      List.length_cons]
    omega

/-- Parts that have the mark in front alone are the only ones with a mark in front that can be put
together to their list, unless there are fewer. -/
theorem eq_of_flatten_eq (hx : ∀ l ∈ xs, Leads p l) (hy : ∀ l ∈ ys, LeadsAlone p l)
    (hl : ys.length ≤ xs.length) (h : xs.flatten = ys.flatten) : xs = ys := by
  induction ys generalizing xs with
  | nil =>
    have hc := length_le_countP_flatten hx
    rw [h] at hc
    exact List.length_eq_zero_iff.mp (Nat.le_zero.mp hc)
  | cons l ys ih =>
    obtain ⟨⟨a, s, rfl, -, hs⟩, hys⟩ := List.forall_mem_cons.mp hy
    cases xs with
    | nil => cases hl
    | cons l xs =>
      obtain ⟨⟨b, t, rfl, -⟩, hxs⟩ := List.forall_mem_cons.mp hx
      have hlen : ys.length ≤ xs.length := Nat.le_of_succ_le_succ hl
      rw [List.flatten_cons, List.flatten_cons, List.cons_append, List.cons_append] at h
      obtain ⟨rfl, hr⟩ := List.cons.inj h
      rcases List.append_eq_append_iff.mp hr with ⟨z, rfl, hz⟩ | ⟨z, rfl, hz⟩
      · -- There is no mark in `z`, and in front of the parts that follow there is one.
        cases z with
        | nil => rw [List.append_nil, ih hxs hys hlen hz]
        | cons c z =>
          have hc : p c = false := hs c (List.mem_append_right t List.mem_cons_self)
          rw [Leads.of_flatten_eq_cons hxs hz] at hc
          cases hc
      · -- A mark in `z` would be one too many.
        cases z with
        | nil => rw [List.append_nil, ih hxs hys hlen hz.symm]
        | cons c z =>
          have hc : p c = true := Leads.of_flatten_eq_cons (fun l hl => (hys l hl).leads) hz
          have hcx := length_le_countP_flatten hxs
          have hcy := countP_flatten hys
          rw [hz, List.countP_append, List.countP_cons_of_pos hc] at hcy
          omega

/-- The first part may do without the mark. -/
theorem eq_of_append_flatten_eq {a : α} (ha : p a = true) {v w : List α} (hw : ∀ b ∈ w, p b = false)
    (hx : ∀ l ∈ xs, Leads p l) (hy : ∀ l ∈ ys, LeadsAlone p l) (hl : ys.length ≤ xs.length)
    (h : v ++ xs.flatten = w ++ ys.flatten) : v = w ∧ xs = ys := by
  have he : (a :: v) :: xs = (a :: w) :: ys :=
    eq_of_flatten_eq (List.forall_mem_cons.mpr ⟨leads_cons ha v, hx⟩)
      (List.forall_mem_cons.mpr ⟨⟨a, w, rfl, ha, hw⟩, hy⟩) (Nat.succ_le_succ hl)
      (congrArg (a :: ·) h)
  obtain ⟨hv, hxs⟩ := List.cons.inj he
  exact ⟨(List.cons.inj hv).2, hxs⟩

end SqlCompose
