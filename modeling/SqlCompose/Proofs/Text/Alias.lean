import SqlCompose.Proofs.Lists
import SqlCompose.Text.Mark

/-!
# The last colon that stands alone

An element of a list stands alone if no equal one is next to it. A key is cut at its last colon that
stands alone and is not in front (`splitAlias?_eq_some_iff`, `splitAlias?_eq_none_iff`). So it is cut
at a colon behind an expression if none follows (`splitAlias?_append`), and not at those of a cast
(`splitAlias?_cast`).
-/

namespace SqlCompose.Text

section Alone

variable {α : Type} {x : α} {s front behind : List α} {i : Nat}

/-- Does the element `x` stand at a place of the list, with no other one next to it? -/
structure StandsAlone (x : α) (s : List α) (i : Nat) : Prop where
  here : s[i]? = some x
  next : s[i + 1]? ≠ some x
  previous : ∀ j, j + 1 = i → s[j]? ≠ some x

/-- Is the list cut where `x` stands alone, at the last place like that behind the first element? -/
structure CutsAt (x : α) (s front behind : List α) : Prop where
  eq_append : s = front ++ x :: behind
  ne_nil : front ≠ []
  alone : StandsAlone x s front.length
  last : ∀ i, front.length < i → ¬ StandsAlone x s i

/-- Away from its front, a list has the same elements alone with others in front of it. -/
theorem standsAlone_append_iff (front : List α) (hi : 0 < i) :
    StandsAlone x (front ++ s) (front.length + i) ↔ StandsAlone x s i := by
  have hget := getElem?_append_length_add front s
  constructor
  · rintro ⟨hh, hn, hp⟩
    refine ⟨(hget i).symm.trans hh, (hget (i + 1)).symm.trans_ne hn, fun j hj => ?_⟩
    exact (hget j).symm.trans_ne (hp _ (by omega))
  · rintro ⟨hh, hn, hp⟩
    refine ⟨(hget i).trans hh, (hget (i + 1)).trans_ne hn, fun j hj => ?_⟩
    obtain ⟨k, rfl⟩ : ∃ k, j = front.length + k := ⟨j - front.length, by omega⟩
    exact (hget k).trans_ne (hp k (by omega))

theorem standsAlone_length_iff : StandsAlone x (front ++ x :: behind) front.length ↔
    front.getLast? ≠ some x ∧ behind.head? ≠ some x := by
  have hh : (front ++ x :: behind)[front.length]? = some x := by simp
  have hn : (front ++ x :: behind)[front.length + 1]? = behind.head? := by
    rw [getElem?_append_length_add, List.getElem?_cons_succ, List.head?_eq_getElem?]
  have hp (j : Nat) (hj : j + 1 = front.length) :
      (front ++ x :: behind)[j]? = front.getLast? := by
    rw [List.getElem?_append_left (by omega), List.getLast?_eq_getElem?, ← hj, Nat.add_sub_cancel]
  constructor
  · rintro ⟨-, hnext, hprev⟩
    refine ⟨fun hl => ?_, hn ▸ hnext⟩
    cases hf : front.length with
    | zero =>
      rw [List.length_eq_zero_iff.mp hf] at hl
      cases hl
    | succ j => exact hprev j hf.symm ((hp j hf.symm).trans hl)
  · rintro ⟨hl, hb⟩
    exact ⟨hh, hn ▸ hb, fun j hj => (hp j hj).trans_ne hl⟩

theorem exists_append_of_standsAlone (h : StandsAlone x s i) :
    ∃ front behind, s = front ++ x :: behind ∧ front.length = i := by
  obtain ⟨hi, hx⟩ := List.getElem?_eq_some_iff.mp h.here
  refine ⟨s.take i, s.drop (i + 1), ?_, List.length_take_of_le (Nat.le_of_lt hi)⟩
  rw [← hx, ← List.drop_eq_getElem_cons hi, List.take_append_drop]

theorem CutsAt.unique {front' behind' : List α} (h : CutsAt x s front behind)
    (h' : CutsAt x s front' behind') : front = front' ∧ behind = behind' := by
  have hl : front.length = front'.length := by
    rcases Nat.lt_trichotomy front.length front'.length with hlt | he | hlt
    · exact absurd h'.alone (h.last _ hlt)
    · exact he
    · exact absurd h.alone (h'.last _ hlt)
  obtain ⟨hf, hb⟩ := List.append_inj (h.eq_append.symm.trans h'.eq_append) hl
  exact ⟨hf, (List.cons.inj hb).2⟩

end Alone

/-! ## Cutting at the colon -/

/-- The part of a key behind its first character is searched for the last colon that stands alone. -/
theorem aliasFrom?_cases (c : Char) (s : List Char) :
    (∃ e n, aliasFrom? c s = some (e, n) ∧ CutsAt ':' (c :: s) (c :: e) n) ∨
      aliasFrom? c s = none ∧ ∀ i, 0 < i → ¬ StandsAlone ':' (c :: s) i := by
  induction s generalizing c with
  | nil =>
    refine .inr ⟨rfl, fun i hi h => ?_⟩
    have hn : [c][i]? = none := List.getElem?_eq_none hi
    cases hn.symm.trans h.here
  | cons d s ih =>
    have hshift {i : Nat} (hi : 0 < i) :
        StandsAlone ':' (c :: d :: s) (i + 1) ↔ StandsAlone ':' (d :: s) i := by
      rw [Nat.add_comm]
      exact standsAlone_append_iff [c] hi
    rw [aliasFrom?]
    rcases ih d with ⟨e, n, he, hc⟩ | ⟨he, hn⟩
    · refine .inl ⟨d :: e, n, by rw [he], congrArg (c :: ·) hc.eq_append, List.cons_ne_nil _ _,
        (hshift (Nat.succ_pos _)).mpr hc.alone, fun i hi => ?_⟩
      obtain ⟨k, rfl⟩ : ∃ k, i = k + 1 := ⟨i - 1, by omega⟩
      rw [List.length_cons] at hi
      rw [hshift (by omega)]
      exact hc.last k (by omega)
    · rw [he]
      -- Of the places behind `c`, only the first one is new.
      have hl (i : Nat) (hi : 1 < i) : ¬ StandsAlone ':' (c :: d :: s) i := by
        obtain ⟨k, rfl⟩ : ∃ k, i = k + 1 := ⟨i - 1, by omega⟩
        rw [hshift (by omega)]
        exact hn k (by omega)
      dsimp only
      split
      · rename_i hd
        obtain ⟨rfl, hp, hs⟩ := hd
        refine .inl ⟨[], s, rfl, rfl, List.cons_ne_nil _ _, ?_, hl⟩
        have hc : [c].getLast? ≠ some ':' := fun h => hp (Option.some.inj h)
        exact standsAlone_length_iff.mpr ⟨hc, hs⟩
      · rename_i hd
        refine .inr ⟨rfl, fun i hi h => ?_⟩
        obtain rfl | hi : i = 1 ∨ 1 < i := by omega
        · obtain rfl : d = ':' := Option.some.inj h.here
          refine hd ⟨rfl, fun hp => h.previous 0 rfl (congrArg some hp), ?_⟩
          rw [List.head?_eq_getElem?]
          exact h.next
        · exact hl i hi h

/-- A key is cut at its last colon that stands alone, unless there is none behind the front. -/
theorem splitAlias?_cases (s : List Char) :
    (∃ e n, splitAlias? s = some (e, n) ∧ CutsAt ':' s e n) ∨
      splitAlias? s = none ∧ ∀ i, 0 < i → ¬ StandsAlone ':' s i := by
  cases s with
  | nil => exact .inr ⟨rfl, fun i _ h => by cases h.here⟩
  | cons c s =>
    rcases aliasFrom?_cases c s with ⟨e, n, he, hc⟩ | ⟨he, hn⟩
    · exact .inl ⟨c :: e, n, by rw [splitAlias?, he]; rfl, hc⟩
    · exact .inr ⟨by rw [splitAlias?, he]; rfl, hn⟩

theorem splitAlias?_eq_some_iff {s e n : List Char} :
    splitAlias? s = some (e, n) ↔ CutsAt ':' s e n := by
  rcases splitAlias?_cases s with ⟨e', n', hs, hc⟩ | ⟨hs, hn⟩
  · rw [hs]
    constructor
    · intro h
      cases h
      exact hc
    · intro h
      obtain ⟨rfl, rfl⟩ := hc.unique h
      rfl
  · rw [hs]
    exact iff_of_false nofun fun h => hn _ (List.length_pos_iff.mpr h.ne_nil) h.alone

theorem splitAlias?_eq_none_iff {s : List Char} :
    splitAlias? s = none ↔ ∀ i, 0 < i → ¬ StandsAlone ':' s i := by
  rcases splitAlias?_cases s with ⟨e, n, hs, hc⟩ | ⟨hs, hn⟩
  · rw [hs]
    exact iff_of_false nofun fun h => h _ (List.length_pos_iff.mpr hc.ne_nil) hc.alone
  · exact iff_of_true hs hn

/-- A key with an alias is the expression and the alias around a colon. -/
theorem eq_append_of_splitAlias? {s e n : List Char} (h : splitAlias? s = some (e, n)) :
    s = e ++ ':' :: n :=
  (splitAlias?_eq_some_iff.mp h).eq_append

/-- An expression that does not end in a colon has the alias behind it. -/
theorem splitAlias?_append {e a : List Char} (hn : e ≠ []) (he : e.getLast? ≠ some ':')
    (ha : ':' ∉ a) : splitAlias? (e ++ ':' :: a) = some (e, a) := by
  have hh : a.head? ≠ some ':' := fun h => ha (List.mem_of_head? h)
  refine splitAlias?_eq_some_iff.mpr ⟨rfl, hn, standsAlone_length_iff.mpr ⟨he, hh⟩, fun i hi h => ?_⟩
  obtain ⟨k, rfl⟩ : ∃ k, i = e.length + (k + 1) := ⟨i - e.length - 1, by omega⟩
  have hk := h.here
  rw [getElem?_append_length_add, List.getElem?_cons_succ] at hk
  exact ha (List.mem_of_getElem? hk)

theorem splitAlias?_of_not_mem {s : List Char} (hs : ':' ∉ s) : splitAlias? s = none :=
  splitAlias?_eq_none_iff.mpr fun _ _ h => hs (List.mem_of_getElem? h.here)

/-- A cast is no alias. -/
theorem splitAlias?_cast {s t : List Char} (hs : ':' ∉ s) (ht : ':' ∉ t) :
    splitAlias? (s ++ ':' :: ':' :: t) = none := by
  refine splitAlias?_eq_none_iff.mpr fun i _ h => ?_
  have hget := getElem?_append_length_add s (':' :: ':' :: t)
  by_cases hi : i < s.length
  · have hh := h.here
    rw [List.getElem?_append_left hi] at hh
    exact hs (List.mem_of_getElem? hh)
  · obtain ⟨k, rfl⟩ : ∃ k, i = s.length + k := ⟨i - s.length, by omega⟩
    rcases k with _ | _ | k
    · exact h.next (hget 1)
    · exact h.previous _ rfl (hget 0)
    · exact ht (List.mem_of_getElem? ((hget (k + 2)).symm.trans h.here))

end SqlCompose.Text
