import SqlCompose.Text.Cut

/-!
# The longest part that fits

What is cut out of a text is the part in front of the last boundary of characters within the limit
(`longestFit_cut`). Two parts like that are the same (`LongestFit.unique`), and the boundary is the
first one that is met downwards from the limit (`LongestFit.boundaryBelow_eq`). As no character has
more than four bytes, it is met after three steps at most (`lt_byteCount_cut_add_four`).
-/

namespace SqlCompose.Text

theorem utf8ByteSize_ofList (s : List Char) : (String.ofList s).utf8ByteSize = byteCount s := by
  induction s with
  | nil => rfl
  | cons c s ih =>
    rw [String.ofList_cons, String.utf8ByteSize_append, String.utf8ByteSize_singleton, ih]
    rfl

theorem utf8ByteSize_eq (s : String) : s.utf8ByteSize = byteCount s.toList := by
  rw [← utf8ByteSize_ofList, String.ofList_toList]

/-- No part in front that fits is longer than the one that is cut out. -/
theorem byteCount_le_byteCount_cut {limit : Nat} {front : List Char}
    (h : byteCount front ≤ limit) (rest : List Char) :
    byteCount front ≤ byteCount (cut limit (front ++ rest)) := by
  induction front generalizing limit with
  | nil => exact Nat.zero_le _
  | cons c front ih =>
    simp only [byteCount] at h
    have hc : c.utf8Size ≤ limit := by omega
    have hf : byteCount front ≤ byteCount (cut (limit - c.utf8Size) (front ++ rest)) :=
      ih (by omega)
    simp only [List.cons_append, cut, if_pos hc, byteCount]
    omega

/-- Is `front` the longest part in front of `s` that ends at a boundary of characters and has at
most `limit` bytes? The positions of `s` are these boundaries. -/
structure LongestFit (limit : Nat) (s front : String) : Prop where
  isFront : ∃ rest, s = front ++ rest
  fits : front.utf8ByteSize ≤ limit
  longest : ∀ p : s.Pos, p.offset.byteIdx ≤ limit → p.offset.byteIdx ≤ front.utf8ByteSize

theorem longestFit_cut (limit : Nat) (s : String) :
    LongestFit limit s (String.ofList (cut limit s.toList)) where
  isFront := by
    obtain ⟨rest, hr⟩ := exists_eq_cut_append limit s.toList
    refine ⟨String.ofList rest, ?_⟩
    rw [← String.ofList_append, ← hr, String.ofList_toList]
  fits := by
    rw [utf8ByteSize_ofList]
    exact byteCount_cut_le limit s.toList
  longest := by
    intro p hp
    obtain ⟨front, rest, hs, ho⟩ := String.Pos.Raw.isValid_iff_exists_append.mp p.isValid
    have hb : p.offset.byteIdx = byteCount front.toList := by
      rw [ho]
      exact utf8ByteSize_eq front
    rw [hb] at hp ⊢
    rw [utf8ByteSize_ofList, hs, String.toList_append]
    exact byteCount_le_byteCount_cut hp rest.toList

/-- Where a part in front ends, there is a boundary. -/
theorem splits_of_eq_append {s front rest : String} (h : s = front ++ rest) :
    ∃ p : s.Pos, p.Splits front rest :=
  ⟨⟨front.rawEndPos, String.Pos.Raw.isValid_iff_exists_append.mpr ⟨front, rest, h, rfl⟩⟩, ⟨h, rfl⟩⟩

theorem LongestFit.unique {limit : Nat} {s front other : String} (hf : LongestFit limit s front)
    (ho : LongestFit limit s other) : front = other := by
  obtain ⟨rest, hs⟩ := hf.isFront
  obtain ⟨rest', hs'⟩ := ho.isFront
  obtain ⟨p, hp⟩ := splits_of_eq_append hs
  obtain ⟨q, hq⟩ := splits_of_eq_append hs'
  have hps : p.offset.byteIdx = front.utf8ByteSize := congrArg String.Pos.Raw.byteIdx hp.2
  have hqs : q.offset.byteIdx = other.utf8ByteSize := congrArg String.Pos.Raw.byteIdx hq.2
  have hle := ho.longest p (by rw [hps]; exact hf.fits)
  have hge := hf.longest q (by rw [hqs]; exact ho.fits)
  have hpq : p = q := String.Pos.ext (String.Pos.Raw.ext (by omega))
  subst hpq
  exact hp.eq_left hq

/-! ## The boundary below a limit -/

/-- The last boundary of characters at `limit` bytes or below, sought downwards from there. -/
def boundaryBelow (s : String) : Nat → Nat
  | 0 => 0
  | n + 1 => if String.Pos.Raw.IsValid s ⟨n + 1⟩ then n + 1 else boundaryBelow s n

theorem boundaryBelow_le (s : String) (limit : Nat) : boundaryBelow s limit ≤ limit := by
  induction limit with
  | zero => exact Nat.le_refl 0
  | succ n ih =>
    unfold boundaryBelow
    split
    · exact Nat.le_refl (n + 1)
    · exact Nat.le_succ_of_le ih

theorem isValid_boundaryBelow (s : String) (limit : Nat) :
    String.Pos.Raw.IsValid s ⟨boundaryBelow s limit⟩ := by
  induction limit with
  | zero => exact String.Pos.Raw.isValid_zero
  | succ n ih =>
    unfold boundaryBelow
    split
    · assumption
    · exact ih

/-- No boundary up to the limit is passed over. -/
theorem le_boundaryBelow {s : String} {n limit : Nat} (hn : String.Pos.Raw.IsValid s ⟨n⟩)
    (h : n ≤ limit) : n ≤ boundaryBelow s limit := by
  induction limit with
  | zero => exact h
  | succ limit ih =>
    unfold boundaryBelow
    split
    · exact h
    · rename_i hv
      -- The search goes on where the limit is no boundary, so `n` is not the limit.
      have hne : n ≠ limit + 1 := fun he => hv (he ▸ hn)
      exact ih (by omega)

theorem LongestFit.boundaryBelow_eq {limit : Nat} {s front : String} (h : LongestFit limit s front) :
    boundaryBelow s limit = front.utf8ByteSize := by
  obtain ⟨rest, hs⟩ := h.isFront
  have hf : String.Pos.Raw.IsValid s ⟨front.utf8ByteSize⟩ :=
    String.Pos.Raw.isValid_iff_exists_append.mpr ⟨front, rest, hs, rfl⟩
  exact Nat.le_antisymm
    (h.longest ⟨_, isValid_boundaryBelow s limit⟩ (boundaryBelow_le s limit))
    (le_boundaryBelow hf h.fits)

theorem cut_of_byteCount_le {limit : Nat} {s : List Char} (h : byteCount s ≤ limit) :
    cut limit s = s := by
  induction s generalizing limit with
  | nil => rfl
  | cons c s ih =>
    simp only [byteCount] at h
    have hc : c.utf8Size ≤ limit := by omega
    rw [cut, if_pos hc, ih (by omega)]

theorem ofList_cut_of_le {limit : Nat} {s : String} (h : s.utf8ByteSize ≤ limit) :
    String.ofList (cut limit s.toList) = s := by
  rw [utf8ByteSize_eq] at h
  rw [cut_of_byteCount_le h, String.ofList_toList]

/-- What is left of the limit has no room for a character. -/
theorem lt_byteCount_cut_add_four {limit : Nat} {s : List Char} (h : limit < byteCount s) :
    limit < byteCount (cut limit s) + 4 := by
  induction s generalizing limit with
  | nil => exact absurd h (Nat.not_lt_zero limit)
  | cons c s ih =>
    simp only [byteCount] at h
    by_cases hc : c.utf8Size ≤ limit
    · have hs : limit - c.utf8Size < byteCount (cut (limit - c.utf8Size) s) + 4 := ih (by omega)
      simp only [cut, if_pos hc, byteCount]
      omega
    · have h4 := c.utf8Size_le_four
      simp only [cut, if_neg hc, byteCount]
      omega

theorem shorten_empty (limit : Nat) (s : String) :
    shorten limit "" s = String.ofList (cut limit s.toList) := by
  unfold shorten
  split
  · rename_i h
    exact (ofList_cut_of_le h).symm
  · exact String.append_empty

/-- A text is cut to the longest part in front that ends between characters and fits, which is the
whole text if that fits. It is the only part like that. The search for a boundary from the limit
downwards ends where it ends, and if the text does not fit, that is three bytes below the limit at
most. -/
theorem cut_is_longest_fit (limit : Nat) (s : String) :
    shorten limit "" s = String.ofList (cut limit s.toList) ∧
      LongestFit limit s (String.ofList (cut limit s.toList)) ∧
      (∀ other, LongestFit limit s other → other = String.ofList (cut limit s.toList)) ∧
      (s.utf8ByteSize ≤ limit → String.ofList (cut limit s.toList) = s) ∧
      boundaryBelow s limit = (String.ofList (cut limit s.toList)).utf8ByteSize ∧
      (limit < s.utf8ByteSize →
        limit < (String.ofList (cut limit s.toList)).utf8ByteSize + 4) := by
  have hl : LongestFit limit s (String.ofList (cut limit s.toList)) := longestFit_cut limit s
  refine ⟨shorten_empty limit s, hl, fun other ho => ho.unique hl, ofList_cut_of_le,
    hl.boundaryBelow_eq, fun h => ?_⟩
  rw [utf8ByteSize_ofList]
  rw [utf8ByteSize_eq] at h
  exact lt_byteCount_cut_add_four h

example : cut 2 "aé".toList = ['a'] := by decide

end SqlCompose.Text
