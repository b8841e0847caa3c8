import SqlCompose.Proofs.Number.Hex
import SqlCompose.Uuid

/-!
# Identifiers are read back

The written form of an identifier has 36 characters and starts with a digit or a small letter up
to `f`, so of the forms that can be read it is the one with hyphens alone (`Uuid.read?_text`).
-/

namespace SqlCompose.Uuid

theorem length_grouped (ns : List Nat) (s : List Char) :
    (grouped ns s).length = s.length + ns.length := by
  induction ns generalizing s with
  | nil => rfl
  | cons n ns ih =>
    unfold grouped
    rw [List.length_append, List.length_cons, ih, List.length_take, List.length_drop,
      List.length_cons]
    omega

/-- Digits in groups are put together again, if there are enough for the groups. -/
theorem ungrouped_grouped (ns : List Nat) {s : List Char} (h : ns.sum ≤ s.length) :
    ungrouped ns (grouped ns s) = some s := by
  induction ns generalizing s with
  | nil => rfl
  | cons n ns ih =>
    rw [List.sum_cons] at h
    have hn : (s.take n).length = n := List.length_take_of_le (by omega)
    have hd : (s.take n ++ '-' :: grouped ns (s.drop n)).drop n = '-' :: grouped ns (s.drop n) :=
      List.drop_left' hn
    have ht : (s.take n ++ '-' :: grouped ns (s.drop n)).take n = s.take n := List.take_left' hn
    unfold grouped ungrouped
    simp only [hd, ht]
    rw [ih (by rw [List.length_drop]; omega)]
    exact congrArg some (List.take_append_drop n s)

variable (u : Uuid)

theorem length_digits : (hexDigits 32 u.bits.toNat).length = 32 :=
  length_hexDigits (by decide) (Nat.lt_of_lt_of_le u.bits.isLt (by decide))

theorem ofGrouped?_grouped :
    ofGrouped? (grouped [8, 4, 4, 4] (hexDigits 32 u.bits.toNat)) = some u := by
  unfold ofGrouped? ofHexDigits?
  rw [ungrouped_grouped _ (by rw [length_digits]; decide), Option.bind_some,
    if_pos (length_digits u), hexNumber?_hexDigits, Option.map_some]
  simp

theorem exists_text_eq_cons :
    ∃ d < 16, ∃ s, grouped [8, 4, 4, 4] (hexDigits 32 u.bits.toNat) = d.digitChar :: s := by
  have hl := length_digits u
  cases hs : hexDigits 32 u.bits.toNat with
  | nil => rw [hs] at hl; cases hl
  | cons c s =>
    obtain ⟨d, hd, rfl⟩ := exists_digitChar_of_mem_hexDigits (hs ▸ List.mem_cons_self)
    exact ⟨d, hd, _, rfl⟩

theorem digitChar_ne : ∀ d < 16, d.digitChar ≠ '\x7b' ∧ d.digitChar.toLower ≠ 'u' := by decide

/-- An identifier is read back from its text. -/
theorem read?_text : read? u.text.toList = some u := by
  have ht : u.text.toList = grouped [8, 4, 4, 4] (hexDigits 32 u.bits.toNat) :=
    String.toList_ofList
  have hl : u.text.toList.length = 36 := by rw [ht, length_grouped, length_digits]; rfl
  obtain ⟨d, hd, s, hs⟩ := exists_text_eq_cons u
  obtain ⟨hb, hu⟩ := digitChar_ne d hd
  have hn : (u.text.toList.take urn.length).map Char.toLower ≠ urn := by
    rw [ht, hs]
    intro h
    exact hu (List.cons.inj h).1
  rw [← ht] at hs
  unfold read?
  split
  · rename_i heq
    rw [hs] at heq
    exact absurd (List.cons.inj heq).1 hb
  · rw [if_neg (by rw [hl]; decide), if_neg hn, ht]
    exact ofGrouped?_grouped u

end SqlCompose.Uuid
