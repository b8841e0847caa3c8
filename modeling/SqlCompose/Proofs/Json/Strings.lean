import Mathlib.Data.List.Basic
import SqlCompose.Json.Scanner
import SqlCompose.Proofs.Number.Hex

/-!
# JSON strings are read back

Each character is written as one element of a string: as it is, escaped by a letter, or escaped by
the number of its UTF-16 unit. So what was written of a string is read, up to the quote behind it,
as its characters (`takeString_flatMap_escape`).
-/

namespace SqlCompose.Json

/-- An element that stands for a character by itself, as no surrogate does. -/
def StringUnit.Spells (u : StringUnit) (c : Char) : Prop :=
  ∀ us, joinUnits (u :: us) = (joinUnits us).map (c :: ·)

theorem spells_char (c : Char) : (StringUnit.char c).Spells c := fun _ => rfl

theorem spells_unit {c : Char} (h : c.toNat < 0x20) : (StringUnit.unit c.toNat).Spells c := by
  intro us
  have hl : isLowSurrogate c.toNat = false :=
    Bool.and_eq_false_imp.mpr fun h => absurd (of_decide_eq_true h) (by omega)
  have hh : isHighSurrogate c.toNat = false :=
    Bool.and_eq_false_imp.mpr fun h => absurd (of_decide_eq_true h) (by omega)
  rw [joinUnits.eq_def]
  dsimp only
  rw [hl, hh, Char.ofNat_toNat]
  rfl

/-- A character is escaped by a letter, by its number, or not at all. -/
theorem escape_cases (c : Char) :
    (∃ l, l ≠ 'u' ∧ escaped? l = some c ∧ escape c = ['\\', l]) ∨
      (c.toNat < 0x20 ∧ escape c = '\\' :: 'u' :: hexDigits 4 c.toNat) ∨
      (c ≠ '"' ∧ c ≠ '\\' ∧ ¬ c.toNat < 0x20 ∧ escape c = [c]) := by
  unfold escape
  split_ifs with hquote hslash h8 hc hn hr ht hcontrol
  · exact .inl ⟨'"', by decide, by rw [hquote]; rfl, rfl⟩
  · exact .inl ⟨'\\', by decide, by rw [hslash]; rfl, rfl⟩
  · exact .inl ⟨'b', by decide, h8 ▸ rfl, rfl⟩
  · exact .inl ⟨'f', by decide, hc ▸ rfl, rfl⟩
  · exact .inl ⟨'n', by decide, hn ▸ rfl, rfl⟩
  · exact .inl ⟨'r', by decide, hr ▸ rfl, rfl⟩
  · exact .inl ⟨'t', by decide, ht ▸ rfl, rfl⟩
  · exact .inr (.inl ⟨hcontrol, rfl⟩)
  · exact .inr (.inr ⟨hquote, hslash, hcontrol, rfl⟩)

theorem takeString_letter {l c : Char} (hl : l ≠ 'u') (he : escaped? l = some c) (s : List Char) :
    takeString ('\\' :: l :: s) = (takeString s).map fun p => (.char c :: p.1, p.2) := by
  rw [takeString.eq_def]
  split
  · cases ‹_›
  · rename_i h
    cases h
  · rename_i h
    exact absurd (List.cons.inj (List.cons.inj h).2).1 hl
  · rename_i h
    cases h
    rw [he]
    cases takeString s <;> rfl
  · rename_i hn h
    cases h
    exact absurd rfl (hn l s rfl)

theorem takeString_number {n : Nat} (h : n < 0x20) (s : List Char) :
    takeString ('\\' :: 'u' :: hexDigits 4 n ++ s) =
      (takeString s).map fun p => (.unit n :: p.1, p.2) := by
  obtain ⟨a, b, c, d, hd⟩ : ∃ a b c d, hexDigits 4 n = [a, b, c, d] :=
    List.length_eq_four.mp (length_hexDigits (by decide) (by omega))
  have hx : hexNumber? [a, b, c, d] = some n := hd ▸ hexNumber?_hexDigits 4 n
  rw [hd]
  show takeString ('\\' :: 'u' :: a :: b :: c :: d :: s) = _
  rw [takeString, hx]
  cases takeString s <;> rfl

theorem takeString_plain {c : Char} (hq : c ≠ '"') (hb : c ≠ '\\') (hc : ¬ c.toNat < 0x20)
    (s : List Char) :
    takeString (c :: s) = (takeString s).map fun p => (.char c :: p.1, p.2) := by
  rw [takeString.eq_def]
  split
  · cases ‹_›
  · rename_i h
    exact absurd (List.cons.inj h).1 hq
  · rename_i h
    exact absurd (List.cons.inj h).1 hb
  · rename_i h
    exact absurd (List.cons.inj h).1 hb
  · rename_i h
    cases h
    exact if_neg (not_or.mpr ⟨hb, hc⟩)

theorem takeString_escape (c : Char) (s : List Char) : ∃ u : StringUnit, u.Spells c ∧
    takeString (escape c ++ s) = (takeString s).map fun p => (u :: p.1, p.2) := by
  obtain ⟨l, hl, he, hw⟩ | ⟨hc, hw⟩ | ⟨hq, hb, hc, hw⟩ := escape_cases c
  · exact ⟨.char c, spells_char c, hw ▸ takeString_letter hl he s⟩
  · exact ⟨.unit c.toNat, spells_unit hc, hw ▸ takeString_number hc s⟩
  · exact ⟨.char c, spells_char c, hw ▸ takeString_plain hq hb hc s⟩

/-- What was written of a string is read up to the quote behind it, as its characters. -/
theorem takeString_flatMap_escape (s t : List Char) :
    ∃ us, takeString (s.flatMap escape ++ '"' :: t) = some (us, t) ∧ joinUnits us = some s := by
  induction s with
  | nil => exact ⟨[], rfl, rfl⟩
  | cons c s ih =>
    obtain ⟨us, ht, hj⟩ := ih
    obtain ⟨u, hu, hw⟩ := takeString_escape c (s.flatMap escape ++ '"' :: t)
    refine ⟨u :: us, ?_, ?_⟩
    · rw [List.flatMap_cons, List.append_assoc, hw, ht]
      rfl
    · rw [hu, hj]
      rfl

end SqlCompose.Json
