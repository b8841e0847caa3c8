import SqlCompose.Proofs.Naming.Signs
import SqlCompose.Value.Literal

/-!
# Texts without dollar signs

Placeholders start with a dollar sign. Neither names nor numbers, dates, times and identifiers bring
one into a text, so the literal of a value has one only if the value is a text or JSON that has one
(`Value.dollarFree_literal`).
-/

namespace SqlCompose

namespace Text

/-- Has the text no dollar sign? -/
def DollarFree (s : String) : Prop := '$' ∉ s.toList

instance (s : String) : Decidable (DollarFree s) := inferInstanceAs (Decidable (¬ _))

@[simp] theorem dollarFree_append {s t : String} :
    DollarFree (s ++ t) ↔ DollarFree s ∧ DollarFree t := by
  unfold DollarFree
  rw [String.toList_append, List.mem_append, not_or]

@[simp] theorem dollarFree_ofList {s : List Char} : DollarFree (String.ofList s) ↔ '$' ∉ s := by
  unfold DollarFree
  rw [String.toList_ofList]

theorem DollarFree.intercalate {sep : String} {parts : List String} (hs : DollarFree sep)
    (hp : ∀ part ∈ parts, DollarFree part) : DollarFree (sep.intercalate parts) := by
  intro h
  rw [String.toList_intercalate] at h
  rcases mem_intercalate h with h | ⟨part, hm, h⟩
  · exact hs h
  · obtain ⟨s, hs, rfl⟩ := List.mem_map.mp hm
    exact hp s hs h

theorem DollarFree.quoteConstant {s : String} (h : DollarFree s) :
    DollarFree (quoteConstant s) := by
  unfold Text.quoteConstant
  rw [dollarFree_ofList]
  intro hm
  rcases mem_encode hm with hm | hm
  · exact absurd hm (by decide)
  · exact h hm

theorem DollarFree.bareName {s : String} (h : DollarFree s) (naming : Naming) :
    DollarFree (naming.bareName s) := by
  unfold Naming.bareName
  rw [dollarFree_ofList]
  exact fun hm => h (Convention.mem_of_mem_path (by decide) hm)

theorem DollarFree.quotedName {s : String} (h : DollarFree s) (naming : Naming) :
    DollarFree (naming.quotedName s) := by
  unfold Naming.quotedName
  rw [dollarFree_ofList]
  exact fun hm => h (Convention.mem_of_mem_path (by decide) hm)

end Text

open Text

/-! ## Numbers -/

theorem digitChar_ne_dollar : ∀ k < 16, Nat.digitChar k ≠ '$' := by decide

theorem mem_toDigitsCore {b fuel n : Nat} (hb : 0 < b) {c : Char} {ds : List Char}
    (h : c ∈ Nat.toDigitsCore b fuel n ds) : c ∈ ds ∨ ∃ k < b, c = Nat.digitChar k := by
  induction fuel generalizing n ds with
  | zero => exact .inl h
  | succ fuel ih =>
    unfold Nat.toDigitsCore at h
    dsimp only at h
    have hk : n % b < b := Nat.mod_lt n hb
    split at h
    · rcases List.mem_cons.mp h with h | h
      · exact .inr ⟨n % b, hk, h⟩
      · exact .inl h
    · rcases ih h with h | h
      · rcases List.mem_cons.mp h with h | h
        · exact .inr ⟨n % b, hk, h⟩
        · exact .inl h
      · exact .inr h

theorem dollar_not_mem_toDigits {b : Nat} (hb : 0 < b) (hl : b ≤ 16) (n : Nat) :
    '$' ∉ Nat.toDigits b n := by
  intro h
  rcases mem_toDigitsCore hb h with h | ⟨k, hk, h⟩
  · cases h
  · exact digitChar_ne_dollar k (by omega) h.symm

theorem dollar_not_mem_decimals (n : Nat) : '$' ∉ Nat.toDigits 10 n :=
  dollar_not_mem_toDigits (by decide) (by decide) n

theorem dollar_not_mem_zeros (n : Nat) : '$' ∉ List.replicate n '0' := by
  intro h
  exact absurd (List.eq_of_mem_replicate h) (by decide)

theorem dollarFree_decimalText (n : Int) : DollarFree (decimalText n) := by
  unfold decimalText
  rw [dollarFree_ofList]
  cases n with
  | ofNat n => exact dollar_not_mem_decimals n
  | negSucc n =>
    intro h
    rcases List.mem_cons.mp h with h | h
    · exact absurd h (by decide)
    · exact dollar_not_mem_decimals (n + 1) h

/-- A number has no more characters than digits, a point and zeros. -/
theorem DecimalDigits.dollar_not_mem_positional {d : DecimalDigits} (h : '$' ∉ d.digits) :
    '$' ∉ d.positional [] := by
  unfold positional
  dsimp only
  split
  · simp [h]
  split
  · simp [h]
  · intro hm
    rcases List.mem_append.mp hm with hm | hm
    · exact h (List.mem_of_mem_take hm)
    · rcases List.mem_cons.mp hm with hm | hm
      · exact absurd hm (by decide)
      · exact h (List.mem_of_mem_drop hm)

theorem BinaryFormat.dollar_not_mem_shortest (f : BinaryFormat) (tie : DecimalTie)
    (magnitude : Nat) : '$' ∉ (f.shortest tie magnitude).digits := by
  unfold shortest
  dsimp only
  split
  · decide
  · rename_i n k _
    intro h
    have hd := (List.dropWhile_sublist _).subset (List.mem_reverse.mp h)
    exact dollar_not_mem_decimals n (List.mem_reverse.mp hd)

theorem Binary64.dollarFree_positionalText (x : Binary64) : DollarFree x.positionalText := by
  have hs : '$' ∉ (if x.isNegative then ['-'] else []) := by split <;> decide
  have hp := DecimalDigits.dollar_not_mem_positional
    (BinaryFormat.double.dollar_not_mem_shortest .up x.magnitude)
  unfold positionalText
  dsimp only
  split
  · decide
  split
  · rw [dollarFree_ofList, List.mem_append, not_or]
    exact ⟨hs, by decide⟩
  split
  · rw [dollarFree_ofList, List.mem_append, not_or]
    exact ⟨hs, by decide⟩
  · rw [dollarFree_ofList, List.mem_append, not_or]
    exact ⟨hs, hp⟩

/-! ## Dates, times and identifiers -/

theorem Calendar.dollar_not_mem_padded (width n : Nat) : '$' ∉ padded width n := by
  intro h
  rcases List.mem_append.mp h with h | h
  · exact dollar_not_mem_zeros _ h
  · exact dollar_not_mem_decimals n h

theorem Date.dollar_not_mem_digits (d : Date) : '$' ∉ d.digits := by
  have hy : '$' ∉ Calendar.yearText d.year := by
    unfold Calendar.yearText
    split
    · simp [Calendar.dollar_not_mem_padded]
    split
    · simp [Calendar.dollar_not_mem_padded]
    · exact Calendar.dollar_not_mem_padded 4 _
  simp [digits, hy, Calendar.dollar_not_mem_padded]

theorem TimeOfDay.dollar_not_mem_digits (t : TimeOfDay) : '$' ∉ t.digits := by
  have hf (nano : Nat) : '$' ∉ fraction nano := by
    unfold fraction
    split
    · decide
    split
    · simp [Calendar.dollar_not_mem_padded]
    split
    · simp [Calendar.dollar_not_mem_padded]
    · simp [Calendar.dollar_not_mem_padded]
  simp [digits, hf, Calendar.dollar_not_mem_padded]

theorem Timestamp.dollarFree_text (t : Timestamp) : DollarFree t.text := by
  unfold text digits
  rw [dollarFree_ofList]
  simp [Date.dollar_not_mem_digits, TimeOfDay.dollar_not_mem_digits]

theorem Uuid.dollarFree_text (u : Uuid) : DollarFree u.text := by
  have hg (ns : List Nat) {s : List Char} (hs : '$' ∉ s) : '$' ∉ grouped ns s := by
    induction ns generalizing s with
    | nil => exact hs
    | cons n ns ih =>
      have ht : '$' ∉ s.take n := fun h => hs (List.mem_of_mem_take h)
      have hd : '$' ∉ s.drop n := fun h => hs (List.mem_of_mem_drop h)
      simp [grouped, ht, ih hd]
  unfold text
  rw [dollarFree_ofList]
  refine hg _ fun h => ?_
  rcases List.mem_append.mp h with h | h
  · exact dollar_not_mem_zeros _ h
  · exact dollar_not_mem_toDigits (by decide) (by decide) _ h

/-! ## Values -/

namespace Value

/-- Has the value no dollar sign? -/
def DollarFree : Value → Prop
  | text s => Text.DollarFree s
  | json j => Text.DollarFree j.text
  | _ => True

theorem dollarFree_literal {v : Value} (h : v.DollarFree) (naming : Naming) :
    Text.DollarFree (v.literal naming) := by
  cases v with
  | null => exact (by decide : Text.DollarFree "NULL")
  | bool b =>
    cases b with
    | true => exact (by decide : Text.DollarFree "TRUE")
    | false => exact (by decide : Text.DollarFree "FALSE")
  | int n => exact dollarFree_decimalText n.toInt
  | float x => exact x.dollarFree_positionalText
  | text s => exact Text.DollarFree.bareName h naming
  | timestamp t => exact t.dollarFree_text.quoteConstant
  | date d => exact (dollarFree_ofList.mpr d.dollar_not_mem_digits).quoteConstant
  | uuid u => exact u.dollarFree_text.quoteConstant
  | json j => exact Text.DollarFree.quoteConstant h

end Value

end SqlCompose
