import Mathlib.Data.Nat.Digits.Defs
import SqlCompose.Number.Hex

/-!
# Hexadecimal digits are read back

The digits of a number spell it (`hexNumber?_hexDigits`), with zeros in front or without. A byte has
two digits (`hexDigits_byte`), so the digits of bytes fall into pairs (`digitPairs_iff`). Read in
pairs they are the bytes, and no other small digits are read as these (`eq_hexOfBytes_iff`).
-/

namespace SqlCompose

theorem hexValue?_digitChar : ∀ d < 16, hexValue? d.digitChar = some d := by decide

theorem hexNumber?_append_one (s : List Char) (c : Char) :
    hexNumber? (s ++ [c]) = (hexNumber? s).bind fun n => (hexValue? c).map (16 * n + ·) := by
  unfold hexNumber?
  rw [List.foldlM_append]
  simp only [List.foldlM_cons, List.foldlM_nil, bind_pure]
  rfl

theorem hexNumber?_toDigits (n : Nat) : hexNumber? (Nat.toDigits 16 n) = some n := by
  induction n using Nat.strong_induction_on with
  | _ n ih =>
    rw [Nat.toDigits_eq_if (by decide)]
    split
    · rename_i hn
      simp [hexNumber?, hexValue?_digitChar n hn]
    · rename_i hn
      rw [hexNumber?_append_one, ih (n / 16) (by omega),
        hexValue?_digitChar (n % 16) (Nat.mod_lt n (by decide))]
      exact congrArg some (Nat.div_add_mod n 16)

theorem hexNumber?_replicate_append (k : Nat) (s : List Char) :
    hexNumber? (List.replicate k '0' ++ s) = hexNumber? s := by
  induction k with
  | zero => rfl
  | succ k ih => exact ih

theorem hexNumber?_hexDigits (width n : Nat) : hexNumber? (hexDigits width n) = some n := by
  unfold hexDigits
  dsimp only
  rw [hexNumber?_replicate_append, hexNumber?_toDigits]

theorem length_hexDigits {width n : Nat} (hw : 0 < width) (h : n < 16 ^ width) :
    (hexDigits width n).length = width := by
  have hl := (Nat.length_toDigits_le_iff (by decide : 1 < 16) hw).mpr h
  unfold hexDigits
  dsimp only
  rw [List.length_append, List.length_replicate]
  omega

theorem exists_digitChar_of_mem_toDigits {n : Nat} {c : Char} (h : c ∈ Nat.toDigits 16 n) :
    ∃ d < 16, c = d.digitChar := by
  induction n using Nat.strong_induction_on with
  | _ n ih =>
    rw [Nat.toDigits_eq_if (by decide)] at h
    split at h
    · rename_i hn
      exact ⟨n, hn, List.mem_singleton.mp h⟩
    · rename_i hn
      rcases List.mem_append.mp h with h | h
      · exact ih (n / 16) (by omega) h
      · exact ⟨n % 16, Nat.mod_lt n (by decide), List.mem_singleton.mp h⟩

/-- Written digits are ten digits and the first six small letters. -/
theorem exists_digitChar_of_mem_hexDigits {width n : Nat} {c : Char} (h : c ∈ hexDigits width n) :
    ∃ d < 16, c = d.digitChar := by
  rcases List.mem_append.mp h with h | h
  · exact ⟨0, by decide, List.eq_of_mem_replicate h⟩
  · exact exists_digitChar_of_mem_toDigits h

/-! ## Bytes -/

theorem highDigit_lt (b : UInt8) : b.toNat / 16 < 16 := Nat.div_lt_of_lt_mul b.toNat_lt

/-- A byte has two digits, the greater one first. -/
theorem hexDigits_byte (b : UInt8) :
    hexDigits 2 b.toNat = [(b.toNat / 16).digitChar, (b.toNat % 16).digitChar] := by
  unfold hexDigits
  dsimp only
  rw [Nat.toDigits_eq_if (by decide)]
  split
  · rename_i hn
    rw [Nat.div_eq_of_lt hn, Nat.mod_eq_of_lt hn]
    rfl
  · rw [Nat.toDigits_of_lt_base (highDigit_lt b)]
    rfl

theorem hexOfBytes_cons (b : UInt8) (bytes : List UInt8) :
    hexOfBytes (b :: bytes) =
      (b.toNat / 16).digitChar :: (b.toNat % 16).digitChar :: hexOfBytes bytes := by
  unfold hexOfBytes
  rw [List.flatMap_cons, hexDigits_byte]
  rfl

theorem length_hexOfBytes (bytes : List UInt8) : (hexOfBytes bytes).length = 2 * bytes.length := by
  induction bytes with
  | nil => rfl
  | cons b bytes ih =>
    rw [hexOfBytes_cons, List.length_cons, List.length_cons, List.length_cons, ih]
    omega

/-- The ten digits and the first six small letters, in the order of their values. -/
def smallHexDigits : List Char :=
  ['0', '1', '2', '3', '4', '5', '6', '7', '8', '9', 'a', 'b', 'c', 'd', 'e', 'f']

theorem smallHexDigits_eq : smallHexDigits = (List.range 16).map Nat.digitChar := by decide

theorem getElem?_smallHexDigits {d : Nat} (h : d < 16) :
    smallHexDigits[d]? = some d.digitChar := by
  rw [smallHexDigits_eq, List.getElem?_map, List.getElem?_range h]
  rfl

theorem mem_smallHexDigits_iff {c : Char} : c ∈ smallHexDigits ↔ ∃ d < 16, d.digitChar = c := by
  simp [smallHexDigits_eq]

/-- Are the digits those of the bytes? Each byte has two of them, both small: the one that counts
sixteens and behind it the one that counts ones. -/
inductive DigitPairs : List Char → List UInt8 → Prop where
  | nil : DigitPairs [] []
  | cons {b : UInt8} {high low : Char} {digits : List Char} {bytes : List UInt8}
      (hh : smallHexDigits[b.toNat / 16]? = some high)
      (hl : smallHexDigits[b.toNat % 16]? = some low) (h : DigitPairs digits bytes) :
      DigitPairs (high :: low :: digits) (b :: bytes)

theorem digitPairs_iff {digits : List Char} {bytes : List UInt8} :
    DigitPairs digits bytes ↔ digits = hexOfBytes bytes := by
  have hlow (b : UInt8) : b.toNat % 16 < 16 := Nat.mod_lt _ (by decide)
  constructor
  · intro h
    induction h with
    | nil => rfl
    | @cons b high low digits bytes hh hl h ih =>
      rw [getElem?_smallHexDigits (highDigit_lt b)] at hh
      rw [getElem?_smallHexDigits (hlow b)] at hl
      rw [hexOfBytes_cons, Option.some.inj hh, Option.some.inj hl, ih]
  · rintro rfl
    induction bytes with
    | nil => exact .nil
    | cons b bytes ih =>
      rw [hexOfBytes_cons]
      exact .cons (getElem?_smallHexDigits (highDigit_lt b)) (getElem?_smallHexDigits (hlow b)) ih

/-! ## Reading in pairs -/

theorem hexNumber?_pair {h l : Nat} (hh : h < 16) (hl : l < 16) :
    hexNumber? [h.digitChar, l.digitChar] = some (16 * h + l) := by
  have hs : hexNumber? [h.digitChar] = some h := by
    rw [← Nat.toDigits_of_lt_base hh, hexNumber?_toDigits]
  rw [← List.singleton_append, hexNumber?_append_one, hs, hexValue?_digitChar l hl]
  rfl

theorem bytesOfHex?_cons_cons {h l : Nat} (hh : h < 16) (hl : l < 16) (s : List Char) :
    bytesOfHex? (h.digitChar :: l.digitChar :: s) =
      (bytesOfHex? s).map (UInt8.ofNat (16 * h + l) :: ·) := by
  rw [bytesOfHex?, hexNumber?_pair hh hl]
  cases bytesOfHex? s <;> rfl

theorem bytesOfHex?_hexOfBytes (bytes : List UInt8) :
    bytesOfHex? (hexOfBytes bytes) = some bytes := by
  induction bytes with
  | nil => rfl
  | cons b bytes ih =>
    rw [hexOfBytes_cons, bytesOfHex?_cons_cons (highDigit_lt b) (Nat.mod_lt _ (by decide)), ih,
      Nat.div_add_mod, UInt8.ofNat_toNat]
    rfl

theorem mem_small_of_mem_hexOfBytes {bytes : List UInt8} {c : Char} (h : c ∈ hexOfBytes bytes) :
    c ∈ smallHexDigits := by
  obtain ⟨b, -, hc⟩ := List.mem_flatMap.mp h
  obtain ⟨d, hd, rfl⟩ := exists_digitChar_of_mem_hexDigits hc
  exact mem_smallHexDigits_iff.mpr ⟨d, hd, rfl⟩

/-- Small digits that are read as bytes are the digits of these bytes. -/
theorem eq_hexOfBytes_of_small {s : List Char} {bytes : List UInt8}
    (hs : ∀ c ∈ s, c ∈ smallHexDigits) (h : bytesOfHex? s = some bytes) : s = hexOfBytes bytes := by
  fun_induction bytesOfHex? s generalizing bytes with
  | case1 =>
    obtain rfl := Option.some.inj h
    rfl
  | case2 => cases h
  | case3 a b s ih =>
    obtain ⟨ha, hbs⟩ := List.forall_mem_cons.mp hs
    obtain ⟨hb, hsmall⟩ := List.forall_mem_cons.mp hbs
    obtain ⟨i, hi, rfl⟩ := mem_smallHexDigits_iff.mp ha
    obtain ⟨j, hj, rfl⟩ := mem_smallHexDigits_iff.mp hb
    have hm : (bytesOfHex? s).map (UInt8.ofNat (16 * i + j) :: ·) = some bytes :=
      (bytesOfHex?_cons_cons hi hj s).symm.trans h
    obtain ⟨rest, hr, rfl⟩ := Option.map_eq_some_iff.mp hm
    -- What two digits spell is always a byte, so they are found again in it.
    have hn : (UInt8.ofNat (16 * i + j)).toNat = 16 * i + j := by
      rw [UInt8.toNat_ofNat']
      omega
    have hd : (16 * i + j) / 16 = i := by omega
    have hl : (16 * i + j) % 16 = j := by omega
    rw [hexOfBytes_cons, hn, hd, hl, ← ih hsmall hr]

/-- Of the small digits, those of the bytes alone are read as the bytes. -/
theorem eq_hexOfBytes_iff {s : List Char} {bytes : List UInt8} :
    s = hexOfBytes bytes ↔ (∀ c ∈ s, c ∈ smallHexDigits) ∧ bytesOfHex? s = some bytes := by
  constructor
  · rintro rfl
    exact ⟨fun c hc => mem_small_of_mem_hexOfBytes hc, bytesOfHex?_hexOfBytes bytes⟩
  · rintro ⟨hs, h⟩
    exact eq_hexOfBytes_of_small hs h

end SqlCompose
