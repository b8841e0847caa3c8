import Mathlib.Data.List.Induction
import Mathlib.Tactic.Ring
import SqlCompose.Wire.Decode

/-!
# Integers and texts from their bytes

Bytes are read back as what was written: integers that fit (`toInt_ofInt`, `toNat_ofInt`) and texts
(`toText?_ofText`). A text has at least as many bytes as characters (`length_le_length_ofText`).
-/

namespace SqlCompose.Wire

theorem toNat_lt (bytes : Bytes) : toNat bytes < Nat.pow 256 bytes.length := by
  induction bytes using List.reverseRecOn with
  | nil => exact Nat.zero_lt_one
  | append_singleton bytes b ih =>
    have hb := b.toNat_lt
    rw [toNat_append_one, List.length_append, List.length_singleton]
    show _ < 256 ^ (bytes.length + 1)
    change _ < 256 ^ bytes.length at ih
    rw [pow_succ]
    omega

/-- The first byte counts for the most. -/
theorem le_toNat_cons (b : UInt8) (bytes : Bytes) :
    b.toNat * Nat.pow 256 bytes.length ≤ toNat (b :: bytes) := by
  induction bytes using List.reverseRecOn with
  | nil => simp [toNat]
  | append_singleton bytes d ih =>
    rw [← List.cons_append, toNat_append_one, List.length_append, List.length_singleton]
    show _ * 256 ^ (bytes.length + 1) ≤ _
    change _ * 256 ^ bytes.length ≤ _ at ih
    rw [pow_succ, ← Nat.mul_assoc]
    omega

/-- Half of the integers of a number of bytes are negative. -/
theorem toInt_bounds {count : Nat} (hc : count ≠ 0) {bytes : Bytes} (h : bytes.length = count) :
    -(Nat.pow 256 count : Int) ≤ 2 * toInt bytes ∧ 2 * toInt bytes < Nat.pow 256 count := by
  subst h
  obtain ⟨k, hk⟩ : ∃ k : Nat, Nat.pow 256 bytes.length = 2 * k := by
    obtain ⟨n, hn⟩ := Nat.exists_eq_succ_of_ne_zero hc
    refine ⟨128 * 256 ^ n, ?_⟩
    show 256 ^ bytes.length = _
    rw [hn, Nat.succ_eq_add_one, pow_succ]
    ring
  have hp : 0 < Nat.pow 256 bytes.length := Nat.pow_pos (by decide)
  have hl := Int.le_bmod (x := toNat bytes) hp
  have hu := Int.bmod_lt (x := toNat bytes) hp
  unfold toInt
  omega

theorem toNat_ofInt {count : Nat} {n : Int} (h : 0 ≤ n) (h' : n < Nat.pow 256 count) :
    (toNat (ofInt count n) : Int) = n := by
  have hm : n % (Nat.pow 256 count : Nat) = n := Int.emod_eq_of_lt h h'
  unfold ofInt
  rw [toNat_ofNat, hm, Nat.mod_eq_of_lt (by omega), Int.toNat_of_nonneg h]

theorem toInt_ofInt {count : Nat} {n : Int} (h : -(Nat.pow 256 count : Int) ≤ 2 * n)
    (h' : 2 * n < Nat.pow 256 count) : toInt (ofInt count n) = n := by
  have hp : (0 : Int) < Nat.pow 256 count := by
    have : 0 < Nat.pow 256 count := Nat.pow_pos (by decide)
    omega
  have hn := Int.emod_nonneg n hp.ne'
  have hl := Int.emod_lt_of_pos n hp
  unfold toInt ofInt
  rw [toNat_ofNat, length_ofNat, Nat.mod_eq_of_lt (by omega), Int.toNat_of_nonneg hn,
    Int.emod_bmod]
  exact Int.bmod_eq_of_le (by omega) (by omega)

theorem toText?_ofText (s : String) : toText? (ofText s) = some s := by
  unfold toText? ofText
  rw [Array.toArray_toList]
  exact dif_pos s.isValidUTF8

theorem ofText_ofList (s : List Char) :
    ofText (String.ofList s) = s.flatMap String.utf8EncodeChar := by
  unfold ofText
  rw [String.toByteArray_ofList, List.utf8Encode, List.data_toByteArray]

/-- A text has no fewer bytes than characters. -/
theorem length_le_length_ofText (s : String) : s.toList.length ≤ (ofText s).length := by
  rw [← String.ofList_toList (s := s), ofText_ofList, String.toList_ofList]
  induction s.toList with
  | nil => exact Nat.le_refl 0
  | cons c s ih =>
    have hc := c.utf8Size_pos
    rw [List.flatMap_cons, List.length_append, String.length_utf8EncodeChar, List.length_cons]
    omega

/-- A text that starts with a character of ASCII starts with its byte. -/
theorem exists_ofText_eq_cons {s : String} {c : Char} {cs : List Char} (hs : s.toList = c :: cs)
    (hc : c.toNat < 0x80) : ∃ b bytes, ofText s = b :: bytes ∧ b.toNat = c.toNat := by
  have h1 : c.utf8Size = 1 := Char.utf8Size_eq_one_iff.mpr (Nat.le_of_lt_succ hc)
  rw [← String.ofList_toList (s := s), hs, ofText_ofList, List.flatMap_cons,
    String.utf8EncodeChar_eq_singleton h1]
  refine ⟨_, _, rfl, ?_⟩
  show c.toNat % 256 = c.toNat
  omega

theorem exactly?_eq_some_iff {count : Nat} {bytes b : Bytes} :
    exactly? count bytes = some b ↔ b = bytes ∧ bytes.length = count := by
  unfold exactly?
  split <;> simp_all [eq_comm]

end SqlCompose.Wire
