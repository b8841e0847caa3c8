import SqlCompose.Json.Token
import SqlCompose.Json.Numeral
import SqlCompose.Proofs.Number.Shortest

/-!
# JSON numbers are numerals

Each number is written as the spelling of a numeral (`exists_spelling_eq_numberText`), and a spelling
is read as its numeral where nothing follows that a numeral could go on with (`take_spelling`). The
numeral of an integer spells that integer; that of a floating point number need not spell it, since
the value of a numeral is rounded in several steps.
-/

namespace SqlCompose.Json

/-- Does the text go on with nothing that a numeral could go on with? -/
def EndsNumeral (s : List Char) : Prop :=
  ∀ c ∈ s.head?, c.isDigit = false ∧ c ≠ '.' ∧ c ≠ 'e' ∧ c ≠ 'E'

theorem endsNumeral_nil : EndsNumeral [] := by
  intro c hc
  cases hc

theorem takeDigits_append {ds s : List Char} (hd : ∀ c ∈ ds, c.isDigit = true)
    (hs : ∀ c ∈ s.head?, c.isDigit = false) : takeDigits (ds ++ s) = (ds, s) := by
  unfold takeDigits
  rw [List.takeWhile_append_of_pos hd, List.dropWhile_append_of_pos hd]
  cases s with
  | nil => simp
  | cons c s => simp [hs c rfl]

namespace Numeral

/-- The fraction of a numeral behind its point. -/
def fractionSpelling (n : Numeral) : List Char :=
  if n.fraction = [] then [] else '.' :: n.fraction

/-- The exponent of a numeral behind its letter, with its sign. -/
def exponentSpelling (n : Numeral) : List Char :=
  if n.exponent = [] then [] else 'e' :: (if n.exponentNegative then '-' else '+') :: n.exponent

/-- A numeral as it is spelled behind its sign. -/
def unsignedSpelling (n : Numeral) : List Char :=
  n.whole ++ (n.fractionSpelling ++ n.exponentSpelling)

/-- A numeral as it is spelled. -/
def spelling (n : Numeral) : List Char :=
  (if n.negative then ['-'] else []) ++ n.unsignedSpelling

/-- Decimal digits, with no needless zero in front. An exponent that is missing has no sign. -/
structure Proper (n : Numeral) : Prop where
  whole : ∀ c ∈ n.whole, c.isDigit = true
  whole_ne_nil : n.whole ≠ []
  leads : n.whole.head? = some '0' → n.whole = ['0']
  fraction : ∀ c ∈ n.fraction, c.isDigit = true
  exponent : ∀ c ∈ n.exponent, c.isDigit = true
  unsigned : n.exponent = [] → n.exponentNegative = false

variable {n : Numeral} (h : n.Proper) {s : List Char}
include h

theorem takeWhole_append (hs : ∀ c ∈ s.head?, c.isDigit = false) :
    takeWhole (n.whole ++ s) = some (n.whole, s) := by
  unfold takeWhole
  rw [takeDigits_append h.whole hs]
  split
  · rename_i hn
    exact absurd (congrArg Prod.fst hn) h.whole_ne_nil
  · rename_i hz
    have hw : n.whole = _ := congrArg Prod.fst hz
    have hl := h.leads (by rw [hw]; rfl)
    rw [hl] at hw
    cases hw
  · rename_i heq
    cases heq
    rfl

theorem takeFraction_append (hs : ∀ c ∈ s.head?, c.isDigit = false ∧ c ≠ '.') :
    takeFraction (n.fractionSpelling ++ s) = some (n.fraction, s) := by
  unfold fractionSpelling
  split
  · rename_i hn
    rw [hn, List.nil_append, takeFraction.eq_2]
    rintro t rfl
    exact (hs '.' rfl).2 rfl
  · rename_i hn
    rw [List.cons_append, takeFraction.eq_1, takeDigits_append h.fraction fun c hc => (hs c hc).1]
    split
    · rename_i he
      exact absurd (congrArg Prod.fst he) hn
    · rename_i he
      cases he
      rfl

theorem takeExponent_append (hs : EndsNumeral s) :
    takeExponent (n.exponentSpelling ++ s) = some (n.exponentNegative, n.exponent, s) := by
  unfold exponentSpelling
  split
  · rename_i hn
    rw [hn, h.unsigned hn]
    cases s with
    | nil => rfl
    | cons c s =>
      obtain ⟨-, -, he, hE⟩ := hs c rfl
      exact if_neg (not_or.mpr ⟨he, hE⟩)
  · rename_i hn
    have ht : takeSign ((if n.exponentNegative then '-' else '+') :: n.exponent ++ s) =
        (n.exponentNegative, n.exponent ++ s) := by
      cases n.exponentNegative <;> rfl
    rw [List.cons_append, takeExponent, if_pos (.inl rfl), ht]
    dsimp only
    rw [takeDigits_append h.exponent fun c hc => (hs c hc).1]
    split
    · rename_i he
      exact absurd (congrArg Prod.fst he) hn
    · rename_i he
      cases he
      rfl

omit h in
/-- In front of an exponent, or of what ends a numeral, no fraction goes on. -/
theorem head?_exponentSpelling (hs : EndsNumeral s) :
    ∀ c ∈ (n.exponentSpelling ++ s).head?, c.isDigit = false ∧ c ≠ '.' := by
  unfold exponentSpelling
  split
  · exact fun c hc => ⟨(hs c hc).1, (hs c hc).2.1⟩
  · rintro c ⟨⟩
    decide

omit h in
theorem head?_fractionSpelling (hs : ∀ c ∈ s.head?, c.isDigit = false ∧ c ≠ '.') :
    ∀ c ∈ (n.fractionSpelling ++ s).head?, c.isDigit = false := by
  unfold fractionSpelling
  split
  · exact fun c hc => (hs c hc).1
  · rintro c ⟨⟩
    decide

theorem takeUnsigned_append (hs : EndsNumeral s) :
    takeUnsigned n.negative (n.unsignedSpelling ++ s) = some (n, s) := by
  have he := n.head?_exponentSpelling hs
  unfold takeUnsigned unsignedSpelling
  simp only [List.append_assoc, takeWhole_append h (head?_fractionSpelling he), takeFraction_append h he,
    takeExponent_append h hs, Option.bind_eq_bind, Option.bind_some]
  rfl

/-- A numeral is read up to a text that does not go on with it. -/
theorem take_spelling (hs : EndsNumeral s) : take (n.spelling ++ s) = some (n, s) := by
  have hu := takeUnsigned_append h hs
  unfold spelling
  cases hn : n.negative with
  | true =>
    rw [hn] at hu
    exact hu
  | false =>
    rw [hn] at hu
    rw [if_neg Bool.false_ne_true, List.nil_append, take.eq_2, hu]
    intro t ht
    unfold unsignedSpelling at ht
    cases hw : n.whole with
    | nil => exact h.whole_ne_nil hw
    | cons c ds =>
      rw [hw] at ht
      have hc := h.whole c (hw ▸ List.mem_cons_self)
      rw [(List.cons.inj ht).1] at hc
      exact absurd hc (by decide)

end Numeral

/-! ## Integers -/

namespace Numeral

/-- The numeral of an integer. -/
def ofInteger (n : Int) : Numeral where
  negative := decide (n < 0)
  whole := Nat.toDigits 10 n.natAbs
  fraction := []
  exponentNegative := false
  exponent := []

theorem proper_ofInteger (n : Int) : (ofInteger n).Proper where
  whole _ hc := Nat.isDigit_of_mem_toDigits (by decide) (by decide) hc
  whole_ne_nil := Nat.toDigits_ne_nil
  leads hz := by
    change (Nat.toDigits 10 n.natAbs).head? = some '0' at hz
    have hn : n.natAbs = 0 := Decidable.byContradiction fun hn => head?_toDigits hn hz
    show Nat.toDigits 10 n.natAbs = _
    rw [hn]
    rfl
  fraction _ hc := absurd hc List.not_mem_nil
  exponent _ hc := absurd hc List.not_mem_nil
  unsigned _ := rfl

theorem spelling_ofInteger (n : Int) : (ofInteger n).spelling = decimalDigits n := by
  cases n with
  | ofNat n => exact List.append_nil _
  | negSucc n =>
    have hn : decide (Int.negSucc n < 0) = true := decide_eq_true (Int.negSucc_lt_zero n)
    unfold spelling ofInteger
    rw [hn]
    exact congrArg ('-' :: ·) (List.append_nil _)

theorem value?_ofInteger (n : Int) (h : -0x8000000000000000 ≤ n ∧ n < 0x10000000000000000) :
    (ofInteger n).value? = some (.integer n h) := by
  have hi : (ofInteger n).integer? = some (.integer n h) := by
    unfold integer? ofInteger JsonNumber.ofInt?
    simp only [Nat.ofDigitChars_ten_toDigits]
    rw [if_neg (by simp)]
    by_cases hn : n < 0
    · have ha : -(n.natAbs : Int) = n := by omega
      simp only [hn, decide_true, if_true, ha]
      rw [if_neg (by omega), dif_pos h]
    · have ha : (n.natAbs : Int) = n := by omega
      simp only [hn, decide_false, Bool.false_eq_true, if_false, ha]
      rw [dif_pos h]
  unfold value?
  rw [hi]

end Numeral

/-! ## Floating point numbers -/

section Digits

variable (whole fraction : List Char) (hw : ∀ c ∈ whole, c.isDigit = true) (hn : whole ≠ [])
  (hl : whole.head? = some '0' → whole = ['0']) (hf : ∀ c ∈ fraction, c.isDigit = true)
include hw hn hl hf

/-- Digits around a point are a numeral. -/
theorem exists_unsigned_decimal (hne : fraction ≠ []) :
    ∃ n : Numeral, n.Proper ∧ n.unsignedSpelling = whole ++ '.' :: fraction := by
  refine ⟨⟨false, whole, fraction, false, []⟩, ⟨hw, hn, hl, hf, by simp, fun _ => rfl⟩, ?_⟩
  simp [Numeral.unsignedSpelling, Numeral.fractionSpelling, Numeral.exponentSpelling, hne]

/-- Digits with an exponent are a numeral. -/
theorem exists_unsigned_scientific (exponent : Int) :
    ∃ n : Numeral, n.Proper ∧ n.unsignedSpelling =
      whole ++ (if fraction = [] then [] else '.' :: fraction) ++
        'e' :: (if exponent < 0 then '-' else '+') :: Nat.toDigits 10 exponent.natAbs := by
  refine ⟨⟨false, whole, fraction, decide (exponent < 0), Nat.toDigits 10 exponent.natAbs⟩,
    ⟨hw, hn, hl, hf, fun c hc => Nat.isDigit_of_mem_toDigits (by decide) (by decide) hc,
      fun he => absurd he Nat.toDigits_ne_nil⟩, ?_⟩
  simp [Numeral.unsignedSpelling, Numeral.fractionSpelling, Numeral.exponentSpelling]

end Digits

theorem isDigit_of_mem_zeros {k : Nat} : ∀ c ∈ List.replicate k '0', c.isDigit = true := by
  intro c hc
  rw [List.eq_of_mem_replicate hc]
  rfl

/-- Digits are written as a numeral: with zeros where digits are missing in front of the point or
behind it, with the point among them, or with an exponent behind them. -/
theorem exists_unsigned_eq_digitsText {d : DecimalDigits} (h : d.Proper) :
    ∃ n : Numeral, n.Proper ∧ n.unsignedSpelling = digitsText d := by
  obtain ⟨hne, hd, hl⟩ := h
  have hzero : ∀ c ∈ ['0'], c.isDigit = true := List.forall_mem_singleton.mpr rfl
  have hlead (hp : 0 < d.point) (rest : List Char) :
      (d.digits ++ rest).head? ≠ some '0' := by
    rw [List.head?_append_of_ne_nil _ hne]
    exact hl hp
  unfold digitsText
  split
  · unfold DecimalDigits.positional
    dsimp only
    split
    · refine exists_unsigned_decimal ['0'] _ hzero (List.cons_ne_nil _ _) (fun _ => rfl) ?_ ?_
      · exact List.forall_mem_append.mpr ⟨isDigit_of_mem_zeros, hd⟩
      · simp [hne]
    split
    · refine exists_unsigned_decimal _ ['0'] ?_ ?_ ?_ hzero (List.cons_ne_nil _ _)
      · exact List.forall_mem_append.mpr ⟨hd, isDigit_of_mem_zeros⟩
      · simp [hne]
      · exact fun hz => absurd hz (hlead (by omega) _)
    · have hp : d.point.toNat ≠ 0 := by omega
      have ht : d.digits.take d.point.toNat ≠ [] := by simp [hne, hp]
      refine exists_unsigned_decimal _ _ ?_ ht ?_ ?_ ?_
      · exact fun c hc => hd c (List.mem_of_mem_take hc)
      · rw [← List.take_append_drop d.point.toNat d.digits, List.head?_append_of_ne_nil _ ht] at hl
        exact fun hz => absurd hz (hl (by omega))
      · exact fun c hc => hd c (List.mem_of_mem_drop hc)
      · rw [ne_eq, List.drop_eq_nil_iff]
        omega
  · obtain ⟨c, cs, hc⟩ := List.exists_cons_of_ne_nil hne
    rw [hc] at hd ⊢
    obtain ⟨n, hn, hs⟩ := exists_unsigned_scientific [c] cs
      (by simp [hd]) (by simp) (by simp) (fun x hx => hd x (List.mem_cons_of_mem c hx))
      (d.point - 1)
    refine ⟨n, hn, hs.trans ?_⟩
    cases cs <;> rfl

/-- A number is written as a numeral. -/
theorem exists_spelling_eq_numberText (x : JsonNumber) :
    ∃ n : Numeral, n.Proper ∧ n.spelling = numberText x := by
  cases x with
  | integer n h => exact ⟨.ofInteger n, Numeral.proper_ofInteger n, Numeral.spelling_ofInteger n⟩
  | float x h =>
    have hsign {s : List Char} (hs : ∃ n : Numeral, n.Proper ∧ n.unsignedSpelling = s) :
        ∃ n : Numeral, n.Proper ∧ n.spelling = (if x.isNegative then ['-'] else []) ++ s := by
      obtain ⟨n, hn, rfl⟩ := hs
      exact ⟨{ n with negative := x.isNegative }, { hn with }, rfl⟩
    unfold numberText
    dsimp only
    split
    · have hzero : ∀ c ∈ ['0'], c.isDigit = true := List.forall_mem_singleton.mpr rfl
      exact hsign (exists_unsigned_decimal ['0'] ['0'] hzero (List.cons_ne_nil _ _) (fun _ => rfl)
        hzero (List.cons_ne_nil _ _))
    · rename_i h0
      exact hsign (exists_unsigned_eq_digitsText (BinaryFormat.proper_shortest _ _ h0))

/-! ## Reading numbers again -/

/-- The number that the text of a number spells, unless that is too great. -/
def reread? (x : JsonNumber) : Option JsonNumber :=
  (Numeral.take (numberText x)).bind fun p => p.1.value?

/-- The text of a number is read as a numeral that spells `reread?`. -/
theorem exists_take_numberText (x : JsonNumber) {s : List Char} (hs : EndsNumeral s) :
    ∃ n : Numeral, Numeral.take (numberText x ++ s) = some (n, s) ∧ n.value? = reread? x := by
  obtain ⟨n, hn, hx⟩ := exists_spelling_eq_numberText x
  have h0 : Numeral.take (numberText x) = some (n, []) := by
    rw [← hx, ← List.append_nil n.spelling]
    exact Numeral.take_spelling hn endsNumeral_nil
  refine ⟨n, hx ▸ Numeral.take_spelling hn hs, ?_⟩
  unfold reread?
  rw [h0, Option.bind_some]

/-- Integers are read again as they are. -/
theorem reread?_integer {n : Int} (h : -0x8000000000000000 ≤ n ∧ n < 0x10000000000000000) :
    reread? (.integer n h) = some (.integer n h) := by
  have ht : Numeral.take (numberText (.integer n h)) = some (.ofInteger n, []) := by
    show Numeral.take (decimalDigits n) = _
    rw [← Numeral.spelling_ofInteger, ← List.append_nil (Numeral.ofInteger n).spelling]
    exact Numeral.take_spelling (Numeral.proper_ofInteger n) endsNumeral_nil
  unfold reread?
  rw [ht, Option.bind_some, Numeral.value?_ofInteger n h]

/-- May a number start with the character? -/
def StartsNumber (c : Char) : Prop := c.isDigit = true ∨ c = '-'

instance (c : Char) : Decidable (StartsNumber c) := inferInstanceAs (Decidable (_ ∨ _))

theorem StartsNumber.ne {c d : Char} (hc : StartsNumber c) (hd : ¬ StartsNumber d) : c ≠ d :=
  fun h => hd (h ▸ hc)

/-- A number starts with a digit or with its sign. -/
theorem exists_numberText_eq_cons (x : JsonNumber) :
    ∃ c s, numberText x = c :: s ∧ StartsNumber c := by
  obtain ⟨n, hn, hx⟩ := exists_spelling_eq_numberText x
  obtain ⟨c, s, hc⟩ := List.exists_cons_of_ne_nil hn.whole_ne_nil
  unfold Numeral.spelling Numeral.unsignedSpelling at hx
  rw [hc] at hx
  cases hs : n.negative with
  | true => exact ⟨'-', _, (hs ▸ hx).symm, .inr rfl⟩
  | false => exact ⟨c, _, (hs ▸ hx).symm, .inl (hn.whole c (hc ▸ List.mem_cons_self))⟩

end SqlCompose.Json
