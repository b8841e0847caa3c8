import SqlCompose.Text.Delimited

/-!
# Reading delimited text

A delimiter closes the text unless another one follows it. So what stands between delimiters is read
back in front of every rest that does not start with one (`body_double`), and nothing else is read
as it (`decode_eq_some_iff`).
-/

namespace SqlCompose.Text

namespace Delimited

variable {d c : Char} {s rest input : List Char}

theorem body_cons_of_ne (h : c ≠ d) (s : List Char) :
    body d (c :: s) = (body d s).map fun (text, rest) => (c :: text, rest) := by
  cases s with
  | nil => simp [body, h]
  | cons e s => simp [body, h]

theorem body_cons_cons_self (d : Char) (s : List Char) :
    body d (d :: d :: s) = (body d s).map fun (text, rest) => (d :: text, rest) := by
  simp [body]

/-- A delimiter ends the text where no other one follows. -/
theorem body_cons_self (h : rest.head? ≠ some d) : body d (d :: rest) = some ([], rest) := by
  cases rest with
  | nil => simp [body]
  | cons e s =>
    have he : e ≠ d := fun he => h (congrArg some he)
    simp [body, he]

/-- A text is read back from its written form. -/
theorem body_double (h : rest.head? ≠ some d) (s : List Char) :
    body d (double d s ++ d :: rest) = some (s, rest) := by
  induction s with
  | nil => exact body_cons_self h
  | cons c s ih =>
    unfold double
    split
    · rename_i hc
      rw [hc, List.cons_append, List.cons_append, body_cons_cons_self, ih]
      rfl
    · rename_i hc
      rw [List.cons_append, body_cons_of_ne hc, ih]
      rfl

theorem double_cons_self (d : Char) (s : List Char) :
    double d (d :: s) = d :: d :: double d s := if_pos rfl

theorem double_cons_of_ne (h : c ≠ d) (s : List Char) : double d (c :: s) = c :: double d s :=
  if_neg h

/-- A text without delimiters is written as it is. -/
theorem double_of_forall_ne (h : ∀ x ∈ s, x ≠ d) : double d s = s := by
  induction s with
  | nil => rfl
  | cons c s ih =>
    obtain ⟨hc, hs⟩ := List.forall_mem_cons.mp h
    rw [double_cons_of_ne hc, ih hs]

/-- What is read as a text is its written form, closed by a delimiter that stands alone. -/
theorem eq_of_body (h : body d input = some (s, rest)) :
    input = double d s ++ d :: rest ∧ rest.head? ≠ some d := by
  fun_induction body d input generalizing s with
  | case1 => cases h
  | case2 =>
    cases h
    exact ⟨rfl, nofun⟩
  | case3 => cases h
  | case4 input ih =>
    obtain ⟨⟨text, rest'⟩, hb, he⟩ := Option.map_eq_some_iff.mp h
    cases he
    obtain ⟨rfl, hr⟩ := ih hb
    rw [double_cons_self]
    exact ⟨rfl, hr⟩
  | case5 e input he =>
    cases h
    exact ⟨rfl, fun hd => he (Option.some.inj hd)⟩
  | case6 c e input hc ih =>
    obtain ⟨⟨text, rest'⟩, hb, he⟩ := Option.map_eq_some_iff.mp h
    cases he
    obtain ⟨hi, hr⟩ := ih hb
    rw [double_cons_of_ne hc, hi]
    exact ⟨rfl, hr⟩

/-- A reader finds the text `s` in front of `rest` just if it is written there, and `rest` does not
start with a delimiter. -/
theorem decode_eq_some_iff :
    decode d input = some (s, rest) ↔ input = encode d s ++ rest ∧ rest.head? ≠ some d := by
  constructor
  · intro h
    unfold decode at h
    split at h
    · cases h
    · rename_i c input
      split at h
      · rename_i hc
        obtain ⟨rfl, hr⟩ := eq_of_body h
        rw [hc]
        exact ⟨by simp [encode], hr⟩
      · cases h
  · rintro ⟨rfl, hr⟩
    have he : encode d s ++ rest = d :: (double d s ++ d :: rest) := by simp [encode]
    rw [he]
    exact (if_pos rfl).trans (body_double hr s)

end Delimited

theorem decode_quoteIdentifier_iff {name : String} {input rest : List Char} :
    Delimited.decode '"' input = some (name.toList, rest) ↔
      input = (quoteIdentifier name).toList ++ rest ∧ rest.head? ≠ some '"' := by
  rw [Delimited.decode_eq_some_iff, quoteIdentifier, String.toList_ofList]

theorem decode_quoteConstant_iff {text : String} {input rest : List Char} :
    Delimited.decode '\'' input = some (text.toList, rest) ↔
      input = (quoteConstant text).toList ++ rest ∧ rest.head? ≠ some '\'' := by
  rw [Delimited.decode_eq_some_iff, quoteConstant, String.toList_ofList]

end SqlCompose.Text
