import SqlCompose.Proofs.Sql.DollarFree
import SqlCompose.Sql

/-!
# Placeholders in texts

The placeholders of a text are found by reading it from left to right. SQL is numbered if the
placeholders in its text are those of its bound values, one after the other. Text without dollar
signs keeps SQL numbered, and so does a separator without a digit ahead, which ends the number of a
placeholder in front of it (`Sql.Numbered.behind`).
-/

namespace SqlCompose

/-- The numbers of the placeholders in a text, from left to right: those behind dollar signs. -/
def placeholders : List Char → List Nat
  | [] => []
  | c :: s =>
    if c = '$' ∧ s.takeWhile Char.isDigit ≠ [] then
      Nat.ofDigitChars 10 (s.takeWhile Char.isDigit) 0 :: placeholders s
    else placeholders s

/-- Does the text not go on with a digit? -/
def NoDigitAhead (s : List Char) : Prop := s.takeWhile Char.isDigit = []

theorem noDigitAhead_cons {c : Char} (h : c.isDigit = false) (s : List Char) :
    NoDigitAhead (c :: s) := by
  unfold NoDigitAhead
  rw [List.takeWhile_cons, h]
  rfl

theorem placeholders_append_of_not_mem {s : List Char} (h : '$' ∉ s) (t : List Char) :
    placeholders (s ++ t) = placeholders t := by
  induction s with
  | nil => rfl
  | cons c s ih =>
    have hc : c ≠ '$' := fun hc => h (hc ▸ List.mem_cons_self)
    have hs : '$' ∉ s := fun hs => h (List.mem_cons_of_mem c hs)
    show (if c = '$' ∧ _ then _ else placeholders (s ++ t)) = _
    rw [if_neg fun hn => hc hn.1, ih hs]

theorem Params.toList_mark (n : Nat) : (mark n).toList = '$' :: Nat.toDigits 10 n := by
  unfold mark decimalText
  rw [String.toList_append]
  exact congrArg ('$' :: ·) String.toList_ofList

/-- At a placeholder a number is read that goes on with the digits ahead. -/
theorem placeholders_mark_append (n : Nat) (t : List Char) :
    placeholders ((Params.mark n).toList ++ t) =
      Nat.ofDigitChars 10 (t.takeWhile Char.isDigit) n :: placeholders t := by
  have hd : (Nat.toDigits 10 n ++ t).takeWhile Char.isDigit =
      Nat.toDigits 10 n ++ t.takeWhile Char.isDigit :=
    List.takeWhile_append_of_pos fun c hc =>
      Nat.isDigit_of_mem_toDigits (by decide) (by decide) hc
  have hn : Nat.toDigits 10 n ++ t.takeWhile Char.isDigit ≠ [] :=
    List.append_ne_nil_of_left_ne_nil Nat.toDigits_ne_nil _
  rw [Params.toList_mark, List.cons_append, placeholders, hd, if_pos ⟨rfl, hn⟩,
    Nat.ofDigitChars_append, Nat.ofDigitChars_ten_toDigits,
    placeholders_append_of_not_mem (dollar_not_mem_decimals n)]

/-- A placeholder is read as its number where no digit follows. -/
theorem placeholders_mark (n : Nat) {t : List Char} (ht : NoDigitAhead t) :
    placeholders ((Params.mark n).toList ++ t) = n :: placeholders t := by
  rw [placeholders_mark_append, ht]
  rfl

/-! ## Numbered SQL -/

open Text

/-- Is the text a separator, without dollar signs and with a character ahead that is no digit? -/
def IsSeparator (sep : String) : Prop :=
  DollarFree sep ∧ (sep.toList.head?.any fun c => !c.isDigit) = true

instance (sep : String) : Decidable (IsSeparator sep) := inferInstanceAs (Decidable (_ ∧ _))

theorem IsSeparator.noDigitAhead {sep : String} (h : IsSeparator sep) (t : List Char) :
    NoDigitAhead (sep.toList ++ t) := by
  have hh := h.2
  cases hs : sep.toList with
  | nil =>
    rw [hs] at hh
    cases hh
  | cons c s =>
    rw [hs] at hh
    exact noDigitAhead_cons (by simpa using hh) (s ++ t)

theorem Params.size_append (p : Params) (vs : List Value) :
    (p.append vs).size = p.size + vs.length := List.length_append

namespace Sql

theorem render_append (p : Params) (s t : Sql) :
    (render p (s ++ t)).1 = (render p s).1 ++ (render (p.append s.values) t).1 := by
  rw [← render_snd]
  induction s generalizing p with
  | nil => exact String.empty_append.symm
  | cons x s ih =>
    cases x with
    | text u =>
      show u ++ (render p (s ++ t)).1 = u ++ (render p s).1 ++ (render (render p s).2 t).1
      rw [ih, String.append_assoc]
    | bound v =>
      show Params.mark (p.size + 1) ++ (render (p.push v).2 (s ++ t)).1 =
        Params.mark (p.size + 1) ++ (render (p.push v).2 s).1 ++
          (render (render (p.push v).2 s).2 t).1
      rw [ih, String.append_assoc]

/-- Behind any parameters, and in front of any text without a digit ahead, the placeholders are
numbered through. -/
def Numbered (s : Sql) : Prop :=
  ∀ (p : Params) (t : List Char), NoDigitAhead t →
    placeholders ((render p s).1.toList ++ t) =
      List.range' (p.size + 1) s.values.length ++ placeholders t

theorem numbered_nil : Numbered [] := fun _ _ _ => rfl

theorem numbered_bind (v : Value) : Numbered (bind v) := by
  intro p t ht
  have hr : (render p (bind v)).1 = Params.mark (p.size + 1) := String.append_empty
  rw [hr, placeholders_mark (p.size + 1) ht]
  rfl

/-- Text without dollar signs has no placeholders. -/
theorem Numbered.textBehind {s : String} (h : DollarFree s) {x : Sql} (hx : Numbered x) :
    Numbered (.text s :: x) := by
  intro p t ht
  show placeholders ((s ++ (render p x).1).toList ++ t) = _
  rw [String.toList_append, List.append_assoc, placeholders_append_of_not_mem h]
  exact hx p t ht

theorem numbered_text {s : String} (h : DollarFree s) : Numbered (text s) :=
  numbered_nil.textBehind h

/-- A separator stands between numbered parts. -/
theorem Numbered.behind {x y : Sql} {sep : String} (hx : Numbered x) (hs : IsSeparator sep)
    (hy : Numbered y) : Numbered (x ++ .text sep :: y) := by
  intro p t ht
  have hr (q : Params) : (render q (.text sep :: y)).1 = sep ++ (render q y).1 := rfl
  have hl : (values (x ++ .text sep :: y)).length = x.values.length + y.values.length := by
    rw [values_append, List.length_append]
    rfl
  -- The separator ends the last number in `x`, so `x` is read as if nothing followed.
  have hd : NoDigitAhead ((render (p.append x.values) (.text sep :: y)).1.toList ++ t) := by
    rw [hr, String.toList_append, List.append_assoc]
    exact hs.noDigitAhead _
  rw [render_append, String.toList_append, List.append_assoc, hx p _ hd, hr, String.toList_append,
    List.append_assoc, placeholders_append_of_not_mem hs.1, hy (p.append x.values) t ht,
    Params.size_append, ← List.append_assoc, hl, Nat.add_right_comm, List.range'_append_1]

theorem Numbered.joined {sep : String} (hs : IsSeparator sep) {parts : List Sql}
    (h : ∀ part ∈ parts, Numbered part) : Numbered (joined sep parts) := by
  induction parts with
  | nil => exact numbered_nil
  | cons x parts ih =>
    have hx : Numbered x := h x List.mem_cons_self
    cases parts with
    | nil => exact hx
    | cons y rest => exact hx.behind hs (ih fun part hp => h part (List.mem_cons_of_mem x hp))

/-- Are all parts numbered? -/
def AllNumbered : List Sql → Prop
  | [] => True
  | x :: parts => Numbered x ∧ AllNumbered parts

theorem AllNumbered.of_mem {parts : List Sql} (h : AllNumbered parts) :
    ∀ part ∈ parts, Numbered part := by
  induction parts with
  | nil =>
    intro part hp
    cases hp
  | cons x parts ih =>
    obtain ⟨hx, hr⟩ := h
    intro part hp
    rcases List.mem_cons.mp hp with rfl | hp
    · exact hx
    · exact ih hr part hp

theorem AllNumbered.spaced {parts : List Sql} (h : AllNumbered parts) : Numbered (spaced parts) :=
  Numbered.joined (by decide) fun part hp => h.of_mem part (List.mem_filter.mp hp).1

/-- The parameters of numbered SQL are its bound values, and its placeholders are their numbers. -/
theorem Numbered.toQuery {s : Sql} (h : Numbered s) :
    placeholders (toQuery s).sql.toList = List.range' 1 (toQuery s).params.length ∧
      (toQuery s).params = s.values := by
  have hp : (Sql.toQuery s).params = s.values := by
    show (render .empty s).2.values = s.values
    rw [render_snd]
    rfl
  have hn := h .empty [] rfl
  rw [List.append_nil] at hn
  refine ⟨?_, hp⟩
  rw [hp]
  exact hn.trans (List.append_nil _)

end Sql

end SqlCompose
