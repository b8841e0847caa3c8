import SqlCompose.Json.Printer
import SqlCompose.Proofs.Json.Numerals
import SqlCompose.Proofs.Json.Strings

/-!
# Scanning written tokens

Written tokens are scanned one by one, if no number stands behind another (`scan_flatMap_text`). All
of them come back as they were but numbers, which come back as what their text spells.
-/

namespace SqlCompose.Json

/-! ## The first token of a text -/

/-- The token at the front of a text, and what follows it. -/
def firstToken? (s : List Char) : Option (Token × List Char) :=
  (takeToken s).map fun p => (p.1, p.2.1)

theorem scan_cons {c : Char} (hc : isSpace c = false) (s : List Char) :
    Token.scan (c :: s) =
      (firstToken? (c :: s)).bind fun p => (Token.scan p.2).map (p.1 :: ·) := by
  rw [Token.scan, hc]
  unfold firstToken?
  cases takeToken (c :: s) <;> rfl

theorem firstToken?_of_fixed {s rest : List Char} {t : Token} (h : takeFixed s = some (t, rest)) :
    firstToken? s = some (t, rest) := by
  unfold firstToken? takeToken
  split
  · rename_i heq
    rw [h] at heq
    cases heq
    rfl
  · rename_i heq
    rw [h] at heq
    cases heq

theorem firstToken?_string {s body rest : List Char} {us : List StringUnit} {cs : List Char}
    (hs : s = '"' :: body) (ht : takeString body = some (us, rest)) (hj : joinUnits us = some cs) :
    firstToken? s = some (.string (String.ofList cs), rest) := by
  unfold firstToken? takeToken
  split
  · rename_i heq
    rw [hs] at heq
    cases heq
  · split
    · cases hs
      split
      · rename_i heq
        rw [ht] at heq
        cases heq
        rw [hj]
        rfl
      · rename_i heq
        rw [ht] at heq
        cases heq
    · rename_i hn
      subst hs
      exact absurd HEq.rfl (hn body _ rfl)

theorem takeFixed_of_number {c : Char} (hc : StartsNumber c) (s : List Char) :
    takeFixed (c :: s) = none := by
  unfold takeFixed
  split
  case h_10 => rfl
  all_goals
    rename_i heq
    exact absurd (List.cons.inj heq).1 (hc.ne (by decide))

theorem firstToken?_number {s rest : List Char} {n : Numeral} (hf : takeFixed s = none)
    (hq : s.head? ≠ some '"') (h : Numeral.take s = some (n, rest)) :
    firstToken? s = n.value?.map fun x => (.number x, rest) := by
  unfold firstToken? takeToken
  split
  · rename_i heq
    rw [hf] at heq
    cases heq
  · split
    · exact absurd rfl hq
    · split
      · rename_i heq
        rw [h] at heq
        cases heq
        cases n.value? <;> rfl
      · rename_i heq
        rw [h] at heq
        cases heq

/-! ## Written tokens -/

/-- Is the token a number? -/
def Token.isNumber : Token → Bool
  | number _ => true
  | _ => false

/-- The token as it is read again. -/
def Token.reread? : Token → Option Token
  | number x => (Json.reread? x).map .number
  | t => some t

/-- A token that is no number ends the number in front of it. -/
theorem endsNumeral_text {t : Token} (h : t.isNumber = false) (s : List Char) :
    EndsNumeral (t.text ++ s) := by
  have hc (c : Char) (r : List Char) (hc : c.isDigit = false ∧ c ≠ '.' ∧ c ≠ 'e' ∧ c ≠ 'E') :
      EndsNumeral (c :: r) := by
    rintro d ⟨⟩
    exact hc
  cases t with
  | number x => cases h
  | bool b => cases b <;> exact hc _ _ (by decide)
  | _ => exact hc _ _ (by decide)

/-- The text of a token starts with no blank. -/
theorem exists_text_eq_cons (t : Token) : ∃ c s, t.text = c :: s ∧ isSpace c = false := by
  cases t with
  | number x =>
    obtain ⟨c, s, hs, hc⟩ := exists_numberText_eq_cons x
    refine ⟨c, s, hs, ?_⟩
    have hne : c ≠ ' ' ∧ c ≠ '\n' ∧ c ≠ '\t' ∧ c ≠ '\r' :=
      ⟨hc.ne (by decide), hc.ne (by decide), hc.ne (by decide), hc.ne (by decide)⟩
    simp [isSpace, hne]
  | bool b => cases b <;> exact ⟨_, _, rfl, rfl⟩
  | _ => exact ⟨_, _, rfl, rfl⟩

theorem firstToken?_text (t : Token) {s : List Char} (hs : t.isNumber = true → EndsNumeral s) :
    firstToken? (t.text ++ s) = t.reread?.map (·, s) := by
  cases t with
  | number x =>
    obtain ⟨n, hn, hv⟩ := exists_take_numberText x (hs rfl)
    obtain ⟨c, r, hx, hc⟩ := exists_numberText_eq_cons x
    have hq : (numberText x ++ s).head? ≠ some '"' := by
      rw [hx]
      exact fun h => hc.ne (d := '"') (by decide) (Option.some.inj h)
    have hf : takeFixed (numberText x ++ s) = none := hx ▸ takeFixed_of_number hc (r ++ s)
    show firstToken? (numberText x ++ s) = ((reread? x).map Token.number).map (·, s)
    rw [firstToken?_number hf hq hn, hv, Option.map_map]
    rfl
  | string x =>
    obtain ⟨us, ht, hj⟩ := takeString_flatMap_escape x.toList s
    have hs : (Token.string x).text ++ s = '"' :: (x.toList.flatMap escape ++ '"' :: s) := by
      show '"' :: x.toList.flatMap escape ++ ['"'] ++ s = _
      simp
    rw [firstToken?_string hs ht hj, String.ofList_toList]
    rfl
  | bool b => cases b <;> exact firstToken?_of_fixed rfl
  | _ => exact firstToken?_of_fixed rfl

/-! ## Lists of tokens -/

/-- Does no number stand behind another? -/
def Apart : List Token → Prop
  | [] => True
  | t :: ts => (t.isNumber = true → ∀ u ∈ ts.head?, u.isNumber = false) ∧ Apart ts

/-- Written tokens are scanned as they are read again. -/
theorem scan_flatMap_text {ts : List Token} (h : Apart ts) :
    Token.scan (ts.flatMap Token.text) = ts.mapM Token.reread? := by
  induction ts with
  | nil => rw [List.flatMap_nil, Token.scan]; rfl
  | cons t ts ih =>
    obtain ⟨hn, hr⟩ := h
    have hs : t.isNumber = true → EndsNumeral (ts.flatMap Token.text) := by
      intro ht
      cases ts with
      | nil => exact endsNumeral_nil
      | cons u us => exact endsNumeral_text (hn ht u rfl) _
    obtain ⟨c, s, hc, hb⟩ := exists_text_eq_cons t
    have hf := firstToken?_text t hs
    rw [hc, List.cons_append] at hf
    rw [List.flatMap_cons, hc, List.cons_append, scan_cons hb, hf, List.mapM_cons, ← ih hr]
    cases t.reread? with
    | none => rfl
    | some u =>
      show (Token.scan (ts.flatMap Token.text)).map (u :: ·) = _
      cases Token.scan (ts.flatMap Token.text) <;> rfl

theorem apart_cons {t : Token} (ht : t.isNumber = false) {ts : List Token} (h : Apart ts) :
    Apart (t :: ts) :=
  ⟨fun hn => absurd hn (by simp [ht]), h⟩

mutual

/-- The tokens of a value stand apart in front of a mark. -/
theorem apart_tokens (j : Json) (ts : List Token) (h : Apart ts)
    (hh : ∀ u ∈ ts.head?, u.isNumber = false) : Apart (j.tokens ++ ts) := by
  cases j with
  | null | bool b | string s => exact apart_cons rfl h
  | number x => exact ⟨fun _ => hh, h⟩
  | array items =>
    cases items with
    | nil => exact apart_cons rfl (apart_cons rfl h)
    | cons x xs =>
      have hx := apart_itemTokens xs h
      rw [tokens, List.append_assoc]
      exact apart_cons rfl (apart_tokens x _ hx.1 hx.2)
  | object es =>
    cases es with
    | nil => exact apart_cons rfl (apart_cons rfl h)
    | cons e es =>
      obtain ⟨k, x⟩ := e
      have hx := apart_entryTokens es h
      rw [tokens, List.append_assoc]
      exact apart_cons rfl (apart_cons rfl (apart_cons rfl (apart_tokens x _ hx.1 hx.2)))

theorem apart_itemTokens (xs : List Json) {ts : List Token} (h : Apart ts) :
    Apart (itemTokens xs ++ ts) ∧ ∀ u ∈ (itemTokens xs ++ ts).head?, u.isNumber = false := by
  cases xs with
  | nil => exact ⟨apart_cons rfl h, fun u hu => by cases hu; rfl⟩
  | cons x xs =>
    have hx := apart_itemTokens xs h
    rw [itemTokens, List.append_assoc]
    exact ⟨apart_cons rfl (apart_tokens x _ hx.1 hx.2), fun u hu => by cases hu; rfl⟩

theorem apart_entryTokens (es : List (String × Json)) {ts : List Token} (h : Apart ts) :
    Apart (entryTokens es ++ ts) ∧ ∀ u ∈ (entryTokens es ++ ts).head?, u.isNumber = false := by
  match es with
  | [] => exact ⟨apart_cons rfl h, fun u hu => by cases hu; rfl⟩
  | (k, x) :: es =>
    have hx := apart_entryTokens es h
    rw [entryTokens, List.append_assoc]
    exact ⟨apart_cons rfl (apart_cons rfl (apart_cons rfl (apart_tokens x _ hx.1 hx.2))),
      fun u hu => by cases hu; rfl⟩

end

/-- The text of a value is scanned as its tokens, read again. -/
theorem scan_text (j : Json) : Token.scan j.text.toList = j.tokens.mapM Token.reread? := by
  have h := apart_tokens j [] trivial (by simp)
  rw [List.append_nil] at h
  unfold text
  rw [String.toList_ofList, scan_flatMap_text h]

end SqlCompose.Json
