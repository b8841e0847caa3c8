import SqlCompose.Proofs.Text.Bytes
import SqlCompose.Proofs.Text.Mark
import SqlCompose.Statement.Clause

/-!
# Keys with casts and aliases

A key of parts without colons is selected by these parts: the column, its cast behind a double colon,
and the alias behind a colon that stands alone (`Statement.keyText_alias`). Which colon starts the
alias of any other key is said by `Text.CutsAt`.
-/

namespace SqlCompose

open Text

/-- Is the text a part of a key? It is not empty and has no colon. -/
def Text.IsPart (s : String) : Prop := s.toList ≠ [] ∧ ':' ∉ s.toList

namespace Statement

variable {naming : Naming} {c t a : String} {x : List Char}

theorem afterMark?_ofList_append (hx : x ≠ []) (hh : x.head? ≠ some ':') (rest : List Char) :
    afterMark? ':' (String.ofList (x ++ rest)) = none := by
  rw [afterMark?_eq_none_iff, String.toList_ofList, List.head?_append_of_ne_nil x hx]
  exact hh

/-- A key without an alias is a column with its cast. -/
theorem keyText_expression (hx : x ≠ []) (hh : x.head? ≠ some ':') (hs : splitAlias? x = none) :
    keyText naming (String.ofList x) = castText naming x := by
  have hm := afterMark?_ofList_append hx hh []
  rw [List.append_nil] at hm
  unfold keyText
  rw [hm, String.toList_ofList, hs]

theorem keyText_alias (hx : x ≠ []) (hh : x.head? ≠ some ':') (hl : x.getLast? ≠ some ':')
    (ha : ':' ∉ a.toList) : keyText naming (String.ofList (x ++ ':' :: a.toList)) =
      castText naming x ++ " AS " ++ naming.bareName a := by
  unfold keyText
  rw [afterMark?_ofList_append hx hh, String.toList_ofList, splitAlias?_append hx hl ha]
  dsimp only
  rw [String.ofList_toList]

theorem castText_of_not_mem (hc : ':' ∉ c.toList) :
    castText naming c.toList = naming.quotedName c := by
  unfold castText
  rw [splitAtDouble_of_not_mem hc]
  dsimp only
  rw [String.ofList_toList]

theorem castText_append (hc : ':' ∉ c.toList) (t : String) :
    castText naming (c.toList ++ ':' :: ':' :: t.toList) = naming.quotedName c ++ "::" ++ t := by
  unfold castText
  rw [splitAtDouble_append hc]
  dsimp only
  rw [String.ofList_toList, String.ofList_toList]

/-- Keys are cut at colons that stand alone. What is in front of the last one behind the front of a
key is its expression, and what follows is its alias; without such a colon there is no alias. The
bytes of the key are cut in the same place, which is never inside a character. So keys of parts
without colons are selected by their parts, as a column, a column with a cast, and both with an
alias. -/
theorem keys_cut_at_lone_colon :
    (∀ (key : String) (e n : List Char),
      splitAlias? key.toList = some (e, n) ↔ CutsAt ':' key.toList e n) ∧
    (∀ key : String,
      splitAlias? key.toList = none ↔ ∀ i, 0 < i → ¬ StandsAlone ':' key.toList i) ∧
    (∀ (key : String) (front behind : List UInt8),
      CutsAt 0x3a (Wire.ofText key) front behind ↔ ∃ e n : String,
        splitAlias? key.toList = some (e.toList, n.toList) ∧ front = Wire.ofText e ∧
          behind = Wire.ofText n) ∧
    ∀ (naming : Naming) (c t a : String), IsPart c → IsPart t → IsPart a →
      keyText naming c = naming.quotedName c ∧
      keyText naming (c ++ "::" ++ t) = naming.quotedName c ++ "::" ++ t ∧
      keyText naming (c ++ ":" ++ a) = naming.quotedName c ++ " AS " ++ naming.bareName a ∧
      keyText naming (c ++ "::" ++ t ++ ":" ++ a) =
        naming.quotedName c ++ "::" ++ t ++ " AS " ++ naming.bareName a := by
  refine ⟨fun key e n => splitAlias?_eq_some_iff, fun key => splitAlias?_eq_none_iff,
    fun key front behind => cutsAt_ofText_iff, ?_⟩
  rintro naming c t a ⟨hn, hc⟩ ⟨hnt, ht⟩ ⟨-, ha⟩
  have hh : c.toList.head? ≠ some ':' := fun h => hc (List.mem_of_head? h)
  have hl : c.toList.getLast? ≠ some ':' := fun h => hc (List.mem_of_getLast? h)
  -- The column with its cast, as it stands in front of an alias.
  let x := c.toList ++ ':' :: ':' :: t.toList
  have hx : x ≠ [] := List.append_ne_nil_of_left_ne_nil hn _
  have hxh : x.head? ≠ some ':' := by rwa [List.head?_append_of_ne_nil _ hn]
  have hxl : x.getLast? ≠ some ':' := by
    have he : x.getLast? = t.toList.getLast? := by
      show (c.toList ++ ([':', ':'] ++ t.toList)).getLast? = _
      rw [← List.append_assoc, List.getLast?_append_of_ne_nil _ hnt]
    rw [he]
    exact fun h => ht (List.mem_of_getLast? h)
  have hcast : c ++ "::" ++ t = String.ofList x := String.ext (by simp [x])
  have hlabel (y : String) : y ++ ":" ++ a = String.ofList (y.toList ++ ':' :: a.toList) :=
    String.ext (by simp)
  refine ⟨?_, ?_, ?_, ?_⟩
  · rw [← castText_of_not_mem hc, ← keyText_expression hn hh (splitAlias?_of_not_mem hc),
      String.ofList_toList]
  · rw [hcast, keyText_expression hx hxh (splitAlias?_cast hc ht), castText_append hc]
  · rw [hlabel, keyText_alias hn hh hl ha, castText_of_not_mem hc]
  · rw [hcast, hlabel, String.toList_ofList, keyText_alias hx hxh hxl ha, castText_append hc]

theorem keys_cut_at_lone_colon_price :
    let naming : Naming := ⟨.snake, .camel⟩
    IsPart "unitPrice" ∧ IsPart "numeric" ∧ IsPart "größteZahl" ∧
      keyText naming "unitPrice::numeric:größteZahl" =
        "\"unit_price\"::numeric AS größte_zahl" ∧
      CutsAt ':' "é::x:::ß:a::b".toList "é::x:::ß".toList "a::b".toList ∧
      CutsAt 0x3a (Wire.ofText "é::x:::ß:a::b") (Wire.ofText "é::x:::ß") (Wire.ofText "a::b") ∧
      ∀ i, 0 < i → ¬ StandsAlone ':' ":a::b".toList i := by
  intro naming
  obtain ⟨hs, hn, hb, hk⟩ := keys_cut_at_lone_colon
  have hc : IsPart "unitPrice" := ⟨by decide, by decide⟩
  have ht : IsPart "numeric" := ⟨by decide, by decide⟩
  have ha : IsPart "größteZahl" := ⟨by decide, by decide⟩
  have hcut : splitAlias? "é::x:::ß:a::b".toList = some ("é::x:::ß".toList, "a::b".toList) := by
    decide
  refine ⟨hc, ht, ha, ((hk naming _ _ _ hc ht ha).2.2.2).trans ?_, (hs _ _ _).mp hcut,
    (hb _ _ _).mpr ⟨_, _, hcut, rfl, rfl⟩, (hn _).mp (by decide)⟩
  decide +kernel

end Statement

end SqlCompose
