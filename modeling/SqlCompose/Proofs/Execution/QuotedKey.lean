import SqlCompose.Proofs.Execution.Lookup
import SqlCompose.Proofs.Naming.Spans
import SqlCompose.Proofs.Text.Delimited

/-!
# Values of quoted columns

A key in quotes selects the column of just that name, which the database returns without them. The
look-up keeps the quotes: it tries no other name (`Builder.lookup_quotedKey`), and then falls back
on the only value of the row. So a value that was selected by a quoted key is found in a row of one
column and lost in any other (`Builder.resolves_quotedKey_iff`).
-/

namespace SqlCompose

open Text

/-- The key of the column of that name, whatever the convention. -/
def quotedKey (name : String) : String := "\"" ++ name ++ "\""

/-- A name without quotes, dots and colons. -/
structure IsQuotable (name : String) : Prop where
  ne_empty : name ≠ ""
  isSegment : IsSegment name.toList
  colon_not_mem : ':' ∉ name.toList

section QuotedKey

variable {name : String}

theorem toList_quotedKey : (quotedKey name).toList = '"' :: name.toList ++ ['"'] := by
  simp [quotedKey]

theorem afterMark?_quotedKey (name : String) : afterMark? ':' (quotedKey name) = none :=
  afterMark?_eq_none_iff.mpr (by simp [toList_quotedKey])

namespace IsQuotable

variable (h : IsQuotable name)
include h

theorem isSpan : IsSpan (quotedKey name).toList := by
  refine ⟨'"', name.toList, rfl, fun hq => ?_, toList_quotedKey⟩
  exact absurd (h.isSegment '"' hq).2 (by decide)

theorem colon_not_mem_quotedKey : ':' ∉ (quotedKey name).toList := by
  rw [toList_quotedKey]
  simp [h.colon_not_mem]

theorem dot_not_mem_quotedKey : '.' ∉ (quotedKey name).toList := by
  have hd : '.' ∉ name.toList := fun hd => (h.isSegment '.' hd).1 rfl
  rw [toList_quotedKey]
  simp [hd]

theorem storedName_quotedKey (naming : Naming) (quoted : Bool) :
    naming.storedName quoted (quotedKey name) = quotedKey name := by
  refine String.ext ?_
  rw [Naming.toList_storedName, Convention.path_of_isSpan _ _ h.isSpan]

/-- What is selected is the identifier between quotes. -/
theorem keyText_quotedKey (naming : Naming) :
    Statement.keyText naming (quotedKey name) = quoteIdentifier name := by
  have hi : quotedKey name = quoteIdentifier name := by
    refine String.ext ?_
    have hq : ∀ x ∈ name.toList, x ≠ '"' := by
      rintro x hx rfl
      exact absurd (h.isSegment '"' hx).2 (by decide)
    rw [toList_quotedKey, quoteIdentifier, String.toList_ofList, Delimited.encode,
      Delimited.double_of_forall_ne hq]
  unfold Statement.keyText Statement.castText
  rw [afterMark?_quotedKey, splitAlias?_of_not_mem h.colon_not_mem_quotedKey]
  dsimp only
  rw [splitAtDouble_of_not_mem h.colon_not_mem_quotedKey]
  dsimp only
  rw [String.ofList_toList, ← hi]
  exact h.storedName_quotedKey naming true

end IsQuotable

/-! ## Looking up -/

/-- A row of one column has no other value. -/
theorem Row.only?_eq_some_iff {r : Row} {v : Json} (hv : r.get? name = some v) :
    r.only? = some v ↔ r.entries = [(name, v)] := by
  unfold only?
  unfold get? at hv
  constructor
  · intro h
    split at h
    · rename_i key value he
      cases h
      rw [he] at hv ⊢
      unfold Entries.find? at hv
      split at hv
      · rename_i hk
        rw [hk]
      · cases hv
    · cases h
  · intro h
    rw [h]

namespace Builder

section Lookup

variable (h : IsQuotable name)
include h

/-- No part of the key is cut off. -/
theorem columnName_quotedKey : columnName (quotedKey name) = quotedKey name := by
  have hd : splitAt '.' (quotedKey name).toList = [(quotedKey name).toList] :=
    splitWhere_of_none fun x hx => by
      have hx : x ≠ '.' := fun he => h.dot_not_mem_quotedKey (he ▸ hx)
      simpa using hx
  unfold columnName
  rw [afterMark?_quotedKey]
  dsimp only [Option.getD_none]
  rw [splitAlias?_of_not_mem h.colon_not_mem_quotedKey]
  dsimp only
  rw [splitAtDouble_of_not_mem h.colon_not_mem_quotedKey]
  dsimp only
  rw [hd]
  exact String.ofList_toList

/-- In quotes a name is the same on both sides. -/
theorem arrivals_quotedKey (naming : Naming) :
    naming.arrivals (quotedKey name) = [quotedKey name, quotedKey name, quotedKey name] := by
  have hb : naming.bareName (quotedKey name) = quotedKey name := h.storedName_quotedKey naming false
  have hw : ¬ isWord (quotedKey name).toList = true := fun hw =>
    Convention.ne_of_isWord (d := '"') (by decide) hw '"' (by simp [toList_quotedKey]) rfl
  unfold Naming.arrivals
  rw [hb]
  dsimp only
  rw [Naming.callerName, if_neg hw]

/-- The quotes are part of the only name that is looked for. -/
theorem lookup_quotedKey (naming : Naming) (r : Row) :
    lookup naming r (quotedKey name) = (r.get? (quotedKey name)).or r.only? := by
  unfold lookup Row.findName? Row.contains
  rw [columnName_quotedKey h, arrivals_quotedKey h]
  cases hr : r.get? (quotedKey name) <;> simp [hr]

end Lookup

variable {b : Builder} {e : Executor} {q : Query} {r : Row} {rows : List Row}

/-- What becomes of the value of a quoted key. The key selects the identifier between quotes, but a
run resolves to the value of the column whose name has the quotes in it, or else to the only value
of the row. So where the database returns the column under its name, a run resolves to its value
just if the row has no other column. -/
theorem resolves_quotedKey_iff (hn : IsQuotable name)
    (hf : b.statement.first = some (.value (quotedKey name))) (hb : b.build = .ok q)
    (he : e 0 q = .ok (r :: rows)) {v : Json} (hv : r.get? name = some v) :
    Statement.keyText b.config.naming (quotedKey name) = quoteIdentifier name ∧
    b.ResolvesTo e ((r.get? (quotedKey name)).or r.only?) ∧
    (b.ResolvesTo e (some v) ↔ r.get? (quotedKey name) = some v ∨
      r.get? (quotedKey name) = none ∧ r.entries = [(name, v)]) := by
  have hl := resolvesTo_lookup hf hb he
  rw [lookup_quotedKey hn] at hl
  refine ⟨hn.keyText_quotedKey b.config.naming, hl, ?_⟩
  rw [← Row.only?_eq_some_iff hv, ← Option.or_eq_some_iff]
  constructor
  · exact fun h => hl.unique h
  · intro h
    rwa [h] at hl

end Builder

end QuotedKey

namespace Builder

/-- The flags of users, in a column that no convention spells. -/
def flagsOfUsers : Builder := (ofTable {} "users").apply (.firstValue (quotedKey "FLAG s"))

theorem resolves_flagsOfUsers :
    let r := Row.ofList [("FLAG s", .bool true)]
    let e := Executor.scripted [.ok [r]]
    IsQuotable "FLAG s" ∧ flagsOfUsers.statement.first = some (.value (quotedKey "FLAG s")) ∧
    flagsOfUsers.build = .ok ⟨"SELECT \"FLAG s\" FROM users LIMIT 1", []⟩ ∧
    r.get? "FLAG s" = some (.bool true) ∧ flagsOfUsers.ResolvesTo e (some (.bool true)) := by
  intro r e
  have hn : IsQuotable "FLAG s" := ⟨by decide, by decide, by decide⟩
  have hb : flagsOfUsers.build = .ok ⟨"SELECT \"FLAG s\" FROM users LIMIT 1", []⟩ := by rfl
  have hr := (resolves_quotedKey_iff hn rfl hb (show e 0 _ = .ok [r] from rfl) rfl).2.2
  exact ⟨hn, rfl, hb, rfl, hr.mpr (.inr ⟨by decide, rfl⟩)⟩

/-- Where another column was selected before, a run for the value of a quoted key resolves to
nothing, though the row has the value. -/
theorem not_resolves_mixedCase :
    let b := (ofTable {} "users").applyAll
      [.select (.list ["id"]), .firstValue (quotedKey "MixedCase")]
    let r := Row.ofList [("id", .string "7"), ("MixedCase", .string "yes")]
    let e := Executor.scripted [.ok [r]]
    IsQuotable "MixedCase" ∧ b.statement.first = some (.value (quotedKey "MixedCase")) ∧
    (∃ q, b.build = .ok q ∧ q.sql = "SELECT \"id\", \"MixedCase\" FROM users LIMIT 1") ∧
    r.get? "MixedCase" = some (.string "yes") ∧ b.ResolvesTo e none ∧
    ¬ b.ResolvesTo e (some (.string "yes")) := by
  intro b r e
  have hn : IsQuotable "MixedCase" := ⟨by decide, by decide, by decide⟩
  obtain ⟨q, hb, hq⟩ : ∃ q, b.build = .ok q ∧
      q.sql = "SELECT \"id\", \"MixedCase\" FROM users LIMIT 1" := ⟨_, rfl, by decide +kernel⟩
  have hr := resolvesTo_lookup (b := b) rfl hb (show e 0 q = .ok [r] from rfl)
  have hl : (r.get? (quotedKey "MixedCase")).or r.only? = none := rfl
  rw [lookup_quotedKey hn, hl] at hr
  exact ⟨hn, rfl, ⟨q, hb, hq⟩, rfl, hr, fun h => Option.some_ne_none _ (h.unique hr)⟩

end Builder

end SqlCompose
