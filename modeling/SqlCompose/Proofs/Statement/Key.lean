import SqlCompose.Proofs.Naming.Path
import SqlCompose.Proofs.Naming.Words
import SqlCompose.Proofs.Text.Alias
import SqlCompose.Proofs.Text.Mark
import SqlCompose.Statement.Clause

/-!
# Keys of columns

The key of a column may have a path in front of its name and a cast and an alias behind it
(`ColumnKey`). It is cut at its alias first (`splitAlias?_text`), where the colons of a cast do not
count, then at its cast (`splitAtDouble_expression`) and last at its dots (`splitAt_column`), so the
dots of a cast do not count either. What is selected has the parts that were written
(`Statement.keyText_columnKey`).
-/

namespace SqlCompose

open Text

/-- A key of a column. -/
structure ColumnKey where
  /-- The words in front of the name of the column. -/
  path : List (List Char)
  /-- Is the name not to be quoted? -/
  bare : Bool
  /-- The name of the column. -/
  name : List Char
  /-- The type that the column is cast to. -/
  cast : Option (List Char)
  /-- The alias. -/
  label : Option (List Char)
  isWord_path : ∀ s ∈ path, isWord s = true
  isWord_name : isWord name = true
  cast_ne_nil : ∀ t ∈ cast, t ≠ []
  colon_not_mem_cast : ∀ t ∈ cast, ':' ∉ t
  isWord_label : ∀ a ∈ label, isWord a = true

namespace ColumnKey

variable (k : ColumnKey)

/-! ## Texts of keys -/

/-- The name of the column as it is written, with its mark. -/
def marked : List Char := if k.bare then '!' :: k.name else k.name

/-- The segments of the path, with the name at its end. -/
def segments : List (List Char) := k.path ++ [k.marked]

/-- The column with its path. -/
def column : List Char := List.intercalate ['.'] k.segments

/-- The column with its path and its cast. -/
def expression : List Char :=
  match k.cast with
  | none => k.column
  | some t => k.column ++ ':' :: ':' :: t

/-- The key as the caller writes it. -/
def text : String :=
  match k.label with
  | none => String.ofList k.expression
  | some a => String.ofList (k.expression ++ ':' :: a)

/-! ## Names of keys -/

/-- The name as it is written: the alias, or else that of the column with its mark. -/
def written : String := String.ofList (k.label.getD k.marked)

/-- The name under which the database returns the column: the alias, or else that of the column. -/
def output (naming : Naming) : String := naming.column (k.label.getD k.name)

/-- The column as it is selected. -/
def projection (naming : Naming) : String :=
  let name := if k.bare then naming.column k.name else quoteIdentifier (naming.column k.name)
  let column := ".".intercalate
    (k.path.map (fun s => quoteIdentifier (naming.column s)) ++ [name])
  let expression := match k.cast with
    | none => column
    | some t => column ++ "::" ++ String.ofList t
  match k.label with
  | none => expression
  | some _ => expression ++ " AS " ++ k.output naming

/-! ## Characters of the parts -/

variable {k}

/-- The segments are of the characters of words, and of marks. -/
theorem forall_mem_segments {P : Char → Prop} (hm : P '!')
    (hw : ∀ {s}, isWord s = true → ∀ x ∈ s, P x) : ∀ s ∈ k.segments, ∀ x ∈ s, P x := by
  intro s hs
  rcases List.mem_append.mp hs with hs | hs
  · exact hw (k.isWord_path s hs)
  · rw [List.mem_singleton.mp hs, marked]
    cases k.bare with
    | true => exact List.forall_mem_cons.mpr ⟨hm, hw k.isWord_name⟩
    | false => exact hw k.isWord_name

theorem segments_ne_nil : k.segments ≠ [] := List.append_ne_nil_of_right_ne_nil _ (by simp)

theorem colon_not_mem_column : ':' ∉ k.column := by
  intro h
  rcases mem_intercalate h with h | ⟨s, hs, h⟩
  · exact absurd (List.mem_singleton.mp h) (by decide)
  · exact forall_mem_segments (by decide) (Convention.ne_of_isWord (by decide)) s hs ':' h rfl

theorem colon_not_mem_label {a : List Char} (h : k.label = some a) : ':' ∉ a := fun hm =>
  Convention.ne_of_isWord (by decide) (k.isWord_label a h) ':' hm rfl

theorem ne_dot_of_mem_segments :
    ∀ s ∈ k.segments, ∀ x ∈ s, x ≠ '.' ∧ isQuote x = false :=
  forall_mem_segments (by decide) Convention.ne_dot_of_isWord

/-! ## Cuts -/

/-- At its dots the column is cut into its segments. -/
theorem splitAt_column : splitAt '.' k.column = k.segments :=
  splitWhere_intercalate (by decide) segments_ne_nil fun s hs x hx => by
    simpa using (ne_dot_of_mem_segments s hs x hx).1

theorem marked_ne_nil : k.marked ≠ [] := by
  unfold marked
  cases k.bare with
  | true => exact List.cons_ne_nil '!' k.name
  | false => exact Convention.ne_nil_of_isWord k.isWord_name

theorem column_ne_nil : k.column ≠ [] := by
  intro h
  have hs := k.splitAt_column
  rw [h] at hs
  -- The empty text is cut into one empty segment, which the name is not.
  have hl := congrArg (List.getLastD · []) hs
  unfold segments at hl
  rw [List.getLastD_concat] at hl
  exact marked_ne_nil hl.symm

/-- At the first double colon of the expression it is cut into the column and its cast. -/
theorem splitAtDouble_expression :
    splitAtDouble ':' k.expression = k.cast.map fun t => (k.column, t) := by
  unfold expression
  cases k.cast with
  | none => exact splitAtDouble_of_not_mem colon_not_mem_column
  | some t => exact splitAtDouble_append colon_not_mem_column t

theorem expression_ne_nil : k.expression ≠ [] := by
  unfold expression
  cases k.cast with
  | none => exact column_ne_nil
  | some t => exact List.append_ne_nil_of_left_ne_nil column_ne_nil _

theorem getLast?_expression : k.expression.getLast? ≠ some ':' := by
  unfold expression
  cases hc : k.cast with
  | none => exact fun h => colon_not_mem_column (List.mem_of_getLast? h)
  | some t =>
    obtain ⟨x, t', ht⟩ := List.exists_cons_of_ne_nil (k.cast_ne_nil t hc)
    have hl : (k.column ++ ':' :: ':' :: t).getLast? = t.getLast? := by
      rw [List.getLast?_append_of_ne_nil _ (List.cons_ne_nil _ _), ht]
      rfl
    rw [hl]
    exact fun h => k.colon_not_mem_cast t hc (List.mem_of_getLast? h)

/-- A key is cut at its alias, and its cast is none. -/
theorem splitAlias?_text :
    splitAlias? k.text.toList = k.label.map fun a => (k.expression, a) := by
  unfold text
  cases hl : k.label with
  | some a =>
    dsimp only
    rw [String.toList_ofList]
    exact splitAlias?_append expression_ne_nil getLast?_expression (colon_not_mem_label hl)
  | none =>
    dsimp only
    rw [String.toList_ofList]
    unfold expression
    cases hc : k.cast with
    | none => exact splitAlias?_of_not_mem colon_not_mem_column
    | some t =>
      exact splitAlias?_cast colon_not_mem_column (k.colon_not_mem_cast t hc)

/-- A key starts with its column. -/
theorem exists_toList_text : ∃ rest, k.text.toList = k.column ++ rest := by
  obtain ⟨rest, he⟩ : ∃ rest, k.expression = k.column ++ rest := by
    unfold expression
    cases k.cast with
    | none => exact ⟨[], (List.append_nil k.column).symm⟩
    | some t => exact ⟨':' :: ':' :: t, rfl⟩
  unfold text
  cases k.label with
  | none => exact ⟨rest, by rw [String.toList_ofList, he]⟩
  | some a => exact ⟨rest ++ ':' :: a, by rw [String.toList_ofList, he, List.append_assoc]⟩

/-- No colon stands in front, so a key of a column is not taken as SQL. -/
theorem afterMark?_text : afterMark? ':' k.text = none := by
  obtain ⟨rest, ht⟩ := k.exists_toList_text
  obtain ⟨c, s, hc⟩ := List.exists_cons_of_ne_nil k.column_ne_nil
  refine afterMark?_eq_none_iff.mpr fun h => ?_
  rw [ht, hc] at h
  have hm : ':' ∈ k.column := by
    rw [hc, Option.some.inj h.symm]
    exact List.mem_cons_self
  exact colon_not_mem_column hm

end ColumnKey

/-! ## Columns of keys -/

namespace Naming

variable {naming : Naming} {k : ColumnKey}

theorem bareName_of_isWord {s : List Char} (h : isWord s = true) :
    naming.bareName (String.ofList s) = naming.column s := by
  unfold bareName column
  rw [String.toList_ofList, Convention.path_of_isWord _ _ h]
  rfl

/-- The name as written leads to the name under which the database returns the column. -/
theorem bareName_written : naming.bareName k.written = k.output naming := by
  unfold ColumnKey.written ColumnKey.output
  cases hl : k.label with
  | some a => exact bareName_of_isWord (k.isWord_label a hl)
  | none =>
    show naming.bareName (String.ofList k.marked) = naming.column k.name
    unfold ColumnKey.marked
    cases k.bare with
    | false => exact bareName_of_isWord k.isWord_name
    | true =>
      have hd : ∀ x ∈ '!' :: k.name, x ≠ '.' ∧ isQuote x = false :=
        List.forall_mem_cons.mpr ⟨by decide, Convention.ne_dot_of_isWord k.isWord_name⟩
      have hs := Convention.segment_of_marked naming.database false k.isWord_name
      rw [← Convention.path_singleton naming.database false hd] at hs
      unfold bareName
      rw [String.toList_ofList]
      exact congrArg String.ofList hs

theorem quotedName_column : naming.quotedName (String.ofList k.column) =
    ".".intercalate (k.path.map (fun s => quoteIdentifier (naming.column s)) ++
      [if k.bare then naming.column k.name else quoteIdentifier (naming.column k.name)]) := by
  have hq {s : List Char} (h : isWord s = true) : naming.database.segment true s =
      (quoteIdentifier (naming.column s)).toList := by
    unfold quoteIdentifier column
    rw [Convention.segment_of_isWord _ _ h, String.toList_ofList, String.toList_ofList]
    rfl
  have hm : naming.database.segment true k.marked =
      (if k.bare then naming.column k.name
        else quoteIdentifier (naming.column k.name)).toList := by
    unfold ColumnKey.marked
    cases k.bare with
    | true =>
      refine (Convention.segment_of_marked naming.database true k.isWord_name).trans ?_
      exact String.toList_ofList.symm
    | false => exact hq k.isWord_name
  have hp : k.path.map (naming.database.segment true) =
      (k.path.map fun s => quoteIdentifier (naming.column s)).map String.toList := by
    rw [List.map_map]
    exact List.map_congr_left fun s hs => hq (k.isWord_path s hs)
  refine String.ext ?_
  unfold quotedName ColumnKey.column
  rw [String.toList_ofList, String.toList_ofList,
    Convention.path_intercalate _ _ ColumnKey.segments_ne_nil ColumnKey.ne_dot_of_mem_segments,
    String.toList_intercalate, ColumnKey.segments, List.map_append, List.map_append,
    List.map_singleton, List.map_singleton, hp, hm]
  rfl

end Naming

namespace Statement

/-- A key of a column is selected with the parts that were written: each word in the convention of
the database and quoted unless it has a mark, the cast as it is, and the alias. -/
theorem keyText_columnKey (naming : Naming) (k : ColumnKey) :
    keyText naming k.text = k.projection naming := by
  have hc : castText naming k.expression = match k.cast with
      | none => naming.quotedName (String.ofList k.column)
      | some t => naming.quotedName (String.ofList k.column) ++ "::" ++ String.ofList t := by
    unfold castText
    rw [ColumnKey.splitAtDouble_expression]
    unfold ColumnKey.expression
    cases k.cast <;> rfl
  unfold keyText ColumnKey.projection
  rw [ColumnKey.afterMark?_text, ColumnKey.splitAlias?_text]
  dsimp only
  rw [← Naming.quotedName_column, ← hc]
  cases hl : k.label with
  | some a =>
    show castText naming k.expression ++ " AS " ++ naming.bareName (String.ofList a) = _
    rw [Naming.bareName_of_isWord (k.isWord_label a hl)]
    unfold ColumnKey.output
    rw [hl]
    rfl
  | none =>
    unfold ColumnKey.text
    rw [hl]
    dsimp only
    rw [String.toList_ofList]
    rfl

end Statement

end SqlCompose
