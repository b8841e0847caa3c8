import SqlCompose.Naming.Path

/-!
# Paths segment by segment

A path without quotes is written segment by segment, with the dots between them
(`Convention.path_intercalate`). A segment that is a plain word is spelled, and quoted unless it has
a mark.
-/

namespace SqlCompose

open Text

namespace Convention

variable {s : List Char}

theorem ne_of_isWord {d : Char} (hd : (d == '_' || isAlphanumeric d) = false)
    (h : isWord s = true) : ∀ x ∈ s, x ≠ d := by
  rintro x hx rfl
  unfold isWord at h
  have ha := List.all_eq_true.mp (Bool.and_eq_true_iff.mp h).2 x hx
  rw [hd] at ha
  cases ha

theorem ne_nil_of_isWord (h : isWord s = true) : s ≠ [] := by
  rintro rfl
  cases h

/-! ## Segments -/

theorem segment_of_isWord (conv : Convention) (quoted : Bool) (h : isWord s = true) :
    conv.segment quoted s =
      if quoted then Delimited.encode '"' (conv.apply s) else conv.apply s := by
  have hb := ne_of_isWord (d := '!') (by decide) h
  unfold segment
  split
  rename_i bare quoted' hs
  split at hs
  · exact absurd rfl (hb '!' List.mem_cons_self)
  · cases hs
    simp [h]

/-- Without a mark, a segment that is no word is kept. -/
theorem segment_of_not_isWord (conv : Convention) (quoted : Bool) (h : ¬ isWord s = true)
    (hb : ∀ x ∈ s, x ≠ '!') : conv.segment quoted s = s := by
  unfold segment
  split
  rename_i bare quoted' hs
  split at hs
  · exact absurd rfl (hb '!' List.mem_cons_self)
  · cases hs
    simp [h]

/-- A word behind a mark is not quoted. -/
theorem segment_of_marked (conv : Convention) (quoted : Bool) (h : isWord s = true) :
    conv.segment quoted ('!' :: s) = conv.apply s := by
  simp [segment, h]

/-! ## Segments between dots -/

/-- Characters that are no dots and no quotes are read into the segment. -/
theorem pathFrom_append (conv : Convention) (quoted : Bool)
    (h : ∀ x ∈ s, x ≠ '.' ∧ isQuote x = false) (rest : List Char) :
    ∀ read, conv.pathFrom quoted (.segment read) (s ++ rest) =
      conv.pathFrom quoted (.segment (read ++ s)) rest := by
  induction s with
  | nil =>
    intro read
    rw [List.append_nil, List.nil_append]
  | cons x s ih =>
    intro read
    obtain ⟨⟨hd, hq⟩, hs⟩ := List.forall_mem_cons.mp h
    have hp := ih hs (read ++ [x])
    rw [List.append_assoc, List.singleton_append] at hp
    simpa [pathFrom, hd, hq] using hp

theorem path_intercalate (conv : Convention) (quoted : Bool) {segments : List (List Char)}
    (hn : segments ≠ []) (h : ∀ s ∈ segments, ∀ x ∈ s, x ≠ '.' ∧ isQuote x = false) :
    conv.path quoted (List.intercalate ['.'] segments) =
      List.intercalate ['.'] (segments.map (conv.segment quoted)) := by
  unfold path
  induction segments with
  | nil => exact absurd rfl hn
  | cons s segments ih =>
    obtain ⟨hs, hr⟩ := List.forall_mem_cons.mp h
    cases segments with
    | nil =>
      have hp := pathFrom_append conv quoted hs [] []
      rw [List.append_nil, List.nil_append] at hp
      rw [List.intercalate_singleton, hp]
      exact List.intercalate_singleton.symm
    | cons t segments =>
      have hp := pathFrom_append conv quoted hs ('.' :: List.intercalate ['.'] (t :: segments)) []
      have hi := ih (List.cons_ne_nil t segments) hr
      rw [List.intercalate_cons_cons, List.append_assoc, List.singleton_append, hp,
        List.nil_append, pathFrom, if_pos rfl, hi]
      simp only [List.map_cons, List.intercalate_cons_cons, List.append_assoc,
        List.singleton_append]

/-- A path that is one segment. -/
theorem path_singleton (conv : Convention) (quoted : Bool)
    (h : ∀ x ∈ s, x ≠ '.' ∧ isQuote x = false) : conv.path quoted s = conv.segment quoted s := by
  have hp := path_intercalate conv quoted (List.cons_ne_nil s []) (List.forall_mem_singleton.mpr h)
  rwa [List.intercalate_singleton, List.map_singleton, List.intercalate_singleton] at hp

/-- No dot and no quote is in a word. -/
theorem ne_dot_of_isWord (h : isWord s = true) : ∀ x ∈ s, x ≠ '.' ∧ isQuote x = false := by
  intro x hx
  have hq := ne_of_isWord (d := '"') (by decide) h x hx
  have ha := ne_of_isWord (d := '\'') (by decide) h x hx
  exact ⟨ne_of_isWord (by decide) h x hx, by simp [isQuote, hq, ha]⟩

/-- A path that is a plain word is one segment. -/
theorem path_of_isWord (conv : Convention) (quoted : Bool) (h : isWord s = true) :
    conv.path quoted s =
      if quoted then Delimited.encode '"' (conv.apply s) else conv.apply s := by
  rw [path_singleton conv quoted (ne_dot_of_isWord h), segment_of_isWord conv quoted h]

end Convention

/-- The column that stores a name. -/
def Naming.column (naming : Naming) (name : List Char) : String :=
  String.ofList (naming.database.apply name)

end SqlCompose
