import SqlCompose.Proofs.Sql.Placeholder
import SqlCompose.Proofs.Statement.BoundValues

/-!
# The text of spaced parts

Parts are written one behind the other, each behind the values of those before. The text of spaced
parts is made of their texts, of which the empty ones are left out (`Sql.render_spaced`), and
spaced parts may be spaced again as one (`Text.spaced_flatten`).
-/

namespace SqlCompose

namespace Text

/-- The texts that are not empty, with spaces between them. -/
def spaced (parts : List String) : String := " ".intercalate (parts.filter (!·.isEmpty))

theorem intercalate_flatten (sep : String) (before behind : List String) {parts : List String}
    (h : parts ≠ []) : sep.intercalate (before ++ sep.intercalate parts :: behind) =
      sep.intercalate (before ++ (parts ++ behind)) := by
  induction before with
  | nil =>
    by_cases hb : behind = []
    · simp [hb]
    · rw [List.nil_append, List.nil_append, String.intercalate_cons_of_ne_nil hb,
        String.intercalate_append_of_ne_nil h hb]
  | cons t before ih =>
    rw [List.cons_append, List.cons_append, String.intercalate_cons_of_ne_nil (by simp),
      String.intercalate_cons_of_ne_nil (by simp [h]), ih]

/-- Texts that are not empty have a text that is not. -/
theorem isEmpty_intercalate {sep : String} {parts : List String} (hn : parts ≠ [])
    (h : ∀ t ∈ parts, t.isEmpty = false) : (sep.intercalate parts).isEmpty = false := by
  obtain ⟨t, rest, rfl⟩ := List.exists_cons_of_ne_nil hn
  have ht : t ≠ "" := by simpa using h t List.mem_cons_self
  by_cases hr : rest = []
  · simpa [hr] using ht
  · rw [String.intercalate_cons_of_ne_nil hr]
    simp [ht]

/-- Texts among others may be spaced on their own first. -/
theorem spaced_flatten (before parts behind : List String) :
    spaced (before ++ spaced parts :: behind) = spaced (before ++ (parts ++ behind)) := by
  unfold spaced
  rw [List.filter_append, List.filter_append, List.filter_append]
  by_cases hp : parts.filter (!·.isEmpty) = []
  · rw [hp]
    rfl
  · have he : (" ".intercalate (parts.filter (!·.isEmpty))).isEmpty = false := by
      refine isEmpty_intercalate hp fun t ht => ?_
      simpa using (List.mem_filter.mp ht).2
    rw [List.filter_cons_of_pos (by rw [he]; rfl), intercalate_flatten " " _ _ hp]

theorem intercalate_append_inj {sep : String} {before xs ys : List String} (hx : xs ≠ [])
    (hy : ys ≠ []) : sep.intercalate (before ++ xs) = sep.intercalate (before ++ ys) ↔
      sep.intercalate xs = sep.intercalate ys := by
  by_cases hb : before = []
  · rw [hb]
    rfl
  · rw [String.intercalate_append_of_ne_nil hb hx, String.intercalate_append_of_ne_nil hb hy,
      String.append_right_inj]

/-- Texts in front of others make them longer by a separator at least. -/
theorem intercalate_append_ne {sep : String} (hsep : sep ≠ "") {xs ys : List String} (hx : xs ≠ [])
    (hy : ys ≠ []) : sep.intercalate (xs ++ ys) ≠ sep.intercalate ys := by
  intro h
  have hl := congrArg String.length h
  rw [String.intercalate_append_of_ne_nil hx hy, String.length_append, String.length_append] at hl
  exact hsep (String.length_eq_zero_iff.mp (by omega))

/-- Texts between others are left out if and only if they are all empty. -/
theorem spaced_append_eq_iff {before parts behind : List String} (hb : ∃ t ∈ behind, t ≠ "") :
    spaced (before ++ (parts ++ behind)) = spaced (before ++ behind) ↔ ∀ t ∈ parts, t = "" := by
  have hn : behind.filter (!·.isEmpty) ≠ [] := by
    obtain ⟨t, ht, he⟩ := hb
    exact List.ne_nil_of_mem (List.mem_filter.mpr ⟨ht, by simpa using he⟩)
  unfold spaced
  simp only [List.filter_append]
  by_cases hp : parts.filter (!·.isEmpty) = []
  · rw [hp, List.nil_append, eq_self, true_iff]
    simpa using hp
  · rw [intercalate_append_inj (by simp [hn]) hn]
    refine iff_of_false (intercalate_append_ne (by decide) hp hn) fun h => hp ?_
    simpa using h

end Text

theorem Params.append_nil (p : Params) : p.append [] = p := congrArg mk (List.append_nil _)

namespace Sql

/-- The texts of parts that are written one behind the other, the first behind `p`. -/
def texts (p : Params) : List Sql → List String
  | [] => []
  | s :: parts => (render p s).1 :: texts (p.append s.values) parts

theorem render_text (p : Params) (s : String) : (render p (text s)).1 = s := String.append_empty

theorem texts_map_text_append (p : Params) (ts : List String) (parts : List Sql) :
    texts p (ts.map text ++ parts) = ts ++ texts p parts := by
  induction ts with
  | nil => rfl
  | cons t ts ih =>
    show (render p (text t)).1 :: texts (p.append []) (ts.map text ++ parts) = _
    rw [render_text, Params.append_nil, ih]
    rfl

theorem texts_map_text (p : Params) (ts : List String) : texts p (ts.map text) = ts := by
  have h := texts_map_text_append p ts []
  rwa [List.append_nil, show texts p [] = [] from rfl, List.append_nil] at h

/-- A placeholder is not empty, so only blank SQL has an empty text. -/
theorem isEmpty_render (p : Params) (s : Sql) : (render p s).1.isEmpty = s.isBlank := by
  induction s generalizing p with
  | nil => rfl
  | cons x s ih =>
    cases x with
    | text t =>
      show (t ++ (render p s).1).isEmpty = (t.isEmpty && isBlank s)
      rw [← ih p, Bool.eq_iff_iff]
      simp
    | bound v =>
      show (Params.mark (p.size + 1) ++ (render (p.push v).2 s).1).isEmpty = false
      simp [Params.mark]

theorem render_joined (p : Params) (sep : String) (parts : List Sql) :
    (render p (joined sep parts)).1 = sep.intercalate (texts p parts) := by
  induction parts generalizing p with
  | nil => rfl
  | cons s parts ih =>
    cases parts with
    | nil => exact String.intercalate_singleton.symm
    | cons t rest =>
      show (render p (s ++ .text sep :: joined sep (t :: rest))).1 = _
      rw [render_append]
      show (render p s).1 ++ (sep ++ (render (p.append s.values) (joined sep (t :: rest))).1) = _
      rw [ih, ← String.append_assoc]
      exact String.intercalate_cons_cons.symm

/-- Blank parts bind nothing, so the texts behind them are the same without them. -/
theorem texts_filter (p : Params) (parts : List Sql) :
    texts p (parts.filter (!·.isBlank)) = (texts p parts).filter (!·.isEmpty) := by
  induction parts generalizing p with
  | nil => rfl
  | cons s parts ih =>
    have he := isEmpty_render p s
    cases hb : s.isBlank with
    | true =>
      have hv : p.append s.values = p := by
        rw [values_of_isBlank hb, Params.append_nil]
      rw [List.filter_cons_of_neg (by simp [hb]), ih, texts, hv,
        List.filter_cons_of_neg (by simp [he, hb])]
    | false =>
      rw [List.filter_cons_of_pos (by simp [hb]), texts, ih, texts,
        List.filter_cons_of_pos (by simp [he, hb])]

theorem render_spaced (p : Params) (parts : List Sql) :
    (render p (spaced parts)).1 = Text.spaced (texts p parts) := by
  unfold spaced Text.spaced
  rw [render_joined, texts_filter]

end Sql

end SqlCompose
