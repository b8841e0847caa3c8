import SqlCompose.Config
import SqlCompose.Proofs.Naming.Path

/-!
# Paths with quoted spans

Behind a path whose quotes are all closed the reader of paths stands in a segment, whatever comes
next (`Convention.exists_pathFrom_append`). So a dot or a quote ends what came before it
(`Convention.path_append`), and a path is converted piece by piece: spans are kept as written, and
the segments between dots and spans are converted each on its own (`Convention.converts_iff`).
-/

namespace SqlCompose

/-! ## Pieces of paths -/

/-- A text between two quotes of one kind that are not in it. -/
def IsSpan (s : List Char) : Prop :=
  ∃ d body, isQuote d = true ∧ d ∉ body ∧ s = d :: body ++ [d]

/-- A quote and the text behind it, which does not close it. -/
def IsOpenSpan (s : List Char) : Prop :=
  ∃ d rest, isQuote d = true ∧ d ∉ rest ∧ s = d :: rest

/-- A text without dots and quotes. -/
def IsSegment (s : List Char) : Prop := ∀ x ∈ s, x ≠ '.' ∧ isQuote x = false

instance (s : List Char) : Decidable (IsSegment s) :=
  List.decidableBAll (fun x => x ≠ '.' ∧ isQuote x = false) s

/-- Every quote that is opened is closed by the same character. -/
inductive QuotesClosed : List Char → Prop where
  | nil : QuotesClosed []
  | cons {c : Char} {s : List Char} (hc : isQuote c = false) (h : QuotesClosed s) :
      QuotesClosed (c :: s)
  | span {q s : List Char} (hq : IsSpan q) (h : QuotesClosed s) : QuotesClosed (q ++ s)

/-- A segment in front opens no quote. -/
theorem IsSegment.closed_append {s t : List Char} (hs : IsSegment s) (ht : QuotesClosed t) :
    QuotesClosed (s ++ t) := by
  induction s with
  | nil => exact ht
  | cons x s ih =>
    obtain ⟨⟨-, hx⟩, hs⟩ := List.forall_mem_cons.mp hs
    exact .cons hx (ih hs)

theorem ne_dot_of_isQuote {d : Char} (h : isQuote d = true) : d ≠ '.' := by
  rintro rfl
  cases h

/-- Where the reader stands behind a dot or a quote. -/
def PathPlace.behind (x : Char) : PathPlace := if x = '.' then .segment [] else .span x

namespace Convention

/-- How a path is converted: each segment on its own, with all that is quoted kept as written. -/
inductive Converts (conv : Convention) (quoted : Bool) : List Char → List Char → Prop where
  | segment {s : List Char} (hs : IsSegment s) : Converts conv quoted s (conv.segment quoted s)
  | dot {s t u : List Char} (hs : IsSegment s) (h : Converts conv quoted t u) :
      Converts conv quoted (s ++ '.' :: t) (conv.segment quoted s ++ '.' :: u)
  | span {s q t u : List Char} (hs : IsSegment s) (hq : IsSpan q) (h : Converts conv quoted t u) :
      Converts conv quoted (s ++ (q ++ t)) (conv.segment quoted s ++ (q ++ u))
  | unclosed {s q : List Char} (hs : IsSegment s) (hq : IsOpenSpan q) :
      Converts conv quoted (s ++ q) (conv.segment quoted s ++ q)

variable (conv : Convention) (quoted : Bool) {d : Char} {a q s t : List Char}

/-! ## Spans -/

theorem pathFrom_span_append (h : d ∉ s) (rest : List Char) :
    conv.pathFrom quoted (.span d) (s ++ d :: rest) = s ++ d :: conv.path quoted rest := by
  induction s with
  | nil => simp [pathFrom, path]
  | cons c s ih =>
    obtain ⟨hc, hs⟩ := not_or.mp (mt List.mem_cons.mpr h)
    rw [List.cons_append, pathFrom, if_neg (Ne.symm hc), ih hs]
    rfl

theorem pathFrom_span_of_not_mem (h : d ∉ s) : conv.pathFrom quoted (.span d) s = s := by
  induction s with
  | nil => rfl
  | cons c s ih =>
    obtain ⟨hc, hs⟩ := not_or.mp (mt List.mem_cons.mpr h)
    rw [pathFrom, if_neg (Ne.symm hc), ih hs]

/-- A dot or a quote ends the segment in front of it. -/
theorem pathFrom_stop {x : Char} (hx : x = '.' ∨ isQuote x = true) (read rest : List Char) :
    conv.pathFrom quoted (.segment read) (x :: rest) =
      conv.segment quoted read ++ x :: conv.pathFrom quoted (.behind x) rest := by
  unfold PathPlace.behind
  rcases hx with rfl | hx
  · rfl
  · have hd := ne_dot_of_isQuote hx
    rw [pathFrom, if_neg hd, if_pos hx, if_neg hd]

theorem pathFrom_span (hq : IsSpan q) (read rest : List Char) :
    conv.pathFrom quoted (.segment read) (q ++ rest) =
      conv.segment quoted read ++ (q ++ conv.path quoted rest) := by
  obtain ⟨d, body, hd, hb, rfl⟩ := hq
  rw [List.append_assoc, List.cons_append, pathFrom_stop _ _ (.inr hd), PathPlace.behind,
    if_neg (ne_dot_of_isQuote hd), List.singleton_append, pathFrom_span_append _ _ hb]
  simp

theorem pathFrom_openSpan (hq : IsOpenSpan q) (read : List Char) :
    conv.pathFrom quoted (.segment read) q = conv.segment quoted read ++ q := by
  obtain ⟨d, rest, hd, hr, rfl⟩ := hq
  rw [pathFrom_stop _ _ (.inr hd), PathPlace.behind, if_neg (ne_dot_of_isQuote hd),
    pathFrom_span_of_not_mem _ _ hr]

/-! ## Behind closed quotes -/

/-- Behind closed quotes the reader stands in a segment. What it has written until then, and what it
has read of that segment, do not depend on what comes next. -/
theorem exists_pathFrom_append (h : QuotesClosed a) : ∀ read, ∃ written last, ∀ rest,
    conv.pathFrom quoted (.segment read) (a ++ rest) =
      written ++ conv.pathFrom quoted (.segment last) rest := by
  induction h with
  | nil => exact fun read => ⟨[], read, fun _ => rfl⟩
  | @cons c s hc _ ih =>
    intro read
    by_cases hd : c = '.'
    · obtain ⟨written, last, hw⟩ := ih []
      refine ⟨conv.segment quoted read ++ c :: written, last, fun rest => ?_⟩
      rw [List.cons_append, pathFrom_stop _ _ (.inl hd), PathPlace.behind, if_pos hd, hw,
        List.append_assoc, List.cons_append]
    · obtain ⟨written, last, hw⟩ := ih (read ++ [c])
      refine ⟨written, last, fun rest => ?_⟩
      rw [List.cons_append, pathFrom, if_neg hd, hc, ← hw rest]
      rfl
  | @span q s hq _ ih =>
    intro read
    obtain ⟨written, last, hw⟩ := ih []
    refine ⟨conv.segment quoted read ++ (q ++ written), last, fun rest => ?_⟩
    rw [List.append_assoc, pathFrom_span _ _ hq, path, hw]
    simp only [List.append_assoc]

/-- A path is written in two parts on either side of a dot or a quote that no quote encloses. -/
theorem path_append (h : QuotesClosed a) {x : Char} (hx : x = '.' ∨ isQuote x = true)
    (rest : List Char) : conv.path quoted (a ++ x :: rest) =
      conv.path quoted a ++ x :: conv.pathFrom quoted (.behind x) rest := by
  obtain ⟨written, last, hw⟩ := exists_pathFrom_append conv quoted h []
  have ha : conv.path quoted a = written ++ conv.segment quoted last := by
    have hn := hw []
    rwa [List.append_nil] at hn
  rw [ha, path, hw, pathFrom_stop _ _ hx, List.append_assoc]

theorem path_append_dot (h : QuotesClosed a) (b : List Char) :
    conv.path quoted (a ++ '.' :: b) = conv.path quoted a ++ '.' :: conv.path quoted b :=
  path_append conv quoted h (.inl rfl) b

theorem path_append_span (h : QuotesClosed a) (hq : IsSpan q) (b : List Char) :
    conv.path quoted (a ++ (q ++ b)) = conv.path quoted a ++ (q ++ conv.path quoted b) := by
  obtain ⟨d, body, hd, hb, rfl⟩ := hq
  rw [List.append_assoc, List.cons_append, path_append _ _ h (.inr hd), PathPlace.behind,
    if_neg (ne_dot_of_isQuote hd), List.singleton_append, pathFrom_span_append _ _ hb]
  simp

/-- A span alone is kept as it is. -/
theorem path_of_isSpan (hq : IsSpan q) : conv.path quoted q = q := by
  have hs := path_append_span conv quoted .nil hq []
  rwa [List.nil_append, List.append_nil, show conv.path quoted [] = [] from rfl, List.nil_append,
    List.append_nil] at hs

/-! ## Piece by piece -/

theorem path_segment_append (hs : IsSegment s) (rest : List Char) :
    conv.path quoted (s ++ rest) = conv.pathFrom quoted (.segment s) rest :=
  pathFrom_append conv quoted hs rest []

variable {conv quoted} in
theorem Converts.path_eq (h : conv.Converts quoted s t) : conv.path quoted s = t := by
  induction h with
  | segment hs => exact path_singleton conv quoted hs
  | dot hs _ ih =>
    rw [path_segment_append _ _ hs, pathFrom_stop _ _ (.inl rfl), ← ih]
    rfl
  | span hs hq _ ih => rw [path_segment_append _ _ hs, pathFrom_span _ _ hq, ih]
  | unclosed hs hq => rw [path_segment_append _ _ hs, pathFrom_openSpan _ _ hq]

/-- Every text is a segment up to its first dot or quote, if it has one. -/
theorem exists_segment_append (s : List Char) : ∃ a rest, s = a ++ rest ∧ IsSegment a ∧
    ∀ x ∈ rest.head?, x = '.' ∨ isQuote x = true := by
  induction s with
  | nil => exact ⟨[], [], rfl, by simp [IsSegment], by simp⟩
  | cons c s ih =>
    by_cases hc : c = '.' ∨ isQuote c = true
    · exact ⟨[], c :: s, rfl, by simp [IsSegment], by simpa using hc⟩
    · obtain ⟨a, rest, hs, ha, hr⟩ := ih
      obtain ⟨hd, hq⟩ := not_or.mp hc
      exact ⟨c :: a, rest, by rw [hs, List.cons_append],
        List.forall_mem_cons.mpr ⟨⟨hd, eq_false_of_ne_true hq⟩, ha⟩, hr⟩

/-- Every text has a conversion. -/
theorem exists_converts (s : List Char) : ∃ t, conv.Converts quoted s t := by
  obtain ⟨a, rest, hs, ha, hr⟩ := exists_segment_append s
  have hl : rest.length ≤ s.length := by
    rw [hs, List.length_append]
    exact Nat.le_add_left rest.length a.length
  rw [hs]
  cases rest with
  | nil =>
    rw [List.append_nil]
    exact ⟨_, .segment ha⟩
  | cons x rest =>
    rcases hr x rfl with rfl | hx
    · obtain ⟨t, ht⟩ := exists_converts rest
      exact ⟨_, .dot ha ht⟩
    · by_cases hm : x ∈ rest
      · -- The span ends at the first quote of its kind, and the text goes on behind it.
        obtain ⟨body, behind, rfl, hb⟩ := List.eq_append_cons_of_mem hm
        obtain ⟨t, ht⟩ := exists_converts behind
        have hq : IsSpan (x :: body ++ [x]) := ⟨x, body, hx, hb, rfl⟩
        have he : x :: (body ++ x :: behind) = x :: body ++ [x] ++ behind := by simp
        rw [he]
        exact ⟨_, .span ha hq ht⟩
      · exact ⟨_, .unclosed ha ⟨x, rest, hx, hm, rfl⟩⟩
termination_by s.length
decreasing_by
  · exact hl
  · rw [List.length_cons, List.length_append, List.length_cons] at hl
    omega

variable {conv quoted} in
/-- A path is converted piece by piece. -/
theorem converts_iff : conv.Converts quoted s t ↔ conv.path quoted s = t := by
  refine ⟨Converts.path_eq, ?_⟩
  rintro rfl
  obtain ⟨t, ht⟩ := exists_converts conv quoted s
  rwa [ht.path_eq]

end Convention

/-! ## Names -/

namespace Naming

/-- The database name of a path written by the caller, its words between quotes if `quoted`. -/
def storedName (naming : Naming) (quoted : Bool) (path : String) : String :=
  if quoted then naming.quotedName path else naming.bareName path

theorem toList_storedName (naming : Naming) (quoted : Bool) (path : String) :
    (naming.storedName quoted path).toList = naming.database.path quoted path.toList := by
  unfold storedName
  cases quoted with
  | false => exact String.toList_ofList
  | true => exact String.toList_ofList

/-- Names are converted piece by piece. Behind a part whose quotes are all closed, a dot or a quoted
span parts a path into pieces that are converted each on its own, and the span is kept as written.
So the name of any path is that of its segments, with dots and spans between them and with a quote
that is never closed, and all behind it, as written. -/
theorem storedName_converts (naming : Naming) (quoted : Bool) :
    (∀ a : String, QuotesClosed a.toList → ∀ b : String,
      naming.storedName quoted (a ++ "." ++ b) =
        naming.storedName quoted a ++ "." ++ naming.storedName quoted b ∧
      ∀ q : String, IsSpan q.toList →
        naming.storedName quoted (a ++ q ++ b) =
          naming.storedName quoted a ++ q ++ naming.storedName quoted b) ∧
    ∀ path name : String, naming.storedName quoted path = name ↔
      naming.database.Converts quoted path.toList name.toList := by
  refine ⟨fun a ha b => ⟨?_, fun q hq => ?_⟩, fun path name => ?_⟩
  · refine String.ext ?_
    have hd := Convention.path_append_dot naming.database quoted ha b.toList
    simpa [toList_storedName] using hd
  · refine String.ext ?_
    have hs := Convention.path_append_span naming.database quoted ha hq b.toList
    simpa [toList_storedName] using hs
  · rw [Convention.converts_iff, ← toList_storedName, String.toList_inj]

/-- A path with a span that has dots, marks and the other quote in it, and one that stays open. -/
theorem storedName_converts_mixed :
    let naming := ({} : Config).naming
    let a := "userAccounts.\"a.!b'C\""
    QuotesClosed a.toList ∧ IsSpan "'x\"Y'".toList ∧
    naming.storedName true (a ++ "." ++ "!createdAt.\"open.End") =
      naming.storedName true a ++ "." ++ naming.storedName true "!createdAt.\"open.End" ∧
    naming.storedName true (a ++ "'x\"Y'" ++ "dateOf") =
      naming.storedName true a ++ "'x\"Y'" ++ naming.storedName true "dateOf" ∧
    naming.storedName true a = "\"user_accounts\".\"a.!b'C\"" ∧
    naming.storedName true "!createdAt.\"open.End" = "created_at.\"open.End" := by
  intro naming a
  have hq : IsSpan "\"a.!b'C\"".toList :=
    ⟨'"', ['a', '.', '!', 'b', '\'', 'C'], rfl, by decide, by decide⟩
  have ha : QuotesClosed a.toList := by
    have hs : IsSegment "userAccounts".toList := by decide
    have he : a.toList = "userAccounts".toList ++ '.' :: ("\"a.!b'C\"".toList ++ []) := by decide
    rw [he]
    exact hs.closed_append (.cons rfl (.span hq .nil))
  have hx : IsSpan "'x\"Y'".toList := ⟨'\'', ['x', '"', 'Y'], rfl, by decide, by decide⟩
  obtain ⟨hp, hc⟩ := storedName_converts naming true
  refine ⟨ha, hx, (hp a ha "!createdAt.\"open.End").1, (hp a ha "dateOf").2 _ hx,
    by decide +kernel, (hc _ _).mpr ?_⟩
  have hs : IsSegment "!createdAt".toList := by decide
  have ho : IsOpenSpan "\"open.End".toList := ⟨'"', "open.End".toList, rfl, by decide, rfl⟩
  exact .dot hs (.unclosed (s := []) (by decide) ho)

end Naming

end SqlCompose
