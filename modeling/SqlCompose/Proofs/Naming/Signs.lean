import SqlCompose.Naming.Path
import SqlCompose.Proofs.Text.LetterCase

/-!
# The signs in names

Names in a convention have no signs but those of the name as written, apart from the hyphens and
underscores between words and the quotes around them (`mem_of_mem_path`).
-/

namespace SqlCompose

namespace Text

variable {d : Char}

theorem mem_of_mem_splitWhere {sep : Char → Bool} {s : List Char} :
    ∀ piece ∈ splitWhere sep s, d ∈ piece → d ∈ s := by
  induction s with
  | nil =>
    intro piece hp hd
    obtain rfl := List.mem_singleton.mp hp
    exact hd
  | cons c s ih =>
    intro piece hp hd
    unfold splitWhere at hp
    split at hp
    · rcases List.mem_cons.mp hp with rfl | hp
      · cases hd
      · exact List.mem_cons_of_mem c (ih piece hp hd)
    · split at hp
      · rename_i hn
        exact absurd hn (splitWhere_ne_nil sep s)
      · rename_i first pieces hs
        rcases List.mem_cons.mp hp with rfl | hp
        · rcases List.mem_cons.mp hd with rfl | hd
          · exact List.mem_cons_self
          · exact List.mem_cons_of_mem c (ih first (hs ▸ List.mem_cons_self) hd)
        · exact List.mem_cons_of_mem c (ih piece (hs ▸ List.mem_cons_of_mem first hp) hd)

theorem mem_of_mem_wordsFrom (k : WordCase) (word s : List Char) :
    ∀ w ∈ wordsFrom k word s, d ∈ w → d ∈ word ++ s := by
  fun_induction wordsFrom k word s with
  | case1 => simp
  | case2 => simp
  | case3 k word c next s h ih =>
    intro w hw hd
    rcases List.mem_cons.mp hw with rfl | hw
    · rw [← List.singleton_append, ← List.append_assoc]
      exact List.mem_append_left _ hd
    · exact List.mem_append_right word (List.mem_cons_of_mem c (ih w hw hd))
  | case4 k word c next s h₁ h₂ ih =>
    intro w hw hd
    rcases List.mem_cons.mp hw with rfl | hw
    · exact List.mem_append_left _ hd
    · exact List.mem_append_right word (ih w hw hd)
  | case5 k word c next s h₁ h₂ ih =>
    intro w hw hd
    have hs := ih w hw hd
    rwa [List.append_assoc] at hs

theorem mem_of_mem_words {name : List Char} : ∀ w ∈ words name, d ∈ w → d ∈ name := by
  intro w hw hd
  obtain ⟨piece, hp, hw⟩ := List.mem_flatMap.mp hw
  exact mem_of_mem_splitWhere piece hp (mem_of_mem_wordsFrom .undecided [] piece w hw hd)

theorem mem_double {q : Char} {s : List Char} (h : d ∈ Delimited.double q s) : d ∈ s := by
  induction s with
  | nil => exact h
  | cons c s ih =>
    unfold Delimited.double at h
    split at h
    · rename_i hc
      rw [hc]
      rcases List.mem_cons.mp h with rfl | h
      · exact List.mem_cons_self
      · rcases List.mem_cons.mp h with rfl | h
        · exact List.mem_cons_self
        · exact List.mem_cons_of_mem q (ih h)
    · rcases List.mem_cons.mp h with rfl | h
      · exact List.mem_cons_self
      · exact List.mem_cons_of_mem c (ih h)

/-- Delimiters are all that stands around a text. -/
theorem mem_encode {q : Char} {s : List Char} (h : d ∈ Delimited.encode q s) : d = q ∨ d ∈ s := by
  unfold Delimited.encode at h
  simp only [List.cons_append, List.mem_cons, List.mem_append, List.not_mem_nil, or_false] at h
  rcases h with h | h | h
  · exact .inl h
  · exact .inr (mem_double h)
  · exact .inl h

end Text

open Text

/-- Is the character a sign that no convention brings into a name? -/
def IsForeign (d : Char) : Prop := IsSign d ∧ d ≠ '_' ∧ d ≠ '-' ∧ d ≠ '"'

instance (d : Char) : Decidable (IsForeign d) := inferInstanceAs (Decidable (_ ∧ _ ∧ _ ∧ _))

/-- The part of a segment that has been read. -/
def PathPlace.read : PathPlace → List Char
  | .segment read => read
  | .span _ => []

namespace Convention

variable {d : Char}

theorem mem_of_mem_joinedWords {sep : Char} (hs : d ≠ sep) {f : List Char → List Char}
    (hf : ∀ {w : List Char}, d ∈ f w → d ∈ w) {name : List Char}
    (h : d ∈ List.intercalate [sep] ((words name).map f)) : d ∈ name := by
  rcases mem_intercalate h with h | ⟨part, hp, h⟩
  · exact absurd (List.mem_singleton.mp h) hs
  · obtain ⟨w, hw, rfl⟩ := List.mem_map.mp hp
    exact mem_of_mem_words w hw (hf h)

theorem mem_of_mem_capitalWords (hd : IsSign d) {ws : List (List Char)}
    (h : d ∈ ws.flatMap capitalWord) : ∃ w ∈ ws, d ∈ w := by
  obtain ⟨w, hw, h⟩ := List.mem_flatMap.mp h
  exact ⟨w, hw, mem_of_mem_capitalWord hd h⟩

/-- A spelling has no sign but those of the name and what stands between words. -/
theorem mem_of_mem_apply (hd : IsSign d) (hu : d ≠ '_') (hh : d ≠ '-') {c : Convention}
    {name : List Char} (h : d ∈ c.apply name) : d ∈ name := by
  cases c with
  | snake => exact mem_of_mem_joinedWords hu (mem_of_mem_lowerWord hd) h
  | camel =>
    have hc : d ∈ camelWords (words name) := h
    cases hw : words name with
    | nil => rw [hw] at hc; cases hc
    | cons w ws =>
      rw [hw] at hc
      rcases List.mem_append.mp hc with hc | hc
      · exact mem_of_mem_words w (hw ▸ List.mem_cons_self) (mem_of_mem_lowerWord hd hc)
      · obtain ⟨v, hv, hc⟩ := mem_of_mem_capitalWords hd hc
        exact mem_of_mem_words v (hw ▸ List.mem_cons_of_mem w hv) hc
  | pascal =>
    obtain ⟨w, hw, h⟩ := mem_of_mem_capitalWords hd h
    exact mem_of_mem_words w hw h
  | kebab => exact mem_of_mem_joinedWords hh (mem_of_mem_lowerWord hd) h
  | screamingSnake => exact mem_of_mem_joinedWords hu (mem_of_mem_upperWord hd) h
  | preserve => exact h

variable (hd : IsForeign d)

include hd

theorem mem_of_mem_segment {c : Convention} {quoted : Bool} {s : List Char}
    (h : d ∈ c.segment quoted s) : d ∈ s := by
  unfold segment at h
  split at h
  rename_i bare quoted' hs
  have hb : d ∈ bare := by
    split at h
    · exact h
    split at h
    · rcases mem_encode h with h | h
      · exact absurd h hd.2.2.2
      · exact mem_of_mem_apply hd.1 hd.2.1 hd.2.2.1 h
    · exact mem_of_mem_apply hd.1 hd.2.1 hd.2.2.1 h
  split at hs
  · cases hs
    exact List.mem_cons_of_mem _ hb
  · cases hs
    exact hb

theorem mem_of_mem_segment_append {c : Convention} {quoted : Bool} {x : Char}
    {read rest s : List Char} (h : d ∈ c.segment quoted read ++ x :: rest)
    (hs : d ∈ rest → d ∈ s) : d ∈ read ++ x :: s := by
  rcases List.mem_append.mp h with h | h
  · exact List.mem_append_left _ (mem_of_mem_segment hd h)
  · refine List.mem_append_right read ?_
    rcases List.mem_cons.mp h with rfl | h
    · exact List.mem_cons_self
    · exact List.mem_cons_of_mem x (hs h)

theorem mem_of_mem_pathFrom {c : Convention} {quoted : Bool} (place : PathPlace) (s : List Char) :
    d ∈ c.pathFrom quoted place s → d ∈ place.read ++ s := by
  fun_induction c.pathFrom quoted place s with
  | case1 read =>
    intro h
    exact List.mem_append_left _ (mem_of_mem_segment hd h)
  | case2 read s ih =>
    intro h
    exact mem_of_mem_segment_append hd h ih
  | case3 read x s _ _ ih =>
    intro h
    exact mem_of_mem_segment_append hd h ih
  | case4 read x s _ _ ih =>
    intro h
    have hs := ih h
    change d ∈ (read ++ [x]) ++ s at hs
    rwa [List.append_assoc] at hs
  | case5 => exact id
  | case6 delimiter x s ih =>
    intro h
    rcases List.mem_cons.mp h with rfl | h
    · exact List.mem_cons_self
    · refine List.mem_cons_of_mem x ?_
      have hs := ih h
      split at hs
      · exact hs
      · exact hs

/-- A path has no foreign character but those of the path as written. -/
theorem mem_of_mem_path {c : Convention} {quoted : Bool} {s : List Char}
    (h : d ∈ c.path quoted s) : d ∈ s :=
  mem_of_mem_pathFrom hd (.segment []) s h

end Convention

end SqlCompose
