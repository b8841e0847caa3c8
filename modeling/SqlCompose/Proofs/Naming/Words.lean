import SqlCompose.Proofs.Naming.Signs
import SqlCompose.Proofs.Naming.Unquoted
import SqlCompose.Proofs.Text.SmallLetters

/-!
# Words in any letter case

A word in small letters stays the same word with a capital in front (`sameWord_capitalWord`). The
words of a name are found again between underscores (`words_intercalate`), and without these at
their capitals if a small letter follows each (`words_flatten_capitalWord`).
-/

namespace SqlCompose.Text

/-! ## Letters and capitals -/

/-- Is `d` the capital of `c`, or a digit that is `c` itself: do the case mappings lead from one to
the other and to nothing else? The lower-case form of sigma depends on its place. -/
structure Paired (c d : Char) : Prop where
  upper : upper c = [d]
  lower : lower d = [c]
  isAlphanumeric : isAlphanumeric d = true
  not_isLowercase : isLowercase d = false
  ne_sigma : d ≠ 'Σ'

instance (c d : Char) : Decidable (Paired c d) :=
  decidable_of_iff (_ ∧ _ ∧ _ ∧ _ ∧ _)
    ⟨fun h => ⟨h.1, h.2.1, h.2.2.1, h.2.2.2.1, h.2.2.2.2⟩, fun h => ⟨h.1, h.2, h.3, h.4, h.5⟩⟩

/-- A small letter of ASCII has its capital there, and a digit is its own. -/
theorem paired_toUpper {c : Char} (h : c.isLower = true ∨ c.isDigit = true) : Paired c c.toUpper :=
  forall_ascii (P := fun c => c.isLower = true ∨ c.isDigit = true → Paired c c.toUpper)
    (by decide +kernel) (lt_of_isLower_or_isDigit h) h

theorem isUppercase_toUpper {c : Char} (h : c.isLower = true) : isUppercase c.toUpper = true :=
  forall_ascii (P := fun c => c.isLower = true → isUppercase c.toUpper = true)
    (by decide +kernel) (lt_of_isLower_or_isDigit (.inl h)) h

theorem isLowercase_of_isLower {c : Char} (h : c.isLower = true) : isLowercase c = true := by
  rw [isLowercase_of_ascii (lt_of_isLower_or_isDigit (.inl h)), h]

theorem IsSmall.ne_sigma {c : Char} (h : IsSmall c) : c ≠ 'Σ' := by
  rintro rfl
  exact absurd h.2.1 (by decide +kernel)

/-! ## Words that differ in letter case -/

/-- The words are the same in each form. -/
structure SameWord (v w : List Char) : Prop where
  lower : lowerWord v = lowerWord w
  upper : upperWord v = upperWord w
  capital : capitalWord v = capitalWord w

variable {a : Char} {s v w : List Char}

theorem lowerWord_cons {c : Char} (h : c ≠ 'Σ') (s : List Char) :
    lowerWord (c :: s) = lower c ++ lowerWord s := by
  cases s with
  | nil => simp [lowerWord, h]
  | cons next s => rfl

/-- Small letters are their own lower-case form. -/
theorem lowerWord_of_isSmall (h : ∀ c ∈ w, IsSmall c) : lowerWord w = w := by
  induction w with
  | nil => rfl
  | cons c w ih =>
    obtain ⟨hc, hw⟩ := List.forall_mem_cons.mp h
    rw [lowerWord_cons hc.ne_sigma, hc.2.2, ih hw, List.singleton_append]

/-- Capitals are their own upper-case form. -/
theorem upperWord_upperWord (w : List Char) : upperWord (upperWord w) = upperWord w := by
  have hc : ∀ c ∈ w, (upper c).flatMap upper = upper c := fun c _ =>
    (List.flatMap_congr fun d hd => upper_of_mem_upper hd).trans (List.flatMap_singleton' (upper c))
  unfold upperWord
  rw [List.flatMap_assoc, List.flatMap_congr hc]

section FirstLetter

variable (ha : a.isLower = true)

include ha

theorem upperWord_cons (s : List Char) : upperWord (a :: s) = a.toUpper :: upperWord s := by
  show upper a ++ upperWord s = _
  rw [(paired_toUpper (.inl ha)).upper, List.singleton_append]

theorem capitalWord_cons (s : List Char) : capitalWord (a :: s) = a.toUpper :: lowerWord s := by
  show upper a ++ lowerWord s = _
  rw [(paired_toUpper (.inl ha)).upper, List.singleton_append]

theorem lowerWord_toUpper_cons (s : List Char) : lowerWord (a.toUpper :: s) = a :: lowerWord s := by
  have hp := paired_toUpper (.inl ha)
  rw [lowerWord_cons hp.ne_sigma, hp.lower, List.singleton_append]

theorem upper_toUpper : upper a.toUpper = [a.toUpper] :=
  upper_of_mem_upper (by rw [(paired_toUpper (.inl ha)).upper]; exact List.mem_singleton_self _)

theorem upperWord_toUpper_cons (s : List Char) :
    upperWord (a.toUpper :: s) = a.toUpper :: upperWord s := by
  show upper a.toUpper ++ upperWord s = _
  rw [upper_toUpper ha, List.singleton_append]

theorem capitalWord_toUpper_cons (s : List Char) :
    capitalWord (a.toUpper :: s) = a.toUpper :: lowerWord s := by
  show upper a.toUpper ++ lowerWord s = _
  rw [upper_toUpper ha, List.singleton_append]

end FirstLetter

/-! ## Words next to each other -/

theorem splitWhere_append {sep : Char → Bool} {c : Char} (hc : sep c = true) {piece : List Char}
    (hp : ∀ x ∈ piece, sep x = false) (s : List Char) :
    splitWhere sep (piece ++ c :: s) = piece :: splitWhere sep s := by
  induction piece with
  | nil => exact splitWhere_sep hc s
  | cons x piece ih =>
    obtain ⟨hx, hp⟩ := List.forall_mem_cons.mp hp
    simp [splitWhere, hx, ih hp]

theorem splitWhere_intercalate {sep : Char → Bool} {c : Char} (hc : sep c = true)
    {pieces : List (List Char)} (hn : pieces ≠ [])
    (hp : ∀ piece ∈ pieces, ∀ x ∈ piece, sep x = false) :
    splitWhere sep (List.intercalate [c] pieces) = pieces := by
  induction pieces with
  | nil => exact absurd rfl hn
  | cons piece pieces ih =>
    obtain ⟨hf, hr⟩ := List.forall_mem_cons.mp hp
    cases pieces with
    | nil =>
      rw [List.intercalate_singleton]
      exact splitWhere_of_none hf
    | cons next pieces =>
      rw [List.intercalate_cons_cons, List.append_assoc, List.singleton_append,
        splitWhere_append hc hf, ih (by simp) hr]

/-- Have the words no more than letters and digits? -/
def Lettered (vs : List (List Char)) : Prop := ∀ v ∈ vs, ∀ x ∈ v, isAlphanumeric x = true

variable {vs : List (List Char)}

theorem words_of_alphanumeric (h : ∀ x ∈ s, isAlphanumeric x = true) :
    words s = wordsFrom .undecided [] s := by
  unfold words
  rw [splitWhere_of_none fun x hx => by simp [h x hx], List.flatMap_singleton]

/-- Is the word found again as one? -/
def IsWhole (v : List Char) : Prop := words v = [v]

instance (v : List Char) : Decidable (IsWhole v) := inferInstanceAs (Decidable (_ = _))

theorem IsWhole.isAlphanumeric (h : IsWhole v) : ∀ x ∈ v, isAlphanumeric x = true := by
  have hf := flatten_words v
  rw [h, List.flatten_singleton] at hf
  exact List.filter_eq_self.mp hf.symm

theorem isWhole_iff (ha : ∀ x ∈ v, isAlphanumeric x = true) :
    IsWhole v ↔ wordsFrom .undecided [] v = [v] := by
  rw [IsWhole, words_of_alphanumeric ha]

/-- The words that words are cut into when they are read again, each on its own. -/
def recut (vs : List (List Char)) : List (List Char) := vs.flatMap (wordsFrom .undecided [])

theorem wordsFrom_ne_nil (k : WordCase) (word : List Char) (h : s ≠ []) :
    wordsFrom k word s ≠ [] := by
  intro hn
  have hf := flatten_wordsFrom k word s h
  rw [hn] at hf
  exact h (List.append_eq_nil_iff.mp hf.symm).2

theorem recut_of_isWhole (h : ∀ v ∈ vs, IsWhole v) : recut vs = vs := by
  unfold recut
  rw [List.flatMap_congr fun v hv => (isWhole_iff (h v hv).isAlphanumeric).mp (h v hv),
    List.flatMap_singleton']

theorem lettered_recut (h : Lettered vs) : Lettered (recut vs) := by
  intro w hw x hx
  obtain ⟨v, hv, hw⟩ := List.mem_flatMap.mp hw
  exact h v hv x (mem_of_mem_wordsFrom .undecided [] v w hw hx)

section Recut

variable (hn : ∀ v ∈ vs, v ≠ [])

include hn

theorem length_le_length_recut : vs.length ≤ (recut vs).length :=
  length_le_length_flatMap fun v hv => wordsFrom_ne_nil .undecided [] (hn v hv)

/-- If there are no more words than before, none has been cut. -/
theorem isWhole_of_length_recut_le (h : Lettered vs) (hl : (recut vs).length ≤ vs.length) :
    ∀ v ∈ vs, IsWhole v := by
  intro v hv
  have hne : ∀ v ∈ vs, wordsFrom .undecided [] v ≠ [] := fun v hv =>
    wordsFrom_ne_nil .undecided [] (hn v hv)
  obtain ⟨w, hw⟩ := exists_eq_singleton_of_length_flatMap_le hne hl v hv
  have hf := flatten_wordsFrom .undecided [] v (hn v hv)
  rw [hw, List.flatten_singleton, List.nil_append] at hf
  rw [isWhole_iff (h v hv), hw, hf]

end Recut

/-- Between underscores each word is cut on its own. -/
theorem words_intercalate (h : Lettered vs) : words (List.intercalate ['_'] vs) = recut vs := by
  cases vs with
  | nil => rfl
  | cons v vs =>
    have hs : splitWhere (fun c => !isAlphanumeric c) (List.intercalate ['_'] (v :: vs)) =
        v :: vs :=
      splitWhere_intercalate (by decide) (List.cons_ne_nil v vs)
        fun v hv x hx => by simp [h v hv x hx]
    unfold words recut
    rw [hs]

theorem words_intercalate_of_isWhole (h : ∀ v ∈ vs, IsWhole v) :
    words (List.intercalate ['_'] vs) = vs := by
  rw [words_intercalate fun v hv => (h v hv).isAlphanumeric, recut_of_isWhole h]

theorem words_flatten (h : Lettered vs) (hw : wordsFrom .undecided [] vs.flatten = vs) :
    words vs.flatten = vs := by
  refine (words_of_alphanumeric fun x hx => ?_).trans hw
  obtain ⟨v, hv, hx⟩ := List.mem_flatten.mp hx
  exact h v hv x hx

/-! ## Cutting at capitals -/

theorem WordCase.after_eq_lower {k : WordCase} (hk : k = .lower) {c : Char}
    (h : isUppercase c = false) : k.after c = .lower := by
  simp [after, hk, h]

theorem WordCase.after_of_isLowercase (k : WordCase) {c : Char} (h : isLowercase c = true) :
    k.after c = .lower := by
  simp [after, h]

/-- A word in small letters ends where a capital follows. -/
theorem wordsFrom_append {s rest : List Char} (hr : ∀ x ∈ rest.head?, isUppercase x = true) :
    ∀ {k : WordCase} {c : Char} (word : List Char), k.after c = .lower →
      (∀ x ∈ c :: s, isUppercase x = false) →
      wordsFrom k word (c :: (s ++ rest)) = (word ++ c :: s) :: wordsFrom .undecided [] rest := by
  induction s with
  | nil =>
    intro k c word hk hc
    cases rest with
    | nil => rfl
    | cons x rest =>
      have hx := hr x rfl
      simp [wordsFrom, hk, hx]
  | cons next s ih =>
    intro k c word hk hc
    obtain ⟨hc, hs⟩ := List.forall_mem_cons.mp hc
    have hn := hs next List.mem_cons_self
    have hi := ih (word ++ [c]) (WordCase.after_eq_lower hk hn) hs
    simp only [List.cons_append, wordsFrom, hc, hn]
    simpa using hi

/-- A word without small letters is not cut. -/
theorem wordsFrom_of_not_isLowercase {s : List Char} :
    ∀ {k : WordCase} {c : Char} (word : List Char), k ≠ .lower →
      (∀ x ∈ c :: s, isLowercase x = false) → wordsFrom k word (c :: s) = [word ++ c :: s] := by
  induction s with
  | nil => intros; rfl
  | cons next s ih =>
    intro k c word hk hc
    obtain ⟨hc, hs⟩ := List.forall_mem_cons.mp hc
    have ha : k.after c ≠ .lower := by
      unfold WordCase.after
      rw [hc]
      split
      · contradiction
      · split
        · simp
        · exact hk
    have hi := ih (word ++ [c]) ha hs
    simp only [wordsFrom, ha, hs next List.mem_cons_self]
    simpa using hi

/-- The first letter of a word may be a capital if a small letter follows. -/
theorem wordsFrom_cons_append {a b : Char} {s rest : List Char} (hb : isLowercase b = true)
    (hs : ∀ x ∈ b :: s, isUppercase x = false) (hr : ∀ x ∈ rest.head?, isUppercase x = true) :
    wordsFrom .undecided [] (a :: b :: (s ++ rest)) =
      (a :: b :: s) :: wordsFrom .undecided [] rest := by
  have hw := wordsFrom_append hr (k := WordCase.undecided.after a) [a]
    (WordCase.after_of_isLowercase _ hb) hs
  have hn := hs b List.mem_cons_self
  simpa [wordsFrom, hn] using hw

/-- If the first word starts with a capital, so does every word. -/
theorem leads_of_mem_wordsFrom (k : WordCase) (word s : List Char) (hk : k = .upper → word ≠ [])
    (hw : Leads isUppercase (word ++ s)) : ∀ v ∈ wordsFrom k word s, Leads isUppercase v := by
  have hu : WordCase.undecided ≠ .upper := by decide
  fun_induction wordsFrom k word s with
  | case1 => simp
  | case2 k word c => exact List.forall_mem_singleton.mpr hw
  | case3 k word c next s h ih =>
    have hr : Leads isUppercase ([] ++ next :: s) := leads_cons h.2 s
    rw [List.append_cons] at hw
    exact List.forall_mem_cons.mpr ⟨hw.of_append (by simp), ih (absurd · hu) hr⟩
  | case4 k word c next s _ h ih =>
    have hr : Leads isUppercase ([c] ++ next :: s) := leads_cons h.2.1 (next :: s)
    exact List.forall_mem_cons.mpr ⟨hw.of_append (hk h.1), ih (absurd · hu) hr⟩
  | case5 k word c next s _ _ ih =>
    rw [List.append_cons] at hw
    exact ih (fun _ => by simp) hw

/-! ## Plain words -/

/-- Is it a letter or a digit in neither case? -/
def IsCaseless (c : Char) : Prop :=
  isAlphanumeric c = true ∧ isLowercase c = false ∧ isUppercase c = false ∧ lower c = [c]

instance (c : Char) : Decidable (IsCaseless c) := inferInstanceAs (Decidable (_ ∧ _ ∧ _ ∧ _))

theorem isCaseless_of_isDigit {c : Char} (h : c.isDigit = true) : IsCaseless c :=
  forall_ascii (P := fun c => c.isDigit = true → IsCaseless c)
    (by decide +kernel) (lt_of_isLower_or_isDigit (.inr h)) h

/-- Words that start with two small letters of ASCII. Then come small letters of any alphabet, and
digits and other letters without case. -/
inductive IsPlain : List Char → Prop
  | mk {a b : Char} {s : List Char} (first : a.isLower = true) (second : b.isLower = true)
    (rest : ∀ c ∈ s, isLowercase c = true ∨ IsCaseless c) : IsPlain (a :: b :: s)

namespace IsPlain

theorem of_all {a b : Char} {s : List Char} (ha : a.isLower = true) (hb : b.isLower = true)
    (hs : s.all isLowercase = true) : IsPlain (a :: b :: s) :=
  .mk ha hb fun c hc => .inl (List.all_eq_true.mp hs c hc)

theorem exists_eq_cons (h : IsPlain w) : ∃ a b s, w = a :: b :: s ∧ a.isLower = true ∧
    b.isLower = true ∧ ∀ c ∈ b :: s, IsSmall c := by
  obtain ⟨ha, hb, hs⟩ := h
  refine ⟨_, _, _, rfl, ha, hb, List.forall_mem_cons.mpr
    ⟨isSmall_of_isLower_or_isDigit (.inl hb), fun c hc => ?_⟩⟩
  rcases hs c hc with h | ⟨h, -, hu, hl⟩
  · exact isSmall_of_isLowercase h
  · exact ⟨h, hu, hl⟩

theorem isSmall (h : IsPlain w) : ∀ c ∈ w, IsSmall c := by
  obtain ⟨a, b, s, rfl, ha, -, hs⟩ := h.exists_eq_cons
  exact List.forall_mem_cons.mpr ⟨isSmall_of_isLower_or_isDigit (.inl ha), hs⟩

theorem isAlphanumeric (h : IsPlain w) : ∀ c ∈ w, isAlphanumeric c = true :=
  fun c hc => (h.isSmall c hc).1

theorem not_isUppercase (h : IsPlain w) : ∀ c ∈ w, isUppercase c = false :=
  fun c hc => (h.isSmall c hc).2.1

theorem lowerWord_eq (h : IsPlain w) : lowerWord w = w := lowerWord_of_isSmall h.isSmall

theorem upperWord_eq (h : IsPlain w) :
    ∃ a b s, upperWord w = a :: b :: s ∧ isUppercase a = true := by
  obtain ⟨a, b, s, rfl, ha, hb, -⟩ := h.exists_eq_cons
  rw [upperWord_cons ha, upperWord_cons hb]
  exact ⟨_, _, _, rfl, isUppercase_toUpper ha⟩

theorem upperWord_ne_nil (h : IsPlain w) : upperWord w ≠ [] := by
  obtain ⟨a, b, s, he, -⟩ := h.upperWord_eq
  rw [he]
  exact List.cons_ne_nil a (b :: s)

/-- Only the first letter of a word with a capital is one. -/
theorem capitalWord_eq (h : IsPlain w) : ∃ a b s, isUppercase a = true ∧ isLowercase b = true ∧
    (∀ x ∈ b :: s, isUppercase x = false) ∧ capitalWord w = a :: b :: s := by
  obtain ⟨a, b, s, rfl, ha, hb, hs⟩ := h.exists_eq_cons
  refine ⟨a.toUpper, b, s, isUppercase_toUpper ha, isLowercase_of_isLower hb,
    fun x hx => (hs x hx).2.1, ?_⟩
  rw [capitalWord_cons ha, lowerWord_of_isSmall hs]

theorem isAlphanumeric_capitalWord (h : IsPlain w) :
    ∀ x ∈ capitalWord w, Text.isAlphanumeric x = true := by
  obtain ⟨a, b, s, rfl, ha, -, hs⟩ := h.exists_eq_cons
  rw [capitalWord_cons ha, lowerWord_of_isSmall hs]
  exact List.forall_mem_cons.mpr
    ⟨(paired_toUpper (.inl ha)).isAlphanumeric, fun x hx => (hs x hx).1⟩

theorem leadsAlone_capitalWord (h : IsPlain w) : LeadsAlone isUppercase (capitalWord w) := by
  obtain ⟨a, b, s, ha, -, hs, he⟩ := h.capitalWord_eq
  exact ⟨a, b :: s, he, ha, hs⟩

/-- A plain word ends where a capital follows. -/
theorem wordsFrom_append (h : IsPlain w) {rest : List Char}
    (hr : ∀ x ∈ rest.head?, isUppercase x = true) :
    wordsFrom .undecided [] (w ++ rest) = w :: wordsFrom .undecided [] rest := by
  have hs := h.not_isUppercase
  obtain ⟨a, b, s, rfl, ha, -, -⟩ := h.exists_eq_cons
  exact Text.wordsFrom_append hr [] (WordCase.after_of_isLowercase _ (isLowercase_of_isLower ha)) hs

theorem isWhole (h : IsPlain w) : IsWhole w := by
  have hw : wordsFrom .undecided [] (w ++ []) = [w] := h.wordsFrom_append (by simp)
  rw [List.append_nil] at hw
  exact (isWhole_iff h.isAlphanumeric).mpr hw

/-- With a capital in front, the words that the capitals of a word are cut into keep theirs. -/
theorem leads_capitalWord (h : IsPlain w) (hv : v ∈ wordsFrom .undecided [] (upperWord w)) :
    Leads isUppercase (capitalWord v) := by
  have hl : Leads isUppercase v := by
    obtain ⟨a, b, s, he, ha⟩ := h.upperWord_eq
    rw [he] at hv
    exact leads_of_mem_wordsFrom .undecided [] _ nofun (leads_cons ha (b :: s)) v hv
  obtain ⟨x, t, rfl, hx⟩ := hl
  have hm := mem_of_mem_wordsFrom .undecided [] _ _ hv List.mem_cons_self
  obtain ⟨c, -, hc⟩ := List.mem_flatMap.mp hm
  show Leads isUppercase (upper x ++ lowerWord t)
  rw [upper_of_mem_upper hc, List.singleton_append]
  exact leads_cons hx (lowerWord t)

theorem sameWord_capitalWord (h : IsPlain w) : SameWord (capitalWord w) w := by
  have hl := h.lowerWord_eq
  obtain ⟨a, b, s, rfl, ha, -, hs⟩ := h.exists_eq_cons
  rw [capitalWord_cons ha, lowerWord_of_isSmall hs]
  refine ⟨?_, ?_, ?_⟩
  · rw [lowerWord_toUpper_cons ha, lowerWord_of_isSmall hs, hl]
  · rw [upperWord_toUpper_cons ha, upperWord_cons ha]
  · rw [capitalWord_toUpper_cons ha, capitalWord_cons ha]

/-- A word with a capital in front is no other one from its capitals if these lead back to it. -/
theorem capitalWord_upperWord_iff (h : IsPlain w) :
    capitalWord (upperWord w) = capitalWord w ↔ lowerWord (upperWord w) = w := by
  have hl := h.lowerWord_eq
  obtain ⟨a, b, s, rfl, ha, -, hs⟩ := h.exists_eq_cons
  rw [upperWord_cons ha, capitalWord_toUpper_cons ha, capitalWord_cons ha,
    lowerWord_toUpper_cons ha, lowerWord_of_isSmall hs, List.cons_inj_right, List.cons_inj_right]

end IsPlain

/-! ## Names of plain words -/

section Plain

variable {ws : List (List Char)} (h : ∀ w ∈ ws, IsPlain w)

include h

theorem wordsFrom_flatten_capitalWord :
    (∀ x ∈ (ws.map capitalWord).flatten.head?, isUppercase x = true) ∧
      wordsFrom .undecided [] (ws.map capitalWord).flatten = ws.map capitalWord := by
  induction ws with
  | nil => simp [wordsFrom]
  | cons w ws ih =>
    obtain ⟨hw, hs⟩ := List.forall_mem_cons.mp h
    obtain ⟨hh, hf⟩ := ih hs
    obtain ⟨a, b, s, ha, hb, hl, he⟩ := hw.capitalWord_eq
    rw [List.map_cons, List.flatten_cons, he]
    refine ⟨by simp [ha], ?_⟩
    rw [List.cons_append, List.cons_append, wordsFrom_cons_append hb hl hh, hf]

theorem lettered_capitalWord : Lettered (ws.map capitalWord) :=
  List.forall_mem_map.mpr fun w hw => (h w hw).isAlphanumeric_capitalWord

/-- Words with capitals are found again without anything between them. -/
theorem words_flatten_capitalWord : words (ws.map capitalWord).flatten = ws.map capitalWord :=
  words_flatten (lettered_capitalWord h) (wordsFrom_flatten_capitalWord h).2

end Plain

/-- The first word may also be in small letters. -/
theorem words_flatten_cons_capitalWord {ws : List (List Char)} (h : ∀ v ∈ w :: ws, IsPlain v) :
    words (w :: ws.map capitalWord).flatten = w :: ws.map capitalWord := by
  obtain ⟨hw, hs⟩ := List.forall_mem_cons.mp h
  obtain ⟨hh, hf⟩ := wordsFrom_flatten_capitalWord hs
  refine words_flatten (List.forall_mem_cons.mpr ⟨hw.isAlphanumeric, lettered_capitalWord hs⟩) ?_
  rw [List.flatten_cons, hw.wordsFrom_append hh, hf]

/-! ## Words with capitals of their own -/

/-- Has every letter of the word a capital of its own? -/
def HasCapitals (w : List Char) : Prop := ∀ c ∈ w, ∃ d, Paired c d

namespace HasCapitals

theorem of_forall₂ (h : List.Forall₂ Paired w v) : HasCapitals w := by
  induction h with
  | nil => nofun
  | cons hp _ ih => exact List.forall_mem_cons.mpr ⟨⟨_, hp⟩, ih⟩

theorem upperWord_spec (h : HasCapitals w) :
    (∀ d ∈ upperWord w, isAlphanumeric d = true ∧ isLowercase d = false) ∧
      lowerWord (upperWord w) = w := by
  induction w with
  | nil => exact ⟨nofun, rfl⟩
  | cons c w ih =>
    obtain ⟨⟨d, hp⟩, hw⟩ := List.forall_mem_cons.mp h
    obtain ⟨hi, hl⟩ := ih hw
    have he : upperWord (c :: w) = d :: upperWord w := by
      show upper c ++ upperWord w = _
      rw [hp.upper, List.singleton_append]
    rw [he]
    refine ⟨List.forall_mem_cons.mpr ⟨⟨hp.isAlphanumeric, hp.not_isLowercase⟩, hi⟩, ?_⟩
    rw [lowerWord_cons hp.ne_sigma, hp.lower, hl, List.singleton_append]

theorem lowerWord_upperWord (h : HasCapitals w) : lowerWord (upperWord w) = w := h.upperWord_spec.2

theorem isWhole_upperWord (h : HasCapitals w) (hw : IsPlain w) : IsWhole (upperWord w) := by
  obtain ⟨hu, -⟩ := h.upperWord_spec
  refine (isWhole_iff fun d hd => (hu d hd).1).mpr ?_
  obtain ⟨a, b, s, he, -⟩ := hw.upperWord_eq
  rw [he] at hu ⊢
  exact wordsFrom_of_not_isLowercase [] (by decide) fun d hd => (hu d hd).2

end HasCapitals

end SqlCompose.Text
