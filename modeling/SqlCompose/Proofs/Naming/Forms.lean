import SqlCompose.Proofs.Naming.Words

/-!
# Names from one convention to another

A convention gives each word of a name a form and joins the forms (`apply_eq_joined`). The words of
a spelling are these forms again (`words_joined_forms`), and so another convention makes of it what it
makes of the name. If the spelling has words in capitals, that is the case exactly if each of them
is found again as one word and leads back to the small letters (`respelled_iff`).
-/

namespace SqlCompose.Convention

open Text

/-- The conventions whose spellings are words of letters, digits and underscores. -/
def wordConventions : List Convention := [snake, camel, pascal, screamingSnake]

/-- Words in the letter case that the convention gives them. -/
def forms : Convention → List (List Char) → List (List Char)
  | snake, ws => ws.map lowerWord
  | camel, [] => []
  | camel, w :: ws => lowerWord w :: ws.map capitalWord
  | pascal, ws => ws.map capitalWord
  | kebab, ws => ws.map lowerWord
  | screamingSnake, ws => ws.map upperWord
  | preserve, ws => ws

/-- Words with what the convention puts between them. -/
def joined (c : Convention) (vs : List (List Char)) : List Char :=
  match c.separator? with
  | some sep => List.intercalate [sep] vs
  | none => vs.flatten

variable {c e : Convention} {ws vs : List (List Char)}

theorem cases_of_mem (hc : c ∈ wordConventions) :
    c = snake ∨ c = camel ∨ c = pascal ∨ c = screamingSnake := by
  simpa [wordConventions] using hc

theorem apply_eq_joined (hc : c ∈ wordConventions) (s : List Char) :
    c.apply s = c.joined (c.forms (words s)) := by
  rcases cases_of_mem hc with rfl | rfl | rfl | rfl
  · rfl
  · show camelWords (words s) = (forms camel (words s)).flatten
    cases words s with
    | nil => rfl
    | cons w ws =>
      rw [forms, List.flatten_cons, ← List.flatMap_def]
      rfl
  · exact List.flatMap_def
  · rfl

theorem length_forms (c : Convention) (ws : List (List Char)) :
    (c.forms ws).length = ws.length := by
  cases c with
  | camel => cases ws <;> simp [forms]
  | _ => simp [forms]

theorem map_eq_of_forall₂ {f : List Char → List Char} (hf : ∀ {v w}, SameWord v w → f v = f w)
    (h : List.Forall₂ SameWord vs ws) : vs.map f = ws.map f := by
  induction h with
  | nil => rfl
  | cons hw _ ih => rw [List.map_cons, List.map_cons, hf hw, ih]

/-- The forms of words do not depend on the letter case of these. -/
theorem forms_eq_of_forall₂ (he : e ∈ wordConventions) (h : List.Forall₂ SameWord vs ws) :
    e.forms vs = e.forms ws := by
  rcases cases_of_mem he with rfl | rfl | rfl | rfl
  · exact map_eq_of_forall₂ SameWord.lower h
  · cases h with
    | nil => rfl
    | cons hw hs => rw [forms, forms, hw.lower, map_eq_of_forall₂ SameWord.capital hs]
  · exact map_eq_of_forall₂ SameWord.capital h
  · exact map_eq_of_forall₂ SameWord.upper h

/-- If words of letters and digits are joined, there are no other characters than underscores
between them. -/
theorem isWordChar_joined (hc : c ∈ wordConventions) (h : Lettered vs) :
    ∀ x ∈ c.joined vs, IsWordChar x := by
  have hw : ∀ v ∈ vs, ∀ x ∈ v, IsWordChar x := fun v hv x hx => .inr (h v hv x hx)
  have hi : ∀ x ∈ List.intercalate ['_'] vs, IsWordChar x :=
    forall_mem_intercalate_iff.mpr ⟨.inr (.inl rfl), hw⟩
  have hf : ∀ x ∈ vs.flatten, IsWordChar x := List.forall_mem_flatten.mpr hw
  rcases cases_of_mem hc with rfl | rfl | rfl | rfl
  · exact hi
  · exact hf
  · exact hf
  · exact hi

/-- No underscore gets into words in lower or upper case. -/
theorem underscore_not_mem_map {f : List Char → List Char}
    (hf : ∀ {w : List Char}, '_' ∈ f w → '_' ∈ w) (h : Lettered vs) :
    ∀ l ∈ vs.map f, '_' ∉ l := by
  refine List.forall_mem_map.mpr fun v hv hm => ?_
  exact absurd (h v hv '_' (hf hm)) (by decide)

theorem eq_of_intercalate_eq {xs ys : List (List Char)} (hx : xs ≠ []) (hy : ys ≠ [])
    (hxs : ∀ l ∈ xs, '_' ∉ l) (hys : ∀ l ∈ ys, '_' ∉ l)
    (h : List.intercalate ['_'] xs = List.intercalate ['_'] ys) : xs = ys := by
  rw [← List.splitOn_intercalate '_' hxs hx, h, List.splitOn_intercalate '_' hys hy]

/-! ## The words of a spelling -/

section Plain

variable (h : ∀ w ∈ ws, IsPlain w)

include h

theorem lettered_of_isPlain : Lettered ws := fun w hw => (h w hw).isAlphanumeric

theorem isWord_intercalate (hn : ws ≠ []) : isWord (List.intercalate ['_'] ws) = true := by
  refine isWord_iff.mpr ⟨fun hz => ?_, ?_⟩
  · have hw := words_intercalate_of_isWhole fun w hm => (h w hm).isWhole
    rw [hz] at hw
    exact hn hw.symm
  · exact isWordChar_joined (c := snake) (by decide) (lettered_of_isPlain h)

theorem map_lowerWord : ws.map lowerWord = ws :=
  (List.map_congr_left fun w hw => (h w hw).lowerWord_eq).trans (List.map_id' ws)

theorem apply_intercalate (hc : c ∈ wordConventions) :
    c.apply (List.intercalate ['_'] ws) = c.joined (c.forms ws) := by
  rw [apply_eq_joined hc, words_intercalate_of_isWhole fun w hw => (h w hw).isWhole]

/-- The words of a name are found again in each of its spellings, in the form they have there. -/
theorem words_joined_forms (hc : c ∈ wordConventions)
    (hw : c = screamingSnake → ∀ w ∈ ws, IsWhole (upperWord w)) :
    words (c.joined (c.forms ws)) = c.forms ws ∧ Lettered (c.forms ws) := by
  have hl := lettered_of_isPlain h
  rcases cases_of_mem hc with rfl | rfl | rfl | rfl
  · rw [show forms snake ws = ws from map_lowerWord h]
    exact ⟨words_intercalate_of_isWhole fun w hw => (h w hw).isWhole, hl⟩
  · cases ws with
    | nil => exact ⟨rfl, hl⟩
    | cons w ws =>
      obtain ⟨hp, hs⟩ := List.forall_mem_cons.mp h
      rw [forms, hp.lowerWord_eq]
      exact ⟨words_flatten_cons_capitalWord h,
        List.forall_mem_cons.mpr ⟨hp.isAlphanumeric, lettered_capitalWord hs⟩⟩
  · exact ⟨words_flatten_capitalWord h, lettered_capitalWord h⟩
  · have hu : ∀ v ∈ ws.map upperWord, IsWhole v := List.forall_mem_map.mpr (hw rfl)
    exact ⟨words_intercalate_of_isWhole hu, fun v hv => (hu v hv).isAlphanumeric⟩

/-! ## From one form to another -/

/-- Words with a capital in front, or without one, are the same words. -/
theorem forall₂_forms (hc : c ∈ wordConventions) (hs : c ≠ screamingSnake) :
    List.Forall₂ SameWord (c.forms ws) ws := by
  have hr : ∀ w : List Char, SameWord w w := fun w => ⟨rfl, rfl, rfl⟩
  have hm {ws : List (List Char)} (h : ∀ w ∈ ws, IsPlain w) :
      List.Forall₂ SameWord (ws.map capitalWord) ws :=
    List.forall₂_map_left_iff.mpr (List.forall₂_same.mpr fun w hw => (h w hw).sameWord_capitalWord)
  rcases cases_of_mem hc with rfl | rfl | rfl | rfl
  · rw [show forms snake ws = ws from map_lowerWord h]
    exact List.forall₂_same.mpr fun w _ => hr w
  · cases ws with
    | nil => exact .nil
    | cons w ws =>
      obtain ⟨hp, hs⟩ := List.forall_mem_cons.mp h
      rw [forms, hp.lowerWord_eq]
      exact .cons (hr w) (hm hs)
  · exact hm h
  · exact absurd rfl hs

theorem map_upperWord_iff {f : List Char → List Char}
    (hf : ∀ {w}, IsPlain w → (f (upperWord w) = f w ↔ lowerWord (upperWord w) = w)) :
    (ws.map upperWord).map f = ws.map f ↔ ∀ w ∈ ws, lowerWord (upperWord w) = w := by
  rw [List.map_map, List.map_inj_left]
  exact forall₂_congr fun w hw => hf (h w hw)

/-- Capitals have the other forms of their words if these lead back to the small letters. -/
theorem forms_upperWord_iff (he : e ∈ wordConventions) :
    e.forms (ws.map upperWord) = e.forms ws ↔
      (e ≠ screamingSnake → ∀ w ∈ ws, lowerWord (upperWord w) = w) := by
  have hl {w : List Char} (hw : IsPlain w) :
      lowerWord (upperWord w) = lowerWord w ↔ lowerWord (upperWord w) = w := by
    rw [hw.lowerWord_eq]
  rcases cases_of_mem he with rfl | rfl | rfl | rfl
  · simpa [forms] using map_upperWord_iff h hl
  · cases ws with
    | nil => simp [forms]
    | cons w ws =>
      obtain ⟨hp, hs⟩ := List.forall_mem_cons.mp h
      have hm := map_upperWord_iff hs IsPlain.capitalWord_upperWord_iff
      rw [List.map_cons, forms, forms, List.cons_eq_cons, hl hp, hm, List.forall_mem_cons]
      simp
  · simpa [forms] using map_upperWord_iff h IsPlain.capitalWord_upperWord_iff
  · have hu : upperWord ∘ upperWord = upperWord := funext upperWord_upperWord
    simp [forms, hu]

/-! ## Names in capitals -/

theorem leadsAlone_map_capitalWord : ∀ l ∈ ws.map capitalWord, LeadsAlone isUppercase l :=
  List.forall_mem_map.mpr fun w hw => (h w hw).leadsAlone_capitalWord

theorem leads_capitalWord_recut :
    ∀ v ∈ recut (ws.map upperWord), Leads isUppercase (capitalWord v) := by
  intro v hv
  obtain ⟨u, hu, hv⟩ := List.mem_flatMap.mp hv
  obtain ⟨w, hw, rfl⟩ := List.mem_map.mp hu
  exact (h w hw).leads_capitalWord hv

/-- Joined forms that are alike are those of the same words, of which there are as many at least. -/
theorem forms_eq_of_joined_eq (he : e ∈ wordConventions) (hn : ws ≠ []) (hv : Lettered vs)
    (hc : ∀ v ∈ vs, Leads isUppercase (capitalWord v)) (hl : ws.length ≤ vs.length)
    (hj : e.joined (e.forms vs) = e.joined (e.forms ws)) : e.forms vs = e.forms ws := by
  have hw := lettered_of_isPlain h
  have hvn : vs ≠ [] := by
    rintro rfl
    exact hn (List.length_eq_zero_iff.mp (Nat.le_zero.mp hl))
  rcases cases_of_mem he with rfl | rfl | rfl | rfl
  · have hm {w : List Char} : '_' ∈ lowerWord w → '_' ∈ w := mem_of_mem_lowerWord (by decide)
    exact eq_of_intercalate_eq (by simpa [forms] using hvn) (by simpa [forms] using hn)
      (underscore_not_mem_map hm hv) (underscore_not_mem_map hm hw) hj
  · cases vs with
    | nil => exact absurd rfl hvn
    | cons v vs =>
      cases ws with
      | nil => exact absurd rfl hn
      | cons w ws =>
        obtain ⟨hp, hs⟩ := List.forall_mem_cons.mp h
        obtain ⟨-, hcs⟩ := List.forall_mem_cons.mp hc
        have ha : isUppercase 'A' = true := by decide +kernel
        have hlow : ∀ x ∈ lowerWord w, isUppercase x = false := by
          rw [hp.lowerWord_eq]
          exact hp.not_isUppercase
        obtain ⟨hfirst, hrest⟩ := eq_of_append_flatten_eq ha hlow (List.forall_mem_map.mpr hcs)
          (leadsAlone_map_capitalWord hs) (by simpa using hl) hj
        rw [forms, forms, hfirst, hrest]
  · exact eq_of_flatten_eq (List.forall_mem_map.mpr hc) (leadsAlone_map_capitalWord h)
      (by simpa [forms] using hl) hj
  · have hm {w : List Char} : '_' ∈ upperWord w → '_' ∈ w := mem_of_mem_upperWord (by decide)
    exact eq_of_intercalate_eq (by simpa [forms] using hvn) (by simpa [forms] using hn)
      (underscore_not_mem_map hm hv) (underscore_not_mem_map hm hw) hj

end Plain

/-- Do the words in the form of `c` lead back to themselves, when `e` is next: are those in capitals
each found again as one word, and are their small letters found again if `e` asks for these? -/
def Keeps (c e : Convention) (ws : List (List Char)) : Prop :=
  c = screamingSnake → ∀ w ∈ ws, IsWhole (upperWord w) ∧
    (e ≠ screamingSnake → lowerWord (upperWord w) = w)

/-- Capitals that make up a word are cut word by word. -/
theorem words_joined_upperWord (h : Lettered ws)
    (hw : isWord (screamingSnake.joined (ws.map upperWord)) = true) :
    words (screamingSnake.joined (ws.map upperWord)) = recut (ws.map upperWord) ∧
      Lettered (ws.map upperWord) := by
  have hi := (forall_mem_intercalate_iff.mp (isWord_iff.mp hw).2).2
  have hl : Lettered (ws.map upperWord) := by
    refine fun v hv x hx => (hi v hv x hx).resolve_left ?_
    rintro rfl
    exact underscore_not_mem_map (mem_of_mem_upperWord (by decide)) h v hv hx
  exact ⟨words_intercalate hl, hl⟩

/-- A spelling is a word, and is spelled in another convention as the name is, exactly if it leads
back to the words of the name. -/
theorem respelled_iff (h : ∀ w ∈ ws, IsPlain w) (hn : ws ≠ []) (hc : c ∈ wordConventions)
    (he : e ∈ wordConventions) :
    isWord (c.apply (List.intercalate ['_'] ws)) = true ∧
        e.apply (c.apply (List.intercalate ['_'] ws)) = e.apply (List.intercalate ['_'] ws) ↔
      c.Keeps e ws := by
  rw [apply_eq_joined he, apply_intercalate h hc, apply_intercalate h he]
  constructor
  · rintro ⟨hw, hj⟩ rfl
    obtain ⟨hs, hl⟩ := words_joined_upperWord (lettered_of_isPlain h) hw
    have hne : ∀ v ∈ ws.map upperWord, v ≠ [] := List.forall_mem_map.mpr fun w hw =>
      (h w hw).upperWord_ne_nil
    have hle := length_le_length_recut hne
    rw [List.length_map] at hle
    change e.joined (e.forms (words (screamingSnake.joined (ws.map upperWord)))) = _ at hj
    rw [hs] at hj
    have hf := forms_eq_of_joined_eq h he hn (lettered_recut hl) (leads_capitalWord_recut h) hle hj
    have hlen : (recut (ws.map upperWord)).length = (ws.map upperWord).length := by
      rw [← length_forms e, hf, length_forms, List.length_map]
    have hi := isWhole_of_length_recut_le hne hl (Nat.le_of_eq hlen)
    rw [recut_of_isWhole hi, forms_upperWord_iff h he] at hf
    exact fun w hw => ⟨hi _ (List.mem_map_of_mem hw), fun hs => hf hs w hw⟩
  · intro hk
    obtain ⟨hw, hl⟩ := words_joined_forms h hc fun hs w hm => (hk hs w hm).1
    refine ⟨isWord_iff.mpr ⟨fun hz => ?_, isWordChar_joined hc hl⟩, ?_⟩
    · rw [hz] at hw
      have hlen := congrArg List.length hw
      rw [length_forms] at hlen
      exact hn (List.length_eq_zero_iff.mp hlen.symm)
    · rw [hw]
      refine congrArg e.joined ?_
      by_cases hs : c = screamingSnake
      · subst hs
        exact (forms_upperWord_iff h he).mpr fun hne w hm => (hk rfl w hm).2 hne
      · exact forms_eq_of_forall₂ he (forall₂_forms h hc hs)

end SqlCompose.Convention
