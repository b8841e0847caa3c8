import SqlCompose.Config
import SqlCompose.Proofs.Lists
import SqlCompose.Proofs.Naming.Path
import SqlCompose.Proofs.Text.Letters

/-!
# Names without quotes

Words keep all letters and digits of a name (`flatten_words`), and a convention writes each of them
in lower or in upper case (`Convention.lowered`, `Convention.raised`). So what holds of every
character of a spelling is a matter of these letters and of what stands between the words
(`Convention.forall_mem_apply_iff`): where a name has a letter or a digit the spelling is not empty,
and it is a word again unless there are hyphens or marks in it.
-/

namespace SqlCompose

namespace Text

/-! ## The letters of words -/

theorem flatten_splitWhere (sep : Char → Bool) (s : List Char) :
    (splitWhere sep s).flatten = s.filter fun c => !sep c := by
  induction s with
  | nil => rfl
  | cons c s ih =>
    unfold splitWhere
    split
    · rename_i hc
      simpa [hc] using ih
    split
    · rename_i hn
      exact absurd hn (splitWhere_ne_nil sep s)
    · rename_i hc _ piece pieces hs
      rw [hs] at ih
      simpa [hc] using ih

theorem flatten_wordsFrom (k : WordCase) (word s : List Char) (h : s ≠ []) :
    (wordsFrom k word s).flatten = word ++ s := by
  fun_induction wordsFrom k word s with
  | case1 => exact absurd rfl h
  | case2 => simp
  | case3 _ _ c next s _ ih => simp [ih]
  | case4 _ _ c next s _ _ ih => simp [ih]
  | case5 _ _ c next s _ _ ih => simp [ih]

theorem flatten_flatMap_wordsFrom (pieces : List (List Char)) :
    (pieces.flatMap (wordsFrom .undecided [])).flatten = pieces.flatten := by
  induction pieces with
  | nil => rfl
  | cons piece pieces ih =>
    have hp : (wordsFrom .undecided [] piece).flatten = piece := by
      cases piece with
      | nil => rfl
      | cons c s => exact flatten_wordsFrom .undecided [] (c :: s) (List.cons_ne_nil c s)
    rw [List.flatMap_cons, List.flatten_append, hp, ih, List.flatten_cons]

/-- The words of a name have its letters and digits, in order. -/
theorem flatten_words (name : List Char) : (words name).flatten = name.filter isAlphanumeric := by
  unfold words
  rw [flatten_flatMap_wordsFrom, flatten_splitWhere]
  simp

theorem mem_flatten_words {name : List Char} {c : Char} :
    c ∈ (words name).flatten ↔ c ∈ name ∧ isAlphanumeric c = true := by
  rw [flatten_words, List.mem_filter]

/-! ## What holds of every character -/

variable {P : Char → Prop} {w : List Char} {ws : List (List Char)}

/-- At the end of a word sigma has another form. -/
theorem forall_mem_lowerWord_iff (hP : P 'ς' ↔ P 'σ') :
    (∀ d ∈ lowerWord w, P d) ↔ ∀ c ∈ w, ∀ d ∈ lower c, P d := by
  induction w with
  | nil => simp [lowerWord]
  | cons c w ih =>
    cases w with
    | nil =>
      unfold lowerWord
      split
      · rename_i hc
        have hl : lower 'Σ' = ['σ'] := by decide +kernel
        simp [hc, hl, hP]
      · simp
    | cons next w =>
      rw [lowerWord, List.forall_mem_append, ih]
      exact (List.forall_mem_cons (p := fun c => ∀ d ∈ lower c, P d)).symm

theorem forall_mem_upperWord_iff : (∀ d ∈ upperWord w, P d) ↔ ∀ c ∈ w, ∀ d ∈ upper c, P d :=
  List.forall_mem_flatMap

theorem forall_mem_capitalWord_iff (hP : P 'ς' ↔ P 'σ') :
    (∀ d ∈ capitalWord w, P d) ↔
      (∀ c ∈ w.tail, ∀ d ∈ lower c, P d) ∧ ∀ c ∈ w.head?, ∀ d ∈ upper c, P d := by
  cases w with
  | nil => simp [capitalWord]
  | cons c w =>
    rw [capitalWord, List.forall_mem_append, forall_mem_lowerWord_iff hP, and_comm]
    simp

/-- Of words between separators, each in the form that `form` gives its letters. -/
theorem forall_mem_joined_iff (ws : List (List Char)) (sep : Char) {f : List Char → List Char}
    {form : Char → List Char}
    (hf : ∀ w, (∀ d ∈ f w, P d) ↔ ∀ c ∈ w, ∀ d ∈ form c, P d) :
    (∀ d ∈ List.intercalate [sep] (ws.map f), P d) ↔
      (ws.length ≤ 1 ∨ P sep) ∧ ∀ c ∈ ws.flatten, ∀ d ∈ form c, P d := by
  rw [forall_mem_intercalate_iff, List.length_map, List.forall_mem_map, List.forall_mem_flatten]
  simp only [hf]

theorem forall_mem_capitalWords_iff (ws : List (List Char)) (hP : P 'ς' ↔ P 'σ') :
    (∀ d ∈ ws.flatMap capitalWord, P d) ↔
      (∀ c ∈ ws.flatMap List.tail, ∀ d ∈ lower c, P d) ∧
        ∀ c ∈ ws.filterMap List.head?, ∀ d ∈ upper c, P d := by
  rw [List.forall_mem_flatMap, List.forall_mem_flatMap (p := fun c => ∀ d ∈ lower c, P d)]
  simp only [forall_mem_capitalWord_iff hP, List.mem_filterMap]
  constructor
  · intro h
    refine ⟨fun w hw => (h w hw).1, ?_⟩
    rintro c ⟨w, hw, hc⟩
    exact (h w hw).2 c hc
  · rintro ⟨hl, hu⟩ w hw
    exact ⟨hl w hw, fun c hc => hu c ⟨w, hw, hc⟩⟩

/-! ## Empty identifiers -/

theorem encode_eq_encode_nil {q : Char} {s : List Char} :
    Delimited.encode q s = Delimited.encode q [] ↔ s = [] := by
  refine ⟨fun h => ?_, fun h => by rw [h]⟩
  cases s with
  | nil => rfl
  | cons c s =>
    have hl := congrArg List.length h
    unfold Delimited.encode Delimited.double at hl
    split at hl
    · simp at hl
    · simp at hl

end Text

open Text

namespace Convention

/-! ## How conventions write letters -/

/-- The letters of words that the convention writes in lower case. -/
def lowered : Convention → List (List Char) → List Char
  | snake, ws => ws.flatten
  | camel, [] => []
  | camel, w :: ws => w ++ ws.flatMap List.tail
  | pascal, ws => ws.flatMap List.tail
  | kebab, ws => ws.flatten
  | screamingSnake, _ => []
  | preserve, _ => []

/-- The letters of words that the convention writes in upper case. -/
def raised : Convention → List (List Char) → List Char
  | snake, _ => []
  | camel, [] => []
  | camel, _ :: ws => ws.filterMap List.head?
  | pascal, ws => ws.filterMap List.head?
  | kebab, _ => []
  | screamingSnake, ws => ws.flatten
  | preserve, _ => []

/-- What the convention puts between words. -/
def separator? : Convention → Option Char
  | snake => some '_'
  | kebab => some '-'
  | screamingSnake => some '_'
  | camel => none
  | pascal => none
  | preserve => none

variable {conv : Convention} {P : Char → Prop} {c : Char} {ws : List (List Char)}

/-- Each letter is written in lower or in upper case. -/
theorem mem_flatten_iff_lowered_or_raised (hc : conv ≠ preserve) :
    c ∈ ws.flatten ↔ c ∈ conv.lowered ws ∨ c ∈ conv.raised ws := by
  cases conv with
  | snake => simp [lowered, raised]
  | camel =>
    cases ws with
    | nil => simp [lowered, raised]
    | cons w ws =>
      rw [List.flatten_cons, List.mem_append, mem_flatten_iff_tail_or_head, lowered, raised,
        List.mem_append, or_assoc]
  | pascal => exact mem_flatten_iff_tail_or_head
  | kebab => simp [lowered, raised]
  | screamingSnake => simp [lowered, raised]
  | preserve => exact absurd rfl hc

/-- What holds of every character of a spelling holds of what stands between words, if there are
several, and of every character in the lower-case and upper-case forms of letters. -/
theorem forall_mem_apply_iff (hc : conv ≠ preserve) (hP : P 'ς' ↔ P 'σ') (s : List Char) :
    (∀ d ∈ conv.apply s, P d) ↔
      ((words s).length ≤ 1 ∨ ∀ x ∈ conv.separator?, P x) ∧
        (∀ c ∈ conv.lowered (words s), ∀ d ∈ lower c, P d) ∧
        ∀ c ∈ conv.raised (words s), ∀ d ∈ upper c, P d := by
  have hl (sep : Char) := forall_mem_joined_iff (words s) sep fun w =>
    forall_mem_lowerWord_iff (w := w) hP
  cases conv with
  | snake => simpa [apply, separator?, lowered, raised] using hl '_'
  | camel =>
    show (∀ d ∈ camelWords (words s), P d) ↔ _
    cases words s with
    | nil => simp [camelWords, lowered, raised]
    | cons w ws =>
      rw [camelWords, List.forall_mem_append, forall_mem_lowerWord_iff hP,
        forall_mem_capitalWords_iff ws hP, lowered, raised,
        List.forall_mem_append (p := fun c => ∀ d ∈ lower c, P d), and_assoc]
      simp [separator?]
  | pascal =>
    have hc := forall_mem_capitalWords_iff (words s) hP
    simpa [apply, separator?, lowered, raised] using hc
  | kebab => simpa [apply, separator?, lowered, raised] using hl '-'
  | screamingSnake =>
    have hu := forall_mem_joined_iff (P := P) (words s) '_' fun w =>
      forall_mem_upperWord_iff (w := w)
    simpa [apply, separator?, lowered, raised] using hu
  | preserve => exact absurd rfl hc

/-- A spelling is empty only if the name has no letter and no digit. -/
theorem apply_ne_nil {s : List Char} (h : conv = preserve ∨ ∃ c ∈ s, isAlphanumeric c = true)
    (hs : s ≠ []) : conv.apply s ≠ [] := by
  by_cases hc : conv = preserve
  · rw [hc]
    exact hs
  · obtain ⟨c, hcs, ha⟩ := h.resolve_left hc
    have hm := mem_flatten_words.mpr ⟨hcs, ha⟩
    intro hn
    -- Of an empty spelling everything holds, so no letter would have a form.
    have hf : ∀ d ∈ conv.apply s, False := by simp [hn]
    obtain ⟨-, hl, hu⟩ := (forall_mem_apply_iff hc Iff.rfl s).mp hf
    rcases (mem_flatten_iff_lowered_or_raised hc).mp hm with hm | hm
    · exact lower_ne_nil c (List.eq_nil_iff_forall_not_mem.mpr (hl c hm))
    · exact upper_ne_nil c (List.eq_nil_iff_forall_not_mem.mpr (hu c hm))

end Convention

/-! ## Words again -/

/-- Is the character one of those of plain words? -/
def IsWordChar (d : Char) : Prop := d = '_' ∨ isAlphanumeric d = true

instance (d : Char) : Decidable (IsWordChar d) := inferInstanceAs (Decidable (_ ∨ _))

theorem isWordChar_sigma : IsWordChar 'ς' ↔ IsWordChar 'σ' := by decide +kernel

theorem isWord_iff {s : List Char} : isWord s = true ↔ s ≠ [] ∧ ∀ d ∈ s, IsWordChar d := by
  simp [isWord, IsWordChar]

theorem forall_isWordChar_iff {s : List Char} (h : '_' ∉ s) :
    (∀ d ∈ s, IsWordChar d) ↔ ∀ d ∈ s, isAlphanumeric d = true := by
  refine forall₂_congr fun d hd => or_iff_right ?_
  rintro rfl
  exact h hd

/-- No letter turns into an underscore. -/
theorem underscore_not_mem {form : Char → List Char}
    (hf : ∀ {c d : Char}, d ∈ form c → IsSign d → d = c) {c : Char}
    (hc : isAlphanumeric c = true) : '_' ∉ form c := by
  intro h
  rw [← hf h (by decide)] at hc
  exact absurd hc (by decide)

theorem forall_isWordChar_lower_iff {c : Char} (hc : isAlphanumeric c = true) :
    (∀ d ∈ lower c, IsWordChar d) ↔ c ≠ 'İ' :=
  (forall_isWordChar_iff (underscore_not_mem eq_of_mem_lower hc)).trans (forall_mem_lower_iff hc)

theorem forall_isWordChar_upper_iff {c : Char} (hc : isAlphanumeric c = true) :
    (∀ d ∈ upper c, IsWordChar d) ↔ c ∉ markedLetters :=
  (forall_isWordChar_iff (underscore_not_mem eq_of_mem_upper hc)).trans (forall_mem_upper_iff hc)

namespace Convention

variable {conv : Convention} {s : List Char}

/-- Hyphens are no part of words, and underscores are. -/
theorem length_or_isWordChar_separator (n : Nat) :
    (n ≤ 1 ∨ ∀ x ∈ conv.separator?, IsWordChar x) ↔ (conv = kebab → n ≤ 1) := by
  cases conv with
  | snake => simp [separator?, IsWordChar]
  | camel => simp [separator?]
  | pascal => simp [separator?]
  | kebab =>
    have hd : ¬ IsWordChar '-' := by decide
    simp [separator?, hd]
  | screamingSnake => simp [separator?, IsWordChar]
  | preserve => simp [separator?]

/-- A spelling is a word if the convention writes no hyphen into it and no letter with a mark. -/
theorem isWord_apply_iff (hw : isWord s = true) (hn : conv.apply s ≠ []) :
    isWord (conv.apply s) = true ↔
      (conv = kebab → (words s).length ≤ 1) ∧ 'İ' ∉ conv.lowered (words s) ∧
        ∀ c ∈ conv.raised (words s), c ∉ markedLetters := by
  by_cases hc : conv = preserve
  · subst hc
    simpa [apply, lowered, raised] using hw
  · have hl : ∀ c ∈ conv.lowered (words s), (∀ d ∈ lower c, IsWordChar d) ↔ c ≠ 'İ' := fun c hm =>
      have hf := (mem_flatten_iff_lowered_or_raised hc).mpr (.inl hm)
      forall_isWordChar_lower_iff (mem_flatten_words.mp hf).2
    have hu : ∀ c ∈ conv.raised (words s),
        (∀ d ∈ upper c, IsWordChar d) ↔ c ∉ markedLetters := fun c hm =>
      have hf := (mem_flatten_iff_lowered_or_raised hc).mpr (.inr hm)
      forall_isWordChar_upper_iff (mem_flatten_words.mp hf).2
    have hi : (∀ c ∈ conv.lowered (words s), c ≠ 'İ') ↔ 'İ' ∉ conv.lowered (words s) :=
      List.forall_mem_ne'
    rw [isWord_iff, and_iff_right hn, forall_mem_apply_iff hc isWordChar_sigma,
      length_or_isWordChar_separator, forall₂_congr hl, forall₂_congr hu, hi]

end Convention

namespace Naming

/-- Can the database name of a word stand without quotes: is it a word again? And is it, with
quotes, no empty identifier? -/
def StandsUnquoted (naming : Naming) (name : String) : Prop :=
  isWord (naming.bareName name).toList = true ∧ naming.quotedName name ≠ quoteIdentifier ""

instance (naming : Naming) (name : String) : Decidable (naming.StandsUnquoted name) :=
  inferInstanceAs (Decidable (_ ∧ _))

/-- Not every word can: there may be hyphens between its words, a mark behind a letter, or nothing
left of it. -/
theorem not_standsUnquoted :
    (isWord "userAccounts".toList = true ∧ ¬ StandsUnquoted ⟨.kebab, .camel⟩ "userAccounts") ∧
    (isWord "İd".toList = true ∧ ¬ StandsUnquoted ⟨.snake, .camel⟩ "İd") ∧
    (isWord "_".toList = true ∧ ¬ StandsUnquoted ⟨.snake, .camel⟩ "_") := by
  decide +kernel

/-- The database name of a word with a letter or a digit is not empty, and with quotes it is not the
empty identifier. It can stand without quotes unless there are hyphens between its words or letters
that leave their accent behind as a mark: the dotted capital I in lower case and those of
`markedLetters` in upper case. Names that are stored as given need no letter. -/
theorem standsUnquoted_iff (naming : Naming) (name : String) (hw : isWord name.toList = true)
    (hn : naming.database = .preserve ∨ ∃ c ∈ name.toList, isAlphanumeric c = true) :
    naming.bareName name ≠ "" ∧ naming.quotedName name ≠ quoteIdentifier "" ∧
      (naming.StandsUnquoted name ↔
        (naming.database = .kebab → (words name.toList).length ≤ 1) ∧
        'İ' ∉ naming.database.lowered (words name.toList) ∧
        ∀ c ∈ naming.database.raised (words name.toList), c ∉ markedLetters) := by
  have ha := Convention.apply_ne_nil hn (Convention.ne_nil_of_isWord hw)
  have hb : (naming.bareName name).toList = naming.database.apply name.toList := by
    rw [bareName, String.toList_ofList, Convention.path_of_isWord _ _ hw]
    rfl
  have hq : naming.quotedName name ≠ quoteIdentifier "" := by
    intro he
    have hl := congrArg String.toList he
    rw [quotedName, quoteIdentifier, String.toList_ofList, String.toList_ofList,
      Convention.path_of_isWord _ _ hw] at hl
    exact ha (encode_eq_encode_nil.mp hl)
  refine ⟨fun he => ?_, hq, ?_⟩
  · rw [he] at hb
    exact ha hb.symm
  · rw [StandsUnquoted, and_iff_left hq, hb, Convention.isWord_apply_iff hw ha]

/-- Underscores in front and between words do no harm, and digits are kept. -/
theorem standsUnquoted_underscored :
    let naming := ({} : Config).naming
    let name := "__user__Accounts2"
    isWord name.toList = true ∧ 'u' ∈ name.toList ∧ naming.StandsUnquoted name ∧
      naming.bareName name = "user_accounts2" := by
  intro naming name
  have hw : isWord name.toList = true := by decide +kernel
  have hu : 'u' ∈ name.toList := by decide +kernel
  obtain ⟨-, -, hs⟩ := standsUnquoted_iff naming name hw (.inr ⟨'u', hu, by decide +kernel⟩)
  have hd : 'İ' ∉ naming.database.lowered (words name.toList) := by decide +kernel
  exact ⟨hw, hu, hs.mpr ⟨nofun, hd, nofun⟩, by decide +kernel⟩

end Naming

end SqlCompose
