import SqlCompose.Execution.Run
import SqlCompose.Proofs.Naming.Forms
import SqlCompose.Proofs.Row
import SqlCompose.Proofs.Text.Delimited

/-!
# Names on their way to the caller and back

The caller gets the name of a column in a convention of its own. That name leads back to the column
if each of the two is a word that the convention of the other spells as it spells the name
(`roundTrips_iff`). For names of plain words it is a matter of their capitals only, and only if one
of the two conventions has words in capitals (`names_roundTrip`). A row under such names can be
renamed back.
-/

namespace SqlCompose

open Text

namespace Naming

open Convention

/-- Does a name survive the trip to the caller and back? The caller gets it in a convention of its
own for the column, and this leads back to the column, quoted or not. -/
structure RoundTrips (naming : Naming) (name : List Char) : Prop where
  caller : naming.callerName (naming.column name) = String.ofList (naming.caller.apply name)
  bare : naming.bareName (naming.callerName (naming.column name)) = naming.column name
  quoted : naming.quotedName (naming.callerName (naming.column name)) =
    "\"" ++ naming.column name ++ "\""

instance (naming : Naming) (name : List Char) : Decidable (naming.RoundTrips name) :=
  decidable_of_iff (_ ∧ _ ∧ _) ⟨fun h => ⟨h.1, h.2.1, h.2.2⟩, fun h => ⟨h.1, h.2, h.3⟩⟩

/-- Do the words of a name lead back to themselves? Words in capitals have to be found again as one
word each, and if the other convention has no capitals, then so have their small letters. -/
def LeadsBack (naming : Naming) (ws : List (List Char)) : Prop :=
  naming.database = screamingSnake ∨ naming.caller = screamingSnake →
    ∀ w ∈ ws, IsWhole (upperWord w) ∧
      (naming.database ≠ naming.caller → lowerWord (upperWord w) = w)

instance (naming : Naming) (ws : List (List Char)) : Decidable (naming.LeadsBack ws) :=
  inferInstanceAs (Decidable (_ → _))

variable {naming : Naming}

theorem leadsBack_iff {ws : List (List Char)} : naming.LeadsBack ws ↔
    naming.database.Keeps naming.caller ws ∧ naming.caller.Keeps naming.database ws := by
  unfold LeadsBack Keeps
  by_cases hd : naming.database = screamingSnake
  · by_cases hc : naming.caller = screamingSnake
    · simp [hd, hc]
    · simp [hd, hc, Ne.symm hc]
  · by_cases hc : naming.caller = screamingSnake
    · simp [hd, hc]
    · simp [hd, hc]

/-! ## Words for one another -/

/-- A spelling of a word that is no word is kept as it is. -/
theorem path_apply {name : List Char} (hn : isWord name = true) (c e : Convention) (quoted : Bool) :
    e.path quoted (c.apply name) =
      if isWord (c.apply name) then
        if quoted then Delimited.encode '"' (e.apply (c.apply name)) else e.apply (c.apply name)
      else c.apply name := by
  have hs {d : Char} (hd : IsSign d) (hu : d ≠ '_') (hh : d ≠ '-')
      (hw : (d == '_' || isAlphanumeric d) = false) : ∀ x ∈ c.apply name, x ≠ d := by
    rintro x hx rfl
    exact ne_of_isWord hw hn x (mem_of_mem_apply hd hu hh hx) rfl
  split
  · rename_i hw
    exact path_of_isWord e quoted hw
  · rename_i hw
    have hdot : ∀ x ∈ c.apply name, x ≠ '.' ∧ isQuote x = false := fun x hx => by
      have hq := hs (d := '"') (by decide) (by decide) (by decide) (by decide) x hx
      have ha := hs (d := '\'') (by decide) (by decide) (by decide) (by decide) x hx
      exact ⟨hs (by decide) (by decide) (by decide) (by decide) x hx, by simp [isQuote, hq, ha]⟩
    rw [path_singleton e quoted hdot]
    exact segment_of_not_isWord e quoted hw
      (hs (d := '!') (by decide) (by decide) (by decide) (by decide))

theorem callerName_column (naming : Naming) (name : List Char) :
    naming.callerName (naming.column name) =
      if isWord (naming.database.apply name) then
        String.ofList (naming.caller.apply (naming.database.apply name))
      else naming.column name := by
  rw [callerName, column, String.toList_ofList]

/-- A word survives the trip if its two spellings are words that stand for one another. -/
theorem roundTrips_iff {name : List Char} (hn : isWord name = true) : naming.RoundTrips name ↔
    (isWord (naming.database.apply name) = true ∧
      naming.caller.apply (naming.database.apply name) = naming.caller.apply name) ∧
    (isWord (naming.caller.apply name) = true ∧
      naming.database.apply (naming.caller.apply name) = naming.database.apply name) := by
  have hcaller := callerName_column naming name
  have hpath := path_apply hn naming.caller naming.database
  constructor
  · rintro ⟨hc, hb, hq⟩
    rw [hc, bareName, column, String.toList_ofList, String.ofList_inj] at hb
    rw [hc, quotedName, column, String.toList_ofList] at hq
    replace hq := congrArg String.toList hq
    simp only [String.toList_ofList, String.toList_append] at hq
    rw [hpath] at hb hq
    have he : isWord (naming.caller.apply name) = true := by
      by_contra h
      -- A name that is kept has no quotes, so both would be as long.
      rw [if_neg h] at hb hq
      have hl := congrArg List.length (hb.symm.trans hq)
      simp at hl
      omega
    rw [if_pos he, if_neg Bool.false_ne_true] at hb
    have hd : isWord (naming.database.apply name) = true := by
      by_contra h
      rw [hc, if_neg h, column, String.ofList_inj] at hcaller
      exact h (hcaller ▸ he)
    rw [hc, if_pos hd, String.ofList_inj] at hcaller
    exact ⟨⟨hd, hcaller.symm⟩, he, hb⟩
  · rintro ⟨⟨hd, hc⟩, he, hb⟩
    rw [if_pos hd, hc] at hcaller
    have hq := ne_of_isWord (d := '"') (by decide) hd
    refine ⟨hcaller, ?_, ?_⟩
    · rw [hcaller, bareName, String.toList_ofList, hpath, if_pos he, if_neg Bool.false_ne_true, hb]
      rfl
    · rw [hcaller, quotedName, String.toList_ofList, hpath, if_pos he, if_pos rfl, hb,
        Delimited.encode, Delimited.double_of_forall_ne hq]
      exact String.ext (by simp [column])

/-! ## Rows under the names of the caller -/

/-- Is it the column of a name of plain words that lead back to themselves? -/
def IsColumn (naming : Naming) (column : String) : Prop :=
  ∃ ws, ws ≠ [] ∧ (∀ w ∈ ws, IsPlain w) ∧ naming.LeadsBack ws ∧
    column = naming.column (List.intercalate ['_'] ws)

section Plain

variable (hd : naming.database ∈ wordConventions) (hc : naming.caller ∈ wordConventions)

include hd hc

/-- A name of plain words survives the trip if these lead back to themselves. -/
theorem roundTrips_intercalate_iff {ws : List (List Char)} (hn : ws ≠ [])
    (h : ∀ w ∈ ws, IsPlain w) :
    naming.RoundTrips (List.intercalate ['_'] ws) ↔ naming.LeadsBack ws := by
  rw [roundTrips_iff (isWord_intercalate h hn), respelled_iff h hn hd hc, respelled_iff h hn hc hd,
    leadsBack_iff]

theorem bareName_callerName {column : String} (h : naming.IsColumn column) :
    naming.bareName (naming.callerName column) = column := by
  obtain ⟨ws, hn, hw, hl, rfl⟩ := h
  exact ((roundTrips_intercalate_iff hd hc hn hw).mpr hl).bare

/-- A row of such columns can be renamed back. -/
theorem rename_forCaller {r : Row} (h : ∀ column ∈ Entries.keys r.entries, naming.IsColumn column) :
    Entries.rename naming.bareName (r.forCaller naming).entries = r.entries := by
  have hb := fun k hk => bareName_callerName hd hc (h k hk)
  have hk : (Entries.keys (r.callerEntries naming)).Nodup := by
    unfold Row.callerEntries
    rw [Entries.keys_rename]
    refine r.distinct.map_on fun k hk l hl he => ?_
    rw [← hb k hk, he, hb l hl]
  rw [Row.entries_forCaller hk]
  unfold Row.callerEntries Entries.rename
  rw [List.map_map]
  refine (List.map_congr_left fun e he => ?_).trans (List.map_id' r.entries)
  show (naming.bareName (naming.callerName e.1), e.2) = e
  rw [hb e.1 (List.mem_map_of_mem he)]

end Plain

theorem leadsBack_of_hasCapitals (naming : Naming) {ws : List (List Char)}
    (h : ∀ w ∈ ws, IsPlain w) (hw : ∀ w ∈ ws, HasCapitals w) : naming.LeadsBack ws :=
  fun _ w hm => ⟨(hw w hm).isWhole_upperWord (h w hm), fun _ => (hw w hm).lowerWord_upperWord⟩

/-- Columns in Pascal case for a caller that shouts. -/
def shouted : Naming := ⟨.pascal, .screamingSnake⟩

end Naming

end SqlCompose
