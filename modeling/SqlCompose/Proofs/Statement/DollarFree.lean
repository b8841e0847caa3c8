import SqlCompose.Proofs.Condition.Comparison
import SqlCompose.Proofs.Sql.DollarFree
import SqlCompose.Proofs.Text.Alias
import SqlCompose.Proofs.Text.Mark
import SqlCompose.Statement.Clause

/-!
# Statements without dollar signs

What a caller writes into a statement: names, keys and SQL as it is, and the values that conditions
write in place. Where none of it has a dollar sign, neither have the texts that are made of it.
Values to bind do not count.
-/

namespace SqlCompose

open Text

/-! ## What the caller writes -/

/-- Has neither the key nor a value in place a dollar sign? -/
structure Comparison.DollarFree (c : Comparison) : Prop where
  key : Text.DollarFree c.key
  value : c.inPlace = true → c.value.DollarFree

/-- Has no comparison in the conditions a dollar sign? -/
def Condition.DollarFree (cs : List Condition) : Prop :=
  ∀ c ∈ listComparisons .eq cs, c.DollarFree

/-- Has nothing that is joined on a dollar sign? -/
def JoinOn.DollarFree : JoinOn → Prop
  | .conditions cs => Condition.DollarFree cs
  | .keys own joined => (∀ key ∈ own, Text.DollarFree key) ∧ ∀ key ∈ joined, Text.DollarFree key
  | .cross => True

/-- Has no text of the join a dollar sign? -/
structure Join.DollarFree (j : Join) : Prop where
  table : Text.DollarFree j.table
  on : j.on.DollarFree

/-- Has SQL that is assigned as it is no dollar sign? -/
def Assigned.DollarFree : Assigned → Prop
  | .raw sql => Text.DollarFree sql
  | _ => True

/-- Has no text of the assignment a dollar sign? -/
structure Assignment.DollarFree (a : Assignment) : Prop where
  column : Text.DollarFree a.column
  value : a.value.DollarFree

/-- The assignments of a command. -/
def Command.assignments : Command → List Assignment
  | insert as => as
  | update as => as
  | _ => []

/-- The assignments of what is done on conflict. -/
def ConflictAction.assignments : ConflictAction → List Assignment
  | keep => []
  | update as => as

/-- Has no text of the conflict a dollar sign? -/
structure Conflict.DollarFree (c : Conflict) : Prop where
  keys : ∀ key ∈ c.keys, Text.DollarFree key
  assignments : ∀ a ∈ c.action.assignments, a.DollarFree

/-- Has no text of the statement a dollar sign? -/
structure Statement.DollarFree (s : Statement) : Prop where
  table : Text.DollarFree s.table
  keys : ∀ key ∈ s.keys, Text.DollarFree key
  assignments : ∀ a ∈ s.command.assignments, a.DollarFree
  conditions : Condition.DollarFree s.conditions
  joins : ∀ j ∈ s.joins, j.DollarFree
  sorting : ∀ key ∈ s.sorting, Text.DollarFree key
  groupBy : ∀ key ∈ s.groupBy, Text.DollarFree key
  conflict : ∀ c ∈ s.conflict, c.DollarFree

/-! ## Texts of keys -/

namespace Text.DollarFree

theorem afterMark? {mark : Char} {key s : String} (h : DollarFree key)
    (hs : Text.afterMark? mark key = some s) : DollarFree s := by
  intro hm
  refine h ?_
  rw [eq_cons_of_afterMark? hs]
  exact List.mem_cons_of_mem mark hm

theorem splitAlias? {s e n : List Char} (h : '$' ∉ s) (hs : Text.splitAlias? s = some (e, n)) :
    '$' ∉ e ∧ DollarFree (String.ofList n) := by
  rw [eq_append_of_splitAlias? hs, List.mem_append, List.mem_cons] at h
  rw [dollarFree_ofList]
  exact ⟨fun hm => h (.inl hm), fun hm => h (.inr (.inr hm))⟩

theorem splitAtDouble {c : Char} {s before behind : List Char} (h : '$' ∉ s)
    (hs : Text.splitAtDouble c s = some (before, behind)) :
    DollarFree (String.ofList before) ∧ DollarFree (String.ofList behind) := by
  rw [eq_append_of_splitAtDouble hs, List.mem_append, List.mem_cons, List.mem_cons] at h
  rw [dollarFree_ofList, dollarFree_ofList]
  exact ⟨fun hm => h (.inl hm), fun hm => h (.inr (.inr (.inr hm)))⟩

end Text.DollarFree

theorem Condition.dollarFree_column (naming : Naming) {key : String} (h : Text.DollarFree key) :
    Text.DollarFree (column naming key) := by
  unfold column
  split
  · exact h.bareName naming
  split
  · rename_i hm
    exact (h.afterMark? hm).bareName naming
  · exact h.quotedName naming

theorem Join.dollarFree_column (naming : Naming) {table key : String} (ht : Text.DollarFree table)
    (hk : Text.DollarFree key) : Text.DollarFree (column naming table key) := by
  unfold column
  split
  · rename_i hm
    exact hk.afterMark? hm
  · simp only [dollarFree_append]
    exact ⟨⟨ht, by decide⟩, hk.bareName naming⟩

theorem Join.dollarFree_keysText {config : Config} {ownTable table : String}
    {own joined : Option String} (hp : Text.DollarFree config.primaryKey)
    (ho : Text.DollarFree ownTable) (ht : Text.DollarFree table)
    (hk : (JoinOn.keys own joined).DollarFree) :
    Text.DollarFree (keysText config ownTable table own joined) := by
  have hd {key : Option String} (h : ∀ k ∈ key, Text.DollarFree k) :
      Text.DollarFree (key.getD config.primaryKey) := by
    cases key with
    | none => exact hp
    | some k => exact h k rfl
  unfold keysText
  simp only [dollarFree_append]
  exact ⟨⟨dollarFree_column _ ho (hd hk.1), by decide⟩, dollarFree_column _ ht (hd hk.2)⟩

namespace Statement

variable (naming : Naming)

theorem dollarFree_castText {expression : List Char} (h : '$' ∉ expression) :
    Text.DollarFree (castText naming expression) := by
  unfold castText
  split
  · rename_i hs
    obtain ⟨hb, ha⟩ := Text.DollarFree.splitAtDouble h hs
    simp only [dollarFree_append]
    exact ⟨⟨hb.quotedName naming, by decide⟩, ha⟩
  · exact (dollarFree_ofList.mpr h).quotedName naming

theorem dollarFree_keyText {key : String} (h : Text.DollarFree key) :
    Text.DollarFree (keyText naming key) := by
  unfold keyText
  split
  · rename_i hm
    exact h.afterMark? hm
  split
  · rename_i hs
    obtain ⟨he, hn⟩ := Text.DollarFree.splitAlias? h hs
    simp only [dollarFree_append]
    exact ⟨⟨dollarFree_castText naming he, by decide⟩, hn.bareName naming⟩
  · exact dollarFree_castText naming h

theorem dollarFree_keysText {keys : List String} (h : ∀ key ∈ keys, Text.DollarFree key)
    (total : Bool) : Text.DollarFree (keysText naming keys total) := by
  refine Text.DollarFree.intercalate (by decide) fun part hp => ?_
  rcases List.mem_append.mp hp with hp | hp
  · split at hp
    · obtain rfl := List.mem_singleton.mp hp
      decide
    · obtain ⟨key, hk, rfl⟩ := List.mem_map.mp hp
      exact dollarFree_keyText naming (h key hk)
  · split at hp
    · obtain rfl := List.mem_singleton.mp hp
      decide
    · cases hp

theorem dollarFree_sortKey {key : String} (h : Text.DollarFree key) :
    Text.DollarFree (sortKey naming key) := by
  unfold sortKey
  split
  · rename_i hm
    exact h.afterMark? hm
  · exact h.quotedName naming

theorem dollarFree_sortText {key : String} (h : Text.DollarFree key) :
    Text.DollarFree (sortText naming key) := by
  unfold sortText
  split
  · rename_i hm
    rw [dollarFree_append]
    exact ⟨dollarFree_sortKey naming (h.afterMark? hm), by decide⟩
  · exact dollarFree_sortKey naming h

theorem dollarFree_sortingText {sorting : List String}
    (h : ∀ key ∈ sorting, Text.DollarFree key) : Text.DollarFree (sortingText naming sorting) := by
  unfold sortingText
  split
  · decide
  · rw [dollarFree_append]
    refine ⟨by decide, Text.DollarFree.intercalate (by decide) fun part hp => ?_⟩
    obtain ⟨key, hk, rfl⟩ := List.mem_map.mp hp
    exact dollarFree_sortText naming (h key hk)

theorem dollarFree_groupText {key : String} (h : Text.DollarFree key) :
    Text.DollarFree (groupText naming key) := by
  unfold groupText
  rw [dollarFree_append]
  exact ⟨by decide, dollarFree_sortKey naming h⟩

theorem dollarFree_offsetText (offset : Nat) : Text.DollarFree (offsetText offset) := by
  unfold offsetText
  split
  · decide
  · rw [dollarFree_append]
    exact ⟨by decide, dollarFree_decimalText offset⟩

theorem dollarFree_limitText (limit : Option Nat) : Text.DollarFree (limitText limit) := by
  unfold limitText
  split
  · decide
  split
  · decide
  · rw [dollarFree_append]
    exact ⟨by decide, dollarFree_decimalText _⟩

theorem dollarFree_targetText {keys : List String} (h : ∀ key ∈ keys, Text.DollarFree key) :
    Text.DollarFree (targetText naming keys) := by
  unfold targetText
  split
  · decide
  · simp only [dollarFree_append]
    refine ⟨⟨by decide, Text.DollarFree.intercalate (by decide) fun part hp => ?_⟩, by decide⟩
    obtain ⟨key, hk, rfl⟩ := List.mem_map.mp hp
    exact (h key hk).quotedName naming

end Statement

end SqlCompose
