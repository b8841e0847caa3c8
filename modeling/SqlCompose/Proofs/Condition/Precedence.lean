import SqlCompose.Proofs.Condition.Comparison

/-!
# Reading boolean expressions

How SQL reads the tokens of a boolean expression: parentheses bind first, then `AND`, then `OR`.

1. `Derives` is the grammar: operands, conjunctions of operands, disjunctions of conjunctions.
2. `readFormula` goes through the tokens once and holds what is still open; it finds the formula of
   every derivation (`readFormula_of_derives`), so an expression has one formula only.
3. Expressions joined by one operator read as that operator applied to their formulas
   (`Derives.exists_joined`), wherever the tokens are grouped.
-/

namespace SqlCompose

/-- A truth value of SQL. -/
inductive Truth where
  | no
  | unknown
  | yes
  deriving DecidableEq, Repr

/-- The operator on truth values: `AND` gives the lesser and `OR` the greater of the two. -/
def Connective.apply : Connective → Truth → Truth → Truth
  | .and, .no, _ | .and, _, .no => .no
  | .and, .yes, .yes => .yes
  | .and, _, _ => .unknown
  | .or, .yes, _ | .or, _, .yes => .yes
  | .or, .no, .no => .no
  | .or, _, _ => .unknown

theorem Connective.apply_assoc (c : Connective) (x y z : Truth) :
    c.apply (c.apply x y) z = c.apply x (c.apply y z) := by
  cases c <;> cases x <;> cases y <;> cases z <;> rfl

/-! ## Formulas -/

/-- A boolean formula over atoms. -/
inductive Formula (α : Type) where
  | atom (a : α)
  | node (c : Connective) (left right : Formula α)
  deriving Repr

namespace Formula

variable {α β : Type}

/-- The occurrences of atoms, from left to right. -/
def atoms : Formula α → List α
  | atom a => [a]
  | node _ left right => left.atoms ++ right.atoms

/-- The truth value where `ρ` gives those of the occurrences, the first of which has the number
`n`. -/
def value (ρ : Nat → Truth) : Nat → Formula α → Truth
  | n, atom _ => ρ n
  | n, node c left right => c.apply (value ρ n left) (value ρ (n + left.atoms.length) right)

/-- The formula `f` behind one that may be missing. -/
def behind (c : Connective) : Option (Formula α) → Formula α → Formula α
  | none, f => f
  | some g, f => node c g f

/-- Two formulas, either of which may be missing. -/
def joined (c : Connective) : Option (Formula α) → Option (Formula α) → Option (Formula α)
  | none, right => right
  | left, none => left
  | some left, some right => some (node c left right)

/-- The formulas have as many occurrences of atoms, and the same value whatever the values of
these. -/
structure Agrees (f : Formula α) (g : Formula β) : Prop where
  length_atoms : f.atoms.length = g.atoms.length
  value_eq : ∀ ρ n, f.value ρ n = g.value ρ n

theorem Agrees.node {c : Connective} {f g : Formula α} {f' g' : Formula β} (hf : f.Agrees f')
    (hg : g.Agrees g') : (node c f g).Agrees (node c f' g') where
  length_atoms := by
    simp only [atoms, List.length_append]
    rw [hf.length_atoms, hg.length_atoms]
  value_eq := by
    intro ρ n
    simp only [value]
    rw [hf.value_eq, hf.length_atoms, hg.value_eq]

theorem agrees_refl (f : Formula α) : f.Agrees f := ⟨rfl, fun _ _ => rfl⟩

theorem Agrees.trans {γ : Type} {f : Formula α} {g : Formula β} {h : Formula γ}
    (hfg : f.Agrees g) (hgh : g.Agrees h) : f.Agrees h :=
  ⟨hfg.length_atoms.trans hgh.length_atoms,
    fun ρ n => (hfg.value_eq ρ n).trans (hgh.value_eq ρ n)⟩

/-- Formulas joined by one operator may be grouped anew. -/
theorem agrees_assoc (c : Connective) (f g h : Formula α) :
    (Formula.node c (Formula.node c f g) h).Agrees (Formula.node c f (Formula.node c g h)) where
  length_atoms := by simp only [atoms, List.append_assoc]
  value_eq := by
    intro ρ n
    simp only [value, atoms, List.length_append]
    rw [Connective.apply_assoc, Nat.add_assoc]

end Formula

/-! ## The grammar -/

/-- What a run of tokens may stand for, from what binds first to what binds last. -/
inductive Rank where
  | operand
  | conjunction
  | disjunction
  deriving DecidableEq, Repr

/-- The rank of what an operator joins. -/
def Connective.rank : Connective → Rank
  | .and => .conjunction
  | .or => .disjunction

/-- The grammar of boolean expressions. -/
inductive Derives : Rank → List ClauseToken → Formula Sql → Prop
  | comparison (s : Sql) : Derives .operand [.comparison s] (.atom s)
  | parenthesized {ts f} (h : Derives .disjunction ts f) :
      Derives .operand (.opening :: ts ++ [.closing]) f
  | operand {ts f} (h : Derives .operand ts f) : Derives .conjunction ts f
  | and {ts us f g} (left : Derives .conjunction ts f) (right : Derives .operand us g) :
      Derives .conjunction (ts ++ .connective .and :: us) (.node .and f g)
  | conjunction {ts f} (h : Derives .conjunction ts f) : Derives .disjunction ts f
  | or {ts us f g} (left : Derives .disjunction ts f) (right : Derives .conjunction us g) :
      Derives .disjunction (ts ++ .connective .or :: us) (.node .or f g)

namespace Derives

variable {r : Rank} {ts us : List ClauseToken} {f g : Formula Sql}

/-- The atoms of a formula are the comparisons among its tokens. -/
theorem atoms_eq (h : Derives r ts f) : f.atoms = ClauseToken.comparisons ts := by
  induction h with
  | comparison s => rfl
  | parenthesized _ ih => simp [ClauseToken.comparisons, ih]
  | operand _ ih => exact ih
  | and _ _ ihl ihr => simp [Formula.atoms, ClauseToken.comparisons, ihl, ihr]
  | conjunction _ ih => exact ih
  | or _ _ ihl ihr => simp [Formula.atoms, ClauseToken.comparisons, ihl, ihr]

theorem ne_nil (h : Derives r ts f) : ts ≠ [] := by
  induction h with
  | comparison s => simp
  | parenthesized _ _ => simp
  | operand _ ih => exact ih
  | and _ _ _ _ => simp
  | conjunction _ ih => exact ih
  | or _ _ _ _ => simp

/-- Every operand stands where an operator joins. -/
theorem ofOperand (h : Derives .operand ts f) (c : Connective) : Derives c.rank ts f := by
  cases c with
  | and => exact h.operand
  | or => exact h.operand.conjunction

/-- What an operator joins is an expression. -/
theorem toDisjunction {c : Connective} (h : Derives c.rank ts f) : Derives .disjunction ts f := by
  cases c with
  | and => exact Derives.conjunction h
  | or => exact h

/-- Two conjunctions behind one another are one. The grammar groups it to the left, so its formula
has the value of the two joined without being their node. -/
theorem exists_and (hf : Derives .conjunction ts f) (hg : Derives .conjunction us g) :
    ∃ k, Derives .conjunction (ts ++ .connective .and :: us) k ∧ k.Agrees (.node .and f g) := by
  generalize hr : Rank.conjunction = r at hg
  induction hg with
  | operand h => exact ⟨_, hf.and h, Formula.agrees_refl _⟩
  | and hl hr' ih _ =>
    obtain ⟨k, hk, hka⟩ := ih rfl
    refine ⟨_, ?_, (hka.node (Formula.agrees_refl _)).trans (Formula.agrees_assoc _ _ _ _)⟩
    simpa using hk.and hr'
  | _ => cases hr

/-- Two disjunctions behind one another are one. -/
theorem exists_or (hf : Derives .disjunction ts f) (hg : Derives .disjunction us g) :
    ∃ k, Derives .disjunction (ts ++ .connective .or :: us) k ∧ k.Agrees (.node .or f g) := by
  generalize hr : Rank.disjunction = r at hg
  induction hg with
  | conjunction h => exact ⟨_, hf.or h, Formula.agrees_refl _⟩
  | or hl hr' ih _ =>
    obtain ⟨k, hk, hka⟩ := ih rfl
    refine ⟨_, ?_, (hka.node (Formula.agrees_refl _)).trans (Formula.agrees_assoc _ _ _ _)⟩
    simpa using hk.or hr'
  | _ => cases hr

/-- What an operator joins may be joined by it again. -/
theorem exists_joined {c : Connective} (hf : Derives c.rank ts f) (hg : Derives c.rank us g) :
    ∃ k, Derives c.rank (ts ++ .connective c :: us) k ∧ k.Agrees (.node c f g) := by
  cases c with
  | and => exact exists_and hf hg
  | or => exact exists_or hf hg

end Derives

/-! ## The reader -/

/-- What has been read of an expression up to its last operator: a disjunction behind which `OR`
stands, and a conjunction behind which `AND` stands. -/
structure Pending where
  disjunction : Option (Formula Sql) := none
  conjunction : Option (Formula Sql) := none

/-- The expression that ends with the operand `f`. -/
def Pending.close (p : Pending) (f : Formula Sql) : Formula Sql :=
  Formula.behind .or p.disjunction (Formula.behind .and p.conjunction f)

/-- Where the reader of an expression stands: in how many parentheses, what is pending there, and
the operand just read, if the next token is to be an operator. -/
structure Reader where
  outer : List Pending := []
  pending : Pending := {}
  operand : Option (Formula Sql) := none

/-- The reader behind the next token, unless that does not fit. -/
def Reader.step? : Reader → ClauseToken → Option Reader
  | ⟨outer, p, none⟩, .comparison s => some ⟨outer, p, some (.atom s)⟩
  | ⟨outer, p, none⟩, .opening => some ⟨p :: outer, {}, none⟩
  | ⟨outer, ⟨d, c⟩, some f⟩, .connective .and =>
    some ⟨outer, ⟨d, some (Formula.behind .and c f)⟩, none⟩
  | ⟨outer, p, some f⟩, .connective .or => some ⟨outer, ⟨some (p.close f), none⟩, none⟩
  | ⟨p :: outer, q, some f⟩, .closing => some ⟨outer, p, some (q.close f)⟩
  | _, _ => none

/-- The expression at the end of the tokens, where no parenthesis may be open. -/
def Reader.finish? : Reader → Option (Formula Sql)
  | ⟨[], p, some f⟩ => some (p.close f)
  | _ => none

/-- The formula that the tokens are read as. -/
def readFormula (tokens : List ClauseToken) : Option (Formula Sql) :=
  (tokens.foldlM Reader.step? {}).bind Reader.finish?

/-- What the reader holds once it has gone through what the grammar derives. -/
def Rank.Reached (outer : List Pending) (f : Formula Sql) : Rank → List ClauseToken → Prop
  | .operand, ts => ∀ p, ts.foldlM Reader.step? ⟨outer, p, none⟩ = some ⟨outer, p, some f⟩
  | .conjunction, ts => ∀ d, ∃ c g, Formula.behind .and c g = f ∧
      ts.foldlM Reader.step? ⟨outer, ⟨d, none⟩, none⟩ = some ⟨outer, ⟨d, c⟩, some g⟩
  | .disjunction, ts => ∃ p g, p.close g = f ∧
      ts.foldlM Reader.step? ⟨outer, {}, none⟩ = some ⟨outer, p, some g⟩

theorem Derives.reached {r : Rank} {ts : List ClauseToken} {f : Formula Sql} (h : Derives r ts f) :
    ∀ outer, r.Reached outer f ts := by
  induction h with
  | comparison s => exact fun outer p => rfl
  | parenthesized h ih =>
    intro outer p
    obtain ⟨q, g, rfl, hg⟩ := ih (p :: outer)
    simp [Reader.step?, hg]
  | operand h ih => exact fun outer d => ⟨none, _, rfl, ih outer _⟩
  | and hl hr ihl ihr =>
    intro outer d
    obtain ⟨c, g, rfl, hg⟩ := ihl outer d
    have hr := ihr outer ⟨d, some (Formula.behind .and c g)⟩
    refine ⟨some (Formula.behind .and c g), _, rfl, ?_⟩
    simp [Reader.step?, hg, hr]
  | conjunction h ih =>
    intro outer
    obtain ⟨c, g, rfl, hg⟩ := ih outer none
    exact ⟨⟨none, c⟩, g, rfl, hg⟩
  | or hl hr ihl ihr =>
    intro outer
    obtain ⟨p, g, rfl, hg⟩ := ihl outer
    obtain ⟨c, k, rfl, hk⟩ := ihr outer (some (p.close g))
    refine ⟨⟨some (p.close g), c⟩, k, rfl, ?_⟩
    simp [Reader.step?, hg, hk]

/-- The reader finds the formula of every derivation. -/
theorem readFormula_of_derives {ts : List ClauseToken} {f : Formula Sql}
    (h : Derives .disjunction ts f) : readFormula ts = some f := by
  obtain ⟨p, g, rfl, hg⟩ := h.reached []
  unfold readFormula
  rw [hg]
  rfl

end SqlCompose
