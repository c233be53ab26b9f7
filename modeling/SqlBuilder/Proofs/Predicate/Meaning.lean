import SqlBuilder.Statement.Query

/-!
# The meaning of predicates

Raw fragments and EXISTS subqueries are taken as atoms. A valuation gives every
atom a truth value, and thereby every predicate.
-/

namespace SqlBuilder

/-- Truth values of the atoms. -/
structure Valuation where
  raw : String → Bool
  existence : String → Bool

namespace Predicate

mutual

/-- The predicate holds under a valuation. -/
def holds (valuation : Valuation) : Predicate → Bool
  | .conj operands => allHold valuation operands
  | .disj operands => anyHolds valuation operands
  | .paren inner => inner.holds valuation
  | .existence query => valuation.existence query
  | .raw sql => valuation.raw sql
  | .always => true
  | .never => false

/-- All of some predicates hold. -/
def allHold (valuation : Valuation) : List Predicate → Bool
  | [] => true
  | operand :: rest => operand.holds valuation && allHold valuation rest

/-- Some of some predicates hold. -/
def anyHolds (valuation : Valuation) : List Predicate → Bool
  | [] => false
  | operand :: rest => operand.holds valuation || anyHolds valuation rest

end

variable (valuation : Valuation)

theorem allHold_eq_all (operands : List Predicate) :
    allHold valuation operands = operands.all (holds valuation) := by
  induction operands with
  | nil => rfl
  | cons operand rest inductionHypothesis =>
      rw [allHold, inductionHypothesis, List.all_cons]

theorem anyHolds_eq_any (operands : List Predicate) :
    anyHolds valuation operands = operands.any (holds valuation) := by
  induction operands with
  | nil => rfl
  | cons operand rest inductionHypothesis =>
      rw [anyHolds, inductionHypothesis, List.any_cons]

@[simp] theorem holds_conj (operands : List Predicate) :
    (conj operands).holds valuation = operands.all (holds valuation) := by
  rw [holds, allHold_eq_all]

@[simp] theorem holds_disj (operands : List Predicate) :
    (disj operands).holds valuation = operands.any (holds valuation) := by
  rw [holds, anyHolds_eq_any]

@[simp] theorem holds_paren (inner : Predicate) :
    (paren inner).holds valuation = inner.holds valuation := by
  rw [holds]

@[simp] theorem holds_raw (sql : String) :
    (raw sql).holds valuation = valuation.raw sql := by
  rw [holds]

@[simp] theorem holds_always : always.holds valuation = true := by
  rw [holds]

@[simp] theorem holds_and (left right : Predicate) :
    (left.and right).holds valuation = (left.holds valuation && right.holds valuation) := by
  cases left <;> simp [Predicate.and]

@[simp] theorem holds_or (left right : Predicate) :
    (left.or right).holds valuation = (left.holds valuation || right.holds valuation) := by
  cases left <;> simp [Predicate.or]

theorem eq_always_of_isAlways {predicate : Predicate} (always : predicate.isAlways = true) :
    predicate = .always := by
  cases predicate with
  | always => rfl
  | _ => cases always

@[simp] theorem isAlways_and (left right : Predicate) :
    (left.and right).isAlways = false := by
  cases left <;> rfl

end Predicate

/-- A condition that may be absent; without one nothing is ruled out. -/
def Valuation.satisfies (valuation : Valuation) (condition : Option Predicate) : Bool :=
  condition.elim true fun predicate => predicate.holds valuation

@[simp] theorem Valuation.satisfies_none (valuation : Valuation) :
    valuation.satisfies none = true := rfl

@[simp] theorem Valuation.satisfies_some (valuation : Valuation) (predicate : Predicate) :
    valuation.satisfies (some predicate) = predicate.holds valuation := rfl

namespace JoinClause

/-- The condition behind the word ON. -/
def condition? : JoinClause → Option Predicate
  | .keyed _ _ _ condition => condition
  | _ => none

end JoinClause

namespace SelectArm

/-- All conditions of the joins hold. -/
def onHold (arm : SelectArm) (valuation : Valuation) : Bool :=
  arm.joins.all fun clause => valuation.satisfies clause.condition?

/-- All conditions of the joins and the condition of the arm hold. -/
def filtersHold (arm : SelectArm) (valuation : Valuation) : Bool :=
  arm.onHold valuation && valuation.satisfies arm.condition

end SelectArm

namespace Expression

/-- A comparison of expressions rules something out. -/
theorem isAlways_isEqualTo (left right : Expression) :
    (left.isEqualTo right).isAlways = false := by
  have pairs : left.components.zip right.components ≠ [] := by
    rw [Ne, List.zip_eq_nil_iff]
    rintro (empty | empty)
    · exact left.components_ne_nil empty
    · exact right.components_ne_nil empty
  unfold isEqualTo
  cases zipped : left.components.zip right.components with
  | nil => exact absurd zipped pairs
  | cons pair rest => cases rest <;> rfl

end Expression

namespace JoinSpec

/-- The condition of a join rules something out, if there is one. -/
theorem isAlways_of_condition?
    {spec : JoinSpec}
    {source target : TableRef}
    {predicate : Predicate}
    (given : spec.condition? source target = some predicate) :
    predicate.isAlways = false := by
  have keys_false : ∀ keys, spec.keyCondition? source target = some keys →
      keys.isAlways = false := by
    intro keys isKeys
    rw [keyCondition?] at isKeys
    split at isKeys
    · cases isKeys
      exact Expression.isAlways_isEqualTo _ _
    · cases isKeys
  have values_false : ∀ values, spec.discriminatorCondition? target = some values →
      values.isAlways = false := by
    intro values isValues
    rw [discriminatorCondition?] at isValues
    split at isValues
    · split at isValues
      · cases isValues
      · cases isValues
        rfl
    · cases isValues
  rw [condition?] at given
  split at given
  · cases given
    exact Predicate.isAlways_and _ _
  · rename_i keys isKeys _
    cases given
    exact keys_false _ isKeys
  · exact values_false _ given

end JoinSpec

/-! ## Conditions of a block -/

namespace Join

/-- The condition that stands behind the word ON. -/
def onCondition? (join : Join) : Option Predicate :=
  match join.kind with
  | .keyed _ => join.condition
  | _ => none

/-- A join is written by its keys and with its condition, or in one of the ways
that have no condition. -/
theorem clause_cases
    (capabilities : Capabilities)
    (hint : Option String)
    (join : Join) :
    (∃ kind, join.kind = .keyed kind ∧
      join.clause capabilities hint = .keyed kind join.target hint join.condition) ∨
      (join.kind = .cross ∨ join.kind = .listed) ∧
        (join.clause capabilities hint = .cross join.target ∨
          join.clause capabilities hint = .crossAsInner join.target ∨
          join.clause capabilities hint = .listed join.target) := by
  unfold clause
  cases join.kind with
  | keyed kind => exact .inl ⟨kind, rfl, rfl⟩
  | listed => exact .inr ⟨.inr rfl, .inr (.inr rfl)⟩
  | cross =>
      refine .inr ⟨.inl rfl, ?_⟩
      dsimp only
      split
      · exact .inl rfl
      · split
        · exact .inr (.inl rfl)
        · exact .inr (.inr rfl)

@[simp] theorem target_clause
    (capabilities : Capabilities)
    (hint : Option String)
    (join : Join) :
    (join.clause capabilities hint).target = join.target := by
  rcases join.clause_cases capabilities hint with
    ⟨_, _, written⟩ | ⟨_, written | written | written⟩
  all_goals
    rw [written]
    rfl

theorem condition?_clause
    (capabilities : Capabilities)
    (hint : Option String)
    (join : Join) :
    (join.clause capabilities hint).condition? = join.onCondition? := by
  rcases join.clause_cases capabilities hint with
    ⟨kind, isKeyed, written⟩ | ⟨unconditional, written | written | written⟩
  · rw [written, onCondition?, isKeyed]
    rfl
  all_goals
    rw [written, onCondition?]
    rcases unconditional with isCross | isListed
    · rw [isCross]
      rfl
    · rw [isListed]
      rfl

end Join

namespace QueryBlock

/-- What the joins of an arm ask for, read off its block. -/
theorem onHold_arm (block : QueryBlock) (valuation : Valuation) :
    block.arm.onHold valuation =
      block.joins.all fun join => valuation.satisfies join.onCondition? := by
  rw [SelectArm.onHold, arm, List.all_map]
  simp only [Function.comp_def, Join.condition?_clause]

/-- Requiring a predicate requires it besides the present condition. -/
theorem satisfies_whereAnd
    (block : QueryBlock)
    (predicate : Predicate)
    (valuation : Valuation) :
    valuation.satisfies (block.whereAnd predicate).condition =
      (valuation.satisfies block.condition && predicate.holds valuation) := by
  unfold whereAnd
  split
  · rename_i always
    rw [Predicate.eq_always_of_isAlways always, Predicate.holds_always, Bool.and_true]
  · cases block.condition <;> simp

/-- Admitting a predicate admits it beside the present condition, and requires it
where there is none. -/
theorem satisfies_whereOr
    (block : QueryBlock)
    (predicate : Predicate)
    (valuation : Valuation) :
    valuation.satisfies (block.whereOr predicate).condition =
      block.condition.elim (predicate.holds valuation) fun present =>
        present.holds valuation || predicate.holds valuation := by
  unfold whereOr
  cases block.condition <;> simp

theorem condition_whereAnd_eq_none_iff {block : QueryBlock} {predicate : Predicate} :
    (block.whereAnd predicate).condition = none ↔
      block.condition = none ∧ predicate.isAlways = true := by
  unfold whereAnd
  split
  · rename_i always
    simp [always]
  · rename_i restricts
    simp [restricts]

end QueryBlock
end SqlBuilder
