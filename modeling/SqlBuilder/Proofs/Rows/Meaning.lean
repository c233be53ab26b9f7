import Mathlib.Data.List.Forall2
import SqlBuilder.Proofs.Predicate.Meaning

/-!
# Combinations of rows

What a SELECT without outer joins means before anything is grouped or cut: one
row of every table such that all conditions hold. Conditions are read in an
environment that tells the row under each alias; a subquery sees the rows around
it. An UPDATE or DELETE accepts a row of its table or does not.
-/

namespace SqlBuilder

/-- The row in scope under each alias. -/
abbrev Environment (Row : Type) := String → Option Row

namespace Environment

variable {Row : Type}

/-- Bring a row into scope under the alias of its table. -/
def bind (environment : Environment Row) (ref : TableRef) (row : Row) : Environment Row :=
  fun aliasName => if aliasName = ref.aliasName then some row else environment aliasName

/-- Bring rows into scope, one table after the other. -/
def bindAll (environment : Environment Row) : List TableRef → List Row → Environment Row
  | ref :: refs, row :: rows => (environment.bind ref row).bindAll refs rows
  | _, _ => environment

end Environment

/-- The contents of the tables, and the truth of the atoms in an environment. -/
structure Interpretation (Row : Type) where
  contains : String → Row → Prop
  atoms : Environment Row → Valuation

/-- The join keeps exactly the pairs of rows that its condition admits. -/
def JoinClause.IsInner : JoinClause → Prop
  | .keyed kind _ _ _ => kind = .inner
  | _ => True

/-- A row of the first table and rows of the joined tables fit together. -/
structure SelectArm.Combines
    {Row : Type}
    (arm : SelectArm)
    (interpretation : Interpretation Row)
    (environment : Environment Row)
    (row : Row)
    (partners : List Row) : Prop where
  /-- No join of the arm fills in missing rows. -/
  inner : ∀ clause ∈ arm.joins, clause.IsInner
  /-- There is one row of each joined table. -/
  rows : List.Forall₂
    (fun clause partner => interpretation.contains clause.target.table.name partner)
    arm.joins partners
  /-- All conditions hold on these rows. -/
  filters : arm.filtersHold (interpretation.atoms
    ((environment.bind arm.primary row).bindAll (arm.joins.map JoinClause.target) partners)) =
      true

/-- The condition on rows holds in an environment. -/
def RowCondition.Accepts
    {Row : Type}
    (interpretation : Interpretation Row)
    (environment : Environment Row) : RowCondition → Prop
  | .holds predicate => predicate.holds (interpretation.atoms environment) = true
  | .hasPartner query =>
      ∃ row partners, interpretation.contains query.arm.primary.table.name row ∧
        query.arm.Combines interpretation environment row partners

/-- An UPDATE or DELETE touches the row in scope. -/
def RowQuery.Accepts
    {Row : Type}
    (interpretation : Interpretation Row)
    (environment : Environment Row)
    (query : RowQuery) : Prop :=
  ∀ condition, query.condition = some condition →
    condition.Accepts interpretation environment

end SqlBuilder
