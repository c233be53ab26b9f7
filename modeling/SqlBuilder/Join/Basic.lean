import SqlBuilder.Error
import SqlBuilder.Expression

/-!
# Joins

A join leads from a source table to a target table that it brings into the
statement. A join that compares keys is inner or outer; a cross join has no
source and no condition; a listed table stands behind a comma, its condition
being part of the WHERE clause.
-/

namespace SqlBuilder

/-- How a join by keys treats rows without a partner. -/
inductive KeyedJoinKind where
  | inner
  | leftOuter
  | rightOuter
  deriving DecidableEq, Repr

/-- The words of the join. -/
def KeyedJoinKind.keyword : KeyedJoinKind → String
  | .inner => "INNER JOIN"
  | .leftOuter => "LEFT OUTER JOIN"
  | .rightOuter => "RIGHT OUTER JOIN"

/-- The kind of a join. -/
inductive JoinKind where
  | keyed (kind : KeyedJoinKind)
  | cross
  /-- The target is listed behind a comma. -/
  | listed
  deriving DecidableEq, Repr

namespace JoinKind

/-- The name of the kind in the description of a table group. -/
def label : JoinKind → String
  | .keyed .inner => "Inner"
  | .keyed .leftOuter => "LeftOuter"
  | .keyed .rightOuter => "RightOuter"
  | .cross => "Cross"
  | .listed => "NonAnsi"

/-- The join may stand anywhere in the FROM clause. -/
def isOrderIndependent : JoinKind → Bool
  | .keyed _ => false
  | .cross => true
  | .listed => true

end JoinKind

/-- A join of a statement. -/
structure Join where
  kind : JoinKind
  target : TableRef
  /-- The table joined from; a cross join has none. -/
  source : Option TableRef
  condition : Option Predicate

/-- The table that a join is asked to start from. -/
inductive JoinSource where
  | primary
  | registered (aliasName : String)
  deriving DecidableEq, Repr

/-- A join that is asked for. -/
structure JoinSpec where
  kind : KeyedJoinKind
  table : Table
  /-- Alias of the target; generated when absent. -/
  aliasName : Option String := none
  /-- Table group of the target; generated when absent. -/
  group : Option String := none
  source : JoinSource := .primary
  sourceKey : Option Mapping := none
  targetKey : Option Mapping := none
  /-- Values that the discriminator of the target may have; none means any. -/
  discriminators : List Literal := []
  /-- The union branches join the table too. -/
  everywhere : Bool := true

namespace JoinSpec

/-- Join from the table registered under an alias, by a key of that table. -/
def fromAlias (spec : JoinSpec) (aliasName : String) (key : Mapping) : JoinSpec :=
  { spec with source := .registered aliasName, sourceKey := some key }

/-- Join from the primary table, by a key of that table. -/
def fromPrimary (spec : JoinSpec) (key : Mapping) : JoinSpec :=
  { spec with source := .primary, sourceKey := some key }

/-- Compare the source key with these columns of the target. -/
def matching (spec : JoinSpec) (key : Mapping) : JoinSpec :=
  { spec with targetKey := some key }

/-- The same join with the alias and group of a known target. -/
def resolvedTo (spec : JoinSpec) (target : TableRef) : JoinSpec :=
  { spec with aliasName := some target.aliasName, group := some target.group }

/-- Two given keys must have columns, as many on either side, and the target
key must belong to the joined table. -/
def checkKeys (spec : JoinSpec) : Except StatementError Unit :=
  match spec.sourceKey, spec.targetKey with
  | some sourceKey, some targetKey =>
      if sourceKey.isEmpty || targetKey.isEmpty then
        .error (.missingArgument .joinKeyMapping)
      else if sourceKey.arity ≠ targetKey.arity then
        .error (.joinArityMismatch sourceKey.arity targetKey.arity)
      else if targetKey.table ≠ spec.table.name then
        .error (.tableMismatch spec.table.name targetKey.table)
      else
        .ok ()
  | _, _ => .ok ()

/-- The comparison of the two keys, if both are given. -/
def keyCondition? (spec : JoinSpec) (source target : TableRef) : Option Predicate :=
  match spec.sourceKey, spec.targetKey with
  | some sourceKey, some targetKey =>
      some ((Expression.mapping source sourceKey).isEqualTo
        (Expression.mapping target targetKey))
  | _, _ => none

/-- The choice among discriminator values, if the target has a discriminator
and values are given. -/
def discriminatorCondition? (spec : JoinSpec) (target : TableRef) : Option Predicate :=
  match target.table.discriminator with
  | some column =>
      if spec.discriminators.isEmpty then
        none
      else
        some (.paren (Predicate.any
          (spec.discriminators.map (Expression.column target column).equalsLiteral)))
  | none => none

/-- The condition of the join between two tables. -/
def condition? (spec : JoinSpec) (source target : TableRef) : Option Predicate :=
  match spec.keyCondition? source target, spec.discriminatorCondition? target with
  | some keys, some values => some (keys.and values)
  | some keys, none => some keys
  | none, values => values

end JoinSpec
end SqlBuilder
