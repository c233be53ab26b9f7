import SqlBuilder.Proofs.Tree
import SqlBuilder.Statement.Rendering

/-!
# Operations and the trees they lead to

Every operation on a statement is a value, so that a run is a sequence of
operations. A step of a run operates on the root of a tree or, by a path, on a
branch at any depth, and counts whether it succeeds or fails. The steps of a run
may be restricted to those that a relation between the trees before and after
permits.
-/

namespace SqlBuilder

/-- The three kinds of text that a statement can be rendered to. -/
inductive Framing where
  | select
  | update
  | delete
  deriving DecidableEq, Repr

namespace Statement

/-- Render a statement, or take the last rendering while it is up to date. A
subquery that the rendering needs gets the given identity. -/
def render (statement : Statement) (framing : Framing) (id : StatementId) :
    Outcome Statement Rendering :=
  match framing with
  | .select => statement.selectQuery.map .select
  | .update => (statement.onRoot (·.updateQuery id)).map .update
  | .delete => (statement.onRoot (·.deleteQuery id)).map .delete

/-- The text of a statement. -/
def sql (statement : Statement) (framing : Framing) (id : StatementId) :
    Outcome Statement String :=
  match framing with
  | .select => statement.selectSql
  | .update => statement.updateSql id
  | .delete => statement.deleteSql id

/-- The text is that of the rendering. -/
theorem result_sql (statement : Statement) (framing : Framing) (id : StatementId) :
    (statement.sql framing id).result =
      (statement.render framing id).result.map Rendering.toSql := by
  cases framing with
  | select =>
      rw [sql, render, selectSql]
      cases rendered : statement.selectQuery.result <;>
        simp [rendered, Except.map, Rendering.toSql]
  | update =>
      rw [sql, render, updateSql]
      cases rendered : (statement.onRoot (·.updateQuery id)).result <;>
        simp [rendered, Except.map, Rendering.toSql]
  | delete =>
      rw [sql, render, deleteSql]
      cases rendered : (statement.onRoot (·.deleteQuery id)).result <;>
        simp [rendered, Except.map, Rendering.toSql]

end Statement

/-- An operation on a statement, with its arguments. -/
inductive Operation where
  | select (expression : Expression) (aliasName : Option String) (everywhere : Bool)
  | selectMapping (ref : Option TableRef) (mapping : Mapping) (aliasName : Option String)
      (everywhere : Bool)
  | selectColumn (ref : Option TableRef) (column : Column) (aliasName : Option String)
      (everywhere : Bool)
  | join (spec : JoinSpec)
  | crossJoin (table : Table) (aliasName group : Option String)
  | removeCrossJoin (aliasName : String)
  | reorderJoins
  | whereAnd (predicate : Predicate) (everywhere : Bool)
  | whereOr (predicate : Predicate) (everywhere : Bool)
  | groupBy (expression : Expression)
  | setHaving (predicate : Predicate)
  | setDistinct (distinct : Bool)
  | setRange (range : Range)
  | setOrdering (expressions : List Expression) (directions : List Bool)
      (nulls : Option (List (Option NullOrder)))
  | clearOrdering
  | setUpdates (assignments : List Assignment)
  | setOptions (strategies : NamingStrategies) (options : StatementOptions)
  | setNamingStrategy (strategies : NamingStrategies) (key : String)
  | union (other : Statement)
  | render (framing : Framing) (id : StatementId)
  | log (id : StatementId)

namespace Operation

/-- Carry out an operation. Of its answer only the success or the error is
kept. -/
def run : Operation → Statement → Outcome Statement Unit
  | .select expression aliasName everywhere, statement =>
      (statement.select expression aliasName everywhere).map fun _ => ()
  | .selectMapping ref mapping aliasName everywhere, statement =>
      (statement.selectMapping ref mapping aliasName everywhere).map fun _ => ()
  | .selectColumn ref column aliasName everywhere, statement =>
      (statement.selectColumn ref column aliasName everywhere).map fun _ => ()
  | .join spec, statement => (statement.join spec).map fun _ => ()
  | .crossJoin table aliasName group, statement =>
      (statement.crossJoin table aliasName group).map fun _ => ()
  | .removeCrossJoin aliasName, statement => .ok (statement.removeCrossJoin aliasName).2 ()
  | .reorderJoins, statement => statement.reorderJoins
  | .whereAnd predicate everywhere, statement =>
      .ok (statement.whereAnd predicate everywhere) ()
  | .whereOr predicate everywhere, statement => .ok (statement.whereOr predicate everywhere) ()
  | .groupBy expression, statement => .ok (statement.groupBy expression) ()
  | .setHaving predicate, statement => .ok (statement.setHaving predicate) ()
  | .setDistinct distinct, statement => .ok (statement.setDistinct distinct) ()
  | .setRange range, statement => .ok (statement.setRange range) ()
  | .setOrdering expressions directions nulls, statement =>
      statement.setOrdering expressions directions nulls
  | .clearOrdering, statement => .ok statement.clearOrdering ()
  | .setUpdates assignments, statement => statement.setUpdates assignments
  | .setOptions strategies options, statement => statement.setOptions strategies options
  | .setNamingStrategy strategies key, statement => statement.setNamingStrategy strategies key
  | .union other, statement => statement.union other
  | .render framing id, statement => (statement.sql framing id).map fun _ => ()
  | .log id, statement => statement.log id

/-- The operation gives a statement an ordering, or takes it away. -/
def SetsOrdering : Operation → Prop
  | .setOrdering _ _ _ | .clearOrdering => True
  | _ => False

end Operation

namespace Statement

/-- The trees that a run leads to when all its steps are permitted. A run starts
from statements that a builder has built; each step operates on the statement at
a path, and a union brings in a tree with a run of its own. -/
inductive ReachedBy (permits : Statement → Statement → Prop) : Statement → Prop
  | built
      {builder : StatementBuilder}
      {strategies : NamingStrategies}
      {id : StatementId}
      {statement : Statement} :
      builder.build strategies id = .ok statement →
      ReachedBy permits statement
  | step
      {statement : Statement}
      {operation : Operation}
      {path : List Nat}
      {outcome : Outcome Statement Unit} :
      ReachedBy permits statement →
      (∀ other, operation = .union other → ReachedBy permits other) →
      statement.onBranch operation.run path = some outcome →
      permits statement outcome.state →
      ReachedBy permits outcome.state

/-- The trees that some run leads to. -/
abbrev Reachable : Statement → Prop :=
  ReachedBy fun _ _ => True

/-- A restricted run is a run. -/
theorem ReachedBy.reachable
    {permits : Statement → Statement → Prop}
    {statement : Statement}
    (reached : ReachedBy permits statement) : Reachable statement := by
  induction reached with
  | built built => exact .built built
  | step _ _ operated _ reachable broughtReachable =>
      exact .step reachable broughtReachable operated trivial

/-- An operation on the root is a step. -/
theorem ReachedBy.run
    {permits : Statement → Statement → Prop}
    {statement : Statement}
    (reached : ReachedBy permits statement)
    (operation : Operation)
    (brought : ∀ other, operation = .union other → ReachedBy permits other)
    (permitted : permits statement (operation.run statement).state) :
    ReachedBy permits (operation.run statement).state :=
  .step reached brought (onBranch_nil statement) permitted

/-- A run of operations on the root that brings in no branches. -/
def runAll (operations : List Operation) (statement : Statement) : Statement :=
  operations.foldl (fun state operation => (operation.run state).state) statement

theorem Reachable.runAll
    {operations : List Operation}
    (notUnion : ∀ operation ∈ operations, ∀ other, operation ≠ .union other)
    {statement : Statement}
    (reachable : statement.Reachable) : (statement.runAll operations).Reachable := by
  induction operations generalizing statement with
  | nil => exact reachable
  | cons operation operations inductionHypothesis =>
      rw [List.forall_mem_cons] at notUnion
      apply inductionHypothesis notUnion.2
      exact reachable.run operation (fun other isUnion => absurd isUnion (notUnion.1 other)) trivial

/-- A statement over a table of people, without anything else. -/
def people (capabilities : Capabilities) : Statement :=
  .single (.ofPrimary ⟨1⟩ [] (.ofCapabilities capabilities) Namer.alpha {}
    { table := { name := "person" }, aliasName := "A0", group := primaryGroup })

theorem build_people (capabilities : Capabilities) :
    StatementBuilder.build
      { dialect := .ofCapabilities capabilities
        table := { name := "person" }
        aliasName := some "A0" } .standard ⟨1⟩ = .ok (people capabilities) :=
  rfl

theorem reachedBy_people
    (permits : Statement → Statement → Prop)
    (capabilities : Capabilities) : ReachedBy permits (people capabilities) :=
  .built (build_people capabilities)

end Statement
end SqlBuilder
