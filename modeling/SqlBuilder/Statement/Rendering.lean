import SqlBuilder.Statement.Query

/-!
# Rendering

Rendering a SELECT puts the joins in order, adds the columns of the ordering to
the select lists of the whole tree, renders the branches, and keeps the query.
UPDATE and DELETE touch one table only: the joins of a statement move into a
subquery that looks for partners of a row.

The walk carries the entries that the statements above have added but that the
blocks below have not received yet. A failure in one branch leaves the branches
behind it with those entries and nothing else.
-/

namespace SqlBuilder
namespace Statement

mutual

/-- Render a SELECT, after the waiting entries have been added to every block. -/
def renderSelect (waiting : List SelectedItem) :
    Statement → Outcome Statement SelectQuery
  | .node original branches =>
      let block := original.addItems waiting
      match block.cachedSelect? with
      | some query =>
          .ok (.node block (mapBranches (·.addItems waiting) branches)) query
      | none =>
          let reordered := block.reorderJoins
          match reordered.result with
          | .error error =>
              .fail (.node reordered.state (mapBranches (·.addItems waiting) branches)) error
          | .ok _ =>
              let items := reordered.state.orderingItems
              let ready := reordered.state.addItems items
              let rendered := renderBranches (waiting ++ items) branches
              match rendered.result with
              | .error error =>
                  { state := .node ready rendered.state
                    result := .error error
                    events := rendered.events }
              | .ok queries =>
                  let query := ready.query queries
                  { state := .node { ready with cache := some (.select query) } rendered.state
                    result := .ok query
                    events := rendered.events ++ ready.reports }

/-- Render the branches, one after the other, up to the first failure. -/
def renderBranches (waiting : List SelectedItem) :
    List Statement → Outcome (List Statement) (List SelectQuery)
  | [] => .ok [] []
  | branch :: rest =>
      let rendered := branch.renderSelect waiting
      match rendered.result with
      | .error error =>
          { state := rendered.state :: mapBranches (·.addItems waiting) rest
            result := .error error
            events := rendered.events }
      | .ok query =>
          let others := renderBranches waiting rest
          { state := rendered.state :: others.state
            result := others.result.map fun queries => query :: queries
            events := rendered.events ++ others.events }

end

/-- Render a SELECT, or take the last one while it is up to date. -/
def selectQuery (statement : Statement) : Outcome Statement SelectQuery :=
  statement.renderSelect []

/-- The text of the SELECT. -/
def selectSql (statement : Statement) : Outcome Statement String :=
  statement.selectQuery.map SelectQuery.toSql

end Statement

/-- The assignment as it stands in a SET clause. A single column loses its
qualifier. -/
def Assignment.toSql (assignment : Assignment) : String :=
  (if assignment.target.isSingleColumn then Text.afterDot assignment.target.text
    else assignment.target.text) ++
    " = " ++ assignment.value.text

namespace QueryBlock

/-- The SET clause. -/
def setClause (block : QueryBlock) : String :=
  "SET " ++ String.intercalate ", " (block.updates.map Assignment.toSql)

/-- The subquery that looks for partners of a row of the primary table: over the
table of the first join, under its condition and that of the block, with the
remaining joins. -/
def partnerBlock (block : QueryBlock) (id : StatementId) (first : Join)
    (rest : List Join) : QueryBlock :=
  let root :=
    ofPrimary id block.subqueryAncestry block.dialect block.namer block.subqueryOptions
      first.target
  let joined := first.condition.elim root root.whereAnd
  let filtered := block.condition.elim joined joined.whereAnd
  rest.foldl pushJoin filtered

/-- The rows of the primary table that the block is about. A subquery for it is
built under the given identity. -/
def rowCondition (block : QueryBlock) (id : StatementId) :
    Outcome Unit (Option RowCondition) :=
  match block.joins with
  | [] => .ok () (block.condition.map .holds)
  | first :: rest =>
      ((Statement.single (block.partnerBlock id first rest)).selectQuery.mapState
        fun _ => ()).map fun query => some (.hasPartner query)

/-- Put the joins in order and build a query over rows of the primary table. -/
def rowQuery
    (block : QueryBlock)
    (id : StatementId)
    (head : QueryBlock → String)
    (kind : RowQuery → Rendering) : Outcome QueryBlock RowQuery :=
  let reordered := block.reorderJoins
  match reordered.result with
  | .error error => .fail reordered.state error
  | .ok _ =>
      let rows := reordered.state.rowCondition id
      match rows.result with
      | .error error =>
          { state := reordered.state, result := .error error, events := rows.events }
      | .ok condition =>
          let query : RowQuery := { head := head reordered.state, condition := condition }
          { state := { reordered.state with cache := some (kind query) }
            result := .ok query
            events := rows.events }

/-- The UPDATE of the block, or the last one while it is up to date. -/
def updateQuery (block : QueryBlock) (id : StatementId) : Outcome QueryBlock RowQuery :=
  match block.cachedUpdate? with
  | some query => .ok block query
  | none =>
      block.rowQuery id (fun ready => ready.dialect.updateText ready.primary ready.setClause)
        .update

/-- The DELETE of the block, or the last one while it is up to date. -/
def deleteQuery (block : QueryBlock) (id : StatementId) : Outcome QueryBlock RowQuery :=
  match block.cachedDelete? with
  | some query => .ok block query
  | none =>
      block.rowQuery id (fun ready => ready.dialect.deleteText ready.primary) .delete

end QueryBlock

namespace Statement

/-- Operate on the root and leave the branches alone. -/
def onRoot {Value : Type} (statement : Statement)
    (operate : QueryBlock → Outcome QueryBlock Value) : Outcome Statement Value :=
  (operate statement.block).mapState fun root => .node root statement.branches

/-- The text of the UPDATE. A subquery that it needs gets the given identity. -/
def updateSql (statement : Statement) (id : StatementId) : Outcome Statement String :=
  (statement.onRoot (·.updateQuery id)).map RowQuery.toSql

/-- The text of the DELETE. A subquery that it needs gets the given identity. -/
def deleteSql (statement : Statement) (id : StatementId) : Outcome Statement String :=
  (statement.onRoot (·.deleteQuery id)).map RowQuery.toSql

/-- Report the text of the statement and its table groups. The text is that of
the UPDATE if there are assignments, and else that of the SELECT. -/
def log (statement : Statement) (id : StatementId) : Outcome Statement Unit :=
  let rendered :=
    if statement.block.updates.isEmpty then statement.selectSql
    else statement.updateSql id
  match rendered.result with
  | .error error =>
      { state := rendered.state, result := .error error, events := rendered.events }
  | .ok sql =>
      let groups := rendered.state.block.registry.groups
      { state := rendered.state
        result := .ok ()
        events :=
          rendered.events ++ .statementText sql ::
            groups.map fun group => .tableGroup group.description }

end Statement
end SqlBuilder
