import SqlBuilder.Proofs.Bounds.Ordering
import SqlBuilder.Proofs.Rows.Partner
import SqlBuilder.Proofs.TreeHistory

/-!
# Checked rendering

Rendering with every access checked, over a tree whose orderings are given by parallel
lists. The walk is that of a rendering: each block selects the columns that the orderings
above it ask for and then those of its own, and looks up every position that this answers
with. Where select lists have no text twice and the lists stand for the orderings, no check
fails, and what comes of it is the rendering.
-/

namespace SqlBuilder

/-- The orderings of a tree, in parallel lists. -/
inductive OrderingTree where
  | node (lists : OrderingLists) (branches : List OrderingTree)

namespace OrderingTree

/-- No ordering and no branches. -/
def single : OrderingTree :=
  .node {} []

/-- The lists stand for the orderings, block by block. -/
inductive Fits : OrderingTree → Statement → Prop
  | node {lists : OrderingLists} {trees : List OrderingTree} {root : QueryBlock}
      {branches : List Statement} :
      lists.StandsFor root.ordering →
      List.Forall₂ Fits trees branches →
      Fits (.node lists trees) (.node root branches)

end OrderingTree

namespace QueryBlock

/-- The columns of the SELECT clause, with the counter checked. -/
def columns? (block : QueryBlock) : Option (List OutputColumn) :=
  if block.pagination.namesColumns then SelectList.namedColumns? 0 block.selected
  else some block.selected.columns

/-- The query of a block from its columns, its keys and the queries of its branches, with
the cuts checked. -/
def query? (block : QueryBlock) (columns : List OutputColumn) (keys : List OrderKey)
    (branches : List SelectQuery) : Option SelectQuery := do
  let wrapper ← block.pagination.wrapper? block.range block.selected
  let range :=
    if block.pagination = .trailing then
      (block.dialect.rangeText? block.range (!keys.isEmpty)).filter (· != "")
    else
      none
  return .node { block.arm with list := { block.outputList with columns := columns } }
    block.capabilities.unionAll branches
    { block.ending with
      orderBy := keys.map block.dialect.orderItem
      range := range
      wrapper := wrapper }

end QueryBlock

namespace Statement

mutual

/-- Select entries in every block of the tree. -/
def putEverywhere? (items : List SelectedItem) : Statement → Option Statement
  | .node root branches => do
      let changed ← putBranches? items branches
      let block ← root.putAll? items
      return .node block changed

/-- Select entries in every block of every branch. -/
def putBranches? (items : List SelectedItem) : List Statement → Option (List Statement)
  | [] => some []
  | branch :: rest => do
      let changed ← branch.putEverywhere? items
      let others ← putBranches? items rest
      return changed :: others

end

mutual

/-- Render a SELECT, after the waiting entries have been selected in every block. -/
def renderSelect? (waiting : List SelectedItem) :
    OrderingTree → Statement → Option (Outcome Statement SelectQuery)
  | .node lists trees, .node original branches => do
      let block ← original.putAll? waiting
      match block.cachedSelect? with
      | some query =>
          let reached ← putBranches? waiting branches
          return .ok (.node block reached) query
      | none =>
          let reordered := block.reorderJoins
          match reordered.result with
          | .error error =>
              let reached ← putBranches? waiting branches
              return .fail (.node reordered.state reached) error
          | .ok _ =>
              let items := reordered.state.orderingItems
              let (ready, keys) ← lists.keys? reordered.state
              let columns ← ready.columns?
              let rendered ← renderBranches? (waiting ++ items) trees branches
              match rendered.result with
              | .error error =>
                  return {
                    state := .node ready rendered.state
                    result := .error error
                    events := rendered.events }
              | .ok queries =>
                  let query ← ready.query? columns keys queries
                  return {
                    state := .node { ready with cache := some (.select query) } rendered.state
                    result := .ok query
                    events := rendered.events ++
                      (keys.flatMap ready.dialect.orderEvents ++ ready.lockClause.2) }

/-- Render the branches, one after the other, up to the first failure. -/
def renderBranches? (waiting : List SelectedItem) :
    List OrderingTree → List Statement → Option (Outcome (List Statement) (List SelectQuery))
  | _, [] => some (.ok [] [])
  | [], _ :: _ => none
  | tree :: trees, branch :: rest => do
      let rendered ← branch.renderSelect? waiting tree
      match rendered.result with
      | .error error =>
          let reached ← putBranches? waiting rest
          return {
            state := rendered.state :: reached
            result := .error error
            events := rendered.events }
      | .ok query =>
          let others ← renderBranches? waiting trees rest
          return {
            state := rendered.state :: others.state
            result := others.result.map fun queries => query :: queries
            events := rendered.events ++ others.events }

end

end Statement

/-! ## Rows -/

namespace QueryBlock

variable (block : QueryBlock) (id : StatementId)

end QueryBlock

namespace Statement

end Statement
end SqlBuilder
