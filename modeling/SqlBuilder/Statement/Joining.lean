import SqlBuilder.Join.Order
import SqlBuilder.Statement.Settings

/-!
# Joining tables

A join registers a table and remembers how it is reached. The alias and group
of the table are settled at the root and hold in every union branch that the
join reaches. Joining a table under an alias that it has already changes
nothing.
-/

namespace SqlBuilder

/-- The reference that a joined table gets. -/
inductive JoinTarget where
  /-- A new reference, not registered yet. -/
  | added (ref : TableRef)
  /-- The reference under which the table is registered already. -/
  | present (ref : TableRef)
  deriving DecidableEq, Repr

namespace QueryBlock

/-- The reference that a table would get, from the alias and group asked for.
An alias that belongs to another table is refused. -/
def resolveTarget
    (block : QueryBlock)
    (table : Table)
    (aliasName group : Option String) : Except StatementError JoinTarget :=
  let groupName := group.getD block.registry.nextGroupName
  let name := aliasName.getD (block.namer block.namingContext table groupName)
  match block.registry.get? name with
  | none => .ok (.added { table := table, aliasName := name, group := groupName })
  | some ref =>
      if ref.table.name = table.name then .ok (.present ref)
      else .error (.duplicateAlias name ref.table.name)

/-- The table that a join starts from. -/
def resolveSource (block : QueryBlock) : JoinSource → Except StatementError TableRef
  | .primary => .ok block.primary
  | .registered aliasName =>
      match block.registry.get? aliasName with
      | some ref => .ok ref
      | none => .error (.unknownAlias aliasName)

/-- A table is brought in by a join of this block: it is registered here, and
is not the primary table. -/
def isLocalSource (block : QueryBlock) (source : TableRef) : Bool :=
  !source.same block.primary &&
    (block.registry.get? source.aliasName).any fun ref => ref.same source

/-- A join from a table can stand behind the present joins. -/
def canFollow (block : QueryBlock) (source : TableRef) : Bool :=
  !block.isLocalSource source || block.joins.any fun join => join.target.same source

/-- Append a join whose target is new. In a dialect without join syntax the
target is listed, and the condition becomes part of the WHERE clause. -/
def appendKeyedJoin
    (block : QueryBlock)
    (spec : JoinSpec)
    (source target : TableRef) : QueryBlock :=
  let registered :=
    { block with registry := block.registry.insert target (some (.keyed spec.kind)) }
  let condition := spec.condition? source target
  if block.capabilities.ansiJoins then
    { registered with
      mustReorder := registered.mustReorder || !registered.canFollow source
      joins := registered.joins ++
        [{ kind := .keyed spec.kind
           target := target
           source := some source
           condition := condition }]
      cache := none }
  else
    let listed :=
      { registered with
        joins := registered.joins ++
          [{ kind := .listed, target := target, source := some source, condition := none }]
        cache := none }
    condition.elim listed listed.whereAnd

/-- Join a table to this block. -/
def join (block : QueryBlock) (spec : JoinSpec) : Outcome QueryBlock TableRef :=
  match block.resolveSource spec.source with
  | .error error => .fail block error
  | .ok source =>
      match block.resolveTarget spec.table spec.aliasName spec.group with
      | .error error => .fail block error
      | .ok (.present target) =>
          { state := block
            result := .ok target
            events := [.joinIgnored target.aliasName target.table.name] }
      | .ok (.added target) =>
          if spec.kind = .rightOuter && !block.capabilities.rightOuterJoins then
            .fail block
              (.unsupported (.rightOuterJoin spec.table.name) block.capabilities.name)
          else
            .ok (block.appendKeyedJoin spec source target) target

/-- Append a cross join whose target is new. -/
def appendCrossJoin (block : QueryBlock) (target : TableRef) : QueryBlock :=
  { block with
    registry := block.registry.insert target (some .cross)
    joins := block.joins ++
      [{ kind := .cross, target := target, source := none, condition := none }]
    cache := none }

/-- Cross join a table to this block. -/
def crossJoin (block : QueryBlock) (table : Table) (aliasName group : Option String) :
    Outcome QueryBlock TableRef :=
  match block.resolveTarget table aliasName group with
  | .error error => .fail block error
  | .ok (.present target) => .ok block target
  | .ok (.added target) => .ok (block.appendCrossJoin target) target

/-- The join is a cross join to an alias. -/
def isCrossJoinTo (aliasName : String) (join : Join) : Bool :=
  join.kind = .cross && join.target.aliasName == aliasName

/-- Remove the first cross join to an alias, together with its table. -/
def removeCrossJoin (block : QueryBlock) (aliasName : String) : QueryBlock :=
  if block.joins.any (isCrossJoinTo aliasName) then
    { block with
      joins := block.joins.eraseP (isCrossJoinTo aliasName)
      registry := block.registry.erase aliasName
      mustReorder := true
      cache := none }
  else
    block

/-- Append a join as it is, registering its target. -/
def pushJoin (block : QueryBlock) (join : Join) : QueryBlock :=
  let registered :=
    { block with registry := block.registry.insert join.target (some join.kind) }
  let outOfOrder :=
    !join.kind.isOrderIndependent &&
      join.source.any fun source => !registered.canFollow source
  { registered with
    mustReorder := registered.mustReorder || outOfOrder
    joins := registered.joins ++ [join]
    cache := none }

/-- Put the joins in an order in which each follows the table it starts from,
if something may have put them out of order. Joins that wait for each other
stay behind the others, and are reported. -/
def reorderJoins (block : QueryBlock) : Outcome QueryBlock Unit :=
  if block.mustReorder then
    let placement := Join.place block.isLocalSource [] block.joins
    if placement.2.isEmpty then
      .ok { block with joins := placement.1, mustReorder := false } ()
    else
      .fail { block with joins := placement.1 ++ placement.2 }
        (.circularJoins (placement.2.map Join.unplaced))
  else
    .ok block ()

end QueryBlock

namespace Statement

mutual

/-- Join a table here and, where the join applies everywhere, in the branches
under the alias and group found here. The first failure ends the walk. -/
def spreadJoin (spec : JoinSpec) : Statement → Outcome Statement TableRef
  | .node block branches =>
      let joined := block.join spec
      match joined.result with
      | .error _ => joined.mapState fun root => .node root branches
      | .ok target =>
          if spec.everywhere then
            let others := spreadJoinToBranches (spec.resolvedTo target) branches
            { state := .node joined.state others.state
              result := others.result.map fun _ => target
              events := joined.events ++ others.events }
          else
            joined.mapState fun root => .node root branches

/-- Join a table in one branch after the other. -/
def spreadJoinToBranches (spec : JoinSpec) :
    List Statement → Outcome (List Statement) Unit
  | [] => .ok [] ()
  | branch :: rest =>
      let joined := branch.spreadJoin spec
      match joined.result with
      | .error error =>
          { state := joined.state :: rest, result := .error error, events := joined.events }
      | .ok _ =>
          let others := spreadJoinToBranches spec rest
          { state := joined.state :: others.state
            result := others.result
            events := joined.events ++ others.events }

end

/-- Join a table, and answer with its reference. -/
def join (statement : Statement) (spec : JoinSpec) : Outcome Statement TableRef :=
  match spec.checkKeys with
  | .error error => .fail statement error
  | .ok _ => statement.spreadJoin spec

mutual

/-- Cross join a table here, and in the branches under the alias and group found
here. The first failure ends the walk. -/
def crossJoin (table : Table) (aliasName group : Option String) :
    Statement → Outcome Statement TableRef
  | .node block branches =>
      let joined := block.crossJoin table aliasName group
      match joined.result with
      | .error _ => joined.mapState fun root => .node root branches
      | .ok target =>
          let others := crossJoinToBranches table target branches
          { state := .node joined.state others.state
            result := others.result.map fun _ => target
            events := joined.events ++ others.events }

/-- Cross join a table in one branch after the other. -/
def crossJoinToBranches (table : Table) (target : TableRef) :
    List Statement → Outcome (List Statement) Unit
  | [] => .ok [] ()
  | branch :: rest =>
      let joined := crossJoin table (some target.aliasName) (some target.group) branch
      match joined.result with
      | .error error =>
          { state := joined.state :: rest, result := .error error, events := joined.events }
      | .ok _ =>
          let others := crossJoinToBranches table target rest
          { state := joined.state :: others.state
            result := others.result
            events := joined.events ++ others.events }

end

/-- Remove the cross join to an alias, here and in every branch. The answer is
the alias, if this statement had such a join itself. -/
def removeCrossJoin (statement : Statement) (aliasName : String) :
    Option String × Statement :=
  (if statement.block.joins.any (QueryBlock.isCrossJoinTo aliasName) then some aliasName
    else none,
    statement.mapBlocks fun block => block.removeCrossJoin aliasName)

/-- Put the joins of this statement in order. -/
def reorderJoins (statement : Statement) : Outcome Statement Unit :=
  statement.block.reorderJoins.mapState fun root => .node root statement.branches

end Statement
end SqlBuilder
