import SqlBuilder.Dialect.Basic
import SqlBuilder.Join.Basic
import SqlBuilder.Naming.Basic
import SqlBuilder.Options
import SqlBuilder.Ordering
import SqlBuilder.Outcome
import SqlBuilder.Query.Basic
import SqlBuilder.Range
import SqlBuilder.Registry
import SqlBuilder.SelectList

/-!
# Statements

A statement is a tree. Its root holds one query block, with everything that can
be said about a statement without unions, and its branches are the statements
united with it. Many edits apply to every block of the tree.

A block keeps the query that it was last rendered to until an edit clears it.
-/

namespace SqlBuilder

/-- The identity of a statement. -/
structure StatementId where
  number : Nat
  deriving DecidableEq, Repr

/-- The group that a primary table joins unless another is asked for. -/
def primaryGroup : String := "Group0"

/-- An assignment of an UPDATE. -/
structure Assignment where
  target : Expression
  value : Expression
  deriving DecidableEq, Repr

/-- A statement without its union branches. -/
structure QueryBlock where
  id : StatementId
  /-- The statements around this one, from the outermost inward. -/
  ancestry : List StatementId
  dialect : Dialect
  namer : Namer
  options : StatementOptions
  primary : TableRef
  registry : Registry
  joins : List Join := []
  /-- The joins may have to be put in another order before they are written. -/
  mustReorder : Bool := false
  selected : SelectList := []
  updates : List Assignment := []
  distinct : Bool := false
  /-- The statement selects or groups by aggregates. -/
  aggregated : Bool := false
  condition : Option Predicate := none
  grouping : List Expression := []
  having : Option Predicate := none
  /-- The terms of the ordering; without terms there is no ordering. -/
  ordering : List OrderTerm := []
  range : Range := {}
  /-- The last rendering, while it is up to date. -/
  cache : Option Rendering := none

namespace QueryBlock

/-- A block over a primary table, with nothing else said. -/
def ofPrimary
    (id : StatementId)
    (ancestry : List StatementId)
    (dialect : Dialect)
    (namer : Namer)
    (options : StatementOptions)
    (primary : TableRef) : QueryBlock :=
  { id := id
    ancestry := ancestry
    dialect := dialect
    namer := namer
    options := options
    primary := primary
    registry := Registry.empty.insert primary none }

/-- What the dialect can express. -/
def capabilities (block : QueryBlock) : Capabilities :=
  block.dialect.capabilities

/-- Number of statements around this one. -/
def depth (block : QueryBlock) : Nat :=
  block.ancestry.length

/-- The block belongs to a subquery. -/
def isSubquery (block : QueryBlock) : Bool :=
  !block.ancestry.isEmpty

/-- What a namer sees of the block. -/
def namingContext (block : QueryBlock) : NamingContext :=
  { registry := block.registry, depth := block.depth }

/-- Forget the last rendering. -/
def invalidate (block : QueryBlock) : QueryBlock :=
  { block with cache := none }

/-- The last rendering, if it is a SELECT. -/
def cachedSelect? (block : QueryBlock) : Option SelectQuery :=
  match block.cache with
  | some (.select query) => some query
  | _ => none

/-- The last rendering, if it is an UPDATE. -/
def cachedUpdate? (block : QueryBlock) : Option RowQuery :=
  match block.cache with
  | some (.update query) => some query
  | _ => none

/-- The last rendering, if it is a DELETE. -/
def cachedDelete? (block : QueryBlock) : Option RowQuery :=
  match block.cache with
  | some (.delete query) => some query
  | _ => none

/-- The join that leads to an alias. -/
def joinTo? (block : QueryBlock) (aliasName : String) : Option Join :=
  block.joins.find? fun join => join.target.aliasName == aliasName

end QueryBlock

/-- A statement with its union branches. -/
inductive Statement where
  | node (block : QueryBlock) (branches : List Statement)

namespace Statement

/-- The block at the root. -/
def block : Statement → QueryBlock
  | .node block _ => block

/-- The union branches. -/
def branches : Statement → List Statement
  | .node _ branches => branches

/-- Change the block at the root. -/
def modifyBlock (change : QueryBlock → QueryBlock) : Statement → Statement
  | .node block branches => .node (change block) branches

@[simp] theorem block_node (root : QueryBlock) (branches : List Statement) :
    (node root branches).block = root := rfl

@[simp] theorem branches_node (root : QueryBlock) (branches : List Statement) :
    (node root branches).branches = branches := rfl

mutual

/-- Change every block of the tree. -/
def mapBlocks (change : QueryBlock → QueryBlock) : Statement → Statement
  | .node block branches => .node (change block) (mapBranches change branches)

/-- Change every block of every branch. -/
def mapBranches (change : QueryBlock → QueryBlock) : List Statement → List Statement
  | [] => []
  | branch :: rest => branch.mapBlocks change :: mapBranches change rest

end

mutual

/-- Every block of the tree, each before those of its branches. -/
def blocks : Statement → List QueryBlock
  | .node block branches => block :: branchBlocks branches

/-- Every block of every branch. -/
def branchBlocks : List Statement → List QueryBlock
  | [] => []
  | branch :: rest => branch.blocks ++ branchBlocks rest

end

/-- Change the root alone, or every block of the tree. -/
def modify (everywhere : Bool) (change : QueryBlock → QueryBlock)
    (statement : Statement) : Statement :=
  if everywhere then statement.mapBlocks change else statement.modifyBlock change

/-- Number of statements united with this one, at any depth. -/
def unionCount (statement : Statement) : Nat :=
  (branchBlocks statement.branches).length

/-- Every branch selects from a table of the same name as the root does. -/
def sharesPrimaryTable (statement : Statement) : Bool :=
  statement.branches.all fun branch =>
    branch.block.primary.table.name == statement.block.primary.table.name

/-- This statement is a subquery of another, at any depth. -/
def isChildOf (statement other : Statement) : Bool :=
  statement.block.ancestry.contains other.block.id

/-- A statement without branches. -/
def single (block : QueryBlock) : Statement :=
  .node block []

end Statement
end SqlBuilder
