import SqlBuilder.Statement.Basic

/-!
# Building statements

A builder collects what has to be known before a statement exists: its dialect,
its primary table, the alias and group of that table, its options, and the
statements around it. Building gives the statement an identity that no other
statement has, which is why it belongs to a session.
-/

namespace SqlBuilder

/-- A statement about to be built. -/
structure StatementBuilder where
  dialect : Dialect
  table : Table
  /-- Alias of the primary table; generated when absent. -/
  aliasName : Option String := none
  /-- Group of the primary table. -/
  group : Option String := none
  options : StatementOptions := {}
  ancestry : List StatementId := []

namespace StatementBuilder

/-- Build the statement, under an identity of its own. The naming strategy has
to exist even where the alias is given. -/
def build
    (builder : StatementBuilder)
    (strategies : NamingStrategies)
    (id : StatementId) : Except StatementError Statement :=
  match strategies.resolve builder.options.namingStrategy with
  | .error error => .error error
  | .ok namer =>
      let group := builder.group.getD primaryGroup
      let context : NamingContext :=
        { registry := .empty, depth := builder.ancestry.length }
      let aliasName := builder.aliasName.getD (namer context builder.table group)
      .ok (.single (.ofPrimary id builder.ancestry builder.dialect namer
        builder.options
        { table := builder.table, aliasName := aliasName, group := group }))

end StatementBuilder

namespace QueryBlock

/-- The options that a subquery inherits. It never asks for row locks. -/
def subqueryOptions (block : QueryBlock) : StatementOptions :=
  { block.options with lockForUpdate := false }

/-- The statements around a subquery of this block. -/
def subqueryAncestry (block : QueryBlock) : List StatementId :=
  block.ancestry ++ [block.id]

end QueryBlock

namespace Statement

/-- A builder for a subquery over a table, with the dialect and the options of
this statement. -/
def subquery (statement : Statement) (table : Table) : StatementBuilder :=
  { dialect := statement.block.dialect
    table := table
    options := statement.block.subqueryOptions
    ancestry := statement.block.subqueryAncestry }

end Statement

/-- The namers on offer and the identities given out so far. -/
structure Session where
  strategies : NamingStrategies := .initial
  /-- Number of identities given out. -/
  issued : Nat := 0

namespace Session

/-- An identity that has not been given out before. -/
def freshId (session : Session) : StatementId × Session :=
  ({ number := session.issued + 1 }, { session with issued := session.issued + 1 })

/-- A statement has asked for the namer under a key, to be built or to change its
options. -/
def settle (session : Session) (key : String) : Session :=
  { session with strategies := session.strategies.settle key }

/-- Build a statement. A failure gives out no identity. -/
def build (session : Session) (builder : StatementBuilder) :
    Except StatementError (Statement × Session) :=
  let fresh := session.freshId
  match builder.build session.strategies fresh.1 with
  | .ok statement => .ok (statement, fresh.2.settle builder.options.namingStrategy)
  | .error error => .error error

/-- Publish a namer, and tell whether none had been published under the key. -/
def publish (session : Session) (key : String) (namer : Namer) : Bool × Session :=
  (!session.strategies.isPublished key,
    { session with strategies := session.strategies.publish key namer })

end Session
end SqlBuilder
