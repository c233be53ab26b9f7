import SqlBuilder.Statement.Basic

/-!
# Conditions and settings

Edits that say which rows a statement is about, how they are grouped, ordered
and cut, what is assigned to them, and with which options. Conditions, grouping
and HAVING also reach the union branches; the other edits concern the root
alone.
-/

namespace SqlBuilder
namespace QueryBlock

/-- Require a predicate besides the present condition. -/
def whereAnd (block : QueryBlock) (predicate : Predicate) : QueryBlock :=
  if predicate.isAlways then
    block
  else
    { block with
      condition := some (block.condition.elim predicate fun present => present.and predicate)
      cache := none }

/-- Admit a predicate as an alternative to the present condition. -/
def whereOr (block : QueryBlock) (predicate : Predicate) : QueryBlock :=
  { block with
    condition := some (block.condition.elim predicate fun present => present.or predicate)
    cache := none }

/-- Group by one more expression. -/
def groupBy (block : QueryBlock) (expression : Expression) : QueryBlock :=
  { block with
    grouping := block.grouping ++ [expression]
    aggregated := true
    cache := none }

/-- Set the condition on groups. -/
def setHaving (block : QueryBlock) (predicate : Predicate) : QueryBlock :=
  { block with having := some predicate, aggregated := true, cache := none }

/-- Keep or drop duplicate rows. -/
def setDistinct (block : QueryBlock) (distinct : Bool) : QueryBlock :=
  { block with distinct := distinct, cache := none }

/-- Set the range of rows. -/
def setRange (block : QueryBlock) (range : Range) : QueryBlock :=
  { block with range := range, cache := none }

/-- Set the terms of the ordering. -/
def setOrdering (block : QueryBlock) (terms : List OrderTerm) : QueryBlock :=
  { block with ordering := terms, cache := none }

/-- Set the assignments of an UPDATE. -/
def setUpdates (block : QueryBlock) (assignments : List Assignment) : QueryBlock :=
  { block with updates := assignments, cache := none }

/-- Set the options and the namer that they ask for. -/
def setOptions (block : QueryBlock) (options : StatementOptions) (namer : Namer) :
    QueryBlock :=
  { block with options := options, namer := namer, cache := none }

end QueryBlock

namespace Statement

/-- Require a predicate. The predicate that always holds changes nothing. -/
def whereAnd (statement : Statement) (predicate : Predicate) (everywhere : Bool) :
    Statement :=
  statement.modify everywhere fun block => block.whereAnd predicate

/-- Admit a predicate as an alternative. -/
def whereOr (statement : Statement) (predicate : Predicate) (everywhere : Bool) :
    Statement :=
  statement.modify everywhere fun block => block.whereOr predicate

/-- Group by one more expression, in every branch. -/
def groupBy (statement : Statement) (expression : Expression) : Statement :=
  statement.mapBlocks fun block => block.groupBy expression

/-- Set the condition on groups, in every branch. -/
def setHaving (statement : Statement) (predicate : Predicate) : Statement :=
  statement.mapBlocks fun block => block.setHaving predicate

/-- Keep or drop duplicate rows. -/
def setDistinct (statement : Statement) (distinct : Bool) : Statement :=
  statement.modifyBlock fun block => block.setDistinct distinct

/-- Set the range of rows. -/
def setRange (statement : Statement) (range : Range) : Statement :=
  statement.modifyBlock fun block => block.setRange range

/-- Set the ordering from parallel lists, which have to be of one length. Empty
lists leave the statement without an ordering. -/
def setOrdering
    (statement : Statement)
    (expressions : List Expression)
    (directions : List Bool)
    (nulls : Option (List (Option NullOrder))) : Outcome Statement Unit :=
  let nullCount := (nulls.map List.length).getD expressions.length
  if expressions.length ≠ directions.length || expressions.length ≠ nullCount then
    .fail statement
      (.orderingLengthMismatch expressions.length directions.length nullCount)
  else if expressions.any Expression.isEmpty then
    .fail statement (.missingArgument .orderingExpression)
  else
    .ok (statement.modifyBlock fun block =>
      block.setOrdering (OrderTerm.ofLists expressions directions nulls)) ()

/-- Drop the ordering. -/
def clearOrdering (statement : Statement) : Statement :=
  statement.modifyBlock fun block => block.setOrdering []

/-- Set the assignments of an UPDATE. Neither side may be blank. -/
def setUpdates (statement : Statement) (assignments : List Assignment) :
    Outcome Statement Unit :=
  if assignments.any fun assignment =>
      assignment.target.isEmpty || assignment.value.isEmpty then
    .fail statement (.missingArgument .updateAssignment)
  else
    .ok (statement.modifyBlock fun block => block.setUpdates assignments) ()

/-- Set the options, whose naming strategy has to exist. Asking for it settles
the key for the session, see `Session.settle`. -/
def setOptions
    (statement : Statement)
    (strategies : NamingStrategies)
    (options : StatementOptions) : Outcome Statement Unit :=
  match strategies.resolve options.namingStrategy with
  | .error error => .fail statement error
  | .ok namer => .ok (statement.modifyBlock fun block => block.setOptions options namer) ()

/-- Name tables by another strategy from now on. -/
def setNamingStrategy
    (statement : Statement)
    (strategies : NamingStrategies)
    (key : String) : Outcome Statement Unit :=
  statement.setOptions strategies { statement.block.options with namingStrategy := key }

end Statement
end SqlBuilder
