import SqlBuilder.Statement.Basic

/-!
# Selecting columns

Selecting adds entries to the select lists of a statement and, unless it is
told otherwise, of all its union branches. It answers with the positions of the
columns in the list of the statement itself.
-/

namespace SqlBuilder
namespace QueryBlock

/-- Add an entry to the select list. A text that is selected already changes
nothing. -/
def addItem (block : QueryBlock) (item : SelectedItem) : QueryBlock :=
  if block.selected.hasSql item.sql then
    block
  else
    { block with selected := block.selected.add item, cache := none }

/-- Add several entries, in order. -/
def addItems (block : QueryBlock) (items : List SelectedItem) : QueryBlock :=
  items.foldl addItem block

/-- Positions of entries by their texts. -/
def positions (block : QueryBlock) (items : List SelectedItem) : List Nat :=
  items.map fun item => block.selected.position item.sql

/-- Select the entries of an expression. An aggregate makes the statement
aggregated. -/
def select (block : QueryBlock) (expression : Expression) (items : List SelectedItem) :
    QueryBlock :=
  ({ block with
      aggregated := block.aggregated || expression.isAggregate }.addItems items).invalidate

@[simp] theorem addItems_nil (block : QueryBlock) : block.addItems [] = block := rfl

@[simp] theorem addItems_cons
    (block : QueryBlock)
    (item : SelectedItem)
    (items : List SelectedItem) :
    block.addItems (item :: items) = (block.addItem item).addItems items := rfl

theorem addItems_append (block : QueryBlock) (first second : List SelectedItem) :
    block.addItems (first ++ second) = (block.addItems first).addItems second := by
  simp [addItems, List.foldl_append]

end QueryBlock

namespace Expression

/-- The entries by which an expression is selected: one for a single column,
and for several columns one each, numbered behind the alias. -/
def selectedItems (expression : Expression) (aliasName : Option String) :
    List SelectedItem :=
  let isPrimary := !expression.isAggregate && expression.hasSourceTable
  match expression.components with
  | [_] => [{ sql := expression.text, aliasName := aliasName, isPrimary := isPrimary }]
  | components =>
      components.zipIdx.map fun entry =>
        { sql := entry.1.text
          aliasName := aliasName.map (· ++ toString entry.2)
          isPrimary := isPrimary }

end Expression

namespace Mapping

/-- The entries by which a mapping is selected from a table. Several columns
are numbered behind the alias and an underscore. -/
def selectedItems (mapping : Mapping) (ref : TableRef) (aliasName : Option String) :
    List SelectedItem :=
  mapping.columns.zipIdx.map fun entry =>
    { sql := ref.aliasName ++ "." ++ entry.1
      aliasName :=
        if 1 < mapping.arity then aliasName.map (· ++ "_" ++ toString entry.2)
        else aliasName
      isPrimary := true }

end Mapping

namespace Statement

/-- Select an expression, and answer with the positions of its columns. -/
def select
    (statement : Statement)
    (expression : Expression)
    (aliasName : Option String)
    (everywhere : Bool) : Outcome Statement (List Nat) :=
  if expression.isEmpty then
    .fail statement (.missingArgument .expression)
  else
    let items := expression.selectedItems aliasName
    let changed := statement.modify everywhere fun block => block.select expression items
    .ok changed (changed.block.positions items)

/-- Select the columns of a mapping, and answer with their positions. The table
is the primary one unless another is given, and has to own the mapping. -/
def selectMapping
    (statement : Statement)
    (ref : Option TableRef)
    (mapping : Mapping)
    (aliasName : Option String)
    (everywhere : Bool) : Outcome Statement (List Nat) :=
  let table := ref.getD statement.block.primary
  if mapping.isEmpty then
    .fail statement (.missingArgument .mapping)
  else if mapping.table ≠ table.table.name then
    .fail statement (.tableMismatch table.table.name mapping.table)
  else
    let items := mapping.selectedItems table aliasName
    let changed := statement.modify everywhere fun block => block.addItems items
    .ok changed (changed.block.positions items)

/-- Select one column, and answer with its position. -/
def selectColumn
    (statement : Statement)
    (ref : Option TableRef)
    (column : Column)
    (aliasName : Option String)
    (everywhere : Bool) : Outcome Statement Nat :=
  if column.name = "" then
    .fail statement (.missingArgument .column)
  else
    (statement.selectMapping ref column.toMapping aliasName everywhere).map
      fun positions => positions.headD 0

end Statement
end SqlBuilder
