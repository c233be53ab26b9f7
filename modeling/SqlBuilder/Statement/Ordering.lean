import SqlBuilder.Statement.Selection

/-!
# The ordering of a statement

A dialect may want the columns of an ordering to be selected. Their entries
depend on the ordering alone, so they can be added to the select lists of a
whole union tree before anything is written. The keys of the ordering are read
off the select list afterwards.
-/

namespace SqlBuilder

namespace OrderTerm

/-- The entries that a term adds to a select list that is addressed by
position. -/
def positionalItems (aggregated : Bool) (term : OrderTerm) : List SelectedItem :=
  term.expression.components.map fun part =>
    { sql := part.text, aliasName := none, isPrimary := !aggregated }

/-- The alias under which a column of an ordering is selected: the number of
the term, and the number of the column when the term has several. -/
def columnAlias (term : OrderTerm) (termNumber columnNumber : Nat) : String :=
  if 1 < term.expression.arity then
    "NUCORDER" ++ toString termNumber ++ "_" ++ toString columnNumber
  else
    "NUCORDER" ++ toString termNumber

/-- The entries that a term adds to a select list that names the columns of the
ordering. The alias of a result column needs none. -/
def namedItems (term : OrderTerm) (termNumber : Nat) : List SelectedItem :=
  if term.expression.isResultAlias then
    []
  else
    term.expression.components.zipIdx.map fun entry =>
      { sql := entry.1.text
        aliasName := some (term.columnAlias termNumber entry.2)
        isPrimary := true }

/-- The key of one column of a term. -/
def key (term : OrderTerm) (name : String) (column : Expression) (positional : Bool) :
    OrderKey :=
  { name := name
    expression := column
    descending := term.descending
    nulls := term.nulls
    positional := positional }

/-- The keys of a term, one for each column, given how the ordering refers to
columns and what is selected. -/
def keys (term : OrderTerm) (mode : OrderMode) (selected : SelectList) :
    List OrderKey :=
  term.expression.components.map fun column =>
    match mode with
    | .positional => term.key (toString (selected.position column.text)) column true
    | .selected =>
        let name :=
          if term.expression.isResultAlias then column.text
          else ((selected.find? column.text).bind SelectedItem.aliasName).getD column.text
        term.key name column false
    | .direct => term.key column.text column false

end OrderTerm

namespace QueryBlock

/-- How the ordering refers to its columns. A subquery always names them
directly. -/
def orderMode (block : QueryBlock) : OrderMode :=
  if block.isSubquery then .direct
  else if block.capabilities.ordersByPosition then .positional
  else if block.capabilities.selectsOrderingColumns && !block.aggregated then .selected
  else .direct

/-- The entries that the ordering needs in the select list, in order. -/
def orderingItems (block : QueryBlock) : List SelectedItem :=
  match block.orderMode with
  | .positional => block.ordering.flatMap (OrderTerm.positionalItems block.aggregated)
  | .selected => block.ordering.zipIdx.flatMap fun entry => entry.1.namedItems entry.2
  | .direct => []

/-- The keys of the ordering, once its entries are selected. -/
def orderKeys (block : QueryBlock) : List OrderKey :=
  block.ordering.flatMap fun term => term.keys block.orderMode block.selected

end QueryBlock
end SqlBuilder
