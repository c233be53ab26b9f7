import SqlBuilder.Proofs.Selection.Growth

/-!
# The columns of an ordering

A term of an ordering may span several columns, and each of them becomes a key of its
own with the direction and the place of nulls that the term asks for. Rendering changes
neither the ordering nor how it refers to its columns.
-/

namespace SqlBuilder

/-- The terms of the single columns of a term. -/
def OrderTerm.columns (term : OrderTerm) : List OrderTerm :=
  term.expression.components.map fun column => { term with expression := column }

/-- The key is that of a column: its expression, with what the ordering asks for it. -/
structure OrderKey.IsFor (key : OrderKey) (mode : OrderMode) (column : OrderTerm) : Prop where
  expression : key.expression = column.expression
  descending : key.descending = column.descending
  nulls : key.nulls = column.nulls
  positional : key.positional = true ↔ mode = .positional

/-- Every column of a term has a key, in order. -/
theorem OrderTerm.forall₂_isFor_keys
    (term : OrderTerm)
    (mode : OrderMode)
    (selected : SelectList) :
    List.Forall₂ (fun column key => OrderKey.IsFor key mode column) term.columns
      (term.keys mode selected) := by
  rw [columns, keys, List.forall₂_map_left_iff, List.forall₂_map_right_iff, List.forall₂_same]
  intro column _
  cases mode with
  | positional | selected | direct => exact ⟨rfl, rfl, rfl, by simp [key]⟩

namespace QueryBlock

/-- The columns that the ordering names, in order. -/
def orderingColumns (block : QueryBlock) : List OrderTerm :=
  block.ordering.flatMap OrderTerm.columns

theorem forall₂_isFor_orderKeys (block : QueryBlock) :
    List.Forall₂ (fun column key => OrderKey.IsFor key block.orderMode column)
      block.orderingColumns block.orderKeys := by
  refine List.rel_flatMap (R := Eq) (List.forall₂_refl block.ordering) ?_
  rintro term _ rfl
  exact term.forall₂_isFor_keys block.orderMode block.selected

/-- Rendering does not change the ordering. -/
theorem ReadiedTo.orderingColumns_eq
    {before after : QueryBlock}
    (readied : ReadiedTo before after) : after.orderingColumns = before.orderingColumns := by
  rw [readied.eq]
  rfl

/-- Rendering does not change how the ordering refers to columns. -/
theorem ReadiedTo.orderMode_eq
    {before after : QueryBlock}
    (readied : ReadiedTo before after) : after.orderMode = before.orderMode := by
  rw [readied.eq]
  rfl

/-- Where positions are ordered by, every column has the key of the position of its
text. -/
theorem orderKeys_of_positional
    {block : QueryBlock}
    (byPosition : block.orderMode = .positional) :
    block.orderKeys = block.orderingColumns.map fun column =>
      column.key (toString (block.selected.position column.expression.text)) column.expression
        true := by
  rw [orderKeys, orderingColumns, byPosition, List.map_flatMap]
  refine List.flatMap_congr fun term _ => ?_
  rw [OrderTerm.keys, OrderTerm.columns, List.map_map]
  rfl

/-- Where positions are ordered by, every column is selected without an alias. -/
theorem orderingItems_of_positional
    {block : QueryBlock}
    (byPosition : block.orderMode = .positional) :
    block.orderingItems = block.orderingColumns.map fun column =>
      { sql := column.expression.text, aliasName := none, isPrimary := !block.aggregated } := by
  rw [orderingItems, orderingColumns, byPosition, List.map_flatMap]
  refine List.flatMap_congr fun term _ => ?_
  rw [OrderTerm.positionalItems, OrderTerm.columns, List.map_map]
  rfl

end QueryBlock
end SqlBuilder
