import SqlBuilder.Proofs.Failure
import SqlBuilder.Proofs.Selection.Stability

/-!
# Compositions of selections and groupings

A statement is selected from and grouped by in any order of calls. The composition is what
the calls ask for: the texts that are selected, with whether they are columns of tables,
and the expressions that are grouped by. The root of the statement shows it, apart from
texts that are selected again, and keeps its dialect.
-/

namespace SqlBuilder

/-- A text that is selected, as a column of a table or as a computed value. -/
structure SelectedText where
  sql : String
  isColumn : Bool
  deriving DecidableEq, Repr

/-- An entry without its alias. -/
def SelectedItem.selectedText (item : SelectedItem) : SelectedText :=
  { sql := item.sql, isColumn := item.isPrimary }

/-- The selection is one of columns of tables. -/
def Selection.isOfColumns : Selection → Bool
  | .ofExpression expression _ _ => expression.hasSourceTable
  | .ofMapping .. => true
  | .ofColumn .. => true

/-- What a selection selects, in order. -/
def Selection.selectedTexts (selection : Selection) (statement : Statement) :
    List SelectedText :=
  (selection.texts statement).map fun sql =>
    { sql := sql, isColumn := selection.isOfColumns }

/-- What has been selected and grouped by, in order. -/
structure Composition where
  selected : List SelectedText := []
  grouping : List Expression := []

namespace QueryBlock

/-- A block has gained entries for some texts, and may have become aggregated. -/
structure Takes (texts : List SelectedText) (before after : QueryBlock) : Prop where
  selected : ∃ items : List SelectedItem, items.map SelectedItem.selectedText = texts ∧
    after.selected = before.selected.addAll items
  grouping : after.grouping = before.grouping
  aggregated : before.aggregated = true → after.aggregated = true
  dialect : after.dialect = before.dialect

theorem takes_addItems (block : QueryBlock) (items : List SelectedItem) :
    Takes (items.map SelectedItem.selectedText) block (block.addItems items) where
  selected := ⟨items, rfl, block.selected_addItems items⟩
  grouping := by rw [addItems_eq]
  aggregated := by rw [addItems_eq]; exact fun aggregated => aggregated
  dialect := by rw [addItems_eq]

theorem takes_select
    (block : QueryBlock)
    (expression : Expression)
    (items : List SelectedItem) :
    Takes (items.map SelectedItem.selectedText) block (block.select expression items) where
  selected := ⟨items, rfl, (block.gains_select expression items).selected⟩
  grouping := by rw [select, addItems_eq]; rfl
  aggregated := by
    rw [select, addItems_eq]
    exact fun aggregated => Bool.or_eq_true_iff.mpr (.inl aggregated)
  dialect := by rw [select, addItems_eq]; rfl

end QueryBlock

theorem SelectedItem.map_selectedText
    {items : List SelectedItem}
    {isColumn : Bool}
    (alike : ∀ item ∈ items, item.isPrimary = isColumn) :
    items.map selectedText =
      (items.map SelectedItem.sql).map fun sql => { sql := sql, isColumn := isColumn } := by
  rw [List.map_map]
  refine List.map_congr_left fun item member => ?_
  rw [selectedText, alike item member]
  rfl

/-- Only columns of tables are selected as such. -/
theorem Expression.isPrimary_selectedItems
    (expression : Expression)
    (aliasName : Option String) :
    ∀ item ∈ expression.selectedItems aliasName,
      item.isPrimary = expression.hasSourceTable := by
  have isPrimary_eq : (!expression.isAggregate && expression.hasSourceTable) =
      expression.hasSourceTable := by
    cases expression <;> rfl
  intro item member
  simp only [selectedItems, isPrimary_eq] at member
  split at member
  · rw [List.mem_singleton.mp member]
  · obtain ⟨entry, _, rfl⟩ := List.mem_map.mp member
    rfl

theorem Mapping.isPrimary_selectedItems
    (mapping : Mapping)
    (ref : TableRef)
    (aliasName : Option String) :
    ∀ item ∈ mapping.selectedItems ref aliasName, item.isPrimary = true :=
  List.forall_mem_map.mpr fun _ _ => rfl

namespace Statement

variable
  {statement : Statement}
  {ref : Option TableRef}
  {aliasName : Option String}
  {everywhere : Bool}
  {positions : List Nat}

theorem takes_select
    {expression : Expression}
    (selected : (statement.select expression aliasName everywhere).result = .ok positions) :
    QueryBlock.Takes
      ((expression.components.map Expression.text).map fun sql =>
        { sql := sql, isColumn := expression.hasSourceTable })
      statement.block (statement.select expression aliasName everywhere).state.block := by
  rw [← expression.map_sql_selectedItems aliasName,
    ← SelectedItem.map_selectedText (expression.isPrimary_selectedItems aliasName)]
  simp only [select] at selected ⊢
  split at selected
  · cases selected
  · rename_i notBlank
    rw [if_neg notBlank, Outcome.state_ok, block_modify]
    exact QueryBlock.takes_select _ _ _

theorem takes_selectMapping
    {mapping : Mapping}
    (selected : (statement.selectMapping ref mapping aliasName everywhere).result =
      .ok positions) :
    QueryBlock.Takes
      ((mapping.columns.map fun column =>
          (ref.getD statement.block.primary).aliasName ++ "." ++ column).map fun sql =>
        { sql := sql, isColumn := true })
      statement.block (statement.selectMapping ref mapping aliasName everywhere).state.block := by
  rw [← mapping.map_sql_selectedItems _ aliasName,
    ← SelectedItem.map_selectedText (mapping.isPrimary_selectedItems _ aliasName)]
  simp only [selectMapping] at selected ⊢
  split at selected
  · cases selected
  · rename_i notEmpty
    split at selected
    · cases selected
    · rename_i sameTable
      rw [if_neg notEmpty, if_neg sameTable, Outcome.state_ok, block_modify]
      exact QueryBlock.takes_addItems _ _

end Statement

namespace Selection

variable {selection : Selection} {statement : Statement}

/-- A selection that succeeds selects what it is for, and changes little else. -/
theorem takes_of_ok
    {positions : List Nat}
    (selected : (selection.run statement).result = .ok positions) :
    QueryBlock.Takes (selection.selectedTexts statement) statement.block
      (selection.run statement).state.block := by
  cases selection with
  | ofExpression expression aliasName everywhere => exact Statement.takes_select selected
  | ofMapping ref mapping aliasName everywhere => exact Statement.takes_selectMapping selected
  | ofColumn ref column aliasName everywhere =>
      simp only [run, Statement.selectColumn] at selected ⊢
      split at selected
      · cases selected
      · rename_i named
        rw [if_neg named, Outcome.state_map, Outcome.state_map]
        cases mapped : (statement.selectMapping ref column.toMapping aliasName
            everywhere).result with
        | error error =>
            rw [Outcome.result_map, Outcome.result_map, mapped] at selected
            cases selected
        | ok positions => exact Statement.takes_selectMapping mapped

/-- A selection that is refused changes nothing. -/
theorem state_run_of_error
    {error : StatementError}
    (refused : (selection.run statement).result = .error error) :
    (selection.run statement).state = statement := by
  have keeps : (selection.operation.run statement).KeepsOnError statement :=
    Operation.keepsOnError_run (by cases selection <;> trivial)
  rw [operation_run] at keeps
  apply keeps error
  rw [Outcome.result_map, refused]
  rfl

end Selection

namespace Statement

/-- The statements that selections and groupings make of a statement, in any order. What
is refused is not selected. -/
inductive ComposedFrom (start : Statement) : Composition → Statement → Prop
  | start : ComposedFrom start {} start
  | selected
      {composition : Composition}
      {statement : Statement}
      {selection : Selection}
      {positions : List Nat} :
      ComposedFrom start composition statement →
      (selection.run statement).result = .ok positions →
      ComposedFrom start
        { composition with
          selected := composition.selected ++ selection.selectedTexts statement }
        (selection.run statement).state
  | refused
      {composition : Composition}
      {statement : Statement}
      {selection : Selection}
      {error : StatementError} :
      ComposedFrom start composition statement →
      (selection.run statement).result = .error error →
      ComposedFrom start composition (selection.run statement).state
  | grouped
      {composition : Composition}
      {statement : Statement}
      (expression : Expression) :
      ComposedFrom start composition statement →
      ComposedFrom start
        { composition with grouping := composition.grouping ++ [expression] }
        (statement.groupBy expression)

/-- Whatever is selected and grouped by, a reachable statement stays reachable. -/
theorem ComposedFrom.reachable
    {start statement : Statement}
    {composition : Composition}
    (composed : ComposedFrom start composition statement)
    (reachable : start.Reachable) : statement.Reachable := by
  induction composed with
  | start => exact reachable
  | @selected _ statement selection _ _ _ inductionHypothesis =>
      exact selection.reachable_of_onBranch inductionHypothesis (onBranch_nil _)
  | @refused _ statement selection _ _ _ inductionHypothesis =>
      exact selection.reachable_of_onBranch inductionHypothesis (onBranch_nil _)
  | grouped expression _ inductionHypothesis =>
      exact inductionHypothesis.run (.groupBy expression) (fun _ isUnion => nomatch isUnion) trivial

end Statement

namespace QueryBlock

/-- A block selects and groups by what a composition says. -/
structure Composes (composition : Composition) (block : QueryBlock) : Prop where
  selected : ∃ items : List SelectedItem,
    items.map SelectedItem.selectedText = composition.selected ∧
      block.selected = SelectList.addAll [] items
  grouping : block.grouping = composition.grouping
  aggregated : composition.grouping ≠ [] → block.aggregated = true

theorem Composes.takes
    {composition : Composition}
    {before after : QueryBlock}
    {texts : List SelectedText}
    (composes : before.Composes composition)
    (takes : Takes texts before after) :
    after.Composes { composition with selected := composition.selected ++ texts } where
  selected := by
    obtain ⟨items, items_eq, selected_eq⟩ := composes.selected
    obtain ⟨added, added_eq, taken_eq⟩ := takes.selected
    refine ⟨items ++ added, by rw [List.map_append, items_eq, added_eq], ?_⟩
    rw [taken_eq, selected_eq, SelectList.addAll, SelectList.addAll, SelectList.addAll,
      List.foldl_append]
  grouping := takes.grouping.trans composes.grouping
  aggregated grouped := takes.aggregated (composes.aggregated grouped)

theorem Composes.groupBy
    {composition : Composition}
    {block : QueryBlock}
    (composes : block.Composes composition)
    (expression : Expression) :
    (block.groupBy expression).Composes
      { composition with grouping := composition.grouping ++ [expression] } where
  selected := composes.selected
  grouping := congrArg (· ++ [expression]) composes.grouping
  aggregated _ := rfl

end QueryBlock

namespace Statement

/-- The root selects and groups by what the calls said, in its dialect. -/
theorem ComposedFrom.composes
    {start statement : Statement}
    {composition : Composition}
    (unselected : start.block.selected = [])
    (ungrouped : start.block.grouping = [])
    (composed : ComposedFrom start composition statement) :
    statement.block.Composes composition ∧ statement.block.dialect = start.block.dialect := by
  induction composed with
  | start => exact ⟨⟨⟨[], rfl, unselected⟩, ungrouped, fun grouped => absurd rfl grouped⟩, rfl⟩
  | selected _ selected inductionHypothesis =>
      have takes := Selection.takes_of_ok selected
      exact ⟨inductionHypothesis.1.takes takes, takes.dialect.trans inductionHypothesis.2⟩
  | refused _ refused inductionHypothesis =>
      rw [Selection.state_run_of_error refused]
      exact inductionHypothesis
  | @grouped composition statement expression _ inductionHypothesis =>
      cases statement with
      | node root branches =>
          rw [groupBy, mapBlocks_node, block_node]
          exact ⟨inductionHypothesis.1.groupBy expression, inductionHypothesis.2⟩

end Statement

end SqlBuilder
