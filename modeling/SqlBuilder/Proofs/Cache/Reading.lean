import SqlBuilder.Proofs.Cache.Block

/-!
# The query read off a tree

A tree is settled when its joins are in order and the columns of every ordering
are selected wherever the ordering reaches. From a settled tree the query can be
read off as it stands, and a SELECT that starts with nothing kept comes to just
that query.
-/

namespace SqlBuilder

namespace QueryBlock

theorem addItems_eq_self
    {block : QueryBlock}
    {items : List SelectedItem}
    (present : ∀ item ∈ items, block.selected.hasSql item.sql = true) :
    block.addItems items = block := by
  induction items with
  | nil => rfl
  | cons item items inductionHypothesis =>
      rw [List.forall_mem_cons] at present
      rw [addItems_cons, addItem, if_pos present.1, inductionHypothesis present.2]

theorem addItems_invalidate (block : QueryBlock) (items : List SelectedItem) :
    block.invalidate.addItems items = (block.addItems items).invalidate := by
  induction items generalizing block with
  | nil => rfl
  | cons item items inductionHypothesis =>
      have first_eq : block.invalidate.addItem item = (block.addItem item).invalidate := by
        simp only [addItem_eq, invalidate, ite_self]
      rw [addItems_cons, addItems_cons, first_eq, inductionHypothesis]

theorem reorderJoins_invalidate (block : QueryBlock) :
    block.invalidate.reorderJoins = block.reorderJoins.mapState invalidate := by
  have isLocalSource_eq :
      { block with cache := none }.isLocalSource = block.isLocalSource := rfl
  simp only [invalidate, reorderJoins, isLocalSource_eq]
  split
  · split <;> rfl
  · rfl

theorem query_invalidate (block : QueryBlock) : block.invalidate.query = block.query := rfl

theorem readied_invalidate (block : QueryBlock) :
    block.invalidate.readied = block.readied.invalidate := by
  rw [readied, reorderJoins_invalidate]
  exact addItems_invalidate _ _

/-- A block that is settled by itself is ready to be rendered as it is. -/
theorem readied_eq_self
    {block : QueryBlock}
    (unmarked : block.mustReorder = false)
    (selected : ∀ item ∈ block.orderingItems, block.selected.hasSql item.sql = true) :
    block.readied = block := by
  rw [readied, reorderJoins_of_mustReorder_eq_false unmarked]
  exact addItems_eq_self selected

end QueryBlock

namespace Statement

/-- The tree with every kept rendering forgotten. -/
def cleared (statement : Statement) : Statement :=
  statement.mapBlocks QueryBlock.invalidate

@[simp] theorem cleared_node (root : QueryBlock) (branches : List Statement) :
    (node root branches).cleared = .node root.invalidate (branches.map cleared) := by
  rw [cleared, mapBlocks_node]
  rfl

mutual

/-- The query read off a tree, block by block. -/
def reading : Statement → SelectQuery
  | .node block branches => block.query (readings branches)

/-- The queries read off a list of trees. -/
def readings : List Statement → List SelectQuery
  | [] => []
  | branch :: rest => branch.reading :: readings rest

end

theorem readings_eq_map (branches : List Statement) :
    readings branches = branches.map reading := by
  induction branches with
  | nil => rfl
  | cons branch rest inductionHypothesis =>
      rw [readings, inductionHypothesis, List.map_cons]

@[simp] theorem reading_node (root : QueryBlock) (branches : List Statement) :
    (node root branches).reading = root.query (branches.map reading) := by
  rw [reading, readings_eq_map]

/-- What is kept does not show in the query read off a tree. -/
theorem reading_cleared (statement : Statement) :
    statement.cleared.reading = statement.reading := by
  induction statement with
  | node root branches inductionHypothesis =>
      rw [cleared_node, reading_node, reading_node, List.map_map,
        QueryBlock.query_invalidate]
      exact congrArg root.query (List.map_congr_left inductionHypothesis)

/-- Every block of a tree selects the texts of some entries. -/
def SelectsAll (statement : Statement) (items : List SelectedItem) : Prop :=
  ∀ item ∈ items, ∀ block ∈ statement.blocks, block.selected.hasSql item.sql = true

theorem selectsAll_node
    {root : QueryBlock}
    {branches : List Statement}
    {items : List SelectedItem} :
    (node root branches).SelectsAll items ↔
      (∀ item ∈ items, root.selected.hasSql item.sql = true) ∧
        ∀ branch ∈ branches, branch.SelectsAll items := by
  simp only [SelectsAll, forall_mem_blocks_node]
  constructor
  · intro selects
    exact ⟨fun item member => (selects item member).1,
      fun branch branchMem item member => (selects item member).2 branch branchMem⟩
  · rintro ⟨ofRoot, ofBranches⟩ item member
    exact ⟨ofRoot item member, fun branch branchMem => ofBranches branch branchMem item member⟩

theorem selectsAll_append
    {statement : Statement}
    {first second : List SelectedItem} :
    statement.SelectsAll (first ++ second) ↔
      statement.SelectsAll first ∧ statement.SelectsAll second := by
  simp only [SelectsAll, List.forall_mem_append]

theorem selectsAll_cleared (statement : Statement) (items : List SelectedItem) :
    statement.cleared.SelectsAll items ↔ statement.SelectsAll items := by
  simp only [SelectsAll, cleared, blocks_mapBlocks, List.forall_mem_map]
  rfl

/-- Entries that are added everywhere are selected everywhere. -/
theorem selectsAll_mapBlocks_addItems (statement : Statement) (items : List SelectedItem) :
    (statement.mapBlocks (·.addItems items)).SelectsAll items := by
  intro item member block blockMem
  rw [blocks_mapBlocks, List.mem_map] at blockMem
  obtain ⟨original, _, rfl⟩ := blockMem
  exact QueryBlock.hasSql_addItems_of_mem _ _ member

/-- The joins of every block are in order, and the columns of every ordering are
selected in its block and below. -/
inductive Settled : Statement → Prop
  | node {root : QueryBlock} {branches : List Statement} :
      root.mustReorder = false →
      (Statement.node root branches).SelectsAll root.orderingItems →
      (∀ branch ∈ branches, Settled branch) →
      Settled (.node root branches)

theorem settled_cleared (statement : Statement) :
    statement.cleared.Settled ↔ statement.Settled := by
  induction statement with
  | node root branches inductionHypothesis =>
      have selects := selectsAll_cleared (.node root branches) root.orderingItems
      rw [cleared_node] at selects ⊢
      constructor
      · rintro (⟨unmarked, selected, settled⟩)
        rw [List.forall_mem_map] at settled
        exact .node unmarked (selects.mp selected) fun branch member =>
          (inductionHypothesis branch member).mp (settled branch member)
      · rintro (⟨unmarked, selected, settled⟩)
        refine .node unmarked (selects.mpr selected) ?_
        rw [List.forall_mem_map]
        exact fun branch member => (inductionHypothesis branch member).mpr (settled branch member)

/-- When each branch can be rendered so can all of them, one after the other. -/
theorem result_renderBranches_of_forall₂
    {waiting : List SelectedItem}
    {branches : List Statement}
    {queries : List SelectQuery}
    (rendered : List.Forall₂
      (fun branch query => (branch.renderSelect waiting).result = .ok query)
      branches queries) :
    (renderBranches waiting branches).result = .ok queries := by
  induction rendered with
  | nil => rfl
  | cons first _ inductionHypothesis =>
      simp only [renderBranches, first, inductionHypothesis, Except.map]

/-- With nothing kept, the joins in order and the branches rendered a SELECT is
read off the readied block. -/
theorem result_renderSelect_of_rendered
    {waiting : List SelectedItem}
    {root : QueryBlock}
    {branches : List Statement}
    (queries : List SelectQuery)
    (notKept : (root.addItems waiting).cachedSelect? = none)
    (ordered : (root.addItems waiting).reorderJoins.result = .ok ())
    (rendered : (renderBranches
      (waiting ++ (root.addItems waiting).reorderJoins.state.orderingItems)
      branches).result = .ok queries) :
    ((node root branches).renderSelect waiting).result =
      .ok ((root.addItems waiting).readied.query queries) := by
  simp only [renderSelect, notKept, ordered, rendered]
  rfl

/-- What a block keeps does not matter for the order of its joins, its ordering
and its query when it has forgotten it. -/
theorem result_renderSelect_invalidate_of_rendered
    {waiting : List SelectedItem}
    {root : QueryBlock}
    {branches : List Statement}
    (queries : List SelectQuery)
    (ordered : (root.addItems waiting).reorderJoins.result = .ok ())
    (rendered : (renderBranches
      (waiting ++ (root.addItems waiting).reorderJoins.state.orderingItems)
      branches).result = .ok queries) :
    ((node root.invalidate branches).renderSelect waiting).result =
      .ok ((root.addItems waiting).readied.query queries) := by
  have added := root.addItems_invalidate waiting
  have reordered := (root.addItems waiting).reorderJoins_invalidate
  rw [result_renderSelect_of_rendered queries, added,
    QueryBlock.readied_invalidate, QueryBlock.query_invalidate]
  · rw [added]
    rfl
  · rw [added, reordered]
    exact ordered
  · rw [added, reordered]
    exact rendered

/-- A SELECT of a settled tree that keeps nothing comes to the query read off
the tree. -/
theorem Settled.result_renderSelect_cleared
    {statement : Statement}
    (settled : statement.Settled)
    {waiting : List SelectedItem}
    (selects : statement.SelectsAll waiting) :
    (statement.cleared.renderSelect waiting).result = .ok statement.reading := by
  induction statement generalizing waiting with
  | node root branches inductionHypothesis =>
      obtain ⟨unmarked, ordering, settledBelow⟩ := settled
      obtain ⟨rootSelects, branchesSelect⟩ := selectsAll_node.mp selects
      obtain ⟨rootOrdering, branchesOrdering⟩ := selectsAll_node.mp ordering
      have added : root.addItems waiting = root := QueryBlock.addItems_eq_self rootSelects
      have reordered : root.reorderJoins = .ok root () :=
        QueryBlock.reorderJoins_of_mustReorder_eq_false unmarked
      have readied : root.readied = root := QueryBlock.readied_eq_self unmarked rootOrdering
      have rendered : (renderBranches (waiting ++ root.orderingItems)
          (branches.map cleared)).result = .ok (branches.map reading) := by
        apply result_renderBranches_of_forall₂
        rw [List.forall₂_map_left_iff, List.forall₂_map_right_iff, List.forall₂_same]
        intro branch member
        exact inductionHypothesis branch member (settledBelow branch member)
          (selectsAll_append.mpr ⟨branchesSelect branch member, branchesOrdering branch member⟩)
      rw [cleared_node, reading_node, result_renderSelect_invalidate_of_rendered
        (branches.map reading), added, readied]
      · rw [added, reordered]
        rfl
      · rw [added, reordered]
        exact rendered

end Statement
end SqlBuilder
