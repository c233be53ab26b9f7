import SqlBuilder.Proofs.Cache.Staleness
import SqlBuilder.Proofs.Join.Reordering

/-!
# Rendering again

A SELECT changes the tree that it renders: joins are put in order, and the columns of the
orderings are selected. Rendering the changed tree from scratch finds all this done, and
comes to the same in every respect, also where the joins wait for each other.
-/

namespace SqlBuilder

namespace QueryBlock

variable {block : QueryBlock}

/-- Entries that were added are not added again, also after reordering. -/
theorem addItems_reorderJoins_addItems (block : QueryBlock) (items : List SelectedItem) :
    (block.addItems items).reorderJoins.state.addItems items =
      (block.addItems items).reorderJoins.state := by
  apply addItems_eq_self
  rw [reorderJoins_state_eq]
  exact fun item member => hasSql_addItems_of_mem block items member

/-- Entries that were added are not added again to the block that is rendered. -/
theorem addItems_readied_addItems (block : QueryBlock) (items : List SelectedItem) :
    (block.addItems items).readied.addItems items = (block.addItems items).readied := by
  apply addItems_eq_self
  intro item member
  apply hasSql_addItems_of_hasSql
  rw [reorderJoins_state_eq]
  exact hasSql_addItems_of_mem block items member

/-- What has forgotten its rendering keeps none when its joins are put in order. -/
theorem invalidate_reorderJoins
    (forgotten : block.invalidate = block) :
    block.reorderJoins.state.invalidate = block.reorderJoins.state := by
  have reordered := congrArg Outcome.state block.reorderJoins_invalidate
  rw [forgotten] at reordered
  exact reordered.symm

theorem cachedSelect?_of_forgotten
    (forgotten : block.invalidate = block) : block.cachedSelect? = none := by
  rw [← forgotten]
  rfl

theorem invalidate_readied
    (forgotten : block.invalidate = block) : block.readied.invalidate = block.readied := by
  rw [← readied_invalidate, forgotten]

/-- A block that is readied is ready. -/
theorem readied_readied
    (ordered : block.reorderJoins.result = .ok ()) : block.readied.readied = block.readied :=
  readied_eq_self (mustReorder_readied ordered) block.readied_selects_ordering

end QueryBlock

namespace Statement

theorem cleared_cleared (statement : Statement) :
    statement.cleared.cleared = statement.cleared := by
  induction statement with
  | node root branches inductionHypothesis =>
      rw [cleared_node, cleared_node, List.map_map]
      exact congrArg (node root.invalidate) (List.map_congr_left inductionHypothesis)

theorem cleared_mapBlocks_addItems (statement : Statement) (items : List SelectedItem) :
    (statement.mapBlocks (·.addItems items)).cleared =
      statement.cleared.mapBlocks (·.addItems items) := by
  induction statement with
  | node root branches inductionHypothesis =>
      rw [mapBlocks_node, cleared_node, cleared_node, mapBlocks_node, List.map_map,
        List.map_map, QueryBlock.addItems_invalidate]
      exact congrArg (node _) (List.map_congr_left inductionHypothesis)

/-- Branches that only received entries receive them again in vain. -/
theorem mapBranches_addItems_again (branches : List Statement) (items : List SelectedItem) :
    mapBranches (·.addItems items)
        ((mapBranches (·.addItems items) (branches.map cleared)).map cleared) =
      mapBranches (·.addItems items) (branches.map cleared) := by
  simp only [mapBranches_eq_map, List.map_map]
  refine List.map_congr_left fun branch _ => ?_
  have selects := (selectsAll_cleared _ _).mpr
    (selectsAll_mapBlocks_addItems branch.cleared items)
  calc
    ((branch.cleared.mapBlocks (·.addItems items)).cleared).mapBlocks (·.addItems items) =
        (branch.cleared.mapBlocks (·.addItems items)).cleared :=
      mapBlocks_addItems_eq_self selects
    _ = branch.cleared.mapBlocks (·.addItems items) := by
      rw [cleared_mapBlocks_addItems, cleared_cleared]

/-- When rendering each branch again comes to the same, so does rendering all of them. -/
theorem renderBranches_again
    {waiting : List SelectedItem}
    {branches : List Statement}
    (again : ∀ branch ∈ branches,
      (branch.cleared.renderSelect waiting).state.cleared.renderSelect waiting =
        branch.cleared.renderSelect waiting) :
    renderBranches waiting ((renderBranches waiting (branches.map cleared)).state.map cleared) =
      renderBranches waiting (branches.map cleared) := by
  induction branches with
  | nil => rfl
  | cons branch rest inductionHypothesis =>
      obtain ⟨branchAgain, restAgain⟩ := List.forall_mem_cons.mp again
      rw [List.map_cons, renderBranches]
      cases rendered : (branch.cleared.renderSelect waiting).result with
      | error error =>
          simp only [List.map_cons, renderBranches, branchAgain, rendered,
            mapBranches_addItems_again]
      | ok query =>
          simp only [List.map_cons, renderBranches, branchAgain, rendered,
            inductionHypothesis restAgain]

/-- What the SELECT of a ready block comes to, from what its branches came to. -/
def selectOver
    (ready : QueryBlock)
    (rendered : Outcome (List Statement) (List SelectQuery)) : Outcome Statement SelectQuery :=
  match rendered.result with
  | .error error =>
      { state := .node ready rendered.state, result := .error error, events := rendered.events }
  | .ok queries =>
      { state := .node { ready with cache := some (.select (ready.query queries)) } rendered.state
        result := .ok (ready.query queries)
        events := rendered.events ++ ready.reports }

theorem cleared_selectOver
    (ready : QueryBlock)
    (rendered : Outcome (List Statement) (List SelectQuery)) :
    (selectOver ready rendered).state.cleared =
      .node ready.invalidate (rendered.state.map cleared) := by
  unfold selectOver
  split
  · exact cleared_node ..
  · exact cleared_node ..

section NotKept

variable
  {waiting : List SelectedItem}
  {root : QueryBlock}
  {branches : List Statement}
  (notKept : (root.addItems waiting).cachedSelect? = none)

include notKept

/-- A SELECT whose joins wait for each other stops before the branches. -/
theorem renderSelect_of_unordered
    {error : StatementError}
    (unordered : (root.addItems waiting).reorderJoins.result = .error error) :
    (node root branches).renderSelect waiting =
      .fail (.node (root.addItems waiting).reorderJoins.state
        (mapBranches (·.addItems waiting) branches)) error := by
  simp only [renderSelect, notKept, unordered]

/-- A SELECT whose joins can be put in order depends on the readied block and on what the
branches come to. -/
theorem renderSelect_of_ordered
    (ordered : (root.addItems waiting).reorderJoins.result = .ok ()) :
    (node root branches).renderSelect waiting =
      selectOver (root.addItems waiting).readied
        (renderBranches (waiting ++ (root.addItems waiting).readied.orderingItems) branches) := by
  have items_eq : (root.addItems waiting).readied.orderingItems =
      (root.addItems waiting).reorderJoins.state.orderingItems :=
    QueryBlock.orderingItems_addItems ..
  simp only [renderSelect, notKept, ordered, items_eq]
  rfl

end NotKept

/-- Rendering a tree from scratch and then again comes to the same both times. -/
theorem renderSelect_again (waiting : List SelectedItem) (statement : Statement) :
    (statement.cleared.renderSelect waiting).state.cleared.renderSelect waiting =
      statement.cleared.renderSelect waiting := by
  induction statement generalizing waiting with
  | node root branches inductionHypothesis =>
      rw [cleared_node]
      have forgotten : (root.invalidate.addItems waiting).invalidate =
          root.invalidate.addItems waiting := by
        rw [QueryBlock.addItems_invalidate]
        rfl
      have notKept := QueryBlock.cachedSelect?_of_forgotten forgotten
      cases ordered : (root.invalidate.addItems waiting).reorderJoins.result with
      | error error =>
          have added := root.invalidate.addItems_reorderJoins_addItems waiting
          have stillForgotten := QueryBlock.invalidate_reorderJoins forgotten
          have reordered := (root.invalidate.addItems waiting).reorderJoins_reorderJoins
          rw [renderSelect_of_unordered notKept ordered, Outcome.state_fail, cleared_node,
            stillForgotten, renderSelect_of_unordered, added, reordered,
            mapBranches_addItems_again]
          · rw [added]
            exact QueryBlock.cachedSelect?_of_forgotten stillForgotten
          · rw [added, reordered, ordered]
      | ok done =>
          have added := root.invalidate.addItems_readied_addItems waiting
          have stillForgotten := QueryBlock.invalidate_readied forgotten
          have reordered := QueryBlock.reorderJoins_of_mustReorder_eq_false
            (QueryBlock.mustReorder_readied ordered)
          have branchesAgain := renderBranches_again fun branch member =>
            inductionHypothesis branch member
              (waiting ++ (root.invalidate.addItems waiting).readied.orderingItems)
          rw [renderSelect_of_ordered notKept ordered, cleared_selectOver, stillForgotten,
            renderSelect_of_ordered, added, QueryBlock.readied_readied ordered, branchesAgain]
          · rw [added]
            exact QueryBlock.cachedSelect?_of_forgotten stillForgotten
          · rw [added, reordered]
            rfl

/-- A tree differs from what is left when it forgets its renderings in these alone. -/
theorem related_cleared (statement : Statement) :
    Related (fun before after => after = { before with cache := after.cache })
      statement.cleared statement := by
  induction statement with
  | node root branches inductionHypothesis =>
      rw [cleared_node]
      refine .node rfl ?_
      rw [List.forall₂_map_left_iff, List.forall₂_same]
      exact inductionHypothesis

/-- A SELECT of a tree that keeps nothing does all that a second one would do. When the tree
forgets its renderings again the second SELECT has the same answer, whether a text or an
error, and finds every select list and every order of joins as it leaves them. -/
theorem selectSql_again (statement : Statement) :
    let once := statement.cleared.selectSql
    let again := once.state.cleared.selectSql
    again = once ∧
      Related (fun before after => after = { before with cache := after.cache })
        once.state.cleared again.state := by
  have again_eq : statement.cleared.selectSql.state.cleared.selectSql =
      statement.cleared.selectSql :=
    congrArg (Outcome.map SelectQuery.toSql) (renderSelect_again [] statement)
  refine ⟨again_eq, ?_⟩
  rw [again_eq]
  exact related_cleared _

end Statement
end SqlBuilder
