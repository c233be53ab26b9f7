import SqlBuilder.Proofs.Selection.Growth

/-!
# What rendering leaves alone

Rendering works on the statement itself: it puts joins in order, selects the columns of
orderings and keeps what it has written. Nothing else in any block of the tree is
touched, whether the rendering succeeds or fails on the way; no join is lost, and what
is selected stays where it is. A rendering of rows does not even reach the branches.
-/

namespace SqlBuilder

namespace QueryBlock

/-- One block is another after a rendering, as far as it may differ: in the order of the
joins and the mark for reordering, in columns selected behind the others, and in the
kept rendering. -/
structure TouchedTo (before after : QueryBlock) : Prop where
  others : after =
    { before with
      joins := after.joins
      mustReorder := after.mustReorder
      selected := after.selected
      cache := after.cache }
  joins : after.joins.Perm before.joins
  /-- The mark is cleared at most. -/
  mark : after.mustReorder = true → before.mustReorder = true
  selected : before.selected <+: after.selected

theorem TouchedTo.refl (block : QueryBlock) : TouchedTo block block :=
  ⟨rfl, List.Perm.refl _, fun marked => marked, List.prefix_refl _⟩

theorem TouchedTo.trans
    {first second third : QueryBlock}
    (touched : TouchedTo first second)
    (touchedAgain : TouchedTo second third) : TouchedTo first third where
  others := by rw [touchedAgain.others, touched.others]
  joins := touchedAgain.joins.trans touched.joins
  mark := touched.mark ∘ touchedAgain.mark
  selected := touched.selected.trans touchedAgain.selected

/-- What is kept makes no difference. -/
theorem TouchedTo.with_cache
    {before after : QueryBlock}
    (touched : TouchedTo before after)
    (cache : Option Rendering) : TouchedTo before { after with cache := cache } where
  others := by rw [touched.others]
  joins := touched.joins
  mark := touched.mark
  selected := touched.selected

theorem touchedTo_addItem (block : QueryBlock) (item : SelectedItem) :
    TouchedTo block (block.addItem item) := by
  rw [addItem_eq]
  exact ⟨rfl, List.Perm.refl _, fun marked => marked, block.selected.prefix_addAll [item]⟩

/-- Joins that have to be reordered afterwards had to be before. -/
theorem mustReorder_of_mustReorder_reorderJoins
    {block : QueryBlock}
    (marked : block.reorderJoins.state.mustReorder = true) : block.mustReorder = true := by
  by_contra unmarked
  rw [Bool.not_eq_true] at unmarked
  rw [reorderJoins_of_mustReorder_eq_false unmarked, Outcome.state_ok, unmarked] at marked
  cases marked

theorem touchedTo_reorderJoins (block : QueryBlock) :
    TouchedTo block block.reorderJoins.state where
  others := by
    rw [reorderJoins_state_eq]
  joins := block.perm_joins_reorderJoins
  mark := mustReorder_of_mustReorder_reorderJoins
  selected := by
    have selected_eq : block.reorderJoins.state.selected = block.selected := by
      rw [reorderJoins_state_eq]
    exact selected_eq ▸ List.prefix_refl _

theorem Readies.touchedTo
    {first second : QueryBlock}
    (readies : Readies first second) : TouchedTo first second := by
  cases readies with
  | addItem item => exact touchedTo_addItem first item
  | reorderJoins => exact touchedTo_reorderJoins first
  | keepSelect branches unmarked selected => exact (TouchedTo.refl first).with_cache _

theorem ReadiedTo.touchedTo
    {first second : QueryBlock}
    (readied : ReadiedTo first second) : TouchedTo first second := by
  induction readied with
  | refl => exact .refl first
  | tail _ readies touched => exact touched.trans readies.touchedTo

/-- One block is another after a rendering of rows, which selects nothing. -/
structure RowsTouchedTo (before after : QueryBlock) : Prop extends TouchedTo before after where
  same_selected : after.selected = before.selected

theorem rowsTouchedTo_rowQuery
    (block : QueryBlock)
    (id : StatementId)
    (head : QueryBlock → String)
    (kind : RowQuery → Rendering) :
    RowsTouchedTo block (block.rowQuery id head kind).state := by
  rw [rowQuery_state_eq]
  refine ⟨block.touchedTo_reorderJoins.with_cache _, ?_⟩
  rw [reorderJoins_state_eq]

theorem rowsTouchedTo_updateQuery (block : QueryBlock) (id : StatementId) :
    RowsTouchedTo block (block.updateQuery id).state := by
  unfold updateQuery
  split
  · exact ⟨.refl block, rfl⟩
  · exact block.rowsTouchedTo_rowQuery id _ _

theorem rowsTouchedTo_deleteQuery (block : QueryBlock) (id : StatementId) :
    RowsTouchedTo block (block.deleteQuery id).state := by
  unfold deleteQuery
  split
  · exact ⟨.refl block, rfl⟩
  · exact block.rowsTouchedTo_rowQuery id _ _

end QueryBlock

namespace Statement

open QueryBlock (TouchedTo RowsTouchedTo)

/-- One tree is another after a rendering of rows, which leaves the branches alone. -/
structure TouchedAtRoot (before after : Statement) : Prop where
  root : RowsTouchedTo before.block after.block
  branches : after.branches = before.branches

theorem TouchedAtRoot.related
    {before after : Statement}
    (touched : TouchedAtRoot before after) : Related TouchedTo before after := by
  cases before with
  | node root branches =>
      cases after with
      | node rootAfter branchesAfter =>
          obtain rfl : branchesAfter = branches := touched.branches
          exact .node touched.root.toTouchedTo
            (List.forall₂_same.mpr fun branch _ => .refl TouchedTo.refl branch)

theorem touchedAtRoot_updateSql (statement : Statement) (id : StatementId) :
    TouchedAtRoot statement (statement.updateSql id).state :=
  ⟨statement.block.rowsTouchedTo_updateQuery id, rfl⟩

theorem touchedAtRoot_deleteSql (statement : Statement) (id : StatementId) :
    TouchedAtRoot statement (statement.deleteSql id).state :=
  ⟨statement.block.rowsTouchedTo_deleteQuery id, rfl⟩

theorem related_touchedTo_sql
    (statement : Statement)
    (framing : Framing)
    (id : StatementId) :
    Related TouchedTo statement (statement.sql framing id).state := by
  cases framing with
  | select =>
      exact (related_renderSelect [] statement).mono fun _ _ => QueryBlock.ReadiedTo.touchedTo
  | update => exact (statement.touchedAtRoot_updateSql id).related
  | delete => exact (statement.touchedAtRoot_deleteSql id).related

/-- Whether it succeeds or fails, a rendering touches the blocks of a tree in the order of
their joins, in what they select behind the rest and in what they keep, and a rendering
of rows touches no block but the root, where it selects nothing. -/
theorem rendering_touches (statement : Statement) (id : StatementId) :
    (∀ framing, Related TouchedTo statement (statement.sql framing id).state) ∧
      Related TouchedTo statement (statement.log id).state ∧
      TouchedAtRoot statement (statement.updateSql id).state ∧
      TouchedAtRoot statement (statement.deleteSql id).state := by
  refine ⟨fun framing => statement.related_touchedTo_sql framing id, ?_,
    statement.touchedAtRoot_updateSql id, statement.touchedAtRoot_deleteSql id⟩
  rw [state_log]
  exact statement.related_touchedTo_sql _ id

end Statement
end SqlBuilder
