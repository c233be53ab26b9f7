import SqlBuilder.Proofs.Joining
import SqlBuilder.Proofs.TreeHistory

/-!
# What a block keeps

A kept UPDATE or DELETE is what the block would be rendered to now, and a kept
SELECT is so apart from the parts that come from branches. No edit of a block
breaks this: the edits that change what a rendering reads forget it, and the
joins are marked for reordering only where nothing is kept.
-/

namespace SqlBuilder
namespace QueryBlock

/-! ## Subqueries do not show their identity -/

theorem whereAnd_with_id (block : QueryBlock) (predicate : Predicate) (id : StatementId) :
    { block with id := id }.whereAnd predicate =
      { block.whereAnd predicate with id := id } := by
  simp only [whereAnd]
  split <;> rfl

theorem foldl_pushJoin_with_id
    (joins : List Join)
    (block : QueryBlock)
    (id : StatementId) :
    joins.foldl pushJoin { block with id := id } =
      { joins.foldl pushJoin block with id := id } := by
  induction joins generalizing block with
  | nil => rfl
  | cons join joins inductionHypothesis => exact inductionHypothesis (block.pushJoin join)

theorem partnerBlock_with_id
    (block : QueryBlock)
    (first : Join)
    (rest : List Join)
    (id other : StatementId) :
    block.partnerBlock id first rest =
      { block.partnerBlock other first rest with id := id } := by
  have elim_with_id : ∀ (start : QueryBlock) (predicate : Option Predicate),
      predicate.elim { start with id := id } (whereAnd { start with id := id }) =
        { predicate.elim start start.whereAnd with id := id } := by
    intro start predicate
    cases predicate with
    | none => rfl
    | some predicate => exact whereAnd_with_id start predicate id
  simp only [partnerBlock]
  rw [← foldl_pushJoin_with_id, ← elim_with_id, ← elim_with_id]
  rfl

theorem reorderJoins_relabeled
    (block : QueryBlock)
    (id : StatementId)
    (options : StatementOptions) :
    { block with id := id, options := options }.reorderJoins =
      block.reorderJoins.mapState fun state => { state with id := id, options := options } := by
  have isLocalSource_eq :
      { block with id := id, options := options }.isLocalSource = block.isLocalSource := rfl
  simp only [reorderJoins, isLocalSource_eq]
  split
  · split <;> rfl
  · rfl

theorem addItems_relabeled
    (block : QueryBlock)
    (items : List SelectedItem)
    (id : StatementId)
    (options : StatementOptions) :
    { block with id := id, options := options }.addItems items =
      { block.addItems items with id := id, options := options } := by
  induction items generalizing block with
  | nil => rfl
  | cons item items inductionHypothesis =>
      rw [addItems_cons, addItems_cons, ← inductionHypothesis, addItem_eq, addItem_eq]

/-- Neither the identity of a block nor its options have a part in readying it. -/
theorem readied_relabeled
    (block : QueryBlock)
    (id : StatementId)
    (options : StatementOptions) :
    { block with id := id, options := options }.readied =
      { block.readied with id := id, options := options } := by
  rw [readied, reorderJoins_relabeled, readied, ← addItems_relabeled]
  rfl

/-- A SELECT without branches that is not kept is read off the readied block. -/
theorem result_selectQuery_single
    {block : QueryBlock}
    (notKept : block.cachedSelect? = none) :
    (Statement.single block).selectQuery.result =
      block.reorderJoins.result.map fun _ => block.readied.query [] := by
  simp only [Statement.selectQuery, Statement.single, Statement.renderSelect, addItems_nil,
    notKept]
  cases block.reorderJoins.result <;> rfl

theorem result_selectQuery_single_relabeled
    {block : QueryBlock}
    (notKept : block.cachedSelect? = none)
    (id : StatementId)
    (options : StatementOptions) :
    (Statement.single { block with id := id, options := options }).selectQuery.result =
      block.reorderJoins.result.map fun _ =>
        { block.readied with id := id, options := options }.query [] := by
  have notKeptToo : { block with id := id, options := options }.cachedSelect? = none := notKept
  have reordered := congrArg Outcome.result (block.reorderJoins_relabeled id options)
  rw [result_selectQuery_single notKeptToo, readied_relabeled, reordered]
  rfl

/-- The SELECT of a statement without branches does not show its identity. -/
theorem result_selectQuery_single_with_id (block : QueryBlock) (id : StatementId) :
    (Statement.single { block with id := id }).selectQuery.result =
      (Statement.single block).selectQuery.result := by
  cases kept : block.cachedSelect? with
  | some query =>
      have keptToo : { block with id := id }.cachedSelect? = some query := kept
      simp only [Statement.selectQuery, Statement.single, Statement.renderSelect, addItems_nil,
        kept, keptToo, Outcome.result_ok]
  | none =>
      have relabeled := fun label =>
        result_selectQuery_single_relabeled kept label block.options
      refine (relabeled id).trans (Eq.trans ?_ (relabeled block.id).symm)
      rfl

/-- The rows of an UPDATE or DELETE depend neither on the identity of the
subquery nor on what is kept. -/
theorem result_rowCondition_invalidate (block : QueryBlock) (id other : StatementId) :
    (block.invalidate.rowCondition id).result = (block.rowCondition other).result := by
  have joins_eq : block.invalidate.joins = block.joins := rfl
  have partner_eq : ∀ first rest, block.invalidate.partnerBlock id first rest =
      block.partnerBlock id first rest := fun _ _ => rfl
  simp only [rowCondition, joins_eq, partner_eq]
  cases block.joins with
  | nil => rfl
  | cons first rest =>
      have same := result_selectQuery_single_with_id (block.partnerBlock other first rest) id
      rw [← partnerBlock_with_id] at same
      simp only [Outcome.map, Outcome.mapState, same]

/-! ## Kept renderings -/

section Cached

variable {block : QueryBlock}

theorem cachedSelect?_eq_some_iff {query : SelectQuery} :
    block.cachedSelect? = some query ↔ block.cache = some (.select query) := by
  unfold cachedSelect?
  split
  · rename_i kept
    simp [kept]
  · rename_i other
    simpa using other query

theorem cachedUpdate?_eq_some_iff {query : RowQuery} :
    block.cachedUpdate? = some query ↔ block.cache = some (.update query) := by
  unfold cachedUpdate?
  split
  · rename_i kept
    simp [kept]
  · rename_i other
    simpa using other query

theorem cachedDelete?_eq_some_iff {query : RowQuery} :
    block.cachedDelete? = some query ↔ block.cache = some (.delete query) := by
  unfold cachedDelete?
  split
  · rename_i kept
    simp [kept]
  · rename_i other
    simpa using other query

end Cached

/-- What a block keeps is up to date as far as the block itself goes. -/
structure KeepsCurrent (block : QueryBlock) : Prop where
  /-- Nothing is kept while the joins may be out of order. -/
  ordered : block.mustReorder = true → block.cache = none
  /-- A kept SELECT is read off the block, the parts of the branches apart. -/
  select : ∀ query, block.cache = some (.select query) →
    query = block.query query.branches ∧
      ∀ item ∈ block.orderingItems, block.selected.hasSql item.sql = true
  /-- A kept UPDATE is what the block gives when nothing is kept. -/
  update : ∀ query, block.cache = some (.update query) →
    ∀ id, (block.invalidate.updateQuery id).result = .ok query
  /-- A kept DELETE is what the block gives when nothing is kept. -/
  delete : ∀ query, block.cache = some (.delete query) →
    ∀ id, (block.invalidate.deleteQuery id).result = .ok query

/-- A block that keeps nothing keeps nothing outdated. -/
theorem KeepsCurrent.of_cache_eq_none
    {block : QueryBlock}
    (forgotten : block.cache = none) : block.KeepsCurrent := by
  constructor
  · exact fun _ => forgotten
  all_goals
    intro query kept
    simp [forgotten] at kept

/-- The mark for reordering is gone where something is kept. -/
theorem KeepsCurrent.mustReorder_eq_false
    {block : QueryBlock}
    {rendering : Rendering}
    (current : block.KeepsCurrent)
    (kept : block.cache = some rendering) : block.mustReorder = false := by
  cases marked : block.mustReorder with
  | false => rfl
  | true => simp [current.ordered marked] at kept

/-- A join leaves a block alone or makes it forget its last rendering. -/
theorem join_state_eq_or_cache_eq_none (block : QueryBlock) (spec : JoinSpec) :
    (block.join spec).state = block ∨ (block.join spec).state.cache = none := by
  rcases block.join_state_cases spec with unchanged | ⟨source, target, _, _, appended⟩
  · exact .inl unchanged
  · exact .inr (by rw [appended, cache_appendKeyedJoin])

/-- A cross join leaves a block alone or makes it forget its last rendering. -/
theorem crossJoin_state_eq_or_cache_eq_none
    (block : QueryBlock)
    (table : Table)
    (aliasName group : Option String) :
    (block.crossJoin table aliasName group).state = block ∨
      (block.crossJoin table aliasName group).state.cache = none := by
  rcases block.crossJoin_state_cases table aliasName group with
    unchanged | ⟨target, _, appended⟩
  · exact .inl unchanged
  · exact .inr (by rw [appended]; rfl)

theorem removeCrossJoin_eq_or_cache_eq_none (block : QueryBlock) (aliasName : String) :
    block.removeCrossJoin aliasName = block ∨
      (block.removeCrossJoin aliasName).cache = none := by
  unfold removeCrossJoin
  split
  · exact .inr rfl
  · exact .inl rfl

/-- Additions leave a block alone or make its select list longer and its last
rendering forgotten. -/
theorem addItems_eq_or_grows (block : QueryBlock) (items : List SelectedItem) :
    block.addItems items = block ∨ (block.addItems items).cache = none ∧
      block.selected.length < (block.addItems items).selected.length := by
  induction items generalizing block with
  | nil => exact .inl rfl
  | cons item items inductionHypothesis =>
      rw [addItems_cons, addItem]
      split
      · exact inductionHypothesis block
      · rename_i absent
        have grown : block.selected.length < (block.selected.add item).length := by
          rw [SelectList.add, if_neg absent, List.length_append, List.length_singleton]
          exact Nat.lt_succ_self _
        rcases inductionHypothesis { block with
            selected := block.selected.add item, cache := none } with
          unchanged | ⟨forgotten, longer⟩
        · rw [unchanged]
          exact .inr ⟨rfl, grown⟩
        · exact .inr ⟨forgotten, Nat.lt_trans grown longer⟩

theorem addItems_eq_or_cache_eq_none (block : QueryBlock) (items : List SelectedItem) :
    block.addItems items = block ∨ (block.addItems items).cache = none :=
  (block.addItems_eq_or_grows items).imp_right And.left

theorem whereAnd_eq_or_cache_eq_none (block : QueryBlock) (predicate : Predicate) :
    block.whereAnd predicate = block ∨ (block.whereAnd predicate).cache = none := by
  unfold whereAnd
  split
  · exact .inl rfl
  · exact .inr rfl

/-- Reordering leaves a block alone or finds that nothing is kept. -/
theorem KeepsCurrent.reorderJoins_state_eq_or_cache_eq_none
    {block : QueryBlock}
    (current : block.KeepsCurrent) :
    block.reorderJoins.state = block ∨ block.reorderJoins.state.cache = none := by
  cases marked : block.mustReorder with
  | false =>
      rw [reorderJoins_of_mustReorder_eq_false marked]
      exact .inl rfl
  | true =>
      rw [reorderJoins_state_eq]
      exact .inr (current.ordered marked)

/-- A block that is left alone or forgets its last rendering keeps nothing
outdated. -/
theorem KeepsCurrent.of_eq_or_cache_eq_none
    {first second : QueryBlock}
    (current : first.KeepsCurrent)
    (change : second = first ∨ second.cache = none) : second.KeepsCurrent := by
  rcases change with rfl | forgotten
  · exact current
  · exact .of_cache_eq_none forgotten

/-! ## Renderings of rows -/

section RowQuery

variable
  {block : QueryBlock}
  (id : StatementId)
  (head : QueryBlock → String)
  (kind : RowQuery → Rendering)

/-- A rendering of rows puts the joins in order, and keeps what it succeeds
in. -/
theorem rowQuery_state_cases (block : QueryBlock) :
    (block.rowQuery id head kind).state = block.reorderJoins.state ∨
      ∃ query, block.reorderJoins.result = .ok () ∧
        (block.reorderJoins.state.rowCondition id).result = .ok query ∧
        (block.rowQuery id head kind).state =
          { block.reorderJoins.state with
            cache := some
              (kind { head := head block.reorderJoins.state, condition := query }) } := by
  simp only [rowQuery]
  split
  · exact .inl rfl
  · rename_i ordered
    split
    · exact .inl rfl
    · rename_i condition rows
      exact .inr ⟨condition, ordered, rows, rfl⟩

/-- Once the joins are in order a rendering of rows succeeds as the rows do. -/
theorem result_rowQuery_of_ordered
    (ordered : block.reorderJoins.result = .ok ()) :
    (block.rowQuery id head kind).result =
      (block.reorderJoins.state.rowCondition id).result.map fun condition =>
        { head := head block.reorderJoins.state, condition := condition } := by
  simp only [rowQuery, ordered]
  cases (block.reorderJoins.state.rowCondition id).result <;> rfl

theorem result_rowQuery_of_mustReorder_eq_false
    (unmarked : block.mustReorder = false) :
    (block.rowQuery id head kind).result =
      (block.rowCondition id).result.map fun condition =>
        { head := head block, condition := condition } := by
  have reordered := reorderJoins_of_mustReorder_eq_false unmarked
  rw [result_rowQuery_of_ordered id head kind (by rw [reordered]; rfl), reordered]
  rfl

/-- What a rendering of rows keeps is what it gives when nothing is kept. -/
theorem KeepsCurrent.rowQuery
    (current : block.KeepsCurrent)
    (head_invalidate : ∀ ready, head ready.invalidate = head ready) :
    (block.rowQuery id head kind).state.KeepsCurrent ∨
      ∃ (query : RowQuery) (ready : QueryBlock), (block.rowQuery id head kind).state =
          { ready with cache := some (kind query) } ∧
        ready.mustReorder = false ∧
        ∀ other, (ready.invalidate.rowQuery other head kind).result = .ok query := by
  rcases rowQuery_state_cases id head kind block with
    state_eq | ⟨condition, ordered, rows, state_eq⟩
  · rw [state_eq]
    exact .inl (current.of_eq_or_cache_eq_none current.reorderJoins_state_eq_or_cache_eq_none)
  · refine .inr ⟨_, _, state_eq, mustReorder_reorderJoins ordered, ?_⟩
    intro other
    have unmarked : block.reorderJoins.state.invalidate.mustReorder = false :=
      mustReorder_reorderJoins ordered
    rw [result_rowQuery_of_mustReorder_eq_false other head kind unmarked,
      result_rowCondition_invalidate _ other id, rows, head_invalidate]
    rfl

end RowQuery

theorem KeepsCurrent.updateQuery
    {block : QueryBlock}
    (current : block.KeepsCurrent)
    (id : StatementId) : (block.updateQuery id).state.KeepsCurrent := by
  unfold QueryBlock.updateQuery
  split
  · exact current
  · rcases KeepsCurrent.rowQuery id
        (fun ready => ready.dialect.updateText ready.primary ready.setClause) .update
        current (fun _ => rfl) with current | ⟨query, ready, state_eq, unmarked, fresh⟩
    · exact current
    · rw [state_eq]
      constructor
      · intro marked
        simp [unmarked] at marked
      · intro other kept
        cases kept
      · rintro other kept id
        cases kept
        exact fresh id
      · intro other kept
        cases kept

theorem KeepsCurrent.deleteQuery
    {block : QueryBlock}
    (current : block.KeepsCurrent)
    (id : StatementId) : (block.deleteQuery id).state.KeepsCurrent := by
  unfold QueryBlock.deleteQuery
  split
  · exact current
  · rcases KeepsCurrent.rowQuery id
        (fun ready => ready.dialect.deleteText ready.primary) .delete
        current (fun _ => rfl) with current | ⟨query, ready, state_eq, unmarked, fresh⟩
    · exact current
    · rw [state_eq]
      constructor
      · intro marked
        simp [unmarked] at marked
      · intro other kept
        cases kept
      · intro other kept
        cases kept
      · rintro other kept id
        cases kept
        exact fresh id

/-- No edit makes a block keep something outdated. -/
theorem KeepsCurrent.becomes
    {first second : QueryBlock}
    (becomes : Becomes first second)
    (current : first.KeepsCurrent) : second.KeepsCurrent := by
  cases becomes with
  | addItem item =>
      exact current.of_eq_or_cache_eq_none (addItems_eq_or_cache_eq_none first [item])
  | join spec => exact current.of_eq_or_cache_eq_none (join_state_eq_or_cache_eq_none _ _)
  | crossJoin table aliasName group =>
      exact current.of_eq_or_cache_eq_none (crossJoin_state_eq_or_cache_eq_none _ _ _ _)
  | removeCrossJoin aliasName =>
      exact current.of_eq_or_cache_eq_none (removeCrossJoin_eq_or_cache_eq_none _ _)
  | reorderJoins =>
      exact current.of_eq_or_cache_eq_none current.reorderJoins_state_eq_or_cache_eq_none
  | whereAnd predicate =>
      exact current.of_eq_or_cache_eq_none (whereAnd_eq_or_cache_eq_none _ _)
  | keepSelect branches unmarked selected =>
      constructor
      · intro marked
        simp [unmarked] at marked
      · intro query kept
        cases kept
        exact ⟨rfl, selected⟩
      all_goals
        intro query kept
        cases kept
  | updateQuery id => exact current.updateQuery id
  | deleteQuery id => exact current.deleteQuery id
  | invalidate | select | whereOr | groupBy | setHaving | setDistinct | setRange |
      setOrdering | setUpdates | setOptions => exact .of_cache_eq_none rfl

end QueryBlock

/-- Every block of a reachable tree keeps what is current as far as the block
itself goes. -/
theorem Statement.Reachable.keepsCurrent
    {statement : Statement}
    (reachable : statement.Reachable) :
    ∀ block ∈ statement.blocks, block.KeepsCurrent :=
  reachable.forall_mem_blocks (fun _ _ _ _ _ _ => .of_cache_eq_none rfl)
    fun _ _ becomes => .becomes becomes

end SqlBuilder
