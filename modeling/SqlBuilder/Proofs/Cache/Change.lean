import SqlBuilder.Proofs.Cache.Overlooking

/-!
# How operations change a tree

Rendering a SELECT and uniting apart, an operation changes the root alone,
changes every block so that nothing is kept, or changes some blocks in a way
that shows in their queries. Only operations of the last kind can overlook
something.
-/

namespace SqlBuilder

namespace QueryBlock

/-- A block was left alone, or forgot its last rendering over a change that
shows in its query: the number of its joins changed or its select list grew. -/
def ChangesVisibly (first second : QueryBlock) : Prop :=
  second = first ∨ second.cache = none ∧
    (second.joins.length ≠ first.joins.length ∨
      first.selected.length < second.selected.length)

theorem changesVisibly_refl (block : QueryBlock) : ChangesVisibly block block :=
  .inl rfl

theorem changesVisibly_addItems (block : QueryBlock) (items : List SelectedItem) :
    ChangesVisibly block (block.addItems items) :=
  (block.addItems_eq_or_grows items).imp_right fun grown => ⟨grown.1, .inr grown.2⟩

theorem changesVisibly_join (block : QueryBlock) (spec : JoinSpec) :
    ChangesVisibly block (block.join spec).state := by
  rcases block.join_state_cases spec with unchanged | ⟨source, target, _, _, appended⟩
  · exact .inl unchanged
  · refine .inr ⟨by rw [appended, cache_appendKeyedJoin], .inl ?_⟩
    rw [appended, joins_appendKeyedJoin, List.length_append]
    exact Nat.succ_ne_self _

theorem changesVisibly_crossJoin
    (block : QueryBlock)
    (table : Table)
    (aliasName group : Option String) :
    ChangesVisibly block (block.crossJoin table aliasName group).state := by
  rcases block.crossJoin_state_cases table aliasName group with
    unchanged | ⟨target, _, appended⟩
  · exact .inl unchanged
  · refine .inr ⟨by rw [appended]; rfl, .inl ?_⟩
    rw [appended, appendCrossJoin, List.length_append]
    exact Nat.succ_ne_self _

theorem changesVisibly_removeCrossJoin (block : QueryBlock) (aliasName : String) :
    ChangesVisibly block (block.removeCrossJoin aliasName) := by
  unfold removeCrossJoin
  split
  · rename_i present
    refine .inr ⟨rfl, .inl ?_⟩
    obtain ⟨join, joinMem, isIt⟩ := List.any_eq_true.mp present
    rw [List.length_eraseP_of_mem joinMem isIt]
    have := List.length_pos_of_mem joinMem
    omega
  · exact .inl rfl

end QueryBlock

namespace Statement

open QueryBlock (ChangesVisibly)

/-- A change of a tree that no rendering of a SELECT makes. -/
inductive PlainChange : Statement → Statement → Prop
  /-- The root alone changes. -/
  | atRoot {root changed : QueryBlock} {branches : List Statement} :
      LeftOrForgets root changed →
      PlainChange (.node root branches) (.node changed branches)
  /-- Every change shows in a query. -/
  | visible {before after : Statement} :
      Related ChangesVisibly before after → PlainChange before after
  /-- Nothing is kept anywhere. -/
  | forgotten {before after : Statement} :
      Related (fun _ block => block.cache = none) before after → PlainChange before after

theorem plainChange_refl (statement : Statement) : PlainChange statement statement :=
  .visible (.refl QueryBlock.changesVisibly_refl statement)

/-- An edit that forgets what the block keeps makes a plain change, of the root
or everywhere. -/
theorem plainChange_modify
    {change : QueryBlock → QueryBlock}
    (forgets : ∀ block, (change block).cache = none)
    (statement : Statement)
    (everywhere : Bool) : PlainChange statement (statement.modify everywhere change) := by
  cases statement with
  | node root branches =>
      unfold modify
      split
      · exact .forgotten (related_mapBlocks forgets _)
      · exact .atRoot (leftOrForgets_of_cache (.inr (forgets root)))

/-- An edit whose changes show makes a plain change, of the root or
everywhere. -/
theorem plainChange_modify_of_changesVisibly
    {change : QueryBlock → QueryBlock}
    (shows : ∀ block, ChangesVisibly block (change block))
    (statement : Statement)
    (everywhere : Bool) : PlainChange statement (statement.modify everywhere change) :=
  .visible (related_modify QueryBlock.changesVisibly_refl shows everywhere statement)

/-- An operation on the root makes a plain change if it leaves the root alone or
makes it forget its SELECT. -/
theorem plainChange_onRoot
    {Value : Type}
    {operate : QueryBlock → Outcome QueryBlock Value}
    {statement : Statement}
    (change : LeftOrForgets statement.block (operate statement.block).state) :
    PlainChange statement (statement.onRoot operate).state := by
  cases statement with
  | node root branches => exact .atRoot change

theorem plainChange_selectMapping
    (statement : Statement)
    (ref : Option TableRef)
    (mapping : Mapping)
    (aliasName : Option String)
    (everywhere : Bool) :
    PlainChange statement (statement.selectMapping ref mapping aliasName everywhere).state := by
  simp only [selectMapping]
  split
  · exact plainChange_refl statement
  · split
    · exact plainChange_refl statement
    · exact plainChange_modify_of_changesVisibly
        (fun block => block.changesVisibly_addItems _) statement everywhere

theorem plainChange_setOptions
    (statement : Statement)
    (strategies : NamingStrategies)
    (options : StatementOptions) :
    PlainChange statement (statement.setOptions strategies options).state := by
  simp only [setOptions]
  split
  · exact plainChange_refl statement
  · exact plainChange_modify (fun _ => rfl) statement false

theorem plainChange_whereAnd
    (statement : Statement)
    (predicate : Predicate)
    (everywhere : Bool) :
    PlainChange statement (statement.whereAnd predicate everywhere) := by
  cases always : predicate.isAlways with
  | true =>
      refine plainChange_modify_of_changesVisibly (fun block => .inl ?_) statement everywhere
      rw [QueryBlock.whereAnd, if_pos always]
  | false =>
      refine plainChange_modify (fun block => ?_) statement everywhere
      rw [QueryBlock.whereAnd, if_neg (by simp [always])]

/-- A rendering of rows leaves a block alone or keeps no SELECT. -/
theorem leftOrForgets_rowQuery
    {block : QueryBlock}
    {id : StatementId}
    {head : QueryBlock → String}
    {kind : RowQuery → Rendering}
    (current : block.KeepsCurrent)
    (notSelect : ∀ (query : RowQuery) (ready : QueryBlock),
      { ready with cache := some (kind query) }.cachedSelect? = none) :
    LeftOrForgets block (block.rowQuery id head kind).state := by
  rcases QueryBlock.rowQuery_state_cases id head kind block with
    state_eq | ⟨condition, ordered, rows, state_eq⟩
  · rw [state_eq]
    exact leftOrForgets_of_cache current.reorderJoins_state_eq_or_cache_eq_none
  · rw [state_eq]
    exact .inr (notSelect _ _)

theorem plainChange_updateQuery
    {statement : Statement}
    (current : statement.block.KeepsCurrent)
    (id : StatementId) :
    PlainChange statement (statement.onRoot (·.updateQuery id)).state := by
  apply plainChange_onRoot
  unfold QueryBlock.updateQuery
  split
  · exact leftOrForgets_refl _
  · exact leftOrForgets_rowQuery current fun _ _ => rfl

theorem plainChange_deleteQuery
    {statement : Statement}
    (current : statement.block.KeepsCurrent)
    (id : StatementId) :
    PlainChange statement (statement.onRoot (·.deleteQuery id)).state := by
  apply plainChange_onRoot
  unfold QueryBlock.deleteQuery
  split
  · exact leftOrForgets_refl _
  · exact leftOrForgets_rowQuery current fun _ _ => rfl

/-- A rendering changes a tree as the rendering of a SELECT does, or plainly. -/
theorem render_state_cases
    {statement : Statement}
    (current : statement.block.KeepsCurrent)
    (framing : Framing)
    (id : StatementId) :
    (statement.sql framing id).state = (statement.renderSelect []).state ∨
      PlainChange statement (statement.sql framing id).state := by
  cases framing with
  | select => exact .inl rfl
  | update => exact .inr (plainChange_updateQuery current id)
  | delete => exact .inr (plainChange_deleteQuery current id)

/-- An operation brings in a branch, renders a SELECT, or changes the tree
plainly. -/
theorem run_state_cases
    {statement : Statement}
    (current : statement.block.KeepsCurrent)
    (operation : Operation) :
    (∃ other, operation = .union other) ∨
      (operation.run statement).state = (statement.renderSelect []).state ∨
      PlainChange statement (operation.run statement).state := by
  cases operation with
  | union other => exact .inl ⟨other, rfl⟩
  | render framing id => exact .inr (render_state_cases current framing id)
  | log id =>
      rw [Operation.run, state_log]
      exact .inr (render_state_cases current _ id)
  | select expression aliasName everywhere =>
      refine .inr (.inr ?_)
      simp only [Operation.run, Outcome.state_map, select]
      split
      · exact plainChange_refl statement
      · exact plainChange_modify (fun _ => rfl) statement everywhere
  | selectMapping ref mapping aliasName everywhere =>
      exact .inr (.inr (plainChange_selectMapping statement ref mapping aliasName everywhere))
  | selectColumn ref column aliasName everywhere =>
      refine .inr (.inr ?_)
      simp only [Operation.run, Outcome.state_map, selectColumn]
      split
      · exact plainChange_refl statement
      · exact plainChange_selectMapping statement ref _ aliasName everywhere
  | join spec =>
      refine .inr (.inr ?_)
      simp only [Operation.run, Outcome.state_map, join]
      split
      · exact plainChange_refl statement
      · exact .visible (related_spreadJoin QueryBlock.changesVisibly_refl
          QueryBlock.changesVisibly_join spec statement)
  | crossJoin table aliasName group =>
      exact .inr (.inr (.visible (related_crossJoin QueryBlock.changesVisibly_refl
        QueryBlock.changesVisibly_crossJoin table aliasName group statement)))
  | removeCrossJoin aliasName =>
      exact .inr (.inr (.visible (related_mapBlocks
        (fun block => block.changesVisibly_removeCrossJoin aliasName) statement)))
  | reorderJoins =>
      refine .inr (.inr (plainChange_onRoot (leftOrForgets_of_cache ?_)))
      exact current.reorderJoins_state_eq_or_cache_eq_none
  | whereAnd predicate everywhere =>
      exact .inr (.inr (plainChange_whereAnd statement predicate everywhere))
  | whereOr predicate everywhere =>
      exact .inr (.inr (plainChange_modify (fun _ => rfl) statement everywhere))
  | groupBy expression =>
      exact .inr (.inr (plainChange_modify (fun _ => rfl) statement true))
  | setHaving predicate =>
      exact .inr (.inr (plainChange_modify (fun _ => rfl) statement true))
  | setDistinct distinct =>
      exact .inr (.inr (plainChange_modify (fun _ => rfl) statement false))
  | setRange range =>
      exact .inr (.inr (plainChange_modify (fun _ => rfl) statement false))
  | setOrdering expressions directions nulls =>
      refine .inr (.inr ?_)
      simp only [Operation.run, setOrdering]
      split
      · exact plainChange_refl statement
      · split
        · exact plainChange_refl statement
        · exact plainChange_modify (fun _ => rfl) statement false
  | clearOrdering =>
      exact .inr (.inr (plainChange_modify (fun _ => rfl) statement false))
  | setUpdates assignments =>
      refine .inr (.inr ?_)
      simp only [Operation.run, setUpdates]
      split
      · exact plainChange_refl statement
      · exact plainChange_modify (fun _ => rfl) statement false
  | setOptions strategies options =>
      exact .inr (.inr (plainChange_setOptions statement strategies options))
  | setNamingStrategy strategies key =>
      exact .inr (.inr (plainChange_setOptions statement strategies _))

/-- A plain change leaves every block alone or makes it forget its SELECT. -/
theorem PlainChange.related
    {before after : Statement}
    (change : PlainChange before after) : Related LeftOrForgets before after := by
  cases change with
  | atRoot root =>
      exact .node root (List.forall₂_same.mpr fun _ _ => .refl leftOrForgets_refl _)
  | visible related =>
      exact related.mono fun _ _ pair => leftOrForgets_of_cache (pair.imp_right And.left)
  | forgotten related =>
      exact related.mono fun _ _ pair => leftOrForgets_of_cache (.inr pair)

/-- Where something is overlooked some block keeps a SELECT. -/
theorem exists_kept_of_overlooks
    {before after : Statement}
    (overlooks : Overlooks before after) :
    ∃ block ∈ after.blocks, block.cachedSelect?.isSome := by
  induction overlooks with
  | atRoot kept differ => exact ⟨_, block_mem_blocks _, kept⟩
  | inBranch inBefore inAfter _ inductionHypothesis =>
      obtain ⟨block, blockMem, kept⟩ := inductionHypothesis
      refine ⟨block, ?_, kept⟩
      rw [blocks_node]
      exact List.mem_cons_of_mem _
        (List.mem_flatMap.mpr ⟨_, List.mem_of_getElem? inAfter, blockMem⟩)

/-- Of the plain changes only those that show can overlook something. -/
theorem PlainChange.visible_of_overlooks
    {before after : Statement}
    (change : PlainChange before after)
    (overlooks : Overlooks before after) : Related ChangesVisibly before after := by
  cases change with
  | visible related => exact related
  | atRoot _ => exact absurd overlooks not_overlooks_of_same_branches
  | forgotten related =>
      obtain ⟨block, blockMem, kept⟩ := exists_kept_of_overlooks overlooks
      have none : block.cache = none :=
        forall_mem_of_forall₂ related.blocks (fun _ _ _ pair => pair) block blockMem
      rw [QueryBlock.cachedSelect?, none] at kept
      cases kept

end Statement
end SqlBuilder
