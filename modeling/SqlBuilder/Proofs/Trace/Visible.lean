import Mathlib.Data.Fintype.EquivFin
import SqlBuilder.Dialect.Preset
import SqlBuilder.Proofs.Join.Emission
import SqlBuilder.Proofs.Predicate.Meaning
import SqlBuilder.Proofs.Trace.Run

/-!
# What shows of a rendering

Traces of a rendering never show. Everything else that a rendering can do to a
statement without branches does show, once the statement is changed further:
a column that was selected for an ordering stays when the ordering is gone, and
a table that is joined later tells where the joins stood that were in order only
after the rendering.
-/

namespace SqlBuilder

namespace QueryBlock

variable {block before after : QueryBlock}

/-! ## Joins that are out of order -/

/-- A source that is local stays so when a table is joined. -/
theorem isLocalSource_appendCrossJoin
    (target : TableRef)
    {source : TableRef}
    (wasLocal : block.isLocalSource source = true) :
    (block.appendCrossJoin target).isLocalSource source = true := by
  rw [isLocalSource, Bool.and_eq_true, Option.any_eq_true] at wasLocal ⊢
  obtain ⟨notPrimary, ref, found, same⟩ := wasLocal
  exact ⟨notPrimary, ref, Registry.get?_insert_of_eq_some found target (some .cross), same⟩

/-- Joins that do not stay in order are out of order once the right table is
joined. -/
theorem Consistent.exists_not_allReady_appendCrossJoin
    (consistent : block.Consistent)
    (notOrdered : ¬ block.StaysOrdered) :
    ∃ target, block.registry.get? target.aliasName = none ∧
      ¬ Join.AllReady (block.appendCrossJoin target).isLocalSource block.joins := by
  by_cases dangles : block.Dangles
  · -- The missing source itself, which no join brings in.
    obtain ⟨join, member, keyed, source, isSource, free⟩ := dangles
    refine ⟨source, free, fun ready => ?_⟩
    obtain ⟨joinsBefore, joinsAfter, split_eq⟩ := List.append_of_mem member
    have isNew := Registry.get?_eq_none_iff.mp free
    have sourceLocal : (block.appendCrossJoin source).isLocalSource source = true := by
      rw [isLocalSource, Bool.and_eq_true, Option.any_eq_true]
      refine ⟨?_, source, Registry.get?_insert_self free (some .cross), by simp⟩
      have primaryMem : block.primary ∈ block.registry.tables :=
        consistent.tables.mem_iff.mpr List.mem_cons_self
      have notPrimary : source.aliasName ≠ block.primary.aliasName :=
        Ne.symm (isNew _ primaryMem)
      simp [TableRef.same, appendCrossJoin, notPrimary]
    obtain ⟨other, otherMem, leads⟩ := Join.isReady_iff.mp
      (ready joinsBefore join joinsAfter split_eq) source keyed isSource sourceLocal
    have otherIn : other ∈ block.joins := by
      rw [split_eq]
      exact List.mem_append_left _ otherMem
    have registered : other.target ∈ block.registry.tables :=
      consistent.tables.mem_iff.mpr
        (List.mem_cons_of_mem _ (List.mem_map_of_mem otherIn))
    exact isNew _ registered ((TableRef.same_iff _ _).mp leads).1
  · -- Any table at all, as the joins are out of order already.
    have outOfOrder : ¬ Join.AllReady block.isLocalSource block.joins :=
      fun ready => notOrdered ⟨ready, dangles⟩
    obtain ⟨aliasName, isFree⟩ := Infinite.exists_notMem_finset
      (block.registry.tables.map TableRef.aliasName).toFinset
    refine ⟨{ block.primary with aliasName := aliasName }, ?_, fun ready => ?_⟩
    · rw [Registry.get?_eq_none_iff]
      intro ref registered same
      exact isFree (List.mem_toFinset.mpr (List.mem_map.mpr ⟨ref, registered, same⟩))
    · exact outOfOrder (ready.anti fun source => isLocalSource_appendCrossJoin _)

/-- A table that is joined to joins that are marked, and out of order with it, does
not come last. -/
theorem targets_reorderJoins_appendCrossJoin
    {target : TableRef}
    (marked : block.mustReorder = true)
    (outOfOrder : ¬ Join.AllReady (block.appendCrossJoin target).isLocalSource block.joins)
    (ordered : (block.appendCrossJoin target).reorderJoins.result = .ok ()) :
    ∃ front behind, (block.appendCrossJoin target).reorderJoins.state.joins.map Join.target =
      front ++ target :: behind ∧ behind ≠ [] := by
  have markedJoined : (block.appendCrossJoin target).mustReorder = true := marked
  simp only [reorderJoins, markedJoined, ↓reduceIte] at ordered ⊢
  split at ordered
  · rename_i complete
    rw [if_pos complete]
    obtain ⟨front, behind, placed_eq, notLast⟩ :=
      Join.exists_eq_append_of_place rfl outOfOrder (List.isEmpty_iff.mp complete)
    have targets_eq := congrArg (List.map Join.target) placed_eq
    rw [List.map_append, List.map_cons] at targets_eq
    exact ⟨front.map Join.target, behind.map Join.target, targets_eq, by simpa using notLast⟩
  · cases ordered

/-! ## What a query shows -/

/-- A query shows the tables that are joined, in order. -/
theorem targets_eq_of_query_eq
    {first second : QueryBlock}
    {firsts seconds : List SelectQuery}
    (same : first.query firsts = second.query seconds) :
    first.joins.map Join.target = second.joins.map Join.target := by
  have targets_eq : ∀ block : QueryBlock,
      block.arm.joins.map JoinClause.target = block.joins.map Join.target := by
    intro block
    simp [arm, Function.comp_def]
  have arms : first.arm = second.arm := by injection same
  rw [← targets_eq, ← targets_eq, arms]

theorem selected_readied (unordered : block.ordering = []) :
    block.readied.selected = block.selected := by
  have items_eq : block.reorderJoins.state.orderingItems = [] := by
    rw [reorderJoins_state_eq]
    exact orderingItems_eq_nil unordered
  rw [readied, items_eq, addItems_nil, reorderJoins_state_eq]

/-! ## What a rendering makes of a block -/

/-- What a rendering that succeeds makes of a block without branches. -/
inductive Rendered (before : QueryBlock) : QueryBlock → Prop
  /-- The last rendering is up to date. -/
  | kept : Rendered before before
  /-- The joins are put in order, and entries may be added. -/
  | anew (items : List SelectedItem) (cache : Option Rendering) :
      before.reorderJoins.result = .ok () →
      Rendered before { before.reorderJoins.state.addItems items with cache := cache }

/-- A rendering of rows succeeds only once the joins are in order. -/
theorem rendered_rowQuery
    {id : StatementId}
    {head : QueryBlock → String}
    {kind : RowQuery → Rendering}
    {query : RowQuery}
    (succeeded : (block.rowQuery id head kind).result = .ok query) :
    Rendered block (block.rowQuery id head kind).state := by
  rw [rowQuery_state_eq]
  refine .anew [] _ ?_
  simp only [rowQuery] at succeeded
  split at succeeded
  · cases succeeded
  · assumption

theorem rendered_updateQuery
    {id : StatementId}
    {query : RowQuery}
    (succeeded : (block.updateQuery id).result = .ok query) :
    Rendered block (block.updateQuery id).state := by
  unfold updateQuery at succeeded ⊢
  split
  · exact .kept
  · rename_i notKept
    rw [notKept] at succeeded
    exact rendered_rowQuery succeeded

theorem rendered_deleteQuery
    {id : StatementId}
    {query : RowQuery}
    (succeeded : (block.deleteQuery id).result = .ok query) :
    Rendered block (block.deleteQuery id).state := by
  unfold deleteQuery at succeeded ⊢
  split
  · exact .kept
  · rename_i notKept
    rw [notKept] at succeeded
    exact rendered_rowQuery succeeded

theorem Rendered.registry_eq (rendered : Rendered before after) :
    after.registry = before.registry := by
  cases rendered with
  | kept => rfl
  | anew items cache succeeded =>
      rw [addItems_eq, reorderJoins_state_eq]

theorem Rendered.eq_or_unmarked (rendered : Rendered before after) :
    after = before ∨ after.mustReorder = false := by
  cases rendered with
  | kept => exact .inl rfl
  | anew items cache succeeded =>
      refine .inr ?_
      rw [mustReorder_addItems, mustReorder_reorderJoins succeeded]

/-- A rendering that neither shows in the select list nor has put joins in order
that do not stay so leaves nothing but traces. -/
theorem Rendered.leavesTraces
    (rendered : Rendered before after)
    (selected_length : after.selected.length = before.selected.length)
    (ordered : before.mustReorder = true → before.StaysOrdered) :
    LeavesTraces before after := by
  cases rendered with
  | kept => exact ⟨rfl, .inl rfl⟩
  | anew items cache succeeded =>
      have unchanged : before.reorderJoins.state.addItems items = before.reorderJoins.state := by
        rcases before.reorderJoins.state.addItems_eq_or_grows items with unchanged | ⟨_, longer⟩
        · exact unchanged
        · rw [reorderJoins_state_eq] at longer
          dsimp only at selected_length longer
          rw [reorderJoins_state_eq] at selected_length
          omega
      rw [unchanged]
      cases marked : before.mustReorder with
      | false =>
          rw [reorderJoins_of_mustReorder_eq_false marked]
          exact ⟨rfl, .inl rfl⟩
      | true =>
          have stays := ordered marked
          simp only [reorderJoins, marked, ↓reduceIte, Join.place_of_allReady stays.ready,
            List.isEmpty_nil]
          exact ⟨rfl, .inr ⟨rfl, stays⟩⟩

end QueryBlock

namespace Statement

open QueryBlock (LeavesTraces Matches Rendered)

variable {before after : QueryBlock}

/-! ## Renderings of statements without branches -/

theorem exists_rendered_of_result_sql
    {root : QueryBlock}
    {framing : Framing}
    {id : StatementId}
    {text : String}
    (written : ((node root []).sql framing id).result = .ok text) :
    ∃ block, ((node root []).sql framing id).state = .node block [] ∧ Rendered root block := by
  cases framing with
  | select =>
      have outcome := selectQuery_outcome root []
      simp only [sql, selectSql, Outcome.result_map, Outcome.state_map] at written ⊢
      generalize (node root []).selectQuery = rendering at outcome written ⊢
      cases outcome with
      | unordered error notKept circular => cases written
      | stopped error events notKept ordered failed => cases written
      | kept query kept => exact ⟨root, rfl, .kept⟩
      | rendered queries events notKept ordered rendered =>
          exact ⟨_, rfl, .anew _ _ ordered⟩
  | update =>
      refine ⟨(root.updateQuery id).state, rfl, ?_⟩
      simp only [sql, updateSql, onRoot, Outcome.mapState, Outcome.result_map, block_node]
        at written
      cases succeeded : (root.updateQuery id).result with
      | ok query => exact QueryBlock.rendered_updateQuery succeeded
      | error error =>
          rw [succeeded] at written
          cases written
  | delete =>
      refine ⟨(root.deleteQuery id).state, rfl, ?_⟩
      simp only [sql, deleteSql, onRoot, Outcome.mapState, Outcome.result_map, block_node]
        at written
      cases succeeded : (root.deleteQuery id).result with
      | ok query => exact QueryBlock.rendered_deleteQuery succeeded
      | error error =>
          rw [succeeded] at written
          cases written

/-- A text that is logged is rendered. -/
theorem exists_result_sql_of_result_log
    {statement : Statement}
    {id : StatementId}
    (logged : (statement.log id).result = .ok ()) :
    ∃ text, (statement.sql
      (if statement.block.updates.isEmpty then .select else .update) id).result = .ok text := by
  have sql_eq : statement.sql (if statement.block.updates.isEmpty then .select else .update) id =
      if statement.block.updates.isEmpty then statement.selectSql
      else statement.updateSql id := by
    split <;> rfl
  rw [sql_eq]
  simp only [log] at logged
  split at logged
  · cases logged
  · rename_i text written
    exact ⟨text, written⟩

/-- An operation that renders a statement without branches, and succeeds, puts its
joins in order and may add to its select list. -/
theorem exists_rendered_of_result_run
    {root : QueryBlock}
    {operation : Operation}
    (renders : operation.Renders)
    (succeeded : (operation.run (node root [])).result = .ok ()) :
    ∃ block, (operation.run (node root [])).state = .node block [] ∧ Rendered root block := by
  cases operation with
  | render framing id =>
      simp only [Operation.run, Outcome.result_map, Outcome.state_map] at succeeded ⊢
      cases written : ((node root []).sql framing id).result with
      | ok text => exact exists_rendered_of_result_sql written
      | error error =>
          rw [written] at succeeded
          cases succeeded
  | log id =>
      obtain ⟨text, written⟩ := exists_result_sql_of_result_log succeeded
      rw [Operation.run, state_log]
      exact exists_rendered_of_result_sql written
  | _ => cases renders

/-! ## What later SELECTs show -/

/-- Where SELECTs of two blocks with nothing kept agree, and the first one succeeds,
their queries agree. -/
theorem query_readied_eq_of_alike
    (forgotten : after.cache = none)
    (forgottenBefore : before.cache = none)
    (unmarked : after.mustReorder = false)
    (alike : (node after []).selectQuery.result = (node before []).selectQuery.result) :
    before.reorderJoins.result = .ok () ∧
      ∃ firsts seconds, after.readied.query firsts = before.readied.query seconds := by
  have reordered := QueryBlock.reorderJoins_of_mustReorder_eq_false unmarked
  have succeeds : ∃ query, (node after []).selectQuery.result = .ok query :=
    exists_result_selectQuery rfl (show after.reorderJoins.result = .ok () by rw [reordered]; rfl)
  obtain ⟨query, succeeded⟩ := succeeds
  rcases selectQuery_cases succeeded with ⟨kept, _⟩ | ⟨firsts, _, read, _⟩
  · rw [forgotten] at kept
    cases kept
  · rcases selectQuery_cases (alike.symm.trans succeeded) with
      ⟨kept, _⟩ | ⟨seconds, ordered, readBefore, _⟩
    · rw [forgottenBefore] at kept
      cases kept
    · exact ⟨ordered, firsts, seconds, read.symm.trans readBefore⟩

/-- Columns that a rendering has added show when the ordering is cleared. -/
theorem length_selected_eq_of_alike
    (unmarked : after.mustReorder = false)
    (alike : (node (after.setOrdering []) []).selectQuery.result =
      (node (before.setOrdering []) []).selectQuery.result) :
    after.selected.length = before.selected.length := by
  have unmarkedCleared : (after.setOrdering []).mustReorder = false := unmarked
  obtain ⟨_, _, _, query_eq⟩ := query_readied_eq_of_alike rfl rfl unmarkedCleared alike
  have lengths_eq := (QueryBlock.lengths_eq_of_query_eq query_eq).2
  rw [QueryBlock.selected_readied rfl, QueryBlock.selected_readied rfl] at lengths_eq
  exact lengths_eq

/-- Where nothing stands twice the last entry stands last. -/
theorem eq_nil_of_concat_eq
    {Entry : Type}
    {entries front behind : List Entry}
    {last : Entry}
    (nodup : (front ++ last :: behind).Nodup)
    (same : entries ++ [last] = front ++ last :: behind) : behind = [] := by
  rcases List.eq_nil_or_concat behind with isNil | ⟨init, final, rfl⟩
  · exact isNil
  · rw [List.concat_eq_append, ← List.cons_append, ← List.append_assoc] at same
    cases (List.append_inj' same rfl).2
    rw [List.nodup_middle, List.nodup_cons] at nodup
    exact absurd (by simp) nodup.1

/-- Joins that a rendering has put in order, and that do not stay so, show when the
right table is joined. -/
theorem staysOrdered_of_alike
    (consistent : before.Consistent)
    (marked : before.mustReorder = true)
    (unmarked : after.mustReorder = false)
    (alike : ∀ target, before.registry.get? target.aliasName = none →
      (node (after.appendCrossJoin target) []).selectQuery.result =
        (node (before.appendCrossJoin target) []).selectQuery.result) :
    before.StaysOrdered := by
  by_contra notOrdered
  obtain ⟨target, free, outOfOrder⟩ :=
    consistent.exists_not_allReady_appendCrossJoin notOrdered
  have unmarkedJoined : (after.appendCrossJoin target).mustReorder = false := unmarked
  obtain ⟨ordered, _, _, query_eq⟩ :=
    query_readied_eq_of_alike rfl rfl unmarkedJoined (alike target free)
  obtain ⟨front, behind, placed_eq, notLast⟩ :=
    QueryBlock.targets_reorderJoins_appendCrossJoin marked outOfOrder ordered
  have targets_eq := QueryBlock.targets_eq_of_query_eq query_eq
  rw [QueryBlock.joins_readied, QueryBlock.joins_readied,
    QueryBlock.reorderJoins_of_mustReorder_eq_false unmarkedJoined, placed_eq] at targets_eq
  rw [Outcome.state_ok, QueryBlock.appendCrossJoin, List.map_append] at targets_eq
  have joinedConsistent := consistent.crossJoin target.table (some target.aliasName)
    (some target.group)
  rw [QueryBlock.crossJoin_of_free free] at joinedConsistent
  have nodup := joinedConsistent.nodup_targets
  rw [← ((QueryBlock.perm_joins_reorderJoins _).map Join.target).nodup_iff, Outcome.state_ok,
    placed_eq] at nodup
  exact notLast (eq_nil_of_concat_eq nodup targets_eq)

/-- A rendering of a statement without branches, if it succeeds, leaves nothing but
traces, once neither a cleared ordering nor a table that is joined shows more. -/
theorem leavesTraces_of_alike
    {second : QueryBlock}
    (rendered : Rendered before after)
    (matched : Matches before second)
    (consistent : second.Consistent)
    (cleared : (node (after.setOrdering []) []).selectQuery.result =
      (node (second.setOrdering []) []).selectQuery.result)
    (joined : ∀ target, second.registry.get? target.aliasName = none →
      (node (after.appendCrossJoin target) []).selectQuery.result =
        (node (second.appendCrossJoin target) []).selectQuery.result) :
    LeavesTraces before after := by
  rcases rendered.eq_or_unmarked with rfl | unmarked
  · exact ⟨rfl, .inl rfl⟩
  · have selected_length := length_selected_eq_of_alike unmarked cleared
    cases matched with
    | intro forgotten idle =>
        refine rendered.leavesTraces selected_length fun marked => ?_
        have markedSecond : second.mustReorder = true := by
          rcases idle with same | ⟨unmarkedBefore, _⟩
          · exact same.symm.trans marked
          · cases marked.symm.trans unmarkedBefore
        exact (staysOrdered_of_alike consistent markedSecond unmarked joined).of_kept rfl rfl rfl

theorem runAll_crossJoin_of_free
    {block : QueryBlock}
    {target : TableRef}
    (free : block.registry.get? target.aliasName = none) :
    (node block []).runAll
        [.crossJoin target.table (some target.aliasName) (some target.group)] =
      .node (block.appendCrossJoin target) [] := by
  have joined := QueryBlock.crossJoin_of_free free
  simp only [runAll, List.foldl_cons, List.foldl_nil, Operation.run, Outcome.state_map, crossJoin,
    joined, crossJoinToBranches, Outcome.state_ok, Outcome.result_ok]

/-- No operations on the two statements make their SELECTs differ. -/
def Indistinguishable (first second : Statement) : Prop :=
  ∀ operations : List Operation, (∀ operation ∈ operations, operation.Mutates) →
    (first.runAll operations).selectQuery.result = (second.runAll operations).selectQuery.result

/-- A rendering that no operations can tell from none has left nothing but
traces. -/
theorem SameRun.leavesTraces_of_indistinguishable
    {first second : Statement}
    {operation : Operation}
    (run : SameRun first second)
    (renders : operation.Renders)
    (branchless : first.branches = [])
    (succeeded : (operation.run first).result = .ok ())
    (alike : Indistinguishable (operation.run first).state second) :
    Related LeavesTraces first (operation.run first).state := by
  have consistent := run.reached.2.consistent _ second.block_mem_blocks
  cases run.matched with
  | @node root other branches others matched pairs =>
      rw [branches_node] at branchless
      subst branchless
      cases pairs with
      | nil =>
          obtain ⟨after, state_eq, rendered⟩ := exists_rendered_of_result_run renders succeeded
          rw [state_eq] at alike ⊢
          refine .node (leavesTraces_of_alike rendered matched consistent ?_ ?_) .nil
          · exact alike [.clearOrdering] (by simp [Operation.Mutates])
          · intro target free
            have freeAfter : after.registry.get? target.aliasName = none := by
              rw [rendered.registry_eq, matched.registry_eq]
              exact free
            rw [← runAll_crossJoin_of_free free, ← runAll_crossJoin_of_free freeAfter]
            exact alike _ (by simp [Operation.Mutates])

/-- A rendering that has left nothing but traces cannot be told from none. -/
theorem SameRun.indistinguishable_of_leavesTraces
    {first second : Statement}
    {operation : Operation}
    (run : SameRun first second)
    (renders : operation.Renders)
    (branchless : first.branches = [])
    (leaves : Related LeavesTraces first (operation.run first).state) :
    Indistinguishable (operation.run first).state second := by
  obtain ⟨stillBranchless, quiet⟩ := branches_eq_nil_and_not_overlooks leaves branchless
  have rendered : SameRun (operation.run first).state second :=
    .rendered run renders (onBranch_nil first) leaves quiet
  intro operations mutate
  obtain ⟨continued, branchlessEnd⟩ := rendered.runAll mutate stillBranchless
  exact continued.result_selectQuery_of_branchless branchlessEnd

/-- As long as renderings on the way left nothing but traces, SELECTs with and
without them agree at every path unless they overlook a change, and one more
rendering of a statement without branches cannot be told from none exactly if it
leaves nothing but traces as well. -/
theorem agree_and_indistinguishable_iff_leavesTraces
    {first second : Statement}
    (run : SameRun first second) :
    (∀ path branch, first.branchAt? path = some branch →
      ∃ other, second.branchAt? path = some other ∧
        (¬ Overlooks branch branch.selectQuery.state →
          branch.selectSql.result = other.selectSql.result) ∧
        ∀ query, branch.selectQuery.result = .ok query →
          (other.selectQuery.result = .ok query ↔
            ¬ Overlooks branch branch.selectQuery.state)) ∧
      ∀ operation : Operation, operation.Renders → first.branches = [] →
        (operation.run first).result = .ok () →
        (Indistinguishable (operation.run first).state second ↔
          Related LeavesTraces first (operation.run first).state) := by
  constructor
  · intro path branch found
    obtain ⟨other, inSecond, agree, overlooking⟩ := run.result_selectQuery found
    refine ⟨other, inSecond, fun quiet => ?_, overlooking⟩
    rw [selectSql, selectSql, Outcome.result_map, Outcome.result_map, agree quiet]
  · intro operation renders branchless succeeded
    exact ⟨run.leavesTraces_of_indistinguishable renders branchless succeeded,
      run.indistinguishable_of_leavesTraces renders branchless⟩

/-- The identities of people. -/
def identities : Statement :=
  (people .postgresql).runAll [.selectColumn none { table := "person", name := "id" } none false]

/-- Order people by one of their columns. -/
def orderBy (column : String) : Operation :=
  .setOrdering [.columns "person" "A0" [column]] [false] none

/-- Require that people are of age. -/
def ofAge : Operation :=
  .whereAnd (.raw "A0.age > 17") false

/-- Operations that render nothing lead from the same people to the same
statement. -/
theorem sameRun_runAll_people
    {operations : List Operation}
    (mutate : ∀ operation ∈ operations, operation.Mutates)
    (capabilities : Capabilities) :
    SameRun ((people capabilities).runAll operations) ((people capabilities).runAll operations) ∧
      ((people capabilities).runAll operations).branches = [] := by
  let builder : StatementBuilder :=
    { dialect := .ofCapabilities capabilities
      table := { name := "person" }
      aliasName := some "A0" }
  have built : builder.build .standard ⟨1⟩ = .ok (people capabilities) := rfl
  exact (SameRun.built built).runAll mutate rfl

/-- Identities may be logged before people are restricted, but not be rendered once
they are ordered. -/
theorem indistinguishable_log_identities :
    ((identities.runAll [.log ⟨2⟩]).runAll [ofAge]).selectSql.result =
        (identities.runAll [ofAge]).selectSql.result ∧
      Indistinguishable (identities.runAll [.log ⟨2⟩]) identities ∧
      ¬ Indistinguishable ((identities.runAll [orderBy "name"]).runAll [.render .select ⟨2⟩])
        (identities.runAll [orderBy "name"]) := by
  obtain ⟨selected, branchless⟩ : SameRun identities identities ∧ identities.branches = [] :=
    sameRun_runAll_people (by simp [Operation.Mutates]) .postgresql
  obtain ⟨ordered, orderedBranchless⟩ :=
    selected.runAll (show ∀ operation ∈ [orderBy "name"], operation.Mutates by
      simp [orderBy, Operation.Mutates]) branchless
  have logs : (Operation.log ⟨2⟩).Renders := trivial
  have renders : (Operation.render .select ⟨2⟩).Renders := trivial
  have leaves : Related LeavesTraces identities (identities.runAll [.log ⟨2⟩]) :=
    .node ⟨rfl, .inl rfl⟩ .nil
  have logged : SameRun (identities.runAll [.log ⟨2⟩]) identities :=
    .rendered selected logs (onBranch_nil _) leaves
      (branches_eq_nil_and_not_overlooks leaves branchless).2
  obtain ⟨restricted, restrictedBranchless⟩ :=
    logged.runAll (show ∀ operation ∈ [ofAge], operation.Mutates by
      simp [ofAge, Operation.Mutates]) rfl
  refine ⟨?_, ?_, ?_⟩
  · obtain ⟨other, found, agree, _⟩ :=
      (agree_and_indistinguishable_iff_leavesTraces restricted).1 [] _ (branchAt?_nil _)
    rw [branchAt?_nil, Option.some.injEq] at found
    rw [found]
    exact agree (branches_eq_nil_and_not_overlooks (related_renderSelect [] _)
      restrictedBranchless).2
  · exact ((agree_and_indistinguishable_iff_leavesTraces selected).2 _ logs branchless rfl).mpr
      leaves
  · intro alike
    have traces := ((agree_and_indistinguishable_iff_leavesTraces ordered).2 _ renders
      orderedBranchless rfl).mp alike
    have length_eq := congrArg (·.selected.length) traces.block.same
    revert length_eq
    decide +kernel

/-- A rendering of people by name leaves the names in the SELECT of people by
age. -/
theorem selectSql_byAge_after_byName :
    (identities.runAll [orderBy "name", .render .select ⟨2⟩, orderBy "age"]).selectSql.result =
        .ok ("SELECT A0.id, A0.name AS NUCORDER0, A0.age AS NUCORDER0 FROM person A0 " ++
          "ORDER BY NUCORDER0") ∧
      (identities.runAll [orderBy "name", orderBy "age"]).selectSql.result =
        .ok "SELECT A0.id, A0.age AS NUCORDER0 FROM person A0 ORDER BY NUCORDER0" := by
  constructor <;> decide +kernel

end Statement
end SqlBuilder
