import SqlBuilder.Proofs.Cache.Block
import SqlBuilder.Proofs.Join.Marking
import SqlBuilder.Proofs.Join.Writing

/-!
# The order of the joins in a SELECT

A SELECT writes the joins of its statement in an order in which each stands
behind the join that it depends on, and reports joins for which there is no such
order. Both hold as long as no table comes back from which an earlier join still
starts.
-/

namespace SqlBuilder
namespace Statement

open QueryBlock (Revives)

/-- The FROM clause of the statement, with the given joins in it. -/
def SpellsJoins (statement : Statement) (joins : List Join) (text : String) : Prop :=
  let capabilities := statement.block.capabilities
  let locked := statement.block.options.lockForUpdate
  SpellsFrom capabilities statement.block.primary (capabilities.fromHint? locked)
    (capabilities.joinHint? locked) joins text

/-- A SELECT that succeeds writes all joins of the statement, in order: those are
the joins in the FROM clause of its text. -/
def EmitsInOrder (statement : Statement) : Prop :=
  ∀ query, statement.selectQuery.result = .ok query →
    ∃ emitted, emitted = statement.selectQuery.state.block.joins ∧
      emitted.Perm statement.block.joins ∧ statement.block.InOrder emitted ∧
      query.arm.joins = emitted.map (Join.clause statement.block.capabilities
        (statement.block.capabilities.joinHint? statement.block.options.lockForUpdate)) ∧
      ∃ text fromClause, statement.selectSql.result = .ok text ∧
        statement.SpellsJoins emitted fromClause ∧ HasPiece text fromClause

/-- A SELECT of joins that have no order reports them. -/
def ReportsCircular (statement : Statement) : Prop :=
  (∀ order, order.Perm statement.block.joins → ¬ statement.block.InOrder order) →
    ∃ unplaced, statement.selectQuery.result = .error (.circularJoins unplaced)

theorem selectQuery_outcome (root : QueryBlock) (branches : List Statement) :
    SelectOutcome [] root branches (node root branches).selectQuery :=
  renderSelect_outcome [] root branches

/-- A SELECT that succeeds is the kept one, or is read off the readied block. -/
theorem selectQuery_cases
    {root : QueryBlock}
    {branches : List Statement}
    {query : SelectQuery}
    (succeeded : (node root branches).selectQuery.result = .ok query) :
    (root.cache = some (.select query) ∧
      (node root branches).selectQuery.state.block = root) ∨
      ∃ queries, root.reorderJoins.result = .ok () ∧ query = root.readied.query queries ∧
        (node root branches).selectQuery.state.block =
          { root.readied with cache := some (.select query) } := by
  have outcome := selectQuery_outcome root branches
  generalize (node root branches).selectQuery = rendering at outcome succeeded ⊢
  cases outcome with
  | unordered error notKept circular => cases succeeded
  | stopped error events notKept ordered failed => cases succeeded
  | kept query kept =>
      cases succeeded
      exact .inl ⟨QueryBlock.cachedSelect?_eq_some_iff.mp kept, rfl⟩
  | rendered queries events notKept ordered rendered =>
      cases succeeded
      exact .inr ⟨queries, ordered, rfl, rfl⟩

/-- With the joins in order a SELECT without branches succeeds. -/
theorem exists_result_selectQuery
    {statement : Statement}
    (branchless : statement.branches = [])
    (ordered : statement.reorderJoins.result = .ok ()) :
    ∃ query, statement.selectQuery.result = .ok query := by
  cases statement with
  | node root branches =>
      rw [branches_node] at branchless
      subst branchless
      have outcome := selectQuery_outcome root []
      generalize (node root []).selectQuery = rendering at outcome
      cases outcome with
      | kept query kept => exact ⟨_, rfl⟩
      | unordered error notKept circular => cases ordered.symm.trans circular
      | stopped error events notKept ordered failed => cases failed
      | rendered queries events notKept ordered rendered => exact ⟨_, rfl⟩

/-- A block is readied without a change to what its joins are written with. -/
theorem arm_joins_readied (block : QueryBlock) :
    block.readied.arm.joins = block.reorderJoins.state.joins.map
      (Join.clause block.capabilities
        (block.capabilities.joinHint? block.options.lockForUpdate)) := by
  rw [QueryBlock.readied, QueryBlock.addItems_eq, QueryBlock.reorderJoins_state_eq]
  rfl

theorem arm_primary_readied (block : QueryBlock) :
    block.readied.arm.primary = block.primary := by
  rw [QueryBlock.readied, QueryBlock.addItems_eq, QueryBlock.reorderJoins_state_eq]
  rfl

theorem arm_hint_readied (block : QueryBlock) :
    block.readied.arm.hint = block.capabilities.fromHint? block.options.lockForUpdate := by
  rw [QueryBlock.readied, QueryBlock.addItems_eq, QueryBlock.reorderJoins_state_eq]
  rfl

/-- The joins of an arm stand in the FROM clause of the text. -/
theorem exists_fromClause
    {statement : Statement}
    {query : SelectQuery}
    {joins : List Join}
    (succeeded : statement.selectQuery.result = .ok query)
    (primary_eq : query.arm.primary = statement.block.primary)
    (hint_eq : query.arm.hint =
      statement.block.capabilities.fromHint? statement.block.options.lockForUpdate)
    (joins_eq : query.arm.joins = joins.map (Join.clause statement.block.capabilities
      (statement.block.capabilities.joinHint? statement.block.options.lockForUpdate))) :
    ∃ text fromClause, statement.selectSql.result = .ok text ∧
      statement.SpellsJoins joins fromClause ∧ HasPiece text fromClause := by
  have spelled := SelectArm.spellsFrom_fromClause joins_eq
  rw [primary_eq, hint_eq] at spelled
  refine ⟨query.toSql, query.arm.fromClause, ?_, spelled, query.hasPiece_fromClause⟩
  rw [selectSql, Outcome.result_map, succeeded]
  rfl

/-- Unmarked joins that are in order are written in order. -/
theorem emitsInOrder_of_inPlace
    {statement : Statement}
    (current : statement.block.KeepsCurrent)
    (consistent : statement.block.Consistent)
    (inPlace : statement.block.InPlace) : statement.EmitsInOrder := by
  cases statement with
  | node root branches =>
      intro query succeeded
      rcases selectQuery_cases succeeded with
        ⟨kept, block_eq⟩ | ⟨queries, ordered, rfl, block_eq⟩
      · obtain ⟨read, _⟩ := current.select query kept
        rw [block_node] at read
        have joins_eq : query.arm.joins = root.joins.map (Join.clause root.capabilities
            (root.capabilities.joinHint? root.options.lockForUpdate)) := by
          rw [read]
          rfl
        refine ⟨root.joins, by rw [block_eq], List.Perm.refl _, ?_, joins_eq,
          exists_fromClause succeeded (by rw [read]; rfl) (by rw [read]; rfl) joins_eq⟩
        exact consistent.inOrder_iff.mpr (inPlace (current.mustReorder_eq_false kept))
      · refine ⟨root.reorderJoins.state.joins, ?_, root.perm_joins_reorderJoins, ?_,
          arm_joins_readied root, ?_⟩
        · rw [block_eq]
          exact root.joins_readied.symm
        · exact consistent.inOrder_iff.mpr
            (inPlace.allReady_reorderJoins (QueryBlock.mustReorder_reorderJoins ordered))
        · exact exists_fromClause succeeded (arm_primary_readied root) (arm_hint_readied root)
            (arm_joins_readied root)

/-- Joins without an order fail to be reordered, and are reported. -/
theorem exists_circularJoins_of_no_order
    {block : QueryBlock}
    (consistent : block.Consistent)
    (marked : block.mustReorder = true)
    (noOrder : ∀ order, order.Perm block.joins → ¬ block.InOrder order) :
    ∃ unplaced, block.reorderJoins.result = .error (.circularJoins unplaced) := by
  have incomplete : (Join.place block.isLocalSource [] block.joins).2 ≠ [] := by
    intro complete
    obtain ⟨order, perm, ready⟩ := Join.place_eq_nil_iff.mp complete
    exact noOrder order perm (consistent.inOrder_iff.mpr ready)
  simp only [QueryBlock.reorderJoins, marked, ↓reduceIte, List.isEmpty_iff, incomplete]
  exact ⟨_, rfl⟩

/-- Joins that are unmarked only when they are in order are reported when they
have no order. -/
theorem reportsCircular_of_inPlace
    {statement : Statement}
    (current : statement.block.KeepsCurrent)
    (consistent : statement.block.Consistent)
    (inPlace : statement.block.InPlace) : statement.ReportsCircular := by
  intro noOrder
  cases statement with
  | node root branches =>
      rw [block_node] at current consistent inPlace noOrder
      have marked : root.mustReorder = true := by
        cases unmarked : root.mustReorder with
        | true => rfl
        | false =>
            have ordered := consistent.inOrder_iff.mpr (inPlace unmarked)
            exact absurd ordered (noOrder root.joins (List.Perm.refl _))
      obtain ⟨unplaced, circular⟩ := exists_circularJoins_of_no_order consistent marked noOrder
      have outcome := selectQuery_outcome root branches
      generalize (node root branches).selectQuery = rendering at outcome ⊢
      cases outcome with
      | kept query kept =>
          rw [QueryBlock.addItems_nil, QueryBlock.cachedSelect?, current.ordered marked] at kept
          cases kept
      | unordered error notKept failed =>
          rw [QueryBlock.addItems_nil, circular] at failed
          cases failed
          exact ⟨unplaced, rfl⟩
      | stopped error events notKept ordered failed =>
          rw [QueryBlock.addItems_nil, circular] at ordered
          cases ordered
      | rendered queries events notKept ordered rendered =>
          rw [QueryBlock.addItems_nil, circular] at ordered
          cases ordered

/-! ## Along a run -/

/-- As long as nothing comes back the joins of the root are in order unless they
are marked. -/
theorem ReachedBy.inPlace
    {statement : Statement}
    (reached : ReachedBy (fun before after => ¬ Revives before.block after.block) statement) :
    statement.block.InPlace := by
  induction reached with
  | built built =>
      obtain ⟨namer, primary, rfl⟩ := exists_ofPrimary_of_build built
      exact fun _ => Join.allReady_nil
  | @step statement _ _ _ before _ operated quiet inPlace _ =>
      exact inPlace.editedTo (editedTo_onBranch_run operated)
        (before.reachable.consistent _ statement.block_mem_blocks) quiet

/-- A statement without branches writes unmarked joins as they stand. -/
theorem inPlace_of_emitsInOrder
    {statement : Statement}
    (branchless : statement.branches = [])
    (consistent : statement.block.Consistent)
    (forgotten : statement.block.cache = none)
    (emits : statement.EmitsInOrder) : statement.block.InPlace := by
  intro unmarked
  cases statement with
  | node root branches =>
      rw [block_node] at consistent forgotten unmarked ⊢
      have reordered := QueryBlock.reorderJoins_of_mustReorder_eq_false unmarked
      obtain ⟨query, succeeded⟩ := exists_result_selectQuery branchless
        (show root.reorderJoins.result = .ok () by rw [reordered]; rfl)
      obtain ⟨emitted, emitted_eq, _, inOrder, _, _⟩ := emits query succeeded
      rcases selectQuery_cases succeeded with ⟨kept, _⟩ | ⟨queries, _, _, block_eq⟩
      · rw [forgotten] at kept
        cases kept
      · have joins_eq : emitted = root.joins := by
          rw [emitted_eq, block_eq]
          change root.readied.joins = root.joins
          rw [QueryBlock.readied, QueryBlock.joins_addItems, reordered]
          rfl
        exact consistent.inOrder_iff.mp (joins_eq ▸ inOrder)

/-- As long as no table comes back from which an earlier join still starts, a
SELECT writes the joins in an order in which each stands behind the join to its
source, and reports them if there is no such order. A step after which a
statement without branches does not is one that brings such a table back. -/
theorem emitsInOrder_iff_not_revives
    {statement : Statement}
    (reached : ReachedBy (fun before after => ¬ Revives before.block after.block) statement) :
    statement.EmitsInOrder ∧ statement.ReportsCircular ∧
      ∀ (operation : Operation) path outcome,
        statement.onBranch operation.run path = some outcome →
        outcome.state.branches = [] →
        (outcome.state.EmitsInOrder ∧ outcome.state.ReportsCircular ↔
          ¬ Revives statement.block outcome.state.block) := by
  have current := reached.reachable.keepsCurrent _ statement.block_mem_blocks
  have consistent := reached.reachable.consistent _ statement.block_mem_blocks
  have inPlace := reached.inPlace
  refine ⟨emitsInOrder_of_inPlace current consistent inPlace,
    reportsCircular_of_inPlace current consistent inPlace, ?_⟩
  intro operation path outcome operated branchless
  have edited := editedTo_onBranch_run operated
  have currentAfter : outcome.state.block.KeepsCurrent :=
    edited.preserves (fun _ _ becomes => .becomes becomes) current
  have consistentAfter : outcome.state.block.Consistent :=
    edited.preserves (fun _ _ becomes => .becomes becomes) consistent
  constructor
  · rintro ⟨emits, _⟩ revives
    obtain ⟨_, _, _, forgotten, _⟩ :=
      QueryBlock.exists_append_of_revives edited consistent revives
    exact QueryBlock.not_inPlace_of_revives edited consistent consistentAfter revives
      (inPlace_of_emitsInOrder branchless consistentAfter forgotten emits)
  · intro quiet
    have inPlaceAfter := inPlace.editedTo edited consistent quiet
    exact ⟨emitsInOrder_of_inPlace currentAfter consistentAfter inPlaceAfter,
      reportsCircular_of_inPlace currentAfter consistentAfter inPlaceAfter⟩

/-- Join all cities to people. -/
def joinCities : Operation :=
  .crossJoin { name := "city" } (some "X") none

/-- Join the phones of the cities. -/
def joinPhones : Operation :=
  .join
    { kind := .inner
      table := { name := "phone" }
      aliasName := some "Y"
      source := .registered "X"
      sourceKey := some { table := "city", columns := ["id"] }
      targetKey := some { table := "phone", columns := ["city_id"] } }

/-- Phones whose cities have been removed. -/
def phonesWithoutCities : Statement :=
  (people {}).runAll [joinCities, joinPhones, .removeCrossJoin "X"]

/-- Cities that come back are written before the phones there. -/
theorem emitsInOrder_iff_not_revives_phonesWithoutCities :
    phonesWithoutCities.EmitsInOrder ∧
      ((joinCities.run phonesWithoutCities).state.EmitsInOrder ∧
        (joinCities.run phonesWithoutCities).state.ReportsCircular) ∧
      (joinCities.run phonesWithoutCities).state.selectSql.result = .ok
        ("SELECT * FROM person A0 CROSS JOIN city X " ++
          "INNER JOIN phone Y ON X.id = Y.city_id") := by
  have peopleReached :=
    reachedBy_people (fun before after => ¬ Revives before.block after.block) {}
  have citiesReached := peopleReached.run joinCities (fun _ isUnion => nomatch isUnion)
    (by decide)
  have phonesReached := citiesReached.run joinPhones (fun _ isUnion => nomatch isUnion)
    (by decide)
  have reached := phonesReached.run (.removeCrossJoin "X") (fun _ isUnion => nomatch isUnion)
    (by decide)
  obtain ⟨emits, _, steps⟩ := emitsInOrder_iff_not_revives reached
  exact ⟨emits, (steps joinCities [] _ (onBranch_nil _) rfl).mpr (by decide),
    by decide +kernel⟩

/-- Phones whose cities have been removed, rendered, before the cities come
back. -/
def citiesBackAfterRendering : Statement :=
  phonesWithoutCities.runAll [.render .select ⟨2⟩, joinCities]

/-- The phones are still joined from the cities, but are written before them. -/
theorem not_emitsInOrder_citiesBackAfterRendering :
    citiesBackAfterRendering.Reachable ∧ citiesBackAfterRendering.branches = [] ∧
      (citiesBackAfterRendering.sql .select ⟨3⟩).result = .ok
        ("SELECT * FROM person A0 INNER JOIN phone Y ON X.id = Y.city_id " ++
          "CROSS JOIN city X") ∧
      ¬ citiesBackAfterRendering.EmitsInOrder := by
  have rendered : (phonesWithoutCities.runAll [.render .select ⟨2⟩]).Reachable :=
    Reachable.runAll (by simp)
      (Reachable.runAll (by simp [joinCities, joinPhones]) (reachedBy_people _ {}))
  have reachable : citiesBackAfterRendering.Reachable :=
    rendered.run joinCities (fun _ isUnion => nomatch isUnion) trivial
  have branchless : citiesBackAfterRendering.branches = [] :=
    List.isEmpty_iff.mp (by decide +kernel)
  refine ⟨reachable, branchless, by decide +kernel, ?_⟩
  intro emits
  have operated : onBranch joinCities.run (phonesWithoutCities.runAll [.render .select ⟨2⟩]) [] =
      some (joinCities.run (phonesWithoutCities.runAll [.render .select ⟨2⟩])) :=
    onBranch_nil _
  have edited := editedTo_onBranch_run operated
  have consistent := rendered.consistent _ (block_mem_blocks _)
  have consistentAfter := reachable.consistent _ (block_mem_blocks _)
  have revives : Revives (phonesWithoutCities.runAll [.render .select ⟨2⟩]).block
      citiesBackAfterRendering.block := by decide +kernel
  obtain ⟨_, _, _, forgotten, _⟩ :=
    QueryBlock.exists_append_of_revives edited consistent revives
  exact QueryBlock.not_inPlace_of_revives edited consistent consistentAfter revives
    (inPlace_of_emitsInOrder branchless consistentAfter forgotten emits)

end Statement
end SqlBuilder
