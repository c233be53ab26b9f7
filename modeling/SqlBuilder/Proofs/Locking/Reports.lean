import SqlBuilder.Dialect.Preset
import SqlBuilder.Proofs.Join.Emission
import SqlBuilder.Proofs.Locking.Texts

/-!
# Row locks are had or reported

A SELECT that asks for row locks has lock texts, or one warning says that the locks are
left out, wherever the lock texts of the dialect fit the statement. They fail to fit in
two ways. A hint may stand beside a trailing clause that is ruled out: rows are locked
and the lock is reported as left out. And hints may be meant for joined tables where
there are none: nothing is locked, and nothing is reported.
-/

namespace SqlBuilder

/-! ## The locks of a block -/

/-- The event says that row locks are left out. -/
def Event.isLockWarning : Event → Bool
  | .lockUnavailable _ => true
  | .lockBlocked _ _ => true
  | _ => false

/-- The table of the join may have a lock hint. -/
def Join.takesHint (join : Join) : Bool :=
  match join.kind with
  | .keyed _ => true
  | .cross => false
  | .listed => false

theorem Join.hint?_clause (capabilities : Capabilities) (hint : Option String) (join : Join) :
    (join.clause capabilities hint).hint? = if join.takesHint then hint else none := by
  unfold clause takesHint
  cases join.kind with
  | keyed kind => rfl
  | cross =>
      simp only [Bool.false_eq_true, ↓reduceIte]
      split_ifs <;> rfl
  | listed => rfl

theorem Join.withoutHint_clause
    (capabilities : Capabilities)
    (hint : Option String)
    (join : Join) :
    (join.clause capabilities hint).withoutHint = join.clause capabilities none := by
  unfold clause
  cases join.kind with
  | keyed kind => rfl
  | cross =>
      dsimp only
      split_ifs <;> rfl
  | listed => rfl

namespace QueryBlock

/-- A lock hint stands on some table once locks are asked for. -/
def writesHint (block : QueryBlock) : Bool :=
  block.capabilities.lock.hintAfterFrom ||
    block.capabilities.lock.hintWithinJoin && block.joins.any Join.takesHint

/-- The clauses of the block that rule out a trailing lock. -/
def lockBlockers (block : QueryBlock) : List LockBlocker :=
  block.capabilities.blockers block.hasClause

/-- What the dialect says about locks fits the block. A trailing clause is not ruled
out while a hint is written, and a dialect with hints alone has a table for one. -/
@[mk_iff]
structure FitsLock (block : QueryBlock) : Prop where
  clauseBesideHint : block.capabilities.lock.selectForUpdate = true →
    block.writesHint = true → block.lockBlockers = []
  hintOnTable : block.capabilities.lock.selectForUpdate = false →
    block.capabilities.lock.usesHints = true → block.writesHint = true

/-- The block without the request for locks. -/
def withoutLockRequest (block : QueryBlock) : QueryBlock :=
  { block with options := { block.options with lockForUpdate := false } }

theorem query_withoutLockRequest (block : QueryBlock) (queries : List SelectQuery) :
    block.withoutLockRequest.query queries = (block.query queries).withoutLocks := by
  have joins_eq : block.joins.map (Join.clause block.capabilities none) =
      (block.joins.map (Join.clause block.capabilities
        (block.capabilities.joinHint? block.options.lockForUpdate))).map
          JoinClause.withoutHint := by
    rw [List.map_map]
    exact List.map_congr_left fun join _ => (join.withoutHint_clause _ _).symm
  have arm_eq : block.withoutLockRequest.arm =
      { block.arm with hint := none, joins := block.arm.joins.map JoinClause.withoutHint } :=
    congrArg (fun joins => ({ block.arm with hint := none, joins := joins } : SelectArm)) joins_eq
  rw [query, query, SelectQuery.withoutLocks, ← arm_eq]
  rfl

theorem hasClause_readied (block : QueryBlock) : block.readied.hasClause = block.hasClause := by
  have joins_isEmpty : block.readied.joins.isEmpty = block.joins.isEmpty := by
    rw [joins_readied, block.perm_joins_reorderJoins.isEmpty_eq]
  funext clause
  cases clause with
  | multipleTables => exact congrArg not joins_isEmpty
  | distinct | grouping | having | ordering =>
      rw [readied, addItems_eq, reorderJoins_state_eq]
      rfl

theorem capabilities_readied (block : QueryBlock) :
    block.readied.capabilities = block.capabilities := by
  rw [readied, addItems_eq, reorderJoins_state_eq]
  rfl

theorem options_readied (block : QueryBlock) : block.readied.options = block.options := by
  rw [readied, addItems_eq, reorderJoins_state_eq]

theorem writesHint_readied (block : QueryBlock) : block.readied.writesHint = block.writesHint := by
  rw [writesHint, writesHint, capabilities_readied, joins_readied,
    block.perm_joins_reorderJoins.any_eq]

theorem lockBlockers_readied (block : QueryBlock) :
    block.readied.lockBlockers = block.lockBlockers := by
  rw [lockBlockers, lockBlockers, capabilities_readied, hasClause_readied]

theorem fitsLock_readied (block : QueryBlock) : block.readied.FitsLock ↔ block.FitsLock := by
  rw [fitsLock_iff, fitsLock_iff, capabilities_readied, writesHint_readied, lockBlockers_readied]

/-! ## What a block writes and reports -/

theorem mem_lockBlockers_iff {block : QueryBlock} {clause : LockBlocker} :
    clause ∈ block.lockBlockers ↔
      block.hasClause clause = true ∧ block.capabilities.lock.allows clause = false := by
  rw [lockBlockers, Capabilities.blockers, List.mem_filter, Bool.and_eq_true,
    Bool.not_eq_true']
  exact and_iff_right clause.mem_all

theorem nodup_lockBlockers (block : QueryBlock) : block.lockBlockers.Nodup :=
  List.Nodup.filter _ (by decide)

/-- Hints are written by dialects that have them. -/
theorem usesHints_of_writesHint
    {block : QueryBlock}
    (written : block.writesHint = true) :
    block.capabilities.lock.usesHints = true := by
  rw [writesHint, Bool.or_eq_true, Bool.and_eq_true] at written
  rw [LockCapabilities.usesHints, Bool.or_eq_true]
  exact written.imp_right And.left

/-- Nothing but the lock clause of a block is reported as a warning about locks. -/
theorem filter_isLockWarning_reports (block : QueryBlock) :
    block.reports.filter Event.isLockWarning = block.lockClause.2.filter Event.isLockWarning := by
  have ofKeys : (block.orderKeys.flatMap block.dialect.orderEvents).filter
      Event.isLockWarning = [] := by
    rw [List.filter_eq_nil_iff, List.forall_mem_flatMap]
    intro key _ event member
    rw [Dialect.orderEvents] at member
    split at member
    · rw [List.mem_singleton.mp member]
      exact Bool.false_ne_true
    · cases member
  rw [reports, List.filter_append, ofKeys, List.nil_append]

section Requested

variable
  {block : QueryBlock}
  (requested : block.options.lockForUpdate = true)
include requested

theorem lockClause_of_absent (absent : block.capabilities.lock.selectForUpdate = false) :
    block.lockClause = (none,
      if block.capabilities.lock.usesHints then []
      else [.lockUnavailable block.capabilities.name]) := by
  simp only [lockClause, Capabilities.forUpdate, requested, absent, Bool.not_true,
    Bool.not_false, Bool.false_eq_true, ↓reduceIte]

theorem lockClause_of_unblocked
    (present : block.capabilities.lock.selectForUpdate = true)
    (unblocked : block.lockBlockers = []) :
    ∃ clause, block.lockClause = (some clause, []) := by
  rw [lockBlockers] at unblocked
  simp only [lockClause, Capabilities.forUpdate, requested, present, unblocked, Bool.not_true,
    Bool.false_eq_true, ↓reduceIte]
  exact ⟨_, rfl⟩

theorem lockClause_of_blocked
    (present : block.capabilities.lock.selectForUpdate = true)
    (blocked : block.lockBlockers ≠ []) :
    block.lockClause = (none, [.lockBlocked block.capabilities.name block.lockBlockers]) := by
  obtain ⟨clause, rest, blockers_eq⟩ := List.exists_cons_of_ne_nil blocked
  rw [blockers_eq]
  rw [lockBlockers] at blockers_eq
  simp only [lockClause, Capabilities.forUpdate, requested, present, blockers_eq, Bool.not_true,
    Bool.false_eq_true, ↓reduceIte]

/-- A query has no lock texts if it has neither a hint nor a clause. -/
theorem lockTexts_query_eq_nil_iff (queries : List SelectQuery) :
    (block.query queries).lockTexts = [] ↔
      block.writesHint = false ∧ block.lockClause.1 = none := by
  have ofHint : block.arm.hint = none ↔ block.capabilities.lock.hintAfterFrom = false := by
    simp [arm, Capabilities.fromHint?, requested]
  have ofJoins : block.arm.joins.filterMap JoinClause.hint? = [] ↔
      (block.capabilities.lock.hintWithinJoin && block.joins.any Join.takesHint) = false := by
    rw [List.filterMap_eq_nil_iff, Bool.and_eq_false_iff, List.any_eq_false]
    simp only [arm, List.forall_mem_map, Join.hint?_clause, Capabilities.joinHint?, requested,
      Bool.true_and]
    cases block.capabilities.lock.hintWithinJoin <;> simp
  rw [SelectQuery.lockTexts, List.append_eq_nil_iff, List.map_eq_nil_iff,
    List.map_eq_nil_iff, List.append_eq_nil_iff, Option.toList_eq_nil_iff,
    Option.toList_eq_nil_iff, writesHint, Bool.or_eq_false_iff]
  exact and_congr (and_congr ofHint ofJoins) Iff.rfl

/-- A trailing lock that is ruled out is reported with all that rules it out. -/
theorem lockBlocked_mem_reports_iff {dialect : String} {blockers : List LockBlocker} :
    .lockBlocked dialect blockers ∈ block.reports ↔
      block.capabilities.lock.selectForUpdate = true ∧ block.lockBlockers ≠ [] ∧
        dialect = block.capabilities.name ∧ blockers = block.lockBlockers := by
  have reported_iff : .lockBlocked dialect blockers ∈ block.reports ↔
      .lockBlocked dialect blockers ∈ block.lockClause.2 := by
    have same := congrArg (Event.lockBlocked dialect blockers ∈ ·)
      block.filter_isLockWarning_reports
    simpa [List.mem_filter, Event.isLockWarning] using same
  rw [reported_iff]
  cases available : block.capabilities.lock.selectForUpdate with
  | false =>
      rw [lockClause_of_absent requested available]
      cases block.capabilities.lock.usesHints <;> simp
  | true =>
      by_cases unblocked : block.lockBlockers = []
      · obtain ⟨clause, clause_eq⟩ := lockClause_of_unblocked requested available unblocked
        simp [clause_eq, unblocked]
      · simp [lockClause_of_blocked requested available unblocked, unblocked]

end Requested

end QueryBlock

/-- The locks that a query is asked for are settled: it has lock texts and no event
says that they are left out, or it has none and one event says so. -/
def SelectQuery.SettlesLock (query : SelectQuery) (events : List Event) : Prop :=
  query.lockTexts ≠ [] ∧ events.filter Event.isLockWarning = [] ∨
    query.lockTexts = [] ∧ (events.filter Event.isLockWarning).length = 1

namespace QueryBlock

/-- A block settles the locks that it is asked for exactly if they fit it. -/
theorem settlesLock_query_iff
    {block : QueryBlock}
    (requested : block.options.lockForUpdate = true)
    (queries : List SelectQuery) :
    (block.query queries).SettlesLock block.reports ↔ block.FitsLock := by
  rw [SelectQuery.SettlesLock, Ne, lockTexts_query_eq_nil_iff requested,
    filter_isLockWarning_reports, fitsLock_iff]
  cases available : block.capabilities.lock.selectForUpdate with
  | false =>
      have written := block.usesHints_of_writesHint
      rw [lockClause_of_absent requested available]
      cases usesHints : block.capabilities.lock.usesHints with
      | false =>
          have unwritten : block.writesHint = false := by
            rw [Bool.eq_false_iff]
            exact fun hint => Bool.false_ne_true (usesHints.symm.trans (written hint))
          simp [unwritten, List.filter_cons, Event.isLockWarning]
      | true => simp
  | true =>
      by_cases unblocked : block.lockBlockers = []
      · obtain ⟨clause, clause_eq⟩ := lockClause_of_unblocked requested available unblocked
        simp [clause_eq, unblocked]
      · rw [lockClause_of_blocked requested available unblocked]
        simp [unblocked, List.filter_cons, Event.isLockWarning]

/-- Readying a block changes nothing about its locks. -/
theorem settlesLock_readied_iff
    {block : QueryBlock}
    (requested : block.options.lockForUpdate = true)
    (queries : List SelectQuery) :
    (block.readied.query queries).SettlesLock block.readied.reports ↔ block.FitsLock := by
  rw [← options_readied] at requested
  rw [settlesLock_query_iff requested, fitsLock_readied]

theorem lockBlocked_mem_reports_readied_iff
    {block : QueryBlock}
    (requested : block.options.lockForUpdate = true)
    {dialect : String}
    {blockers : List LockBlocker} :
    .lockBlocked dialect blockers ∈ block.readied.reports ↔
      block.capabilities.lock.selectForUpdate = true ∧ block.lockBlockers ≠ [] ∧
        dialect = block.capabilities.name ∧ blockers = block.lockBlockers := by
  rw [← options_readied] at requested
  rw [lockBlocked_mem_reports_iff requested, capabilities_readied, lockBlockers_readied]

end QueryBlock

namespace Statement

/-- A SELECT without branches that is built anew is read off the readied block, with
the reports of that block. -/
theorem selectQuery_single_of_ok
    {block : QueryBlock}
    {query : SelectQuery}
    (notKept : block.cachedSelect? = none)
    (built : (single block).selectQuery.result = .ok query) :
    block.reorderJoins.result = .ok () ∧ query = block.readied.query [] ∧
      (single block).selectQuery.events = block.readied.reports := by
  rw [QueryBlock.result_selectQuery_single notKept] at built
  cases ordered : block.reorderJoins.result with
  | error error =>
      rw [ordered] at built
      cases built
  | ok answer =>
      rw [ordered] at built
      cases built
      refine ⟨rfl, rfl, ?_⟩
      simp only [selectQuery, single, renderSelect, QueryBlock.addItems_nil, notKept, ordered,
        renderBranches]
      exact List.nil_append _

/-- Without the request for locks a SELECT without branches is the same apart from its
lock texts. -/
theorem result_selectSql_withoutLockRequest
    {block : QueryBlock}
    {query : SelectQuery}
    (notKept : block.cachedSelect? = none)
    (built : (single block).selectQuery.result = .ok query) :
    (single block.withoutLockRequest).selectSql.result = .ok query.withoutLocks.toSql := by
  obtain ⟨ordered, rfl, _⟩ := selectQuery_single_of_ok notKept built
  have relabeled : (single block.withoutLockRequest).selectQuery.result =
      .ok ({ block.readied with options := block.withoutLockRequest.options }.query []) := by
    have result_eq := QueryBlock.result_selectQuery_single_relabeled notKept block.id
      block.withoutLockRequest.options
    rw [ordered] at result_eq
    exact result_eq
  have without : { block.readied with options := block.withoutLockRequest.options } =
      block.readied.withoutLockRequest := by
    rw [QueryBlock.withoutLockRequest, QueryBlock.withoutLockRequest, QueryBlock.options_readied]
  rw [selectSql, Outcome.result_map, relabeled, without, QueryBlock.query_withoutLockRequest]
  rfl

/-- A SELECT without branches that is built anew settles the locks that are asked for
exactly if they fit its block. Its lock texts stand in its text, and there are none
exactly if the text is the one without the request. A trailing lock that is ruled out is
reported with the clauses that rule it out. -/
theorem settlesLock_iff_fitsLock
    {statement : Statement}
    (branchless : statement.branches = [])
    (requested : statement.block.options.lockForUpdate = true)
    (notKept : statement.block.cachedSelect? = none)
    {query : SelectQuery}
    (built : statement.selectQuery.result = .ok query) :
    (query.SettlesLock statement.selectQuery.events ↔ statement.block.FitsLock) ∧
      (∀ text ∈ query.lockTexts, HasPiece query.toSql text) ∧
      (query.lockTexts = [] ↔
        (statement.modifyBlock QueryBlock.withoutLockRequest).selectSql.result =
          .ok query.toSql) ∧
      (∀ dialect blockers, .lockBlocked dialect blockers ∈ statement.selectQuery.events →
        dialect = statement.block.dialect.name ∧ blockers.Nodup ∧
          ∀ clause, clause ∈ blockers ↔ statement.block.hasClause clause = true ∧
            statement.block.capabilities.lock.allows clause = false) ∧
      ((∃ dialect blockers, .lockBlocked dialect blockers ∈ statement.selectQuery.events) ↔
        statement.block.capabilities.lock.selectForUpdate = true ∧
          ∃ clause, statement.block.hasClause clause = true ∧
            statement.block.capabilities.lock.allows clause = false) := by
  cases statement with
  | node block branches =>
      rw [branches_node] at branchless
      subst branchless
      rw [block_node] at requested notKept ⊢
      have plain := result_selectSql_withoutLockRequest notKept built
      obtain ⟨_, rfl, events_eq⟩ := selectQuery_single_of_ok notKept built
      rw [single] at events_eq
      rw [events_eq]
      refine ⟨QueryBlock.settlesLock_readied_iff requested [],
        fun _ => SelectQuery.hasPiece_of_mem_lockTexts, ?_, ?_, ?_⟩
      · rw [SelectQuery.lockTexts_eq_nil_iff]
        change _ ↔ (single block.withoutLockRequest).selectSql.result = _
        rw [plain, Except.ok.injEq, eq_comm]
      · intro dialect blockers reported
        obtain ⟨_, _, rfl, rfl⟩ :=
          (QueryBlock.lockBlocked_mem_reports_readied_iff requested).mp reported
        exact ⟨rfl, block.nodup_lockBlockers, fun clause => QueryBlock.mem_lockBlockers_iff⟩
      · simp only [QueryBlock.lockBlocked_mem_reports_readied_iff requested,
          ← QueryBlock.mem_lockBlockers_iff]
        constructor
        · rintro ⟨_, _, present, blocked, _⟩
          exact ⟨present, List.exists_mem_of_ne_nil _ blocked⟩
        · rintro ⟨present, _, member⟩
          exact ⟨_, _, present, List.ne_nil_of_mem member, rfl, rfl⟩

/-- Distinct people with every city, rows locked, in a dialect with commas for joins. -/
def lockedPeopleWithCities : Statement :=
  (people .legacy).runAll [.crossJoin { name := "city" } (some "X") none, .setDistinct true,
    .setOptions .standard { lockForUpdate := true }]

theorem settlesLock_iff_fitsLock_lockedPeopleWithCities :
    ∃ query, lockedPeopleWithCities.selectQuery.result = .ok query ∧
      query.SettlesLock lockedPeopleWithCities.selectQuery.events ∧
      .lockBlocked "legacy" [.distinct, .multipleTables] ∈
        lockedPeopleWithCities.selectQuery.events := by
  obtain ⟨query, built⟩ : ∃ query, lockedPeopleWithCities.selectQuery.result = .ok query :=
    exists_result_selectQuery rfl rfl
  obtain ⟨settles_iff, _⟩ := settlesLock_iff_fitsLock rfl rfl rfl built
  refine ⟨query, built, settles_iff.mpr ⟨by decide, by decide⟩, by decide +kernel⟩

/-- A dialect that locks joined tables by a hint, and nothing else. -/
def hintsWithinJoins : Capabilities :=
  { name := "joinhints"
    lock := { selectForUpdate := false, hintWithinJoin := true, hintText := "(UPDLOCK)" } }

/-- People, rows locked, in such a dialect. -/
def lockedPeople : Statement :=
  (people hintsWithinJoins).runAll [.setOptions .standard { lockForUpdate := true }]

/-- Without a join there is no table for a hint, and nothing is reported. -/
theorem not_settlesLock_lockedPeople :
    lockedPeople.Reachable ∧ lockedPeople.branches = [] ∧
      lockedPeople.block.options.lockForUpdate = true ∧
      lockedPeople.selectSql.result = .ok "SELECT * FROM person A0" ∧
      lockedPeople.selectSql.events = [] ∧
      ∃ query, lockedPeople.selectQuery.result = .ok query ∧
        ¬ query.SettlesLock lockedPeople.selectQuery.events := by
  have reachable : lockedPeople.Reachable :=
    Reachable.runAll (by simp) (reachedBy_people _ hintsWithinJoins)
  obtain ⟨query, built⟩ : ∃ query, lockedPeople.selectQuery.result = .ok query :=
    exists_result_selectQuery rfl rfl
  have silent : lockedPeople.selectQuery.events = [] := by decide +kernel
  have unlocked : query.lockTexts = [] := by
    cases built
    rfl
  refine ⟨reachable, rfl, rfl, by decide +kernel, silent, query, built, ?_⟩
  simp [SelectQuery.SettlesLock, unlocked, silent]

end Statement
end SqlBuilder
