import SqlBuilder.Proofs.Join.Emission
import SqlBuilder.Proofs.Rows.Writing

/-!
# The rows of an UPDATE or DELETE

An UPDATE or DELETE of a statement whose joins are inner accepts a row exactly if
the SELECT of the statement combines it with rows of the joined tables.
-/

namespace SqlBuilder

namespace Join

/-- The join keeps exactly the pairs of rows that its condition admits. -/
def IsInner (join : Join) : Prop :=
  join.kind = .keyed .inner ∨ join.kind = .cross ∨ join.kind = .listed

instance (join : Join) : Decidable join.IsInner :=
  inferInstanceAs (Decidable (_ ∨ _ ∨ _))

theorem isInner_clause_iff
    (capabilities : Capabilities)
    (hint : Option String)
    (join : Join) :
    (join.clause capabilities hint).IsInner ↔ join.IsInner := by
  rcases join.clause_cases capabilities hint with
    ⟨kind, isKeyed, written⟩ | ⟨unconditional, written | written | written⟩
  · rw [written, IsInner, isKeyed]
    simp [JoinClause.IsInner]
  all_goals
    rw [written]
    exact iff_of_true trivial (.inr unconditional)

end Join

/-! ## Conditions stand in joins by keys -/

namespace QueryBlock

/-- A join without the word ON has no condition. -/
def ConditionsShown (block : QueryBlock) : Prop :=
  ∀ join ∈ block.joins, join.onCondition? = join.condition

theorem onCondition?_keyedJoin
    (block : QueryBlock)
    (spec : JoinSpec)
    (source target : TableRef) :
    (block.keyedJoin spec source target).onCondition? =
      (block.keyedJoin spec source target).condition := by
  unfold keyedJoin
  split <;> rfl

theorem ConditionsShown.of_append
    {first second : QueryBlock}
    {last : Join}
    (shown : first.ConditionsShown)
    (joins_eq : second.joins = first.joins ++ [last])
    (lastShown : last.onCondition? = last.condition) : second.ConditionsShown := by
  intro join member
  rw [joins_eq] at member
  rcases List.mem_append.mp member with member | member
  · exact shown join member
  · rw [List.mem_singleton.mp member]
    exact lastShown

/-- No edit hides the condition of a join. -/
theorem ConditionsShown.becomes
    {first second : QueryBlock}
    (becomes : Becomes first second)
    (shown : first.ConditionsShown) : second.ConditionsShown := by
  cases becomes.editsJoins with
  | kept _ _ joins_eq _ =>
      intro join member
      exact shown join (joins_eq ▸ member)
  | reordered _ _ joins_eq _ =>
      intro join member
      rw [joins_eq, first.perm_joins_reorderJoins.mem_iff] at member
      exact shown join member
  | joined spec second_eq =>
      rcases first.join_state_cases spec with unchanged | ⟨source, target, _, _, appended⟩
      · rw [second_eq, unchanged]
        exact shown
      · rw [second_eq, appended]
        exact shown.of_append (joins_appendKeyedJoin ..) (onCondition?_keyedJoin ..)
  | crossJoined table aliasName group second_eq =>
      rcases first.crossJoin_state_cases table aliasName group with
        unchanged | ⟨target, _, appended⟩
      · rw [second_eq, unchanged]
        exact shown
      · rw [second_eq, appended]
        exact shown.of_append rfl rfl
  | removed aliasName second_eq =>
      rw [second_eq, QueryBlock.removeCrossJoin]
      split
      · exact fun join member => shown join (List.mem_of_mem_eraseP member)
      · exact shown

end QueryBlock

theorem Statement.Reachable.conditionsShown
    {statement : Statement}
    (reachable : statement.Reachable) :
    ∀ block ∈ statement.blocks, block.ConditionsShown :=
  reachable.forall_mem_blocks (fun _ _ _ _ _ _ _ member => nomatch member)
    fun _ _ becomes => .becomes becomes

/-! ## Combinations for a row and combinations of its partners -/

theorem Valuation.satisfies_merge (valuation : Valuation) (first second : Option Predicate) :
    valuation.satisfies (Option.merge Predicate.and first second) =
      (valuation.satisfies first && valuation.satisfies second) := by
  cases first <;> cases second <;> simp

/-- What holds always need not be required. -/
theorem Valuation.satisfies_filter (valuation : Valuation) (condition : Option Predicate) :
    valuation.satisfies (condition.filter fun predicate => !predicate.isAlways) =
      valuation.satisfies condition := by
  cases condition with
  | none => rfl
  | some predicate =>
      cases always : predicate.isAlways with
      | false => simp [Option.filter, always]
      | true =>
          rw [Predicate.eq_always_of_isAlways always]
          simp [Option.filter, Predicate.isAlways]

section Combinations

variable
  {Row : Type}
  {interpretation : Interpretation Row}
  {environment : Environment Row}
  {row : Row}

/-- The combinations of an arm with inner joins: a row of each joined table, such
that all conditions hold. -/
theorem SelectArm.combines_iff
    {Row : Type}
    (arm : SelectArm)
    (interpretation : Interpretation Row)
    (environment : Environment Row)
    (row : Row)
    (partners : List Row)
    {joins : List Join}
    {capabilities : Capabilities}
    {hint : Option String}
    (joins_eq : arm.joins = joins.map (Join.clause capabilities hint))
    (inner : ∀ join ∈ joins, join.IsInner) :
    arm.Combines interpretation environment row partners ↔
      List.Forall₂ (fun join partner => interpretation.contains join.target.table.name partner)
          joins partners ∧
        arm.filtersHold (interpretation.atoms
          ((environment.bind arm.primary row).bindAll (joins.map Join.target) partners)) =
            true := by
  have targets_eq : arm.joins.map JoinClause.target = joins.map Join.target := by
    simp [joins_eq]
  have rows_iff : List.Forall₂
        (fun clause partner => interpretation.contains clause.target.table.name partner)
        arm.joins partners ↔
      List.Forall₂ (fun join partner => interpretation.contains join.target.table.name partner)
        joins partners := by
    rw [joins_eq, List.forall₂_map_left_iff]
    simp only [Join.target_clause]
  constructor
  · rintro ⟨_, rows, filters⟩
    exact ⟨rows_iff.mp rows, targets_eq ▸ filters⟩
  · rintro ⟨rows, filters⟩
    refine ⟨?_, rows_iff.mpr rows, targets_eq ▸ filters⟩
    rw [joins_eq, List.forall_mem_map]
    exact fun join member => (join.isInner_clause_iff _ _).mpr (inner join member)

namespace QueryBlock

variable {block : QueryBlock} {first : Join} {rest : List Join}

/-- The query for partners requires what the joins and the condition of the block
require. -/
theorem ConditionsShown.filtersHold_partnerQuery
    (shown : block.ConditionsShown)
    (joined : block.joins = first :: rest)
    (valuation : Valuation) :
    (block.partnerQuery first rest).arm.filtersHold valuation =
      block.arm.filtersHold valuation := by
  have firstShown : first.onCondition? = first.condition := shown first (by simp [joined])
  have restHolds : (block.partnerQuery first rest).arm.onHold valuation =
      rest.all fun join => valuation.satisfies join.onCondition? := by
    simp only [partnerQuery, SelectQuery.arm, SelectArm.onHold, List.all_map,
      Function.comp_def, Join.condition?_clause]
  have required : valuation.satisfies (block.partnerQuery first rest).arm.condition =
      (valuation.satisfies first.condition && valuation.satisfies block.condition) := by
    simp only [partnerQuery, SelectQuery.arm, partnerCondition, Valuation.satisfies_merge,
      Valuation.satisfies_filter]
  have condition_eq : block.arm.condition = block.condition := rfl
  rw [SelectArm.filtersHold, SelectArm.filtersHold, restHolds, required, onHold_arm, joined,
    List.all_cons, firstShown, condition_eq, Bool.and_left_comm, Bool.and_assoc]

/-- A row combines with rows of the joined tables exactly if the first of them
combines with the others in the query for partners. -/
theorem ConditionsShown.combines_partnerQuery_iff
    (shown : block.ConditionsShown)
    (joined : block.joins = first :: rest)
    (inner : ∀ join ∈ block.joins, join.IsInner)
    {partner : Row}
    {partners : List Row} :
    interpretation.contains first.target.table.name partner ∧
        (block.partnerQuery first rest).arm.Combines interpretation
          (environment.bind block.primary row) partner partners ↔
      block.arm.Combines interpretation environment row (partner :: partners) := by
  have arm_iff := block.arm.combines_iff interpretation environment row (partner :: partners)
    rfl inner
  rw [joined, List.forall_mem_cons] at inner
  have query_iff := (block.partnerQuery first rest).arm.combines_iff interpretation
    (environment.bind block.primary row) partner partners rfl inner.2
  rw [arm_iff, query_iff, shown.filtersHold_partnerQuery joined, joined, List.forall₂_cons,
    and_assoc]
  rfl

/-- Without joins a row is combined with nothing if the condition holds on it. -/
theorem exists_combines_iff_of_joins_eq_nil
    (alone : block.joins = []) :
    (∃ partners, block.arm.Combines interpretation environment row partners) ↔
      (interpretation.atoms (environment.bind block.primary row)).satisfies block.condition =
        true := by
  have inner : ∀ join ∈ block.joins, join.IsInner := by simp [alone]
  have filters (valuation : Valuation) :
      block.arm.filtersHold valuation = valuation.satisfies block.condition := by
    rw [SelectArm.filtersHold, onHold_arm, alone]
    rfl
  have combines_iff (partners : List Row) :=
    block.arm.combines_iff interpretation environment row partners rfl inner
  simp only [combines_iff, filters, alone, List.forall₂_nil_left_iff, exists_eq_left]
  rfl

/-- With joins a row is combined with partners, the first of which is a row of the
first joined table. -/
theorem ConditionsShown.exists_combines_iff
    (shown : block.ConditionsShown)
    (joined : block.joins = first :: rest)
    (inner : ∀ join ∈ block.joins, join.IsInner) :
    (∃ partners, block.arm.Combines interpretation environment row partners) ↔
      (RowCondition.hasPartner (block.partnerQuery first rest)).Accepts interpretation
        (environment.bind block.primary row) := by
  constructor
  · rintro ⟨partners, combines⟩
    cases partners with
    | nil =>
        have rows := combines.rows
        rw [List.forall₂_nil_right_iff, arm, List.map_eq_nil_iff, joined] at rows
        cases rows
    | cons partner partners =>
        exact ⟨partner, partners, (shown.combines_partnerQuery_iff joined inner).mpr combines⟩
  · rintro ⟨partner, partners, combines⟩
    exact ⟨partner :: partners, (shown.combines_partnerQuery_iff joined inner).mp combines⟩

end QueryBlock

end Combinations

/-! ## What an UPDATE or DELETE comes to -/

/-- A query has the tables of some joins, each once and in their order, and
requires each of their conditions once, and the condition of a block besides.
What holds always is not written. -/
structure SelectQuery.SeeksPartners
    (query : SelectQuery)
    (first : Join)
    (rest : List Join)
    (condition : Option Predicate) : Prop where
  tables : query.arm.primary :: query.arm.joins.map JoinClause.target =
    (first :: rest).map Join.target
  conditions : query.arm.joins.map JoinClause.condition? = rest.map Join.onCondition?
  required : query.arm.condition = Option.merge Predicate.and
    (first.onCondition?.filter fun predicate => !predicate.isAlways)
    (condition.filter fun predicate => !predicate.isAlways)
  /-- The rows found are all those combined. -/
  plain : ∃ unionAll, query =
    .node { query.arm with distinct := false, groupBy := [], having := none } unionAll []
      { orderBy := [], range := none, lock := none, wrapper := .unwrapped }

/-- An UPDATE or DELETE stands for the joins and the condition of a block. -/
structure RowQuery.StandsFor (query : RowQuery) (block : QueryBlock) : Prop where
  alone : block.joins = [] → query.condition = block.condition.map .holds
  joined : ∀ first rest, block.joins = first :: rest →
    ∃ partners, query.condition = some (.hasPartner partners) ∧
      partners.SeeksPartners first rest block.condition
  /-- The rows accepted are those that the block combines. -/
  accepts : ∀ {Row : Type} (interpretation : Interpretation Row)
      (environment : Environment Row) (row : Row),
    query.Accepts interpretation (environment.bind block.primary row) ↔
      ∃ partners, block.arm.Combines interpretation environment row partners

namespace QueryBlock

variable {block : QueryBlock}

theorem ConditionsShown.seeksPartners_partnerQuery
    (shown : block.ConditionsShown)
    {first : Join}
    {rest : List Join}
    (joined : block.joins = first :: rest) :
    (block.partnerQuery first rest).SeeksPartners first rest block.condition := by
  have firstShown : first.onCondition? = first.condition := shown first (by simp [joined])
  constructor
  · simp [partnerQuery, SelectQuery.arm]
  · simp [partnerQuery, SelectQuery.arm, Join.condition?_clause]
  · rw [firstShown]
    rfl
  · exact ⟨_, rfl⟩

theorem ConditionsShown.spellsRows_partnerQuery
    (shown : block.ConditionsShown)
    {first : Join}
    {rest : List Join}
    (joined : block.joins = first :: rest) :
    block.SpellsRows (" WHERE EXISTS (" ++ (block.partnerQuery first rest).toSql ++ ")") := by
  have firstShown : first.onCondition? = first.condition := shown first (by simp [joined])
  have spelled : SpellsFrom block.capabilities first.target none none rest
      (block.partnerQuery first rest).arm.fromClause :=
    SelectArm.spellsFrom_fromClause rfl
  have spellsRows := SpellsRows.joined joined spelled
  have words_eq : (" WHERE EXISTS (" : String) ++ "SELECT *" = " WHERE EXISTS (SELECT *" := by
    decide
  rw [firstShown, ← words_eq] at spellsRows
  rw [toSql_partnerQuery, ← String.append_assoc, ← String.append_assoc]
  exact spellsRows

/-- The rows that a block is about stand for its joins, and so does their text. -/
theorem ConditionsShown.exists_rowCondition
    (shown : block.ConditionsShown)
    (consistent : block.Consistent)
    (inner : ∀ join ∈ block.joins, join.IsInner)
    (id : StatementId) :
    ∃ rows text, (block.rowCondition id).result = .ok rows ∧ block.SpellsRows text ∧
      ∀ head, RowQuery.StandsFor { head := head, condition := rows } block ∧
        RowQuery.toSql { head := head, condition := rows } = head ++ text := by
  cases joined : block.joins with
  | nil =>
      refine ⟨_, _, result_rowCondition_of_joins_eq_nil joined id, .alone joined,
        fun head => ⟨⟨fun _ => rfl, ?_, ?_⟩, RowQuery.toSql_holds head block.condition⟩⟩
      · intro first rest isJoined
        simp [joined] at isJoined
      · intro Row interpretation environment row
        rw [exists_combines_iff_of_joins_eq_nil joined, RowQuery.Accepts]
        cases block.condition <;> simp [RowCondition.Accepts]
  | cons first rest =>
      refine ⟨_, _, consistent.result_rowCondition_of_joins_eq_cons joined id,
        shown.spellsRows_partnerQuery joined,
        fun head => ⟨⟨?_, ?_, ?_⟩, RowQuery.toSql_hasPartner head _⟩⟩
      · intro alone
        simp [joined] at alone
      · intro other others isJoined
        cases joined.symm.trans isJoined
        exact ⟨_, rfl, shown.seeksPartners_partnerQuery joined⟩
      · intro Row interpretation environment row
        rw [shown.exists_combines_iff joined inner, RowQuery.Accepts]
        simp

theorem rowCondition_readied (block : QueryBlock) (id : StatementId) :
    block.readied.rowCondition id = block.reorderJoins.state.rowCondition id := by
  rw [readied, addItems_eq]
  rfl

/-- Once the joins are in order, an UPDATE or DELETE of a block touches the rows
that the block is about. -/
theorem result_rowQuery_invalidate_of_ordered
    {head : QueryBlock → String}
    {kind : RowQuery → Rendering}
    {id : StatementId}
    {rows : Option RowCondition}
    (ordered : block.reorderJoins.result = .ok ())
    (found : (block.readied.rowCondition id).result = .ok rows)
    (head_invalidate : ∀ ready, head ready.invalidate = head ready)
    (head_reordered : head block.reorderJoins.state = head block) :
    (block.invalidate.rowQuery id head kind).result =
      .ok { head := head block, condition := rows } := by
  rw [rowCondition_readied] at found
  rw [result_rowQuery_invalidate head_invalidate, result_rowQuery_of_ordered _ _ _ ordered,
    found, head_reordered]
  rfl

theorem KeepsCurrent.result_updateQuery_of_ordered
    (current : block.KeepsCurrent)
    (ordered : block.reorderJoins.result = .ok ())
    {id : StatementId}
    {rows : Option RowCondition}
    (found : (block.readied.rowCondition id).result = .ok rows) :
    (block.updateQuery id).result = .ok
      { head := block.dialect.updateText block.primary block.setClause, condition := rows } := by
  rw [← current.result_updateQuery id]
  refine result_rowQuery_invalidate_of_ordered ordered found (fun _ => rfl) ?_
  rw [reorderJoins_state_eq]
  rfl

theorem KeepsCurrent.result_deleteQuery_of_ordered
    (current : block.KeepsCurrent)
    (ordered : block.reorderJoins.result = .ok ())
    {id : StatementId}
    {rows : Option RowCondition}
    (found : (block.readied.rowCondition id).result = .ok rows) :
    (block.deleteQuery id).result = .ok
      { head := block.dialect.deleteText block.primary, condition := rows } := by
  rw [← current.result_deleteQuery id]
  refine result_rowQuery_invalidate_of_ordered ordered found (fun _ => rfl) ?_
  rw [reorderJoins_state_eq]

end QueryBlock

namespace Statement

/-- A SELECT has the arm of the readied block, whether it is written anew or
kept. -/
theorem arm_of_result_selectQuery
    {statement : Statement}
    (current : statement.block.KeepsCurrent)
    {query : SelectQuery}
    (succeeded : statement.selectQuery.result = .ok query) :
    query.arm = statement.block.readied.arm := by
  cases statement with
  | node root branches =>
      rcases selectQuery_cases succeeded with ⟨kept, _⟩ | ⟨queries, _, rfl, _⟩
      · obtain ⟨read, selected⟩ := current.select query kept
        have readied : root.readied = root :=
          QueryBlock.readied_eq_self (current.mustReorder_eq_false kept) selected
        rw [block_node, readied, read]
        rfl
      · rfl

/-- Where the joins are inner and can be put in order, the UPDATE and the DELETE do
not fail, and touch exactly the rows that the SELECT combines with rows of the
joined tables. Their subquery has each of these tables once, in the order of the
SELECT, and requires all conditions; the texts say so in words. -/
theorem exists_render_standsFor
    {statement branch : Statement}
    {path : List Nat}
    (reachable : statement.Reachable)
    (found : statement.branchAt? path = some branch)
    (inner : ∀ join ∈ branch.block.joins, join.IsInner)
    (ordered : branch.reorderJoins.result = .ok ())
    (id : StatementId) :
    (∃ update delete : RowQuery,
      (branch.render .update id).result = .ok (.update update) ∧
        (branch.render .delete id).result = .ok (.delete delete) ∧
        update.head =
          branch.block.dialect.updateText branch.block.primary branch.block.setClause ∧
        delete.head = branch.block.dialect.deleteText branch.block.primary ∧
        update.StandsFor branch.block.readied ∧ delete.StandsFor branch.block.readied ∧
        ∃ rows, branch.block.readied.SpellsRows rows ∧
          (branch.updateSql id).result = .ok (update.head ++ rows) ∧
          (branch.deleteSql id).result = .ok (delete.head ++ rows)) ∧
      branch.block.readied.joins.Perm branch.block.joins ∧
      (branch.block.readied.joins.map fun join => join.target.aliasName).Nodup ∧
      (∀ query, branch.selectQuery.result = .ok query →
        query.arm = branch.block.readied.arm) ∧
      (branch.branches = [] → ∃ query, branch.selectQuery.result = .ok query) := by
  have member := blocks_subset_of_branchAt? found branch.block_mem_blocks
  have current := reachable.keepsCurrent _ member
  have edited : QueryBlock.EditedTo branch.block branch.block.readied :=
    .inr branch.block.readiedTo_readied
  have shown := edited.preserves (fun _ _ becomes => .becomes becomes)
    (reachable.conditionsShown _ member)
  have consistent := edited.preserves (fun _ _ becomes => .becomes becomes)
    (reachable.consistent _ member)
  have perm : branch.block.readied.joins.Perm branch.block.joins := by
    rw [QueryBlock.readied, QueryBlock.joins_addItems]
    exact branch.block.perm_joins_reorderJoins
  obtain ⟨rows, text, rowsFound, spelled, standsFor⟩ := shown.exists_rowCondition consistent
    (fun join joinMem => inner join (perm.mem_iff.mp joinMem)) id
  have updated := current.result_updateQuery_of_ordered ordered rowsFound
  have deleted := current.result_deleteQuery_of_ordered ordered rowsFound
  refine ⟨⟨_, _, ?_, ?_, rfl, rfl, (standsFor _).1, (standsFor _).1, text, spelled,
    ?_, ?_⟩, perm, ?_, fun _ => arm_of_result_selectQuery current, fun branchless =>
      exists_result_selectQuery branchless ordered⟩
  · simp only [render, onRoot, Outcome.mapState, Outcome.result_map, updated]
    rfl
  · simp only [render, onRoot, Outcome.mapState, Outcome.result_map, deleted]
    rfl
  · rw [← (standsFor _).2]
    simp only [updateSql, onRoot, Outcome.mapState, Outcome.result_map, updated]
    rfl
  · rw [← (standsFor _).2]
    simp only [deleteSql, onRoot, Outcome.mapState, Outcome.result_map, deleted]
    rfl
  · have unique := (consistent.tables.map TableRef.aliasName).nodup_iff.mp consistent.unique
    rw [List.map_cons, List.map_map] at unique
    exact unique.of_cons

/-- People with phones in Oslo, one year older. -/
def citiesOfPhones : Statement :=
  (people {}).runAll
    [.join
      { kind := .inner
        table := { name := "phone" }
        aliasName := some "Y"
        sourceKey := some { table := "person", columns := ["id"] }
        targetKey := some { table := "phone", columns := ["person_id"] } },
      .join
        { kind := .inner
          table := { name := "city" }
          aliasName := some "X"
          source := .registered "Y"
          sourceKey := some { table := "phone", columns := ["city_id"] }
          targetKey := some { table := "city", columns := ["id"] } },
      .whereAnd (.raw "X.name = 'Oslo'") true,
      .setUpdates [⟨.columns "person" "A0" ["age"], .derived "A0.age + 1"⟩]]

/-- The condition of the first join stands before that of the statement, and the
second join keeps its own. -/
theorem exists_render_standsFor_citiesOfPhones :
    (citiesOfPhones.updateSql ⟨2⟩).result = .ok
        ("UPDATE person A0 SET age = A0.age + 1 WHERE EXISTS (SELECT * FROM phone Y " ++
          "INNER JOIN city X ON Y.city_id = X.id " ++
          "WHERE A0.id = Y.person_id AND X.name = 'Oslo')") ∧
      (citiesOfPhones.deleteSql ⟨2⟩).result = .ok
        ("DELETE FROM person A0 WHERE EXISTS (SELECT * FROM phone Y " ++
          "INNER JOIN city X ON Y.city_id = X.id " ++
          "WHERE A0.id = Y.person_id AND X.name = 'Oslo')") ∧
      ∃ update delete : RowQuery,
        update.StandsFor citiesOfPhones.block.readied ∧
        delete.StandsFor citiesOfPhones.block.readied ∧
        ∃ rows, citiesOfPhones.block.readied.SpellsRows rows ∧
          (citiesOfPhones.updateSql ⟨2⟩).result = .ok (update.head ++ rows) ∧
          (citiesOfPhones.deleteSql ⟨2⟩).result = .ok (delete.head ++ rows) := by
  have reachable : citiesOfPhones.Reachable :=
    Reachable.runAll (by simp) (reachedBy_people _ {})
  obtain ⟨⟨update, delete, _, _, _, _, updateStands, deleteStands, spelled⟩, _⟩ :=
    exists_render_standsFor reachable (branchAt?_nil _) (by decide) rfl ⟨2⟩
  exact ⟨by decide +kernel, by decide +kernel, update, delete, updateStands, deleteStands,
    spelled⟩

end Statement
end SqlBuilder
