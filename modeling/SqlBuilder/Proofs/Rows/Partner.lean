import SqlBuilder.Proofs.Cache.Freshness
import SqlBuilder.Proofs.Consistency
import SqlBuilder.Proofs.Rows.Meaning

/-!
# The query for partners

An UPDATE or DELETE with joins asks for partners of a row: a query over the
table of the first join, with the other joins behind it in their order. The
conditions that stood in the joins and in the block are all required there, each
of them once.
-/

namespace SqlBuilder
namespace QueryBlock

/-! ## Required conditions -/

section Require

variable (block : QueryBlock) (condition : Option Predicate)

theorem elim_whereAnd_eq :
    condition.elim block block.whereAnd =
      { block with
        condition := (condition.elim block block.whereAnd).condition
        cache := (condition.elim block block.whereAnd).cache } := by
  cases condition with
  | none => rfl
  | some predicate => exact whereAnd_eq block predicate

theorem cache_elim_whereAnd
    (forgotten : block.cache = none) :
    (condition.elim block block.whereAnd).cache = none := by
  cases condition with
  | none => exact forgotten
  | some predicate =>
      rw [Option.elim_some, whereAnd]
      split
      · exact forgotten
      · rfl

/-- A condition is required besides the present one, unless it always holds. -/
theorem condition_elim_whereAnd :
    (condition.elim block block.whereAnd).condition =
      Option.merge Predicate.and block.condition
        (condition.filter fun predicate => !predicate.isAlways) := by
  cases condition with
  | none => simp
  | some predicate =>
      rw [Option.elim_some, whereAnd]
      split
      · rename_i always
        simp [Option.filter, always]
      · rename_i restricts
        cases block.condition <;> simp [Option.filter, restricts]

end Require

/-! ## Joins pushed as they are -/

/-- A pushed join changes the registry, the joins, their mark and what is kept,
and nothing else. -/
theorem foldl_pushJoin_eq (joins : List Join) (block : QueryBlock) :
    joins.foldl pushJoin block =
      { block with
        registry := (joins.foldl pushJoin block).registry
        joins := block.joins ++ joins
        mustReorder := (joins.foldl pushJoin block).mustReorder
        cache := (joins.foldl pushJoin block).cache } := by
  induction joins generalizing block with
  | nil => simp
  | cons join joins inductionHypothesis =>
      rw [List.foldl_cons, inductionHypothesis]
      simp [pushJoin]

theorem cache_foldl_pushJoin
    (joins : List Join)
    {block : QueryBlock}
    (forgotten : block.cache = none) : (joins.foldl pushJoin block).cache = none := by
  induction joins generalizing block with
  | nil => exact forgotten
  | cons join joins inductionHypothesis => exact inductionHypothesis rfl

/-- The registered tables are the primary table and targets of the joins, and the
joins are not marked. -/
structure Unmarked (block : QueryBlock) : Prop where
  mark : block.mustReorder = false
  tables : ∀ ref ∈ block.registry.tables,
    ref = block.primary ∨ ∃ join ∈ block.joins, join.target = ref

/-- A join follows the others unless it starts from its own target. -/
theorem Unmarked.canFollow
    {block : QueryBlock}
    (unmarked : block.Unmarked)
    {source target : TableRef}
    (distinct : source.aliasName ≠ target.aliasName)
    (kind : Option JoinKind) :
    { block with registry := block.registry.insert target kind }.canFollow source = true := by
  rw [QueryBlock.canFollow, Bool.or_eq_true, Bool.not_eq_true', or_iff_not_imp_left,
    Bool.not_eq_false]
  intro isLocal
  simp only [isLocalSource, Bool.and_eq_true, Bool.not_eq_true', Option.any_eq_true] at isLocal
  obtain ⟨notPrimary, ref, found, same⟩ := isLocal
  rcases List.mem_append.mp (Registry.mem_and_alias_of_get? found).1 with known | isNew
  · rcases unmarked.tables ref known with rfl | ⟨other, member, rfl⟩
    · have sameBack := (TableRef.same_iff _ _).mp same
      rw [(TableRef.same_iff _ _).mpr ⟨sameBack.1.symm, sameBack.2.symm⟩] at notPrimary
      cases notPrimary
    · exact List.any_eq_true.mpr ⟨other, member, same⟩
  · rw [List.mem_singleton.mp isNew] at same
    exact absurd ((TableRef.same_iff _ _).mp same).1.symm distinct

/-- A join that does not start from its own target leaves the joins unmarked. -/
theorem Unmarked.pushJoin
    {block : QueryBlock}
    (unmarked : block.Unmarked)
    {join : Join}
    (source : ∀ source, join.source = some source →
      source.aliasName ≠ join.target.aliasName) : (block.pushJoin join).Unmarked := by
  constructor
  · apply Bool.or_eq_false_iff.mpr ⟨unmarked.mark, Bool.and_eq_false_iff.mpr (.inr ?_)⟩
    rw [Option.any_eq_false]
    intro start isStart
    rw [unmarked.canFollow (source start isStart)]
    rfl
  · intro ref registered
    rcases List.mem_append.mp registered with known | isNew
    · apply (unmarked.tables ref known).imp_right
      rintro ⟨other, member, leads⟩
      exact ⟨other, List.mem_append_left _ member, leads⟩
    · exact .inr ⟨join, List.mem_append_right _ (List.mem_singleton_self _),
        (List.mem_singleton.mp isNew).symm⟩

theorem Unmarked.elim_whereAnd
    {block : QueryBlock}
    (unmarked : block.Unmarked)
    (condition : Option Predicate) : (condition.elim block block.whereAnd).Unmarked := by
  rw [elim_whereAnd_eq]
  exact ⟨unmarked.mark, unmarked.tables⟩

theorem Unmarked.foldl_pushJoin
    {block : QueryBlock}
    (unmarked : block.Unmarked)
    {joins : List Join}
    (sources : ∀ join ∈ joins, ∀ source, join.source = some source →
      source.aliasName ≠ join.target.aliasName) :
    (joins.foldl QueryBlock.pushJoin block).Unmarked := by
  induction joins generalizing block with
  | nil => exact unmarked
  | cons join joins inductionHypothesis =>
      rw [List.forall_mem_cons] at sources
      exact inductionHypothesis (unmarked.pushJoin sources.1) sources.2

/-! ## The query -/

section Partner

variable (block : QueryBlock) (id : StatementId) (first : Join) (rest : List Join)

/-- All that is required of partners: the condition of the first join, then that
of the block. What holds always is left out. -/
def partnerCondition : Option Predicate :=
  Option.merge Predicate.and
    (first.condition.filter fun predicate => !predicate.isAlways)
    (block.condition.filter fun predicate => !predicate.isAlways)

/-- The query for partners is over the first joined table and has the other joins
as they are. -/
theorem partnerBlock_eq :
    block.partnerBlock id first rest =
      { ofPrimary id block.subqueryAncestry block.dialect block.namer block.subqueryOptions
          first.target with
        registry := (block.partnerBlock id first rest).registry
        joins := rest
        mustReorder := (block.partnerBlock id first rest).mustReorder
        condition := block.partnerCondition first
        cache := none } := by
  have forgotten : (block.partnerBlock id first rest).cache = none :=
    cache_foldl_pushJoin rest
      (cache_elim_whereAnd _ _ (cache_elim_whereAnd _ _ rfl))
  have condition_eq : (block.partnerBlock id first rest).condition =
      block.partnerCondition first := by
    rw [partnerBlock, foldl_pushJoin_eq, condition_elim_whereAnd, condition_elim_whereAnd]
    simp [partnerCondition, ofPrimary]
  rw [← forgotten, ← condition_eq]
  rw [partnerBlock, foldl_pushJoin_eq, elim_whereAnd_eq, elim_whereAnd_eq]
  rfl

/-- Nothing in the query for partners has to be reordered. -/
theorem mustReorder_partnerBlock
    (sources : ∀ join ∈ rest, ∀ source, join.source = some source →
      source.aliasName ≠ join.target.aliasName) :
    (block.partnerBlock id first rest).mustReorder = false := by
  have start : (ofPrimary id block.subqueryAncestry block.dialect block.namer
      block.subqueryOptions first.target).Unmarked :=
    ⟨rfl, fun ref registered => .inl (List.mem_singleton.mp registered)⟩
  exact ((start.elim_whereAnd _).elim_whereAnd _).foldl_pushJoin sources |>.mark

/-- The query for partners, written out. -/
def partnerQuery : SelectQuery :=
  .node
    { distinct := false
      list := { columns := [], rowNumber := none }
      primary := first.target
      hint := none
      joins := rest.map (Join.clause block.capabilities none)
      condition := block.partnerCondition first
      groupBy := []
      having := none }
    block.capabilities.unionAll
    []
    { orderBy := [], range := none, lock := none, wrapper := .unwrapped }

theorem query_partnerBlock :
    (block.partnerBlock id first rest).query [] = block.partnerQuery first rest := by
  rw [partnerBlock_eq]
  rfl

/-- The query for partners never fails. -/
theorem result_selectQuery_partnerBlock
    (sources : ∀ join ∈ rest, ∀ source, join.source = some source →
      source.aliasName ≠ join.target.aliasName) :
    (Statement.single (block.partnerBlock id first rest)).selectQuery.result =
      .ok (block.partnerQuery first rest) := by
  have unmarked := block.mustReorder_partnerBlock id first rest sources
  have reordered := reorderJoins_of_mustReorder_eq_false unmarked
  have unordered : (block.partnerBlock id first rest).orderingItems = [] := by
    rw [partnerBlock_eq]
    simp [orderingItems, orderMode, isSubquery, ofPrimary, subqueryAncestry]
  have ready : (block.partnerBlock id first rest).readied =
      block.partnerBlock id first rest :=
    readied_eq_self unmarked (by simp [unordered])
  rw [Statement.selectQuery, Statement.single,
    Statement.result_renderSelect_of_rendered [], addItems_nil, ready,
    query_partnerBlock]
  · rw [addItems_nil, partnerBlock_eq]
    rfl
  · rw [addItems_nil, reordered]
    rfl
  · rfl

end Partner

/-- The rows of a block without joins are those on which its condition holds. -/
theorem result_rowCondition_of_joins_eq_nil
    {block : QueryBlock}
    (alone : block.joins = [])
    (id : StatementId) :
    (block.rowCondition id).result = .ok (block.condition.map .holds) := by
  simp only [rowCondition, alone, Outcome.result_ok]

/-- The rows of a block with joins are those that have partners. -/
theorem Consistent.result_rowCondition_of_joins_eq_cons
    {block : QueryBlock}
    (consistent : block.Consistent)
    {first : Join}
    {rest : List Join}
    (joined : block.joins = first :: rest)
    (id : StatementId) :
    (block.rowCondition id).result =
      .ok (some (.hasPartner (block.partnerQuery first rest))) := by
  have sources := consistent.sources
  rw [joined, List.forall_mem_cons] at sources
  have found := block.result_selectQuery_partnerBlock id first rest sources.2
  simp only [rowCondition, joined, Outcome.result_map, Outcome.mapState, found, Except.map]

end QueryBlock
end SqlBuilder
