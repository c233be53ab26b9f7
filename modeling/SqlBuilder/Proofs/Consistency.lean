import Mathlib.Data.List.Nodup
import SqlBuilder.Proofs.Join.Placement
import SqlBuilder.Proofs.Joining
import SqlBuilder.Proofs.TreeHistory

/-!
# Registry and joins agree

The registered tables of a block are its primary table and the targets of its
joins, each under an alias of its own, and no join starts from its own target.
Every block of a reachable tree is consistent in this sense.
-/

namespace SqlBuilder

namespace Registry

variable {registry : Registry}

theorem get?_eq_none_iff {aliasName : String} :
    registry.get? aliasName = none ↔
      ∀ ref ∈ registry.tables, ref.aliasName ≠ aliasName := by
  simp [get?, List.find?_eq_none]

/-- A table that is found is registered, under the alias asked for. -/
theorem mem_and_alias_of_get?
    {aliasName : String}
    {ref : TableRef}
    (found : registry.get? aliasName = some ref) :
    ref ∈ registry.tables ∧ ref.aliasName = aliasName :=
  ⟨List.mem_of_find?_eq_some found, by simpa using List.find?_some found⟩

/-- Where aliases are unique every registered table is found. -/
theorem get?_eq_some_of_mem
    (unique : (registry.tables.map TableRef.aliasName).Nodup)
    {ref : TableRef}
    (registered : ref ∈ registry.tables) : registry.get? ref.aliasName = some ref := by
  cases found : registry.get? ref.aliasName with
  | none => exact absurd rfl (get?_eq_none_iff.mp found ref registered)
  | some other =>
      obtain ⟨otherMem, sameAlias⟩ := mem_and_alias_of_get? found
      rw [List.inj_on_of_nodup_map unique otherMem registered sameAlias]

/-- A registered table is found under its alias when another is registered. -/
theorem get?_insert_of_eq_some
    {aliasName : String}
    {ref : TableRef}
    (found : registry.get? aliasName = some ref)
    (target : TableRef)
    (kind : Option JoinKind) : (registry.insert target kind).get? aliasName = some ref := by
  rw [get?, tables_insert, List.find?_append, ← get?, found, Option.some_or]

/-- A table that is registered under a free alias is found there. -/
theorem get?_insert_self
    {target : TableRef}
    (free : registry.get? target.aliasName = none)
    (kind : Option JoinKind) :
    (registry.insert target kind).get? target.aliasName = some target := by
  rw [get?, tables_insert, List.find?_append, ← get?, free]
  simp

end Registry

namespace QueryBlock

/-- The registry, the primary table and the joins of a block fit together. -/
structure Consistent (block : QueryBlock) : Prop where
  /-- No two tables share an alias. -/
  unique : (block.registry.tables.map TableRef.aliasName).Nodup
  /-- The registered tables are the primary table and the targets of the joins. -/
  tables : block.registry.tables.Perm (block.primary :: block.joins.map Join.target)
  /-- No join starts from its own target. -/
  sources : ∀ join ∈ block.joins, ∀ source, join.source = some source →
    source.aliasName ≠ join.target.aliasName

variable {block : QueryBlock}

/-- A block over a primary table alone is consistent. -/
theorem Consistent.ofPrimary
    (id : StatementId)
    (ancestry : List StatementId)
    (dialect : Dialect)
    (namer : Namer)
    (options : StatementOptions)
    (primary : TableRef) :
    (QueryBlock.ofPrimary id ancestry dialect namer options primary).Consistent :=
  ⟨List.nodup_singleton _, List.Perm.refl _, fun _ member => nomatch member⟩

/-- The primary table and the targets of the joins have aliases of their own. -/
theorem Consistent.nodup_aliases (consistent : block.Consistent) :
    ((block.primary :: block.joins.map Join.target).map TableRef.aliasName).Nodup :=
  (consistent.tables.map TableRef.aliasName).nodup_iff.mp consistent.unique

/-- No table is joined twice under one alias. -/
theorem Consistent.nodup_targets (consistent : block.Consistent) :
    (block.joins.map Join.target).Nodup := by
  have unique := consistent.nodup_aliases
  rw [List.map_cons, List.nodup_cons] at unique
  exact unique.2.of_map _

/-- Consistency depends on the registry, the primary table and the joins alone,
and not on the order of the joins. -/
theorem Consistent.of_perm
    {other : QueryBlock}
    (consistent : block.Consistent)
    (registry_eq : other.registry = block.registry)
    (primary_eq : other.primary = block.primary)
    (joins : other.joins.Perm block.joins) : other.Consistent := by
  constructor
  · rw [registry_eq]
    exact consistent.unique
  · rw [registry_eq, primary_eq]
    exact consistent.tables.trans ((joins.map Join.target).symm.cons _)
  · exact fun join member => consistent.sources join (joins.mem_iff.mp member)

/-- A block stays consistent with one more join, to a new target and from a
registered table or from none. -/
theorem Consistent.of_append
    {other : QueryBlock}
    (join : Join)
    (kind : Option JoinKind)
    (consistent : block.Consistent)
    (free : block.registry.get? join.target.aliasName = none)
    (source : ∀ source, join.source = some source → source ∈ block.registry.tables)
    (registry_eq : other.registry = block.registry.insert join.target kind)
    (primary_eq : other.primary = block.primary)
    (joins_eq : other.joins = block.joins ++ [join]) : other.Consistent := by
  have isNew := Registry.get?_eq_none_iff.mp free
  constructor
  · rw [registry_eq, Registry.tables_insert, List.map_append, List.nodup_append]
    refine ⟨consistent.unique, List.nodup_singleton _, ?_⟩
    rintro aliasName aliasMem other otherMem rfl
    obtain ⟨ref, refMem, rfl⟩ := List.mem_map.mp aliasMem
    exact isNew ref refMem (List.mem_singleton.mp otherMem)
  · rw [registry_eq, Registry.tables_insert, primary_eq, joins_eq, List.map_append,
      ← List.cons_append]
    exact consistent.tables.append_right _
  · intro old member oldSource isSource
    rw [joins_eq] at member
    rcases List.mem_append.mp member with member | member
    · exact consistent.sources old member oldSource isSource
    · rw [List.mem_singleton.mp member] at isSource ⊢
      exact isNew oldSource (source oldSource isSource)

/-- The table that a join starts from is registered. -/
theorem Consistent.mem_of_resolveSource
    (consistent : block.Consistent)
    {source : JoinSource}
    {ref : TableRef}
    (resolved : block.resolveSource source = .ok ref) : ref ∈ block.registry.tables := by
  cases source with
  | primary =>
      cases resolved
      exact consistent.tables.mem_iff.mpr (List.mem_cons_self ..)
  | registered aliasName =>
      rw [resolveSource] at resolved
      split at resolved
      · rename_i found
        cases resolved
        exact (Registry.mem_and_alias_of_get? found).1
      · cases resolved

theorem source_keyedJoin (block : QueryBlock) (spec : JoinSpec) (source target : TableRef) :
    (block.keyedJoin spec source target).source = some source := by
  unfold keyedJoin
  split <;> rfl

theorem target_keyedJoin (block : QueryBlock) (spec : JoinSpec) (source target : TableRef) :
    (block.keyedJoin spec source target).target = target := by
  unfold keyedJoin
  split <;> rfl

theorem Consistent.join (consistent : block.Consistent) (spec : JoinSpec) :
    (block.join spec).state.Consistent := by
  rcases block.join_state_cases spec with unchanged | ⟨source, target, found, free, appended⟩
  · rw [unchanged]
    exact consistent
  · rw [appended]
    refine consistent.of_append (block.keyedJoin spec source target)
      (some (.keyed spec.kind)) ?_ ?_ ?_ ?_ (joins_appendKeyedJoin ..)
    · rw [target_keyedJoin]
      exact free
    · intro other isSource
      rw [source_keyedJoin, Option.some.injEq] at isSource
      exact isSource ▸ consistent.mem_of_resolveSource found
    · rw [target_keyedJoin, registry_appendKeyedJoin]
    · rw [primary_appendKeyedJoin]

theorem Consistent.crossJoin
    (consistent : block.Consistent)
    (table : Table)
    (aliasName group : Option String) :
    (block.crossJoin table aliasName group).state.Consistent := by
  rcases block.crossJoin_state_cases table aliasName group with
    unchanged | ⟨target, free, appended⟩
  · rw [unchanged]
    exact consistent
  · rw [appended]
    exact consistent.of_append
      { kind := .cross, target := target, source := none, condition := none } (some .cross)
      free (fun _ isSource => nomatch isSource) rfl rfl rfl

theorem Consistent.removeCrossJoin (consistent : block.Consistent) (aliasName : String) :
    (block.removeCrossJoin aliasName).Consistent := by
  unfold QueryBlock.removeCrossJoin
  split
  · rename_i present
    obtain ⟨member, memberMem, isIt⟩ := List.any_eq_true.mp present
    obtain ⟨join, joinsBefore, joinsAfter, _, isIt, joins_eq, joinsErased⟩ :=
      List.exists_of_eraseP memberMem isIt
    have joinAlias : join.target.aliasName = aliasName := by
      simp only [isCrossJoinTo, Bool.and_eq_true, beq_iff_eq] at isIt
      exact isIt.2
    have joinRegistered : join.target ∈ block.registry.tables := by
      rw [consistent.tables.mem_iff, joins_eq]
      simp
    obtain ⟨ref, tablesBefore, tablesAfter, _, refAlias, tables_eq, tablesErased⟩ :=
      List.exists_of_eraseP (p := fun ref => ref.aliasName == aliasName) joinRegistered
        (by simp [joinAlias])
    have refRegistered : ref ∈ block.registry.tables := by
      rw [tables_eq]
      simp
    obtain rfl : ref = join.target :=
      List.inj_on_of_nodup_map consistent.unique refRegistered joinRegistered
        ((beq_iff_eq.mp refAlias).trans joinAlias.symm)
    constructor
    · exact consistent.unique.sublist (List.eraseP_sublist.map TableRef.aliasName)
    · have tables := consistent.tables
      rw [tables_eq, joins_eq, List.map_append, List.map_cons, ← List.cons_append] at tables
      have erased := List.perm_middle.symm.trans (tables.trans List.perm_middle)
      dsimp only [Registry.erase]
      rw [tablesErased, joinsErased, List.map_append, ← List.cons_append]
      exact erased.cons_inv
    · exact fun other otherMem => consistent.sources other (List.mem_of_mem_eraseP otherMem)
  · exact consistent

/-- No edit makes a block inconsistent. -/
theorem Consistent.becomes
    {first second : QueryBlock}
    (becomes : Becomes first second)
    (consistent : first.Consistent) : second.Consistent := by
  cases becomes.editsJoins with
  | kept registry_eq primary_eq joins_eq _ =>
      exact consistent.of_perm registry_eq primary_eq (by rw [joins_eq])
  | reordered registry_eq primary_eq joins_eq _ =>
      exact consistent.of_perm registry_eq primary_eq
        (joins_eq ▸ first.perm_joins_reorderJoins)
  | joined spec second_eq => exact second_eq ▸ consistent.join spec
  | crossJoined table aliasName group second_eq =>
      exact second_eq ▸ consistent.crossJoin table aliasName group
  | removed aliasName second_eq => exact second_eq ▸ consistent.removeCrossJoin aliasName

end QueryBlock

/-- Every block of a reachable tree is consistent. -/
theorem Statement.Reachable.consistent
    {statement : Statement}
    (reachable : statement.Reachable) :
    ∀ block ∈ statement.blocks, block.Consistent :=
  reachable.forall_mem_blocks .ofPrimary fun _ _ becomes => .becomes becomes

end SqlBuilder
