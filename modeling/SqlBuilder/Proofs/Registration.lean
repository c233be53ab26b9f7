import SqlBuilder.Proofs.Consistency
import SqlBuilder.Proofs.Join.Emission

/-!
# Tables, groups and joins agree

A block has its tables three times over: in the order of their registration,
group by group, and as the targets of its joins. Each of the three is brought up
to date on its own by every join and by every removal of a cross join. They
agree in every block of every reachable tree.
-/

namespace SqlBuilder

namespace TableGroup

/-- Where names are unique the first group of a name is the only one. -/
theorem changeFirst_eq_map
    {groups : List TableGroup}
    (unique : (groups.map name).Nodup)
    (sought : String)
    (change : TableGroup → TableGroup) :
    changeFirst sought change groups =
      groups.map fun group => if group.name = sought then change group else group := by
  induction groups with
  | nil => rfl
  | cons group rest inductionHypothesis =>
      rw [List.map_cons, List.nodup_cons] at unique
      rw [changeFirst, List.map_cons]
      by_cases same : group.name = sought
      · have others : ∀ other ∈ rest, other.name ≠ sought := by
          rintro other member rfl
          exact unique.1 (same ▸ List.mem_map_of_mem member)
        rw [if_pos (beq_iff_eq.mpr same), if_pos same,
          List.map_congr_left fun other member => if_neg (others other member), List.map_id']
      · rw [if_neg (by simpa using same), if_neg same, inductionHypothesis unique.2]

end TableGroup

namespace Registry

variable {registry : Registry} {primary : TableRef}

/-- The groups of a registry list its tables, and come from the primary table and
the joins behind it. -/
structure Catalogues (registry : Registry) (primary : TableRef) : Prop where
  /-- No two groups share a name. -/
  names : (registry.groups.map TableGroup.name).Nodup
  /-- The members of a group are the tables that name it, in order. -/
  members : ∀ group ∈ registry.groups,
    group.tables = registry.tables.filter fun ref => ref.group == group.name
  /-- Every table names a group that exists. -/
  grouped : ∀ ref ∈ registry.tables, ∃ group ∈ registry.groups, group.name = ref.group
  /-- The primary table was registered first. -/
  primaryFirst : registry.tables.head? = some primary
  /-- Its group was created first, and is the only one that no join created. -/
  primaryGroup : ∃ first others, registry.groups = first :: others ∧
    first.name = primary.group ∧ first.joinKind = none ∧
    ∀ other ∈ others, other.joinKind ≠ none

/-- The registry of a primary table alone. -/
theorem Catalogues.ofPrimary (primary : TableRef) :
    (Registry.empty.insert primary none).Catalogues primary := by
  constructor
  · exact List.nodup_singleton _
  · rintro group (_ | ⟨_, ⟨⟩⟩)
    simp [Registry.empty]
  · rintro ref (_ | ⟨_, ⟨⟩⟩)
    exact ⟨_, List.mem_singleton_self _, rfl⟩
  · rfl
  · exact ⟨_, [], rfl, rfl, rfl, nofun⟩

/-- The members of a group are the tables that name it. -/
theorem Catalogues.mem_tables_iff
    (catalogues : registry.Catalogues primary)
    {group : TableGroup}
    (member : group ∈ registry.groups)
    {ref : TableRef} :
    ref ∈ group.tables ↔ ref ∈ registry.tables ∧ ref.group = group.name := by
  rw [catalogues.members group member, List.mem_filter, beq_iff_eq]

theorem hasGroup_iff {name : String} :
    registry.hasGroup name = true ↔ ∃ group ∈ registry.groups, group.name = name := by
  simp [hasGroup]

/-- Groups that are changed one by one stay a catalogue of tables when each keeps
its name and its kind and has the right members. -/
theorem Catalogues.of_map
    {other : Registry}
    (catalogues : registry.Catalogues primary)
    (change : TableGroup → TableGroup)
    (groups_eq : other.groups = registry.groups.map change)
    (name_change : ∀ group, (change group).name = group.name)
    (joinKind_change : ∀ group, (change group).joinKind = group.joinKind)
    (members : ∀ group ∈ registry.groups,
      (change group).tables = other.tables.filter fun ref => ref.group == group.name)
    (grouped : ∀ ref ∈ other.tables, ∃ group ∈ registry.groups, group.name = ref.group)
    (primaryFirst : other.tables.head? = some primary) : other.Catalogues primary := by
  obtain ⟨first, others, registry_eq, firstName, firstKind, othersKind⟩ :=
    catalogues.primaryGroup
  constructor
  · rw [groups_eq, List.map_map]
    exact (List.map_congr_left fun group _ => name_change group) ▸ catalogues.names
  · rw [groups_eq, List.forall_mem_map]
    intro group member
    rw [name_change]
    exact members group member
  · intro ref registered
    obtain ⟨group, member, named⟩ := grouped ref registered
    exact ⟨change group, groups_eq ▸ List.mem_map_of_mem member, (name_change group).trans named⟩
  · exact primaryFirst
  · refine ⟨change first, others.map change, by rw [groups_eq, registry_eq, List.map_cons],
      (name_change first).trans firstName, (joinKind_change first).trans firstKind, ?_⟩
    rw [List.forall_mem_map]
    intro other member
    rw [joinKind_change]
    exact othersKind other member

/-- A table that a join brings in goes into its group, which may be new. -/
theorem Catalogues.insert
    (catalogues : registry.Catalogues primary)
    (ref : TableRef)
    (kind : JoinKind) : (registry.insert ref (some kind)).Catalogues primary := by
  have primaryFirst : (registry.tables ++ [ref]).head? = some primary := by
    rw [List.head?_append, catalogues.primaryFirst]
    rfl
  cases known : registry.hasGroup ref.group with
  | true =>
      refine catalogues.of_map
        (fun group => if group.name = ref.group then group.addMember ref else group)
        ?_ ?_ ?_ ?_ ?_ primaryFirst
      · simp only [Registry.insert, known, ↓reduceIte]
        exact TableGroup.changeFirst_eq_map catalogues.names ref.group (·.addMember ref)
      · intro group
        split <;> rfl
      · intro group
        split <;> rfl
      · intro group member
        rw [tables_insert, List.filter_append, ← catalogues.members group member]
        split
        · rename_i same
          simp [TableGroup.addMember, same]
        · rename_i different
          simp [Ne.symm different]
      · intro other registered
        rcases List.mem_append.mp registered with registered | registered
        · exact catalogues.grouped other registered
        · rw [List.mem_singleton.mp registered]
          exact hasGroup_iff.mp known
  | false =>
      have isNew : ∀ group ∈ registry.groups, group.name ≠ ref.group := by
        intro group member same
        simpa [known] using hasGroup_iff.mpr ⟨group, member, same⟩
      have groups_eq : (registry.insert ref (some kind)).groups =
          registry.groups ++ [{ name := ref.group, joinKind := some kind, tables := [ref] }] := by
        simp [Registry.insert, known]
      obtain ⟨first, others, registry_eq, firstName, firstKind, othersKind⟩ :=
        catalogues.primaryGroup
      constructor
      · rw [groups_eq, List.map_append, List.nodup_append]
        refine ⟨catalogues.names, List.nodup_singleton _, ?_⟩
        rintro name nameMem other otherMem rfl
        obtain ⟨group, member, rfl⟩ := List.mem_map.mp nameMem
        exact isNew group member (List.mem_singleton.mp otherMem)
      · rw [groups_eq, List.forall_mem_append, List.forall_mem_singleton]
        constructor
        · intro group member
          rw [tables_insert, List.filter_append, ← catalogues.members group member]
          simp [Ne.symm (isNew group member)]
        · have nobody : registry.tables.filter (fun other => other.group == ref.group) = [] := by
            rw [List.filter_eq_nil_iff]
            intro other registered same
            obtain ⟨group, member, named⟩ := catalogues.grouped other registered
            exact isNew group member (named.trans (beq_iff_eq.mp same))
          rw [tables_insert, List.filter_append, nobody]
          simp
      · intro other registered
        rw [groups_eq]
        rcases List.mem_append.mp registered with registered | registered
        · obtain ⟨group, member, named⟩ := catalogues.grouped other registered
          exact ⟨group, List.mem_append_left _ member, named⟩
        · rw [List.mem_singleton.mp registered]
          exact ⟨_, List.mem_append_right _ (List.mem_singleton_self _), rfl⟩
      · exact primaryFirst
      · refine ⟨first, _, by rw [groups_eq, registry_eq, List.cons_append], firstName, firstKind,
          ?_⟩
        rw [List.forall_mem_append, List.forall_mem_singleton]
        exact ⟨othersKind, nofun⟩

/-- Where aliases are unique, erasing an alias drops every table under it. -/
theorem tables_erase_eq_filter
    (unique : (registry.tables.map TableRef.aliasName).Nodup)
    (aliasName : String) :
    (registry.erase aliasName).tables =
      registry.tables.filter fun ref => ref.aliasName != aliasName := by
  rw [tables_erase]
  generalize registry.tables = tables at unique ⊢
  induction tables with
  | nil => rfl
  | cons ref rest inductionHypothesis =>
      rw [List.map_cons, List.nodup_cons] at unique
      by_cases same : ref.aliasName = aliasName
      · have others : ∀ other ∈ rest, (other.aliasName != aliasName) = true := by
          rintro other member
          rw [bne_iff_ne]
          rintro rfl
          exact unique.1 (same ▸ List.mem_map_of_mem member)
        rw [List.filter_cons_of_neg (by simp [same]), List.filter_eq_self.mpr others]
        simp [same]
      · rw [List.filter_cons_of_pos (by simpa using same), ← inductionHypothesis unique.2]
        simp [same]

/-- A table other than the primary one leaves the list and its group. -/
theorem Catalogues.erase
    (catalogues : registry.Catalogues primary)
    (unique : (registry.tables.map TableRef.aliasName).Nodup)
    {aliasName : String}
    (notPrimary : aliasName ≠ primary.aliasName) :
    (registry.erase aliasName).Catalogues primary := by
  have tables_eq := tables_erase_eq_filter unique aliasName
  cases found : registry.get? aliasName with
  | none =>
      have unchanged : registry.erase aliasName = registry := by
        have kept : registry.tables.filter (fun ref => ref.aliasName != aliasName) =
            registry.tables := by
          rw [List.filter_eq_self]
          intro ref registered
          rw [bne_iff_ne]
          exact get?_eq_none_iff.mp found ref registered
        rw [kept] at tables_eq
        simp only [Registry.erase, found] at tables_eq ⊢
        rw [tables_eq]
      rw [unchanged]
      exact catalogues
  | some removed =>
      obtain ⟨registered, removedAlias⟩ := mem_and_alias_of_get? found
      refine catalogues.of_map
        (fun group => if group.name = removed.group then group.dropAlias aliasName else group)
        ?_ ?_ ?_ ?_ ?_ ?_
      · simp only [Registry.erase, found]
        exact TableGroup.changeFirst_eq_map catalogues.names removed.group (·.dropAlias aliasName)
      · intro group
        split <;> rfl
      · intro group
        split <;> rfl
      · intro group member
        rw [tables_eq]
        split
        · rw [TableGroup.dropAlias, catalogues.members group member, List.filter_comm]
        · rename_i different
          rw [catalogues.members group member, List.filter_filter]
          refine List.filter_congr fun ref refRegistered => ?_
          by_cases inGroup : ref.group = group.name
          · have otherAlias : ref.aliasName ≠ aliasName := by
              rintro sameAlias
              have same := List.inj_on_of_nodup_map unique refRegistered registered
                (sameAlias.trans removedAlias.symm)
              exact different (inGroup.symm.trans (same ▸ rfl))
            simp [inGroup, otherAlias]
          · simp [inGroup]
      · intro ref refRegistered
        rw [tables_eq] at refRegistered
        exact catalogues.grouped ref (List.mem_of_mem_filter refRegistered)
      · obtain ⟨rest, registry_eq⟩ := List.head?_eq_some_iff.mp catalogues.primaryFirst
        rw [tables_eq, registry_eq, List.filter_cons_of_pos (by simpa using Ne.symm notPrimary)]
        rfl

end Registry

namespace QueryBlock

variable {block : QueryBlock}

/-- No join leads to the primary table. -/
theorem Consistent.alias_target_ne_primary
    (consistent : block.Consistent)
    {join : Join}
    (member : join ∈ block.joins) : join.target.aliasName ≠ block.primary.aliasName := by
  have unique := consistent.nodup_aliases
  rw [List.map_cons, List.nodup_cons] at unique
  intro same
  exact unique.1 (same ▸ List.mem_map_of_mem (List.mem_map_of_mem member))

/-- No edit of a consistent block takes its groups out of step with its
tables. -/
theorem Consistent.catalogues_becomes
    {first second : QueryBlock}
    (becomes : Becomes first second)
    (consistent : first.Consistent)
    (catalogues : first.registry.Catalogues first.primary) :
    second.registry.Catalogues second.primary := by
  cases becomes.editsJoins with
  | kept registry_eq primary_eq _ _ =>
      rw [registry_eq, primary_eq]
      exact catalogues
  | reordered registry_eq primary_eq _ _ =>
      rw [registry_eq, primary_eq]
      exact catalogues
  | joined spec second_eq =>
      rcases first.join_state_cases spec with unchanged | ⟨source, target, _, _, appended⟩
      · rw [second_eq, unchanged]
        exact catalogues
      · rw [second_eq, appended, registry_appendKeyedJoin, primary_appendKeyedJoin]
        exact catalogues.insert target _
  | crossJoined table aliasName group second_eq =>
      rcases first.crossJoin_state_cases table aliasName group with
        unchanged | ⟨target, _, appended⟩
      · rw [second_eq, unchanged]
        exact catalogues
      · rw [second_eq, appended]
        exact catalogues.insert target _
  | removed aliasName second_eq =>
      rw [second_eq, QueryBlock.removeCrossJoin]
      split
      · rename_i present
        obtain ⟨join, member, isIt⟩ := List.any_eq_true.mp present
        rw [isCrossJoinTo, Bool.and_eq_true, beq_iff_eq] at isIt
        exact catalogues.erase consistent.unique
          (isIt.2 ▸ consistent.alias_target_ne_primary member)
      · exact catalogues

/-- The registered tables, the groups and the joins of a block agree. -/
structure Coordinated (block : QueryBlock) : Prop where
  aliases : (block.registry.tables.map TableRef.aliasName).Nodup
  groupNames : (block.registry.groups.map TableGroup.name).Nodup
  /-- Every table is a member of one group, the one that it names, and just
  once. -/
  membership : ∀ ref ∈ block.registry.tables, ∃ group ∈ block.registry.groups,
    group.name = ref.group ∧ group.tables.count ref = 1 ∧
      ∀ other ∈ block.registry.groups, ref ∈ other.tables → other = group
  /-- Every member of a group is registered. -/
  registered : ∀ group ∈ block.registry.groups, ∀ ref ∈ group.tables,
    ref ∈ block.registry.tables
  primaryFirst : block.registry.tables.head? = some block.primary
  /-- The primary table is the anchor of its group. -/
  anchor : ∃ group ∈ block.registry.groups,
    group.name = block.primary.group ∧ group.anchor? = some block.primary
  /-- The group of the primary table is the only one that no join created. -/
  joinKind : ∀ group ∈ block.registry.groups,
    group.joinKind = none ↔ group.name = block.primary.group
  /-- The joins lead to the tables other than the primary one. -/
  targets : ∀ ref, ref ∈ block.joins.map Join.target ↔
    ref ∈ block.registry.tables ∧ ref ≠ block.primary
  /-- No two joins lead to one table. -/
  targetsOnce : (block.joins.map Join.target).Nodup
  size : block.registry.size = block.joins.length + 1

/-- A consistent block with a catalogue of its tables is coordinated. -/
theorem Consistent.coordinated_of_catalogues
    (consistent : block.Consistent)
    (catalogues : block.registry.Catalogues block.primary) : block.Coordinated := by
  have distinct : block.registry.tables.Nodup := consistent.unique.of_map _
  have listed := consistent.tables.nodup_iff.mp distinct
  rw [List.nodup_cons] at listed
  have member_iff : ∀ group ∈ block.registry.groups, ∀ ref,
      ref ∈ group.tables ↔ ref ∈ block.registry.tables ∧ ref.group = group.name :=
    fun group member ref => catalogues.mem_tables_iff member
  obtain ⟨first, others, groups_eq, firstName, firstKind, othersKind⟩ := catalogues.primaryGroup
  have sameGroup : ∀ group ∈ block.registry.groups, ∀ other ∈ block.registry.groups,
      group.name = other.name → group = other := fun group member other otherMem same =>
    List.inj_on_of_nodup_map catalogues.names member otherMem same
  have firstMem : first ∈ block.registry.groups := groups_eq ▸ List.mem_cons_self
  constructor
  · exact consistent.unique
  · exact catalogues.names
  · intro ref registered
    obtain ⟨group, member, named⟩ := catalogues.grouped ref registered
    refine ⟨group, member, named, ?_, ?_⟩
    · refine List.count_eq_one_of_mem ?_ ((member_iff group member ref).mpr ⟨registered, named.symm⟩)
      rw [catalogues.members group member]
      exact distinct.filter _
    · intro other otherMem refMem
      exact sameGroup other otherMem group member
        (((member_iff other otherMem ref).mp refMem).2.symm.trans named.symm)
  · exact fun group member ref refMem => ((member_iff group member ref).mp refMem).1
  · exact catalogues.primaryFirst
  · refine ⟨first, firstMem, firstName, ?_⟩
    obtain ⟨rest, tables_eq⟩ := List.head?_eq_some_iff.mp catalogues.primaryFirst
    rw [TableGroup.anchor?, catalogues.members first firstMem, tables_eq,
      List.filter_cons_of_pos (by simp [firstName])]
    rfl
  · intro group member
    constructor
    · intro noJoin
      rw [groups_eq] at member
      rcases List.mem_cons.mp member with rfl | otherMem
      · exact firstName
      · exact absurd noJoin (othersKind group otherMem)
    · intro named
      rw [sameGroup group member first firstMem (named.trans firstName.symm)]
      exact firstKind
  · intro ref
    rw [consistent.tables.mem_iff, List.mem_cons]
    constructor
    · intro isTarget
      exact ⟨.inr isTarget, fun same => listed.1 (same ▸ isTarget)⟩
    · rintro ⟨isPrimary | isTarget, different⟩
      · exact absurd isPrimary different
      · exact isTarget
  · exact listed.2
  · rw [Registry.size, consistent.tables.length_eq, List.length_cons, List.length_map]

end QueryBlock

namespace Statement

/-- Every block of a reachable tree is consistent, and its groups list its tables. -/
theorem Reachable.catalogued
    {statement : Statement}
    (reachable : statement.Reachable) :
    ∀ block ∈ statement.blocks,
      block.Consistent ∧ block.registry.Catalogues block.primary := by
  refine reachable.forall_mem_blocks ?_ fun first second becomes holds =>
    ⟨holds.1.becomes becomes, holds.1.catalogues_becomes becomes holds.2⟩
  intro id ancestry dialect namer options primary
  exact ⟨.ofPrimary .., .ofPrimary primary⟩

/-- The tables, the groups and the joins agree in every block of every reachable
tree. -/
theorem Reachable.coordinated
    {statement : Statement}
    (reachable : statement.Reachable) :
    ∀ block ∈ statement.blocks, block.Coordinated := by
  intro block member
  obtain ⟨consistent, catalogues⟩ := reachable.catalogued block member
  exact consistent.coordinated_of_catalogues catalogues

theorem coordinated_phonesWithoutCities :
    phonesWithoutCities.Reachable ∧
      ∀ block ∈ phonesWithoutCities.blocks, block.Coordinated := by
  have reachable : phonesWithoutCities.Reachable :=
    Reachable.runAll (by simp [joinCities, joinPhones]) (reachedBy_people _ {})
  exact ⟨reachable, reachable.coordinated⟩

end Statement
end SqlBuilder
