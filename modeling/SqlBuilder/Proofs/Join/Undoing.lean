import SqlBuilder.Proofs.Join.Reordering
import SqlBuilder.Proofs.Join.Repeating
import SqlBuilder.Proofs.Registration
import SqlBuilder.Proofs.Trace.Tree

/-!
# Cross joins that are undone

To remove a cross join takes back what the cross join did: the table leaves the list, its
group and the joins, in every block of the tree. Two things stay. A group that the cross
join created is left behind without members, and the joins are marked for reordering.
Neither shows in the SELECT as long as the joins were in order, or marked, before.
-/

namespace SqlBuilder

namespace TableGroup

variable {name : String} {groups : List TableGroup}

/-- Where every group of a name is left alone nothing changes. -/
theorem changeFirst_eq_self
    {change : TableGroup → TableGroup}
    (kept : ∀ group ∈ groups, group.name = name → change group = group) :
    changeFirst name change groups = groups := by
  induction groups with
  | nil => rfl
  | cons group rest inductionHypothesis =>
      rw [List.forall_mem_cons] at kept
      rw [changeFirst]
      split
      · rename_i named
        rw [kept.1 (beq_iff_eq.mp named)]
      · rw [inductionHypothesis kept.2]

/-- Two changes of the first group of a name are one, if the first keeps the name. -/
theorem changeFirst_changeFirst
    {first second : TableGroup → TableGroup}
    (keepsName : ∀ group, (first group).name = group.name) :
    changeFirst name second (changeFirst name first groups) =
      changeFirst name (fun group => second (first group)) groups := by
  induction groups with
  | nil => rfl
  | cons group rest inductionHypothesis =>
      by_cases named : (group.name == name) = true
      · have stillNamed : ((first group).name == name) = true := by rw [keepsName, named]
        simp only [changeFirst, if_pos named, if_pos stillNamed]
      · simp only [changeFirst, if_neg named, inductionHypothesis]

/-- The first group of a name comes last where no other group has the name. -/
theorem changeFirst_append_singleton
    {last : TableGroup}
    {change : TableGroup → TableGroup}
    (others : ∀ group ∈ groups, group.name ≠ name)
    (named : last.name = name) :
    changeFirst name change (groups ++ [last]) = groups ++ [change last] := by
  induction groups with
  | nil => rw [List.nil_append, changeFirst, if_pos (beq_iff_eq.mpr named), List.nil_append]
  | cons group rest inductionHypothesis =>
      rw [List.forall_mem_cons] at others
      rw [List.cons_append, changeFirst, if_neg (by simpa using others.1),
        inductionHypothesis others.2, List.cons_append]

/-- A member that is added and dropped again leaves the others. -/
theorem dropAlias_addMember
    {group : TableGroup}
    {ref : TableRef}
    (absent : ∀ member ∈ group.tables, member.aliasName ≠ ref.aliasName) :
    (group.addMember ref).dropAlias ref.aliasName = group := by
  have kept : group.tables.filter (fun member => member.aliasName != ref.aliasName) =
      group.tables := by
    rw [List.filter_eq_self]
    exact fun member isMember => bne_iff_ne.mpr (absent member isMember)
  simp [addMember, dropAlias, kept]

end TableGroup

namespace Registry

variable {registry : Registry} {primary target : TableRef}

/-- The registry with a group of a name, which is created empty if there is none. -/
def withGroup (registry : Registry) (name : String) (kind : JoinKind) : Registry :=
  { registry with
    groups :=
      if registry.hasGroup name then registry.groups
      else registry.groups ++ [{ name := name, joinKind := some kind }] }

/-- A table under a free alias is a member of no group. -/
theorem Catalogues.alias_ne_of_free
    (catalogues : registry.Catalogues primary)
    {aliasName : String}
    (free : registry.get? aliasName = none)
    {group : TableGroup}
    (member : group ∈ registry.groups) : ∀ ref ∈ group.tables, ref.aliasName ≠ aliasName := by
  intro ref isMember
  rw [catalogues.members group member] at isMember
  exact get?_eq_none_iff.mp free ref (List.mem_of_mem_filter isMember)

/-- A table that is registered and erased again leaves the tables as they were, and its
group without it. -/
theorem Catalogues.erase_insert
    (catalogues : registry.Catalogues primary)
    (free : registry.get? target.aliasName = none)
    (kind : JoinKind) :
    (registry.insert target (some kind)).erase target.aliasName =
      registry.withGroup target.group kind := by
  have isNew := get?_eq_none_iff.mp free
  have absent : ∀ ref ∈ registry.tables, ¬ (ref.aliasName == target.aliasName) = true :=
    fun ref registered => by simpa using isNew ref registered
  have tables_eq : ((registry.insert target (some kind)).erase target.aliasName).tables =
      registry.tables := by
    rw [tables_erase, tables_insert, List.eraseP_append_right _ absent]
    simp
  have groups_eq : ((registry.insert target (some kind)).erase target.aliasName).groups =
      (registry.withGroup target.group kind).groups := by
    simp only [Registry.erase, get?_insert_self free]
    simp only [Registry.insert, withGroup]
    cases known : registry.hasGroup target.group with
    | true =>
        have keepsName : ∀ group : TableGroup, (group.addMember target).name = group.name :=
          fun _ => rfl
        simp only [↓reduceIte]
        rw [TableGroup.changeFirst_changeFirst keepsName]
        exact TableGroup.changeFirst_eq_self fun group member _ =>
          TableGroup.dropAlias_addMember (catalogues.alias_ne_of_free free member)
    | false =>
        have others : ∀ group ∈ registry.groups, group.name ≠ target.group := by
          intro group member same
          simpa [known] using hasGroup_iff.mpr ⟨group, member, same⟩
        simp only [Bool.false_eq_true, ↓reduceIte]
        rw [TableGroup.changeFirst_append_singleton others rfl]
        simp [TableGroup.dropAlias]
  exact congrArg₂ Registry.mk tables_eq groups_eq

end Registry

namespace QueryBlock

variable {block : QueryBlock} {target : TableRef}

/-- A block after a cross join into a group and its removal. The tables, the joins and the
members of the groups are what they were. A group that the cross join created remains
without members, the joins are marked for reordering, and nothing is kept. -/
structure Restores (group : String) (before after : QueryBlock) : Prop where
  tables : after.registry.tables = before.registry.tables
  joins : after.joins = before.joins
  groups : after.registry.groups =
    if before.registry.hasGroup group then before.registry.groups
    else before.registry.groups ++
      [{ name := group, joinKind := some .cross, tables := [] }]
  others : after =
    { before with registry := after.registry, mustReorder := true, cache := none }

/-- A cross join that succeeds with an alias that was free is appended. -/
theorem crossJoin_eq_of_get?_eq_none
    {table : Table}
    {aliasName group : Option String}
    (joined : (block.crossJoin table aliasName group).result = .ok target)
    (free : block.registry.get? target.aliasName = none) :
    target.table = table ∧
      block.crossJoin table aliasName group = .ok (block.appendCrossJoin target) target := by
  rw [QueryBlock.crossJoin] at joined ⊢
  split at joined
  · cases joined
  · rename_i present resolved
    cases joined
    obtain ⟨_, found, _⟩ := target_of_resolveTarget resolved
    rw [free] at found
    cases found
  · rename_i added resolved
    cases joined
    exact ⟨(target_of_resolveTarget resolved).1, rfl⟩

/-- No join leads to a free alias. -/
theorem Consistent.isCrossJoinTo_eq_false_of_free
    (consistent : block.Consistent)
    {aliasName : String}
    (free : block.registry.get? aliasName = none)
    {join : Join}
    (member : join ∈ block.joins) : isCrossJoinTo aliasName join = false := by
  have registered : join.target ∈ block.registry.tables :=
    consistent.tables.mem_iff.mpr (List.mem_cons_of_mem _ (List.mem_map_of_mem member))
  have otherAlias := Registry.get?_eq_none_iff.mp free join.target registered
  simp [isCrossJoinTo, otherAlias]

/-- The join that a cross join appends is a cross join to its target. -/
theorem isCrossJoinTo_of_appendCrossJoin (block : QueryBlock) (target : TableRef) :
    (block.appendCrossJoin target).joins.any (isCrossJoinTo target.aliasName) = true := by
  simp [appendCrossJoin, isCrossJoinTo]

/-- What a cross join does to a block its removal takes back. -/
theorem Consistent.removeCrossJoin_appendCrossJoin
    (consistent : block.Consistent)
    (catalogues : block.registry.Catalogues block.primary)
    (free : block.registry.get? target.aliasName = none) :
    (block.appendCrossJoin target).removeCrossJoin target.aliasName =
      { block with
        registry := block.registry.withGroup target.group .cross
        mustReorder := true
        cache := none } := by
  have others : ∀ join ∈ block.joins, ¬ isCrossJoinTo target.aliasName join = true :=
    fun join member => by simp [consistent.isCrossJoinTo_eq_false_of_free free member]
  rw [QueryBlock.removeCrossJoin, if_pos (isCrossJoinTo_of_appendCrossJoin block target)]
  simp only [appendCrossJoin, catalogues.erase_insert free, List.eraseP_append_right _ others]
  simp [isCrossJoinTo]

theorem Consistent.restores_removeCrossJoin_appendCrossJoin
    (consistent : block.Consistent)
    (catalogues : block.registry.Catalogues block.primary)
    (free : block.registry.get? target.aliasName = none) :
    Restores target.group block
      ((block.appendCrossJoin target).removeCrossJoin target.aliasName) := by
  rw [consistent.removeCrossJoin_appendCrossJoin catalogues free]
  exact ⟨rfl, rfl, rfl, rfl⟩

/-! ## What a block with other groups is rendered to -/

/-- The joins of a block are in order, or marked for being put in order. -/
def OrderedOrMarked (block : QueryBlock) : Prop :=
  block.mustReorder = true ∨ block.WellOrdered block.joins

/-- What is local depends on the tables of the registry, and not on the groups. -/
theorem isLocalSource_with_registry
    {registry : Registry}
    (tables_eq : registry.tables = block.registry.tables) :
    { block with registry := registry, mustReorder := true }.isLocalSource =
      block.isLocalSource := by
  funext source
  simp only [isLocalSource, Registry.get?, tables_eq]

/-- Reordering does not heed the groups, and does nothing to joins in order. -/
theorem OrderedOrMarked.reorderJoins_marked
    (ordered : block.OrderedOrMarked)
    {registry : Registry}
    (tables_eq : registry.tables = block.registry.tables) :
    { block with registry := registry, mustReorder := true }.reorderJoins =
      block.reorderJoins.mapState fun state => { state with registry := registry } := by
  have isLocalSource_eq := isLocalSource_with_registry tables_eq
  cases marked : block.mustReorder with
  | true =>
      simp only [reorderJoins, isLocalSource_eq, marked, ↓reduceIte]
      split <;> rfl
  | false =>
      have inPlace : Join.place block.isLocalSource [] block.joins = (block.joins, []) := by
        refine Join.place_of_allReady (wellOrdered_iff.mp (ordered.resolve_left ?_))
        simp [marked]
      rw [reorderJoins_of_mustReorder_eq_false marked]
      simp only [reorderJoins, isLocalSource_eq, inPlace, ↓reduceIte, List.isEmpty_nil]
      rw [← marked]
      rfl

theorem addItems_with_registry
    (block : QueryBlock)
    (items : List SelectedItem)
    (registry : Registry)
    (mark : Bool) :
    { block with registry := registry, mustReorder := mark }.addItems items =
      { block.addItems items with registry := registry, mustReorder := mark } := by
  induction items generalizing block with
  | nil => rfl
  | cons item items inductionHypothesis =>
      rw [addItems_cons, addItems_cons, ← inductionHypothesis, addItem_eq, addItem_eq]

/-- Additions to the select list leave the joins in order, or marked. -/
theorem OrderedOrMarked.addItems
    (ordered : block.OrderedOrMarked)
    (items : List SelectedItem) : (block.addItems items).OrderedOrMarked := by
  rw [addItems_eq]
  exact ordered

/-- Joins that are in order stay so when nothing is kept. -/
theorem OrderedOrMarked.invalidate
    (ordered : block.OrderedOrMarked) : block.invalidate.OrderedOrMarked :=
  ordered

/-- A marked block over the same tables is readied as the block is. -/
theorem OrderedOrMarked.readied_marked
    (ordered : block.OrderedOrMarked)
    {registry : Registry}
    (tables_eq : registry.tables = block.registry.tables) :
    { block with registry := registry, mustReorder := true }.readied =
      { block.readied with registry := registry } := by
  have reordered := ordered.reorderJoins_marked tables_eq
  have added := addItems_with_registry block.reorderJoins.state
    block.reorderJoins.state.orderingItems registry block.reorderJoins.state.mustReorder
  rw [readied, reordered]
  refine added.trans ?_
  rw [← mustReorder_addItems]
  rfl

/-- What a cross join and its removal leave behind does not show in a rendering. -/
theorem OrderedOrMarked.rendersAlike
    (ordered : block.OrderedOrMarked)
    {group : String}
    {after : QueryBlock}
    (restores : Restores group block after) :
    RendersAlike after.invalidate block.invalidate := by
  have marked : ∀ waiting, after.invalidate.addItems waiting =
      { block.invalidate.addItems waiting with
        registry := after.registry, mustReorder := true } := by
    intro waiting
    rw [restores.others]
    exact addItems_with_registry block.invalidate waiting after.registry true
  have addedOrdered := fun waiting => ordered.invalidate.addItems waiting
  have tables_eq : ∀ waiting, after.registry.tables =
      (block.invalidate.addItems waiting).registry.tables := by
    intro waiting
    rw [addItems_eq]
    exact restores.tables
  constructor
  · exact after.cachedSelect?_addItems_invalidate
  · exact block.cachedSelect?_addItems_invalidate
  · intro waiting
    rw [marked, (addedOrdered waiting).reorderJoins_marked (tables_eq waiting)]
    rfl
  · intro waiting
    rw [marked, (addedOrdered waiting).reorderJoins_marked (tables_eq waiting)]
    rfl
  · intro waiting
    rw [marked, (addedOrdered waiting).readied_marked (tables_eq waiting)]
    rfl

end QueryBlock

namespace Statement

variable {statement : Statement} {target : TableRef}

/-! ## Cross joins of a whole tree -/

/-- Branches in which the alias is free are all cross joined. -/
theorem crossJoinToBranches_of_free
    {branches : List Statement}
    (joined : ∀ branch ∈ branches,
      crossJoin target.table (some target.aliasName) (some target.group) branch =
        .ok (branch.mapBlocks (·.appendCrossJoin target)) target) :
    crossJoinToBranches target.table target branches =
      .ok (branches.map (mapBlocks (·.appendCrossJoin target))) () := by
  induction branches with
  | nil => rfl
  | cons branch rest inductionHypothesis =>
      rw [List.forall_mem_cons] at joined
      rw [crossJoinToBranches, joined.1, inductionHypothesis joined.2]
      rfl

/-- A known table is cross joined to every block of a tree in which its alias is free. -/
theorem crossJoin_of_free
    (free : ∀ block ∈ statement.blocks, block.registry.get? target.aliasName = none) :
    crossJoin target.table (some target.aliasName) (some target.group) statement =
      .ok (statement.mapBlocks (·.appendCrossJoin target)) target := by
  induction statement with
  | node root branches inductionHypothesis =>
      rw [forall_mem_blocks_node] at free
      have below := crossJoinToBranches_of_free fun branch member =>
        inductionHypothesis branch member (free.2 branch member)
      rw [crossJoin, QueryBlock.crossJoin_of_free free.1]
      simp only [Outcome.result_ok, below, mapBlocks_node]
      rfl

/-- A cross join that succeeds with an alias that is free everywhere changes every block
alike. -/
theorem crossJoin_eq_of_free
    {table : Table}
    {aliasName group : Option String}
    (joined : (statement.crossJoin table aliasName group).result = .ok target)
    (free : ∀ block ∈ statement.blocks, block.registry.get? target.aliasName = none) :
    statement.crossJoin table aliasName group =
      .ok (statement.mapBlocks (·.appendCrossJoin target)) target := by
  cases statement with
  | node root branches =>
      rw [forall_mem_blocks_node] at free
      obtain ⟨rootJoined, branchesJoined⟩ := result_crossJoin_eq_ok joined
      obtain ⟨rfl, root_eq⟩ := QueryBlock.crossJoin_eq_of_get?_eq_none rootJoined free.1
      have below := crossJoinToBranches_of_free fun branch member =>
        crossJoin_of_free (free.2 branch member)
      rw [crossJoin_eq_of_result rootJoined branchesJoined, below, root_eq, mapBlocks_node]
      rfl

/-- To remove the cross join that has been made changes every block alike. -/
theorem removeCrossJoin_mapBlocks_appendCrossJoin
    (statement : Statement)
    (target : TableRef) :
    (statement.mapBlocks (·.appendCrossJoin target)).removeCrossJoin target.aliasName =
      (some target.aliasName, statement.mapBlocks fun block =>
        (block.appendCrossJoin target).removeCrossJoin target.aliasName) := by
  cases statement with
  | node root branches =>
      have found := root.isCrossJoinTo_of_appendCrossJoin target
      rw [removeCrossJoin, mapBlocks_mapBlocks, mapBlocks_node, block_node, if_pos found]

/-- A cross join to an alias that was free everywhere is undone when the alias is removed,
which answers with the alias. In every block of the tree the tables, the joins and the
members of the groups are what they were, and a group that the cross join created remains
without members. A SELECT that starts with nothing kept comes to the same text or error as
before, if the joins of every block were in order or marked. -/
theorem Reachable.removeCrossJoin_crossJoin
    (reachable : statement.Reachable)
    {table : Table}
    {aliasName group : Option String}
    (joined : (statement.crossJoin table aliasName group).result = .ok target)
    (free : ∀ block ∈ statement.blocks, block.registry.get? target.aliasName = none) :
    let undone :=
      (statement.crossJoin table aliasName group).state.removeCrossJoin target.aliasName
    undone.1 = some target.aliasName ∧
      Related (QueryBlock.Restores target.group) statement undone.2 ∧
      ((∀ block ∈ statement.blocks, block.OrderedOrMarked) →
        undone.2.cleared.selectSql.result = statement.cleared.selectSql.result) := by
  intro undone
  have undone_eq : undone = (some target.aliasName, statement.mapBlocks fun block =>
      (block.appendCrossJoin target).removeCrossJoin target.aliasName) := by
    simp only [undone, crossJoin_eq_of_free joined free, Outcome.state_ok,
      removeCrossJoin_mapBlocks_appendCrossJoin]
  have restores : ∀ block ∈ statement.blocks, QueryBlock.Restores target.group block
      ((block.appendCrossJoin target).removeCrossJoin target.aliasName) := by
    intro block member
    obtain ⟨consistent, catalogues⟩ := reachable.catalogued block member
    exact consistent.restores_removeCrossJoin_appendCrossJoin catalogues (free block member)
  rw [undone_eq]
  refine ⟨rfl, ?_, fun ordered => ?_⟩
  · have related := related_mapBlocks_of_forall_mem restores
    rwa [mapBlocks_id] at related
  · have alike : Related QueryBlock.RendersAlike
        (statement.mapBlocks fun block =>
          (block.appendCrossJoin target).removeCrossJoin target.aliasName).cleared
        statement.cleared := by
      rw [cleared, cleared, mapBlocks_mapBlocks]
      exact related_mapBlocks_of_forall_mem fun block member =>
        QueryBlock.OrderedOrMarked.rendersAlike (ordered block member) (restores block member)
    have rendered := result_renderSelect_congr alike []
    simp only [selectSql, selectQuery, Outcome.result_map, rendered]

/-- Phones whose cities have been removed, in order again, united with people. -/
def phonesUnitedWithPeople : Statement :=
  ((phonesWithoutCities.runAll [.render .select ⟨2⟩]).union (people {})).state

theorem reachable_phonesUnitedWithPeople : phonesUnitedWithPeople.Reachable := by
  have phones : (phonesWithoutCities.runAll [.render .select ⟨2⟩]).Reachable :=
    Reachable.runAll (by simp)
      (Reachable.runAll (by simp [joinCities, joinPhones]) (reachedBy_people _ {}))
  refine ReachedBy.run phones (.union (people {})) ?_ trivial
  intro other isUnion
  cases isUnion
  exact reachedBy_people _ {}

/-- The cities come back under the alias that the phones are still joined from, and are
removed again. -/
theorem removeCrossJoin_crossJoin_phonesUnitedWithPeople :
    let joined := phonesUnitedWithPeople.crossJoin { name := "city" } (some "X") none
    let undone := joined.state.removeCrossJoin "X"
    (∀ block ∈ phonesUnitedWithPeople.blocks, block.mustReorder = false) ∧
      undone.1 = some "X" ∧
      Related (QueryBlock.Restores "Group3") phonesUnitedWithPeople undone.2 ∧
      undone.2.cleared.selectSql.result = phonesUnitedWithPeople.cleared.selectSql.result := by
  intro joined undone
  have answered : joined.result =
      .ok { table := { name := "city" }, aliasName := "X", group := "Group3" } := by
    decide +kernel
  have free : ∀ block ∈ phonesUnitedWithPeople.blocks, block.registry.get? "X" = none := by
    decide +kernel
  have placed : ∀ block ∈ phonesUnitedWithPeople.blocks,
      (Join.placePass block.isLocalSource [] block.joins).2.isEmpty = true := by
    decide +kernel
  have ordered : ∀ block ∈ phonesUnitedWithPeople.blocks, block.OrderedOrMarked :=
    fun block member => .inr (QueryBlock.wellOrdered_iff.mpr (Join.allReady_of_placePass_eq_nil
      Join.allReady_nil (List.isEmpty_iff.mp (placed block member))))
  obtain ⟨answer, restores, rendered⟩ :=
    reachable_phonesUnitedWithPeople.removeCrossJoin_crossJoin answered free
  exact ⟨by decide +kernel, answer, restores, rendered ordered⟩

end Statement
end SqlBuilder
