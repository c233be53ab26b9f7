import SqlBuilder.Proofs.Join.Repeating
import SqlBuilder.Proofs.Naming.Scheme
import SqlBuilder.Proofs.Registration

/-!
# The names of table groups

The groups of a block keep their order. A group that is new comes last, and a group that
loses its last member stays where it is, so that a group never changes its position. A join
that asks for no group founds one, under a number that no group has.
-/

namespace SqlBuilder

namespace TableGroup

theorem map_name_changeFirst
    (sought : String)
    (change : TableGroup → TableGroup)
    (keepsName : ∀ group, (change group).name = group.name)
    (groups : List TableGroup) :
    (changeFirst sought change groups).map name = groups.map name := by
  induction groups with
  | nil => rfl
  | cons group rest inductionHypothesis =>
      rw [changeFirst]
      split
      · rw [List.map_cons, keepsName, List.map_cons]
      · rw [List.map_cons, inductionHypothesis, List.map_cons]

end TableGroup

namespace Registry

variable {registry : Registry}

/-- The names of the groups, in order of creation. -/
def groupNames (registry : Registry) : List String :=
  registry.groups.map TableGroup.name

/-- A group that is new comes last. -/
theorem groupNames_insert (registry : Registry) (ref : TableRef) (kind : Option JoinKind) :
    (registry.insert ref kind).groupNames =
      if registry.hasGroup ref.group then registry.groupNames
      else registry.groupNames ++ [ref.group] := by
  simp only [groupNames, insert]
  split
  · exact TableGroup.map_name_changeFirst ref.group (·.addMember ref) (fun _ => rfl) _
  · rw [List.map_append, List.map_singleton]

/-- No group goes with its last member. -/
theorem groupNames_erase (registry : Registry) (aliasName : String) :
    (registry.erase aliasName).groupNames = registry.groupNames := by
  simp only [groupNames, erase]
  split
  · exact TableGroup.map_name_changeFirst _ (·.dropAlias aliasName) (fun _ => rfl) _
  · rfl

/-- The number of a group is its position once a table is registered in it, also where the
group is new. -/
theorem getElem?_groupNames_insert
    (registry : Registry)
    (depth : Nat)
    (ref : TableRef)
    (kind : Option JoinKind) :
    let context : NamingContext := { registry := registry, depth := depth }
    (registry.insert ref kind).groupNames[
      (context.groupPosition? ref.group).getD context.groupCount]? = some ref.group := by
  intro context
  rw [groupNames_insert]
  cases found : context.groupPosition? ref.group with
  | none =>
      have isNew : registry.hasGroup ref.group = false := by
        rw [NamingContext.groupPosition?, List.findIdx?_eq_none_iff] at found
        rw [hasGroup, List.any_eq_false]
        exact fun group member => Bool.eq_false_iff.mp (found group member)
      have length_eq : registry.groupNames.length = registry.groups.length := List.length_map _
      rw [isNew, Option.getD_none, NamingContext.groupCount, ← length_eq]
      exact List.getElem?_concat_length
  | some position =>
      obtain ⟨bound, named, _⟩ := List.findIdx?_eq_some_iff_getElem.mp found
      have name_eq := beq_iff_eq.mp named
      have known : registry.hasGroup ref.group = true :=
        hasGroup_iff.mpr ⟨_, List.getElem_mem bound, name_eq⟩
      rw [known, if_pos rfl, Option.getD_some, groupNames, List.getElem?_map,
        List.getElem?_eq_getElem bound, Option.map_some, name_eq]

/-- Two tables name one group exactly if they are members of one. -/
theorem Catalogues.group_eq_iff
    {primary first second : TableRef}
    (catalogues : registry.Catalogues primary)
    (firstRegistered : first ∈ registry.tables)
    (secondRegistered : second ∈ registry.tables) :
    first.group = second.group ↔
      ∃ group ∈ registry.groups, first ∈ group.tables ∧ second ∈ group.tables := by
  constructor
  · intro same
    obtain ⟨group, member, named⟩ := catalogues.grouped first firstRegistered
    refine ⟨group, member, ?_, ?_⟩
    · exact (catalogues.mem_tables_iff member).mpr ⟨firstRegistered, named.symm⟩
    · exact (catalogues.mem_tables_iff member).mpr
        ⟨secondRegistered, same.symm.trans named.symm⟩
  · rintro ⟨group, member, hasFirst, hasSecond⟩
    exact ((catalogues.mem_tables_iff member).mp hasFirst).2.trans
      ((catalogues.mem_tables_iff member).mp hasSecond).2.symm

end Registry

namespace QueryBlock

variable {block : QueryBlock}

/-- A target that is given no group is registered already, or founds a group. -/
theorem mem_or_isNew_of_resolveTarget
    {table : Table}
    {aliasName : Option String}
    {resolved : JoinTarget}
    (resolves : block.resolveTarget table aliasName none = .ok resolved) :
    resolved.ref ∈ block.registry.tables ∨
      block.registry.hasGroup resolved.ref.group = false := by
  simp only [resolveTarget, Option.getD_none] at resolves
  split at resolves
  · cases resolves
    obtain ⟨_, _, seeks⟩ := block.registry.seeks_nextGroupName
    exact .inr seeks.not_taken
  · rename_i ref found
    split at resolves
    · cases resolves
      exact .inl (Registry.mem_and_alias_of_get? found).1
    · cases resolves

end QueryBlock

namespace Statement

/-- A table that is joined without a group is registered already, or founds a group. -/
theorem mem_or_isNew_of_join
    {statement : Statement}
    {spec : JoinSpec}
    {target : TableRef}
    (unnamed : spec.group = none)
    (joined : (statement.join spec).result = .ok target) :
    target ∈ statement.block.registry.tables ∨
      statement.block.registry.hasGroup target.group = false := by
  cases statement with
  | node root branches =>
      rw [join] at joined
      split at joined
      · cases joined
      · obtain ⟨resolved, resolves, rfl⟩ := QueryBlock.exists_resolveTarget_of_result_join
          (result_spreadJoin_eq_ok joined).1
        rw [unnamed] at resolves
        exact QueryBlock.mem_or_isNew_of_resolveTarget resolves

theorem mem_or_isNew_of_crossJoin
    {statement : Statement}
    {table : Table}
    {aliasName : Option String}
    {target : TableRef}
    (joined : (statement.crossJoin table aliasName none).result = .ok target) :
    target ∈ statement.block.registry.tables ∨
      statement.block.registry.hasGroup target.group = false := by
  cases statement with
  | node root branches =>
      obtain ⟨resolved, resolves, rfl⟩ := QueryBlock.exists_resolveTarget_of_result_crossJoin
        (result_crossJoin_eq_ok joined).1
      exact QueryBlock.mem_or_isNew_of_resolveTarget resolves

end Statement
end SqlBuilder
