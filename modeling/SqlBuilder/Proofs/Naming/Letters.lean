import SqlBuilder.Proofs.Naming.GroupNames
import SqlBuilder.Proofs.Naming.Nesting
import SqlBuilder.Proofs.Naming.Numeration

/-!
# The letters of a table group

Under the scheme of letters an alias starts with the position of its table's group, written
in bijective base 26. The letters are taken when the table is registered, from the position
of the group or, where the group is new, from the number of groups. They stay right
because a group never moves: new groups come last, and an empty group keeps its place.
-/

namespace SqlBuilder

/-! ## Tables whose aliases have letters -/

namespace Registry

variable {registry : Registry} {ref : TableRef}

/-- The alias of each table is the letters of the position of its group, a number, and the
ending for the depth. -/
def Lettered (registry : Registry) (depth : Nat) : Prop :=
  ∀ ref ∈ registry.tables, ∃ position number : Nat,
    registry.groupNames[position]? = some ref.group ∧
      ref.aliasName = Namer.letters position ++ toString number ++
        String.join (List.replicate depth "_SUB")

variable {depth : Nat}

/-- A table that gets its alias from the scheme has the letters of its group. -/
theorem Lettered.insert
    (lettered : registry.Lettered depth)
    (named : ref.aliasName =
      Namer.alpha { registry := registry, depth := depth } ref.table ref.group)
    (kind : Option JoinKind) : (registry.insert ref kind).Lettered depth := by
  intro other registered
  rw [tables_insert, List.mem_append, List.mem_singleton] at registered
  rcases registered with registered | rfl
  · obtain ⟨position, number, isGroup, alias_eq⟩ := lettered other registered
    refine ⟨position, number, ?_, alias_eq⟩
    rw [groupNames_insert]
    split
    · exact isGroup
    · rw [List.getElem?_append_left (List.getElem?_eq_some_iff.mp isGroup).1, isGroup]
  · obtain ⟨number, alias_eq, _⟩ := NamingContext.exists_firstFree_eq
      { registry := registry, depth := depth } _ _
    exact ⟨_, number, getElem?_groupNames_insert registry depth other kind, named.trans alias_eq⟩

theorem Lettered.erase
    (lettered : registry.Lettered depth)
    (aliasName : String) : (registry.erase aliasName).Lettered depth := by
  intro ref registered
  rw [groupNames_erase]
  exact lettered ref (List.mem_of_mem_eraseP registered)

/-- Two tables have the same letters exactly if they name the same group. -/
theorem Lettered.leadingLetters_eq_iff
    (lettered : registry.Lettered depth)
    (names : registry.groupNames.Nodup)
    {first second : TableRef}
    (firstRegistered : first ∈ registry.tables)
    (secondRegistered : second ∈ registry.tables) :
    leadingLetters first.aliasName = leadingLetters second.aliasName ↔
      first.group = second.group := by
  obtain ⟨firstPosition, _, firstGroup, firstAlias⟩ := lettered first firstRegistered
  obtain ⟨secondPosition, _, secondGroup, secondAlias⟩ := lettered second secondRegistered
  rw [firstAlias, secondAlias, leadingLetters_letters, leadingLetters_letters,
    Namer.lettersOf_injective.eq_iff]
  constructor
  · rintro rfl
    rw [firstGroup] at secondGroup
    exact Option.some.inj secondGroup
  · intro same
    refine (List.getElem?_inj (List.getElem?_eq_some_iff.mp firstGroup).1 names).mp ?_
    rw [firstGroup, secondGroup, same]

/-- What an operation does to the tables that are registered. -/
inductive Edits (before after : Registry) : Prop
  | kept : after = before → Edits before after
  | added (ref : TableRef) (kind : JoinKind) :
      before.get? ref.aliasName = none → after = before.insert ref (some kind) →
      Edits before after
  | removed (aliasName : String) : after = before.erase aliasName → Edits before after

end Registry

namespace QueryBlock

variable {block first second : QueryBlock}

/-- What an operation does to what aliases depend on. -/
structure EditsTables (first second : QueryBlock) : Prop where
  primary_eq : second.primary = first.primary
  depth_eq : second.depth = first.depth
  registry : first.registry.Edits second.registry

theorem Becomes.editsTables (becomes : Becomes first second) : EditsTables first second := by
  have depth_eq : second.depth = first.depth := congrArg List.length becomes.identity_eq.2
  cases becomes.editsJoins with
  | kept registry_eq primary_eq _ _ => exact ⟨primary_eq, depth_eq, .kept registry_eq⟩
  | reordered registry_eq primary_eq _ _ => exact ⟨primary_eq, depth_eq, .kept registry_eq⟩
  | joined spec second_eq =>
      rcases first.join_state_cases spec with unchanged | ⟨source, target, _, free, appended⟩
      · rw [second_eq, unchanged]
        exact ⟨rfl, rfl, .kept rfl⟩
      · refine ⟨?_, depth_eq, .added target (.keyed spec.kind) free ?_⟩
        · rw [second_eq, appended, primary_appendKeyedJoin]
        · rw [second_eq, appended, registry_appendKeyedJoin]
  | crossJoined table aliasName group second_eq =>
      rcases first.crossJoin_state_cases table aliasName group with
        unchanged | ⟨target, free, appended⟩
      · rw [second_eq, unchanged]
        exact ⟨rfl, rfl, .kept rfl⟩
      · rw [second_eq, appended]
        exact ⟨rfl, rfl, .added target .cross free rfl⟩
  | removed aliasName second_eq =>
      rw [second_eq, QueryBlock.removeCrossJoin]
      split
      · exact ⟨rfl, rfl, .removed aliasName rfl⟩
      · exact ⟨rfl, rfl, .kept rfl⟩

theorem EditedTo.editsTables (edited : EditedTo first second) : EditsTables first second := by
  rcases edited with becomes | readied
  · exact becomes.editsTables
  · rw [readied.eq]
    exact ⟨rfl, rfl, .kept rfl⟩

/-- Every table that is new has the alias that the scheme of letters gives it. -/
def NamesByAlpha (before after : QueryBlock) : Prop :=
  ∀ ref ∈ after.registry.tables, ref ∉ before.registry.tables →
    ref.aliasName = Namer.alpha before.namingContext ref.table ref.group

/-- Tables keep their letters when all that are new get their aliases from the scheme. -/
theorem EditsTables.lettered
    (edits : EditsTables first second)
    (named : NamesByAlpha first second)
    (lettered : first.registry.Lettered first.depth) :
    second.registry.Lettered second.depth := by
  rw [edits.depth_eq]
  cases edits.registry with
  | kept registry_eq => exact registry_eq ▸ lettered
  | removed aliasName registry_eq => exact registry_eq ▸ lettered.erase aliasName
  | added ref kind free registry_eq =>
      rw [registry_eq]
      refine lettered.insert (named ref ?_ ?_) (some kind)
      · rw [registry_eq, Registry.tables_insert]
        exact List.mem_append_right _ (List.mem_singleton_self ref)
      · exact fun registered => Registry.get?_eq_none_iff.mp free ref registered rfl

/-- A block that only loses tables, or none, names nothing. -/
theorem NamesByAlpha.of_subset
    (subset : second.registry.tables ⊆ first.registry.tables) : NamesByAlpha first second :=
  fun _ registered isNew => absurd (subset registered) isNew

/-- A block with one table more, whose alias was generated by the scheme of letters. -/
theorem NamesByAlpha.of_resolveTarget
    {table : Table}
    {group : Option String}
    {target : TableRef}
    {kind : Option JoinKind}
    (alpha : block.namer = Namer.alpha)
    (resolves : block.resolveTarget table none group = .ok (.added target))
    (registry_eq : second.registry = block.registry.insert target kind) :
    NamesByAlpha block second := by
  intro ref registered isNew
  rw [registry_eq, Registry.tables_insert, List.mem_append, List.mem_singleton] at registered
  obtain rfl := registered.resolve_left isNew
  simp only [resolveTarget, Option.getD_none] at resolves
  split at resolves
  · cases resolves
    rw [alpha]
  · split at resolves <;> cases resolves

/-- A join that asks for no alias has it generated. -/
theorem namesByAlpha_join
    {spec : JoinSpec}
    (alpha : block.namer = Namer.alpha)
    (unnamed : spec.aliasName = none) :
    NamesByAlpha block (block.join spec).state ∧ (block.join spec).state.namer = Namer.alpha := by
  have unchanged : NamesByAlpha block block ∧ block.namer = Namer.alpha :=
    ⟨.of_subset (List.Subset.refl _), alpha⟩
  rw [join, unnamed]
  split
  · exact unchanged
  · split
    · exact unchanged
    · exact unchanged
    · rename_i target resolves
      split
      · exact unchanged
      · refine ⟨.of_resolveTarget alpha resolves (registry_appendKeyedJoin ..), ?_⟩
        exact (namer_appendKeyedJoin ..).trans alpha

theorem namesByAlpha_crossJoin
    (alpha : block.namer = Namer.alpha)
    (table : Table)
    (group : Option String) :
    NamesByAlpha block (block.crossJoin table none group).state ∧
      (block.crossJoin table none group).state.namer = Namer.alpha := by
  have unchanged : NamesByAlpha block block ∧ block.namer = Namer.alpha :=
    ⟨.of_subset (List.Subset.refl _), alpha⟩
  rw [crossJoin]
  split
  · exact unchanged
  · exact unchanged
  · rename_i target resolves
    exact ⟨.of_resolveTarget alpha resolves rfl, alpha⟩

theorem namesByAlpha_removeCrossJoin
    (alpha : block.namer = Namer.alpha)
    (aliasName : String) :
    NamesByAlpha block (block.removeCrossJoin aliasName) ∧
      (block.removeCrossJoin aliasName).namer = Namer.alpha := by
  rw [removeCrossJoin]
  split
  · exact ⟨.of_subset fun _ => List.mem_of_mem_eraseP, alpha⟩
  · exact ⟨.of_subset (List.Subset.refl _), alpha⟩

/-- The primary table has the alias that the scheme of letters gives it. -/
def PrimaryByAlpha (block : QueryBlock) : Prop :=
  block.primary.aliasName =
    Namer.alpha { registry := .empty, depth := block.depth } block.primary.table
      block.primary.group

instance (block : QueryBlock) : Decidable block.PrimaryByAlpha :=
  inferInstanceAs (Decidable (_ = _))

end QueryBlock

/-- The operation joins a table without asking for an alias, or removes a cross join. -/
def Operation.GeneratesAlias : Operation → Prop
  | .join spec => spec.aliasName = none
  | .crossJoin _ aliasName _ => aliasName = none
  | .removeCrossJoin _ => True
  | _ => False

namespace Statement

/-- A step gives every table that it brings into the statement itself an alias by the scheme
of letters. -/
def NamesByAlpha (before after : Statement) : Prop :=
  before.block.NamesByAlpha after.block

/-- Where all aliases come from the scheme of letters, all tables have the letters of their
groups. -/
theorem ReachedBy.lettered
    {statement : Statement}
    (reached : ReachedBy NamesByAlpha statement)
    (primary : statement.block.PrimaryByAlpha) :
    statement.block.registry.Lettered statement.block.depth := by
  induction reached with
  | built built =>
      obtain ⟨namer, ref, rfl⟩ := exists_ofPrimary_of_build built
      have nothing : ∀ depth, Registry.empty.Lettered depth :=
        fun _ _ registered => nomatch registered
      exact (nothing _).insert primary none
  | step _ _ operated named lettered _ =>
      have edits := (editedTo_onBranch_run operated).editsTables
      rw [QueryBlock.PrimaryByAlpha, edits.primary_eq, edits.depth_eq] at primary
      exact edits.lettered named (lettered primary)

/-- Joins that ask for no alias, and removals of cross joins, name by the scheme of letters
where the statement does. -/
theorem namesByAlpha_run
    {operation : Operation}
    (generates : operation.GeneratesAlias)
    {statement : Statement}
    (alpha : statement.block.namer = Namer.alpha) :
    NamesByAlpha statement (operation.run statement).state ∧
      (operation.run statement).state.block.namer = Namer.alpha := by
  cases operation with
  | join spec =>
      simp only [Operation.run, Outcome.state_map, join]
      split
      · exact ⟨.of_subset (List.Subset.refl _), alpha⟩
      · rw [NamesByAlpha, block_spreadJoin]
        exact QueryBlock.namesByAlpha_join alpha generates
  | crossJoin table aliasName group =>
      obtain rfl : aliasName = none := generates
      rw [NamesByAlpha, Operation.run, Outcome.state_map, block_crossJoin]
      exact QueryBlock.namesByAlpha_crossJoin alpha table group
  | removeCrossJoin aliasName =>
      rw [NamesByAlpha, Operation.run, Outcome.state_ok, removeCrossJoin]
      cases statement with
      | node root branches => exact QueryBlock.namesByAlpha_removeCrossJoin alpha aliasName
  | _ => cases generates

/-- A run of such operations on a statement whose aliases come from the scheme of letters. -/
theorem ReachedBy.runAll_of_generatesAlias
    {operations : List Operation}
    (generate : ∀ operation ∈ operations, operation.GeneratesAlias)
    {statement : Statement}
    (reached : ReachedBy NamesByAlpha statement)
    (alpha : statement.block.namer = Namer.alpha) :
    ReachedBy NamesByAlpha (statement.runAll operations) := by
  induction operations generalizing statement with
  | nil => exact reached
  | cons operation operations inductionHypothesis =>
      rw [List.forall_mem_cons] at generate
      obtain ⟨named, stillAlpha⟩ := namesByAlpha_run generate.1 alpha
      have notUnion : ∀ other, operation = .union other → ReachedBy NamesByAlpha other := by
        rintro other rfl
        cases generate.1
      exact inductionHypothesis generate.2 (reached.run operation notUnion named) stillAlpha

/-- Where all aliases come from the scheme of letters, the alias of each table is the letters
of the position of its group, a number, and one piece for each level of nesting. So two
tables have the same letters exactly if they are in one group. A table that is joined
without a group founds a group whose name is new. -/
theorem ReachedBy.letters_identify_groups
    {statement : Statement}
    (reached : ReachedBy NamesByAlpha statement)
    (primary : statement.block.PrimaryByAlpha) :
    let registry := statement.block.registry
    (∀ ref ∈ registry.tables, ∃ position group, ∃ number : Nat,
        registry.groups[position]? = some group ∧ ref ∈ group.tables ∧
          ref.aliasName = Namer.letters position ++ toString number ++
            String.join (List.replicate statement.block.depth "_SUB")) ∧
      (∀ first ∈ registry.tables, ∀ second ∈ registry.tables,
        (leadingLetters first.aliasName = leadingLetters second.aliasName ↔
          ∃ group ∈ registry.groups, first ∈ group.tables ∧ second ∈ group.tables)) ∧
      (∀ spec target, spec.group = none → (statement.join spec).result = .ok target →
        target ∈ registry.tables ∨ registry.hasGroup target.group = false) ∧
      ∀ table aliasName target,
        (statement.crossJoin table aliasName none).result = .ok target →
          target ∈ registry.tables ∨ registry.hasGroup target.group = false := by
  intro registry
  have lettered := reached.lettered primary
  have catalogues := (reached.reachable.catalogued _ statement.block_mem_blocks).2
  refine ⟨?_, ?_, fun _ _ => mem_or_isNew_of_join, fun _ _ _ => mem_or_isNew_of_crossJoin⟩
  · intro ref registered
    obtain ⟨position, number, named, alias_eq⟩ := lettered ref registered
    rw [Registry.groupNames, List.getElem?_map, Option.map_eq_some_iff] at named
    obtain ⟨group, atPosition, named⟩ := named
    refine ⟨position, group, number, atPosition, ?_, alias_eq⟩
    rw [catalogues.mem_tables_iff (List.mem_of_getElem? atPosition)]
    exact ⟨registered, named.symm⟩
  · intro first firstRegistered second secondRegistered
    rw [lettered.leadingLetters_eq_iff catalogues.names firstRegistered secondRegistered]
    exact catalogues.group_eq_iff firstRegistered secondRegistered

/-- People inside another statement, under an alias that is generated. -/
def peopleInside : Statement :=
  .single (.ofPrimary ⟨2⟩ [⟨1⟩] (.ofCapabilities {}) Namer.alpha {}
    { table := { name := "person" }
      aliasName := Namer.alpha { registry := .empty, depth := 1 } { name := "person" } primaryGroup
      group := primaryGroup })

/-- Cities are joined into a group whose name looks generated, and removed; the phones that
come into the empty group get the letter of the cities. -/
theorem letters_identify_groups_peopleInside :
    let joined := peopleInside.runAll
      [.crossJoin { name := "city" } none (some "Group2"),
        .crossJoin { name := "street" } none none,
        .removeCrossJoin "B0_SUB",
        .crossJoin { name := "lamp" } none (some "Group3"),
        .crossJoin { name := "river" } none none,
        .join { kind := .inner, table := { name := "phone" }, group := some "Group2" }]
    joined.block.registry.tables.map (fun ref => (ref.aliasName, ref.group)) =
        [("A0_SUB", "Group0"), ("C0_SUB", "Group3"), ("C1_SUB", "Group3"),
          ("D0_SUB", "Group4"), ("B0_SUB", "Group2")] ∧
      ∀ first ∈ joined.block.registry.tables, ∀ second ∈ joined.block.registry.tables,
        (leadingLetters first.aliasName = leadingLetters second.aliasName ↔
          ∃ group ∈ joined.block.registry.groups,
            first ∈ group.tables ∧ second ∈ group.tables) := by
  intro joined
  have built : ReachedBy NamesByAlpha peopleInside :=
    @ReachedBy.built _
      { dialect := .ofCapabilities {}, table := { name := "person" }, ancestry := [⟨1⟩] }
      .standard ⟨2⟩ _ rfl
  have reached : ReachedBy NamesByAlpha joined :=
    built.runAll_of_generatesAlias (by simp [Operation.GeneratesAlias]) rfl
  obtain ⟨_, sameLetters, _⟩ := reached.letters_identify_groups (by decide +kernel)
  exact ⟨by decide +kernel, sameLetters⟩

end Statement
end SqlBuilder
