import SqlBuilder.Proofs.Join.Spreading

/-!
# Joins that are repeated

A join under an alias that is given, once it has succeeded, finds its target wherever it
went. To ask for it again at once answers with the same reference and changes no block of
the tree. What happened in a block at the first time makes no difference, whether the table
came in new or was there already. The same goes for cross joins.
-/

namespace SqlBuilder

/-- The reference that a join finds or makes. -/
def JoinTarget.ref : JoinTarget → TableRef
  | .added ref => ref
  | .present ref => ref

namespace QueryBlock

variable {block : QueryBlock} {spec : JoinSpec} {target : TableRef}

/-- A join that succeeds answers with the target that it settles on. -/
theorem exists_resolveTarget_of_result_join
    (joined : (block.join spec).result = .ok target) :
    ∃ resolved, block.resolveTarget spec.table spec.aliasName spec.group = .ok resolved ∧
      resolved.ref = target := by
  rw [join] at joined
  split at joined
  · cases joined
  · split at joined
    · cases joined
    · rename_i present resolved
      cases joined
      exact ⟨_, resolved, rfl⟩
    · rename_i added resolved
      split at joined
      · cases joined
      · cases joined
        exact ⟨_, resolved, rfl⟩

theorem exists_resolveTarget_of_result_crossJoin
    {table : Table}
    {aliasName group : Option String}
    (joined : (block.crossJoin table aliasName group).result = .ok target) :
    ∃ resolved, block.resolveTarget table aliasName group = .ok resolved ∧
      resolved.ref = target := by
  rw [crossJoin] at joined
  split at joined
  · cases joined
  · rename_i present resolved
    cases joined
    exact ⟨_, resolved, rfl⟩
  · rename_i added resolved
    cases joined
    exact ⟨_, resolved, rfl⟩

/-- A table that is asked for under the alias that it has is found. -/
theorem resolveTarget_of_get?
    {table : Table}
    (found : block.registry.get? target.aliasName = some target)
    (sameName : target.table.name = table.name)
    (group : Option String) :
    block.resolveTarget table (some target.aliasName) group = .ok (.present target) := by
  simp only [resolveTarget, Option.getD_some, found, if_pos sameName]

/-- The source of a join is found again once the join has been made. -/
theorem resolveSource_join
    {asked : JoinSource}
    {source : TableRef}
    (resolved : block.resolveSource asked = .ok source)
    (spec : JoinSpec) : (block.join spec).state.resolveSource asked = .ok source := by
  rcases block.join_state_cases spec with unchanged | ⟨other, added, _, _, appended⟩
  · rw [unchanged]
    exact resolved
  · rw [appended]
    cases asked with
    | primary =>
        rw [resolveSource, primary_appendKeyedJoin]
        exact resolved
    | registered aliasName =>
        have found : block.registry.get? aliasName = some source :=
          startsFrom_of_resolveSource resolved
        have stillFound := Registry.get?_insert_of_eq_some found added (some (.keyed spec.kind))
        simp only [resolveSource, registry_appendKeyedJoin, stillFound]

/-- A join that succeeds leaves its target under its alias, and has found its source. -/
theorem found_of_result_join
    (joined : (block.join spec).result = .ok target) :
    (block.join spec).state.registry.get? target.aliasName = some target ∧
      target.table.name = spec.table.name ∧
      (∀ name, spec.aliasName = some name → target.aliasName = name) ∧
      ∃ source, block.resolveSource spec.source = .ok source := by
  rw [join] at joined ⊢
  split at joined
  · cases joined
  · rename_i source sourceFound
    split at joined
    · cases joined
    · rename_i present resolved
      cases joined
      obtain ⟨sameName, found, alias_eq⟩ := target_of_resolveTarget resolved
      exact ⟨found, sameName, alias_eq, source, sourceFound⟩
    · rename_i added resolved
      split at joined
      · cases joined
      · rename_i supported
        cases joined
        obtain ⟨sameTable, alias_eq⟩ := target_of_resolveTarget resolved
        have free := get?_eq_none_of_resolveTarget resolved
        rw [if_neg supported, Outcome.state_ok, registry_appendKeyedJoin]
        exact ⟨Registry.get?_insert_self free _, congrArg Table.name sameTable, alias_eq,
          source, sourceFound⟩

/-- A block ignores a join that it has made under an alias that was given. -/
theorem join_join
    {name : String}
    (named : spec.aliasName = some name)
    (joined : (block.join spec).result = .ok target) :
    (block.join spec).state.join spec =
      { state := (block.join spec).state
        result := .ok target
        events := [.joinIgnored name spec.table.name] } := by
  obtain ⟨found, sameName, alias_eq, source, sourceFound⟩ := found_of_result_join joined
  obtain rfl := alias_eq name named
  have sourceAgain := resolveSource_join sourceFound spec
  have targetAgain := resolveTarget_of_get? found sameName spec.group
  rw [join, sourceAgain, named, targetAgain]
  dsimp only
  rw [sameName]

/-- A cross join that succeeds leaves its target under its alias. -/
theorem found_of_result_crossJoin
    {table : Table}
    {aliasName group : Option String}
    (joined : (block.crossJoin table aliasName group).result = .ok target) :
    (block.crossJoin table aliasName group).state.registry.get? target.aliasName =
        some target ∧
      target.table.name = table.name ∧
      ∀ name, aliasName = some name → target.aliasName = name := by
  rw [crossJoin] at joined ⊢
  split at joined
  · cases joined
  · rename_i present resolved
    cases joined
    obtain ⟨sameName, found, alias_eq⟩ := target_of_resolveTarget resolved
    exact ⟨found, sameName, alias_eq⟩
  · rename_i added resolved
    cases joined
    obtain ⟨sameTable, alias_eq⟩ := target_of_resolveTarget resolved
    have free := get?_eq_none_of_resolveTarget resolved
    exact ⟨Registry.get?_insert_self free _, congrArg Table.name sameTable, alias_eq⟩

/-- A block ignores a cross join that it has made under an alias that was given. -/
theorem crossJoin_crossJoin
    {table : Table}
    {name : String}
    {group : Option String}
    (joined : (block.crossJoin table (some name) group).result = .ok target) :
    (block.crossJoin table (some name) group).state.crossJoin table (some name) group =
      .ok (block.crossJoin table (some name) group).state target := by
  obtain ⟨found, sameName, alias_eq⟩ := found_of_result_crossJoin joined
  obtain rfl := alias_eq name rfl
  rw [crossJoin, resolveTarget_of_get? found sameName group]

end QueryBlock

namespace Statement

variable {spec : JoinSpec} {target : TableRef}

/-- Branches that each ignore a join which they have made ignore it one after the other. -/
theorem spreadJoinToBranches_again
    {event : Event}
    {branches : List Statement}
    (joined : (spreadJoinToBranches spec branches).result = .ok ())
    (again : ∀ branch ∈ branches, ∀ target, (branch.spreadJoin spec).result = .ok target →
      (branch.spreadJoin spec).state.spreadJoin spec =
        { state := (branch.spreadJoin spec).state
          result := .ok target
          events := List.replicate branch.blocks.length event }) :
    spreadJoinToBranches spec (spreadJoinToBranches spec branches).state =
      { state := (spreadJoinToBranches spec branches).state
        result := .ok ()
        events := List.replicate (branches.flatMap blocks).length event } := by
  induction branches with
  | nil => rfl
  | cons branch rest inductionHypothesis =>
      rw [List.forall_mem_cons] at again
      rw [spreadJoinToBranches] at joined ⊢
      cases branchJoined : (branch.spreadJoin spec).result with
      | error error =>
          rw [branchJoined] at joined
          cases joined
      | ok target =>
          simp only [branchJoined] at joined ⊢
          have branchAgain := again.1 target branchJoined
          have restAgain := inductionHypothesis joined again.2
          rw [spreadJoinToBranches, branchAgain, restAgain, List.flatMap_cons,
            List.length_append, List.replicate_add]

/-- A join that spreads succeeds as it does at the root, and in all branches if it goes
there. -/
theorem result_spreadJoin_eq_ok
    {root : QueryBlock}
    {branches : List Statement}
    (joined : ((node root branches).spreadJoin spec).result = .ok target) :
    (root.join spec).result = .ok target ∧
      (spec.everywhere = true →
        (spreadJoinToBranches (spec.resolvedTo target) branches).result = .ok ()) := by
  rw [spreadJoin] at joined
  cases rootJoined : (root.join spec).result with
  | error error => simp [rootJoined, Outcome.mapState] at joined
  | ok rootTarget =>
      simp only [rootJoined] at joined
      split at joined
      · cases othersJoined :
          (spreadJoinToBranches (spec.resolvedTo rootTarget) branches).result with
        | error error => simp [othersJoined, Except.map] at joined
        | ok _ =>
            obtain rfl : rootTarget = target := by simpa [othersJoined, Except.map] using joined
            exact ⟨rfl, fun _ => othersJoined⟩
      · rename_i notEverywhere
        obtain rfl : rootTarget = target := by simpa [Outcome.mapState, rootJoined] using joined
        exact ⟨rfl, fun everywhere => absurd everywhere notEverywhere⟩

/-- A join that succeeds at the root and in all branches. -/
theorem spreadJoin_eq_of_everywhere
    {root : QueryBlock}
    {branches : List Statement}
    (everywhere : spec.everywhere = true)
    (rootJoined : (root.join spec).result = .ok target)
    (othersJoined : (spreadJoinToBranches (spec.resolvedTo target) branches).result = .ok ()) :
    let others := spreadJoinToBranches (spec.resolvedTo target) branches
    (node root branches).spreadJoin spec =
      { state := .node (root.join spec).state others.state
        result := .ok target
        events := (root.join spec).events ++ others.events } := by
  simp only [spreadJoin, rootJoined, everywhere, ↓reduceIte, othersJoined, Except.map]

/-- A join that succeeds at the root and goes no further. -/
theorem spreadJoin_eq_of_not_everywhere
    {root : QueryBlock}
    {branches : List Statement}
    (notEverywhere : spec.everywhere = false)
    (rootJoined : (root.join spec).result = .ok target) :
    (node root branches).spreadJoin spec =
      (root.join spec).mapState fun state => .node state branches := by
  simp only [spreadJoin, rootJoined, notEverywhere, Bool.false_eq_true, ↓reduceIte]

/-- A tree ignores a join that it has made under an alias that was given, in every block
that the join goes to. -/
theorem spreadJoin_spreadJoin
    {statement : Statement}
    {name : String}
    (named : spec.aliasName = some name)
    (joined : (statement.spreadJoin spec).result = .ok target) :
    (statement.spreadJoin spec).state.spreadJoin spec =
      { state := (statement.spreadJoin spec).state
        result := .ok target
        events := List.replicate (if spec.everywhere then statement.blocks.length else 1)
          (.joinIgnored name spec.table.name) } := by
  induction statement generalizing spec name target with
  | node root branches inductionHypothesis =>
      obtain ⟨rootJoined, othersJoined⟩ := result_spreadJoin_eq_ok joined
      obtain ⟨_, _, alias_eq, _⟩ := QueryBlock.found_of_result_join rootJoined
      obtain rfl := alias_eq name named
      have rootAgain := QueryBlock.join_join named rootJoined
      have rootJoinedAgain := congrArg Outcome.result rootAgain
      cases everywhere : spec.everywhere with
      | false =>
          rw [spreadJoin_eq_of_not_everywhere everywhere rootJoined, Outcome.mapState,
            spreadJoin_eq_of_not_everywhere everywhere rootJoinedAgain, rootAgain]
          rfl
      | true =>
          have branchesJoined := othersJoined everywhere
          have branchesAgain := spreadJoinToBranches_again branchesJoined
            fun branch member branchTarget branchJoined => by
              rw [inductionHypothesis branch member rfl branchJoined]
              simp only [JoinSpec.resolvedTo, everywhere, ↓reduceIte]
              rfl
          have branchesJoinedAgain := congrArg Outcome.result branchesAgain
          rw [spreadJoin_eq_of_everywhere everywhere rootJoined branchesJoined]
          dsimp only
          rw [spreadJoin_eq_of_everywhere everywhere rootJoinedAgain branchesJoinedAgain,
            rootAgain, branchesAgain, blocks_node, List.length_cons]
          rfl

/-! ## Cross joins -/

/-- Branches that each ignore a cross join which they have made ignore it one after the
other. -/
theorem crossJoinToBranches_again
    {table : Table}
    {branches : List Statement}
    (joined : (crossJoinToBranches table target branches).result = .ok ())
    (again : ∀ branch ∈ branches, ∀ other,
      (crossJoin table (some target.aliasName) (some target.group) branch).result = .ok other →
      crossJoin table (some target.aliasName) (some target.group)
          (crossJoin table (some target.aliasName) (some target.group) branch).state =
        .ok (crossJoin table (some target.aliasName) (some target.group) branch).state other) :
    crossJoinToBranches table target (crossJoinToBranches table target branches).state =
      .ok (crossJoinToBranches table target branches).state () := by
  induction branches with
  | nil => rfl
  | cons branch rest inductionHypothesis =>
      rw [List.forall_mem_cons] at again
      rw [crossJoinToBranches] at joined ⊢
      cases branchJoined :
        (crossJoin table (some target.aliasName) (some target.group) branch).result with
      | error error =>
          rw [branchJoined] at joined
          cases joined
      | ok other =>
          simp only [branchJoined] at joined ⊢
          have branchAgain := again.1 other branchJoined
          have restAgain := inductionHypothesis joined again.2
          rw [crossJoinToBranches, branchAgain, restAgain]
          rfl

/-- A cross join succeeds as it does at the root, and in all branches. -/
theorem result_crossJoin_eq_ok
    {root : QueryBlock}
    {branches : List Statement}
    {table : Table}
    {aliasName group : Option String}
    (joined : ((node root branches).crossJoin table aliasName group).result = .ok target) :
    (root.crossJoin table aliasName group).result = .ok target ∧
      (crossJoinToBranches table target branches).result = .ok () := by
  rw [crossJoin] at joined
  cases rootJoined : (root.crossJoin table aliasName group).result with
  | error error => simp [rootJoined, Outcome.mapState] at joined
  | ok rootTarget =>
      simp only [rootJoined] at joined
      cases othersJoined : (crossJoinToBranches table rootTarget branches).result with
      | error error => simp [othersJoined, Except.map] at joined
      | ok _ =>
          obtain rfl : rootTarget = target := by simpa [othersJoined, Except.map] using joined
          exact ⟨rfl, othersJoined⟩

/-- A cross join that succeeds at the root and in all branches. -/
theorem crossJoin_eq_of_result
    {root : QueryBlock}
    {branches : List Statement}
    {table : Table}
    {aliasName group : Option String}
    (rootJoined : (root.crossJoin table aliasName group).result = .ok target)
    (othersJoined : (crossJoinToBranches table target branches).result = .ok ()) :
    let others := crossJoinToBranches table target branches
    (node root branches).crossJoin table aliasName group =
      { state := .node (root.crossJoin table aliasName group).state others.state
        result := .ok target
        events := (root.crossJoin table aliasName group).events ++ others.events } := by
  simp only [crossJoin, rootJoined, othersJoined, Except.map]

/-- A tree ignores a cross join that it has made under an alias that was given. -/
theorem crossJoin_crossJoin
    {statement : Statement}
    {table : Table}
    {name : String}
    {group : Option String}
    (joined : (statement.crossJoin table (some name) group).result = .ok target) :
    (statement.crossJoin table (some name) group).state.crossJoin table (some name) group =
      .ok (statement.crossJoin table (some name) group).state target := by
  induction statement generalizing name group target with
  | node root branches inductionHypothesis =>
      obtain ⟨rootJoined, branchesJoined⟩ := result_crossJoin_eq_ok joined
      have rootAgain := QueryBlock.crossJoin_crossJoin rootJoined
      have rootJoinedAgain := congrArg Outcome.result rootAgain
      have branchesAgain := crossJoinToBranches_again branchesJoined
        fun branch member other branchJoined => inductionHypothesis branch member branchJoined
      have branchesJoinedAgain := congrArg Outcome.result branchesAgain
      rw [crossJoin_eq_of_result rootJoined branchesJoined]
      dsimp only
      rw [crossJoin_eq_of_result rootJoinedAgain branchesJoinedAgain, rootAgain, branchesAgain]
      rfl

/-- A join under an alias that is given, or a cross join under one, is ignored when it is
asked for again after it has succeeded: it answers with the same reference, and no block of
the tree changes. Each block that the join goes to reports that it ignores it. -/
theorem join_again
    (statement : Statement)
    {name : String}
    {target : TableRef} :
    (∀ spec : JoinSpec, spec.aliasName = some name →
      (statement.join spec).result = .ok target →
      (statement.join spec).state.join spec =
        { state := (statement.join spec).state
          result := .ok target
          events := List.replicate (if spec.everywhere then statement.blocks.length else 1)
            (.joinIgnored name spec.table.name) }) ∧
    ∀ table group, (statement.crossJoin table (some name) group).result = .ok target →
      (statement.crossJoin table (some name) group).state.crossJoin table (some name) group =
        .ok (statement.crossJoin table (some name) group).state target := by
  refine ⟨fun spec named joined => ?_, fun table group => crossJoin_crossJoin⟩
  rw [join] at joined ⊢
  split at joined
  · cases joined
  · rename_i checked
    rw [join, checked]
    exact spreadJoin_spreadJoin named joined

/-- Cats and dogs are joined twice, to people that have them already, to people that do not,
and to people in a dialect without join syntax. So are all cities. -/
theorem join_again_levelsOfPeople :
    let spec := { catsAndDogs with aliasName := some "B0" }
    let once := levelsOfPeople.join spec
    let city : Table := { name := "city" }
    let crossed := levelsOfPeople.crossJoin city (some "X") none
    levelsOfPeople.blocks.map (·.joins.length) = [0, 1, 0] ∧
      once.state.blocks.map (·.joins.length) = [1, 1, 1] ∧
      once.state.join spec =
        { state := once.state
          result := .ok { table := catsAndDogs.table, aliasName := "B0", group := "Group1" }
          events := List.replicate 3 (.joinIgnored "B0" "animal") } ∧
      crossed.state.crossJoin city (some "X") none =
        .ok crossed.state { table := city, aliasName := "X", group := "Group1" } := by
  intro spec once city crossed
  have joined : (levelsOfPeople.join spec).result =
      .ok { table := catsAndDogs.table, aliasName := "B0", group := "Group1" } := by
    decide +kernel
  have crossJoined : (levelsOfPeople.crossJoin city (some "X") none).result =
      .ok { table := city, aliasName := "X", group := "Group1" } := by
    decide +kernel
  refine ⟨by decide +kernel, by decide +kernel, ?_, ?_⟩
  · exact (join_again levelsOfPeople).1 spec rfl joined
  · exact (join_again levelsOfPeople).2 city none crossJoined

end Statement
end SqlBuilder
