import SqlBuilder.Proofs.BlockHistory

/-!
# The history of a tree

A union apart, an operation keeps the shape of a tree and leaves at every place
an edited version of the block that stood there. What no edit breaks
therefore holds of every block of every reachable tree.
-/

namespace SqlBuilder
namespace Statement

/-! ## Walks through a tree -/

section Walks

variable {relation : QueryBlock → QueryBlock → Prop}

theorem related_modifyBlock
    {change : QueryBlock → QueryBlock}
    (reflexive : ∀ block, relation block block)
    (related : ∀ block, relation block (change block))
    (statement : Statement) :
    Related relation statement (statement.modifyBlock change) := by
  cases statement with
  | node root branches =>
      exact .node (related root) (List.forall₂_same.mpr fun _ _ => .refl reflexive _)

theorem related_modify
    {change : QueryBlock → QueryBlock}
    (reflexive : ∀ block, relation block block)
    (related : ∀ block, relation block (change block))
    (everywhere : Bool)
    (statement : Statement) :
    Related relation statement (statement.modify everywhere change) := by
  unfold modify
  split
  · exact related_mapBlocks related statement
  · exact related_modifyBlock reflexive related statement

theorem related_branches_spreadJoin
    (reflexive : ∀ block, relation block block)
    (spec : JoinSpec)
    (branches : List Statement)
    (related : ∀ branch ∈ branches,
      Related relation branch (branch.spreadJoin spec).state) :
    List.Forall₂ (Related relation) branches (spreadJoinToBranches spec branches).state := by
  induction branches with
  | nil => exact .nil
  | cons branch rest inductionHypothesis =>
      rw [List.forall_mem_cons] at related
      rw [spreadJoinToBranches]
      split
      · exact .cons related.1 (List.forall₂_same.mpr fun _ _ => .refl reflexive _)
      · exact .cons related.1 (inductionHypothesis related.2)

/-- A join that spreads does nothing to a block but join a table to it. -/
theorem related_spreadJoin
    (reflexive : ∀ block, relation block block)
    (joined : ∀ block spec, relation block (block.join spec).state)
    (spec : JoinSpec)
    (statement : Statement) :
    Related relation statement (statement.spreadJoin spec).state := by
  induction statement generalizing spec with
  | node root branches inductionHypothesis =>
      rw [spreadJoin]
      split
      · exact .node (joined root spec) (List.forall₂_same.mpr fun _ _ => .refl reflexive _)
      · split
        · exact .node (joined root spec)
            (related_branches_spreadJoin reflexive _ branches fun branch member =>
              inductionHypothesis branch member _)
        · exact .node (joined root spec)
            (List.forall₂_same.mpr fun _ _ => .refl reflexive _)

theorem related_branches_crossJoin
    (reflexive : ∀ block, relation block block)
    (table : Table)
    (target : TableRef)
    (branches : List Statement)
    (related : ∀ branch ∈ branches, Related relation branch
      (crossJoin table (some target.aliasName) (some target.group) branch).state) :
    List.Forall₂ (Related relation) branches
      (crossJoinToBranches table target branches).state := by
  induction branches with
  | nil => exact .nil
  | cons branch rest inductionHypothesis =>
      rw [List.forall_mem_cons] at related
      rw [crossJoinToBranches]
      split
      · exact .cons related.1 (List.forall₂_same.mpr fun _ _ => .refl reflexive _)
      · exact .cons related.1 (inductionHypothesis related.2)

/-- A cross join that spreads does nothing to a block but cross join a table to
it. -/
theorem related_crossJoin
    (reflexive : ∀ block, relation block block)
    (joined : ∀ block table aliasName group,
      relation block (block.crossJoin table aliasName group).state)
    (table : Table)
    (aliasName group : Option String)
    (statement : Statement) :
    Related relation statement (statement.crossJoin table aliasName group).state := by
  induction statement generalizing aliasName group with
  | node root branches inductionHypothesis =>
      rw [crossJoin]
      split
      · exact .node (joined root _ _ _)
          (List.forall₂_same.mpr fun _ _ => .refl reflexive _)
      · exact .node (joined root _ _ _)
          (related_branches_crossJoin reflexive _ _ branches fun branch member =>
            inductionHypothesis branch member _ _)

end Walks

/-! ## Rendering a SELECT -/

/-- The ways in which the rendering of a SELECT can go, with what it leaves
behind. -/
inductive SelectOutcome
    (waiting : List SelectedItem)
    (root : QueryBlock)
    (branches : List Statement) : Outcome Statement SelectQuery → Prop
  /-- The last SELECT is up to date. -/
  | kept (query : SelectQuery) :
      (root.addItems waiting).cachedSelect? = some query →
      SelectOutcome waiting root branches
        (.ok (.node (root.addItems waiting)
          (branches.map (mapBlocks (·.addItems waiting)))) query)
  /-- The joins cannot be put in order. -/
  | unordered (error : StatementError) :
      (root.addItems waiting).cachedSelect? = none →
      (root.addItems waiting).reorderJoins.result = .error error →
      SelectOutcome waiting root branches
        (.fail (.node (root.addItems waiting).reorderJoins.state
          (branches.map (mapBlocks (·.addItems waiting)))) error)
  /-- Some branch cannot be rendered. -/
  | stopped (error : StatementError) (events : List Event) :
      (root.addItems waiting).cachedSelect? = none →
      (root.addItems waiting).reorderJoins.result = .ok () →
      (renderBranches (waiting ++ (root.addItems waiting).reorderJoins.state.orderingItems)
        branches).result = .error error →
      SelectOutcome waiting root branches
        { state := .node (root.addItems waiting).readied
            (renderBranches
              (waiting ++ (root.addItems waiting).reorderJoins.state.orderingItems)
              branches).state
          result := .error error
          events := events }
  /-- The SELECT is written anew, and kept. -/
  | rendered (queries : List SelectQuery) (events : List Event) :
      (root.addItems waiting).cachedSelect? = none →
      (root.addItems waiting).reorderJoins.result = .ok () →
      (renderBranches (waiting ++ (root.addItems waiting).reorderJoins.state.orderingItems)
        branches).result = .ok queries →
      SelectOutcome waiting root branches
        { state := .node
            { (root.addItems waiting).readied with
              cache := some (.select ((root.addItems waiting).readied.query queries)) }
            (renderBranches
              (waiting ++ (root.addItems waiting).reorderJoins.state.orderingItems)
              branches).state
          result := .ok ((root.addItems waiting).readied.query queries)
          events := events }

theorem renderSelect_outcome
    (waiting : List SelectedItem)
    (root : QueryBlock)
    (branches : List Statement) :
    SelectOutcome waiting root branches (renderSelect waiting (.node root branches)) := by
  rw [renderSelect]
  split
  · rename_i query kept
    rw [mapBranches_eq_map]
    exact .kept query kept
  · rename_i notKept
    dsimp only
    split
    · rename_i error circular
      rw [mapBranches_eq_map]
      exact .unordered error notKept circular
    · rename_i ordered
      split
      · rename_i error failed
        exact .stopped error _ notKept ordered failed
      · rename_i queries rendered
        exact .rendered queries _ notKept ordered rendered

/-- Rendering branches leaves trees that are related to those before, if adding
the waiting entries and rendering each branch do so. -/
theorem related_branches_renderSelect
    {relation : QueryBlock → QueryBlock → Prop}
    {waiting : List SelectedItem}
    (added : ∀ block, relation block (block.addItems waiting))
    (branches : List Statement)
    (related : ∀ branch ∈ branches,
      Related relation branch (branch.renderSelect waiting).state) :
    List.Forall₂ (Related relation) branches (renderBranches waiting branches).state := by
  induction branches with
  | nil => exact .nil
  | cons branch rest inductionHypothesis =>
      rw [List.forall_mem_cons] at related
      rw [renderBranches]
      split
      · refine .cons related.1 ?_
        rw [mapBranches_eq_map, List.forall₂_map_right_iff, List.forall₂_same]
        exact fun branch _ => related_mapBlocks added branch
      · exact .cons related.1 (inductionHypothesis related.2)

/-- Rendering a SELECT readies the blocks of a tree. -/
theorem related_renderSelect (waiting : List SelectedItem) (statement : Statement) :
    Related QueryBlock.ReadiedTo statement (statement.renderSelect waiting).state := by
  induction statement generalizing waiting with
  | node root branches inductionHypothesis =>
      have rootAdded := root.readiedTo_addItems waiting
      have branchesAdded : List.Forall₂ (Related QueryBlock.ReadiedTo) branches
          (branches.map (mapBlocks (·.addItems waiting))) := by
        rw [List.forall₂_map_right_iff, List.forall₂_same]
        exact fun branch _ =>
          related_mapBlocks (fun block => block.readiedTo_addItems waiting) branch
      have branchesRendered : ∀ items, List.Forall₂ (Related QueryBlock.ReadiedTo) branches
          (renderBranches items branches).state := fun items =>
        related_branches_renderSelect (fun block => block.readiedTo_addItems items) branches
          fun branch member => inductionHypothesis branch member items
      have outcome := renderSelect_outcome waiting root branches
      generalize renderSelect waiting (.node root branches) = rendering at outcome
      cases outcome with
      | kept query kept => exact .node rootAdded branchesAdded
      | unordered error notKept circular =>
          exact .node (rootAdded.tail (.reorderJoins _)) branchesAdded
      | stopped error events notKept ordered failed =>
          exact .node (rootAdded.trans (QueryBlock.readiedTo_readied _)) (branchesRendered _)
      | rendered queries events notKept ordered rendered =>
          refine .node ?_ (branchesRendered _)
          apply (rootAdded.trans (QueryBlock.readiedTo_readied _)).tail
          exact .keepSelect _ queries (QueryBlock.mustReorder_readied ordered)
            (QueryBlock.readied_selects_ordering _)

/-! ## Runs -/

section Run

open QueryBlock (Becomes EditedTo editedTo_refl)

/-- What an operation makes of a block. The ordering changes only where the operation sets
it. -/
structure Edits (operation : Operation) (first second : QueryBlock) : Prop where
  edited : EditedTo first second
  ordering_eq : ¬ operation.SetsOrdering → second.ordering = first.ordering

section Operation

variable {operation : Operation}

theorem edits_refl (block : QueryBlock) : Edits operation block block :=
  ⟨editedTo_refl block, fun _ => rfl⟩

/-- An edit that leaves the ordering alone can be made by any operation. -/
theorem edits_of_becomes
    {first second : QueryBlock}
    (becomes : Becomes first second)
    (ordering_eq : second.ordering = first.ordering) : Edits operation first second :=
  ⟨becomes.editedTo, fun _ => ordering_eq⟩

theorem edits_setOrdering
    (sets : operation.SetsOrdering)
    (block : QueryBlock)
    (terms : List OrderTerm) : Edits operation block (block.setOrdering terms) :=
  ⟨(Becomes.setOrdering block terms).editedTo, fun setsNone => absurd sets setsNone⟩

theorem related_selectMapping
    (statement : Statement)
    (ref : Option TableRef)
    (mapping : Mapping)
    (aliasName : Option String)
    (everywhere : Bool) :
    Related (Edits operation) statement
      (statement.selectMapping ref mapping aliasName everywhere).state := by
  simp only [selectMapping]
  split
  · exact .refl edits_refl _
  · split
    · exact .refl edits_refl _
    · exact related_modify edits_refl
        (fun block => ⟨.inr (block.readiedTo_addItems _), fun _ => block.ordering_addItems _⟩) _ _

theorem related_onRoot
    {Value : Type}
    {operate : QueryBlock → Outcome QueryBlock Value}
    (operated : ∀ block, Edits operation block (operate block).state)
    (statement : Statement) :
    Related (Edits operation) statement (statement.onRoot operate).state := by
  cases statement with
  | node root branches =>
      exact .node (operated root)
        (List.forall₂_same.mpr fun _ _ => .refl edits_refl _)

theorem related_sql (statement : Statement) (framing : Framing) (id : StatementId) :
    Related (Edits operation) statement (statement.sql framing id).state := by
  cases framing with
  | select =>
      exact (related_renderSelect [] statement).mono fun _ _ readied =>
        ⟨.inr readied, fun _ => readied.ordering_eq⟩
  | update =>
      exact related_onRoot
        (fun block => edits_of_becomes (.updateQuery block id) (block.ordering_updateQuery id)) _
  | delete =>
      exact related_onRoot
        (fun block => edits_of_becomes (.deleteQuery block id) (block.ordering_deleteQuery id)) _

end Operation

theorem state_log (statement : Statement) (id : StatementId) :
    (statement.log id).state =
      (statement.sql
        (if statement.block.updates.isEmpty then .select else .update) id).state := by
  unfold log
  cases statement.block.updates.isEmpty with
  | true =>
      simp only [↓reduceIte, sql]
      split <;> rfl
  | false =>
      simp only [Bool.false_eq_true, ↓reduceIte, sql]
      split <;> rfl

/-- A union apart, an operation keeps the shape of a tree and edits its blocks, and only an
operation that sets an ordering changes one. -/
theorem related_edits_run
    {operation : Operation}
    (notUnion : ∀ other, operation ≠ .union other)
    (statement : Statement) :
    Related (Edits operation) statement (operation.run statement).state := by
  cases operation with
  | select expression aliasName everywhere =>
      simp only [Operation.run, Outcome.state_map, select]
      split
      · exact .refl edits_refl _
      · exact related_modify edits_refl
          (fun block => edits_of_becomes (.select block _ _) (QueryBlock.ordering_addItems _ _)) _ _
  | selectMapping ref mapping aliasName everywhere =>
      exact related_selectMapping statement ref mapping aliasName everywhere
  | selectColumn ref column aliasName everywhere =>
      simp only [Operation.run, Outcome.state_map, selectColumn]
      split
      · exact .refl edits_refl _
      · exact related_selectMapping statement ref _ aliasName everywhere
  | join spec =>
      simp only [Operation.run, Outcome.state_map, join]
      split
      · exact .refl edits_refl _
      · exact related_spreadJoin edits_refl
          (fun block spec => edits_of_becomes (.join block spec) (block.ordering_join spec))
          spec statement
  | crossJoin table aliasName group =>
      exact related_crossJoin edits_refl
        (fun block table aliasName group =>
          edits_of_becomes (.crossJoin block table aliasName group)
            (block.ordering_crossJoin table aliasName group))
        table aliasName group statement
  | removeCrossJoin aliasName =>
      exact related_mapBlocks
        (fun block => edits_of_becomes (.removeCrossJoin block aliasName)
          (block.ordering_removeCrossJoin aliasName)) statement
  | reorderJoins =>
      exact related_onRoot
        (fun block => edits_of_becomes (.reorderJoins block) block.ordering_reorderJoins) statement
  | whereAnd predicate everywhere =>
      exact related_modify edits_refl
        (fun block => edits_of_becomes (.whereAnd block predicate)
          (block.ordering_whereAnd predicate)) _ _
  | whereOr predicate everywhere =>
      exact related_modify edits_refl
        (fun block => edits_of_becomes (.whereOr block predicate) rfl) _ _
  | groupBy expression =>
      exact related_mapBlocks (fun block => edits_of_becomes (.groupBy block _) rfl) statement
  | setHaving predicate =>
      exact related_mapBlocks (fun block => edits_of_becomes (.setHaving block _) rfl) statement
  | setDistinct distinct =>
      exact related_modifyBlock edits_refl
        (fun block => edits_of_becomes (.setDistinct block _) rfl) statement
  | setRange range =>
      exact related_modifyBlock edits_refl
        (fun block => edits_of_becomes (.setRange block _) rfl) statement
  | setOrdering expressions directions nulls =>
      have sets : (Operation.setOrdering expressions directions nulls).SetsOrdering := trivial
      simp only [Operation.run, setOrdering]
      split
      · exact .refl edits_refl _
      · split
        · exact .refl edits_refl _
        · exact related_modifyBlock edits_refl
            (fun block => edits_setOrdering sets block _) statement
  | clearOrdering =>
      have sets : Operation.clearOrdering.SetsOrdering := trivial
      exact related_modifyBlock edits_refl (fun block => edits_setOrdering sets block _) statement
  | setUpdates assignments =>
      simp only [Operation.run, setUpdates]
      split
      · exact .refl edits_refl _
      · exact related_modifyBlock edits_refl
          (fun block => edits_of_becomes (.setUpdates block _) rfl) statement
  | setOptions strategies options =>
      simp only [Operation.run, setOptions]
      split
      · exact .refl edits_refl _
      · exact related_modifyBlock edits_refl
          (fun block => edits_of_becomes (.setOptions block _ _) rfl) statement
  | setNamingStrategy strategies key =>
      simp only [Operation.run, setNamingStrategy, setOptions]
      split
      · exact .refl edits_refl _
      · exact related_modifyBlock edits_refl
          (fun block => edits_of_becomes (.setOptions block _ _) rfl) statement
  | union other => exact absurd rfl (notUnion other)
  | render framing id => exact related_sql statement framing id
  | log id =>
      rw [Operation.run, state_log]
      exact related_sql statement _ id

/-- A union apart, an operation keeps the shape of a tree and edits its
blocks. -/
theorem related_run
    {operation : Operation}
    (notUnion : ∀ other, operation ≠ .union other)
    (statement : Statement) :
    Related EditedTo statement (operation.run statement).state :=
  (related_edits_run notUnion statement).mono fun _ _ => Edits.edited

/-- An operation edits the block that it is called on, also where it brings in a branch. -/
theorem editedTo_run (operation : Operation) (statement : Statement) :
    EditedTo statement.block (operation.run statement).state.block := by
  by_cases notUnion : ∀ other, operation ≠ .union other
  · exact (related_run notUnion statement).block
  · push Not at notUnion
    obtain ⟨other, rfl⟩ := notUnion
    simp only [Operation.run, union]
    split
    · exact (Becomes.invalidate statement.block).editedTo
    · exact editedTo_refl _

/-- An operation at a path edits the root. -/
theorem editedTo_onBranch_run
    {statement : Statement}
    {operation : Operation}
    {path : List Nat}
    {outcome : Outcome Statement Unit}
    (operated : statement.onBranch operation.run path = some outcome) :
    EditedTo statement.block outcome.state.block := by
  cases statement with
  | node root branches =>
      cases path with
      | nil =>
          rw [onBranch_nil, Option.some.injEq] at operated
          subst operated
          exact editedTo_run operation _
      | cons position path =>
          obtain ⟨branch, changed, at_position, below, rfl⟩ :=
            onBranch_cons_eq_some_iff.mp operated
          exact (Becomes.invalidate root).editedTo

/-- An operation at any path leaves at every place an edited version of the statement
that stood there. -/
theorem exists_branchAt?_onBranch_run
    {statement followed : Statement}
    {operation : Operation}
    {path place : List Nat}
    {outcome : Outcome Statement Unit}
    (found : statement.branchAt? place = some followed)
    (operated : statement.onBranch operation.run path = some outcome) :
    ∃ later, outcome.state.branchAt? place = some later ∧
      EditedTo followed.block later.block := by
  induction path generalizing statement place outcome with
  | nil =>
      have edited := editedTo_onBranch_run operated
      rw [onBranch_nil, Option.some.injEq] at operated
      subst operated
      by_cases notUnion : ∀ other, operation ≠ .union other
      · obtain ⟨later, foundLater, related⟩ := (related_run notUnion statement).branchAt? found
        exact ⟨later, foundLater, related.block⟩
      · push Not at notUnion
        obtain ⟨other, rfl⟩ := notUnion
        cases place with
        | nil =>
            rw [branchAt?_nil, Option.some.injEq] at found
            exact ⟨_, branchAt?_nil _, found ▸ edited⟩
        | cons position place =>
            refine ⟨followed, ?_, editedTo_refl _⟩
            simp only [Operation.run, union]
            split
            · rw [branchAt?_cons, Option.bind_eq_some_iff] at found ⊢
              obtain ⟨branch, inBranches, found⟩ := found
              refine ⟨branch, ?_, found⟩
              exact (List.getElem?_append_left
                (List.getElem?_eq_some_iff.mp inBranches).1).trans inBranches
            · exact found
  | cons position path inductionHypothesis =>
      have edited := editedTo_onBranch_run operated
      cases statement with
      | node root branches =>
          obtain ⟨branch, changed, inBranches, below, rfl⟩ :=
            onBranch_cons_eq_some_iff.mp operated
          cases place with
          | nil =>
              rw [branchAt?_nil, Option.some.injEq] at found
              exact ⟨_, branchAt?_nil _, found ▸ edited⟩
          | cons other place =>
              rw [branchAt?_cons, branches_node, Option.bind_eq_some_iff] at found
              obtain ⟨next, at_other, found⟩ := found
              by_cases same : position = other
              · subst same
                rw [inBranches, Option.some.injEq] at at_other
                subst at_other
                obtain ⟨later, foundLater, edited⟩ := inductionHypothesis found below
                refine ⟨later, ?_, edited⟩
                rw [branchAt?_cons, Option.bind_eq_some_iff]
                exact ⟨_, List.getElem?_set_self (List.getElem?_eq_some_iff.mp inBranches).1,
                  foundLater⟩
              · refine ⟨followed, ?_, editedTo_refl _⟩
                rw [branchAt?_cons, Option.bind_eq_some_iff]
                exact ⟨next, (List.getElem?_set_ne same).trans at_other, found⟩

/-- What an operation and the loss of a rendering keep of all blocks, the
operation keeps at every path. -/
theorem forall_mem_blocks_onBranch
    {Value : Type}
    {operate : Statement → Outcome Statement Value}
    {property : QueryBlock → Prop}
    (invalidated : ∀ block, property block → property block.invalidate)
    (kept : ∀ statement : Statement, (∀ block ∈ statement.blocks, property block) →
      ∀ block ∈ (operate statement).state.blocks, property block)
    {statement : Statement}
    {path : List Nat}
    {outcome : Outcome Statement Value}
    (operated : statement.onBranch operate path = some outcome)
    (holds : ∀ block ∈ statement.blocks, property block) :
    ∀ block ∈ outcome.state.blocks, property block := by
  induction path generalizing statement outcome with
  | nil =>
      rw [onBranch_nil, Option.some.injEq] at operated
      exact operated ▸ kept statement holds
  | cons position path inductionHypothesis =>
      cases statement with
      | node root branches =>
          obtain ⟨branch, changed, at_position, below, rfl⟩ :=
            onBranch_cons_eq_some_iff.mp operated
          obtain ⟨ofRoot, ofBranches⟩ := forall_mem_blocks_node.mp holds
          refine forall_mem_blocks_node.mpr ⟨invalidated root ofRoot, ?_⟩
          intro other otherMem
          rcases List.mem_or_eq_of_mem_set otherMem with otherMem | rfl
          · exact ofBranches other otherMem
          · exact inductionHypothesis below
              (ofBranches branch (List.mem_of_getElem? at_position))

/-- What no edit breaks an operation keeps of all blocks, if it holds of the
blocks that the operation brings in. -/
theorem forall_mem_blocks_run
    {property : QueryBlock → Prop}
    (closed : ∀ first second, Becomes first second → property first → property second)
    {operation : Operation}
    (ofBrought : ∀ other, operation = .union other → ∀ block ∈ other.blocks, property block)
    {statement : Statement}
    (holds : ∀ block ∈ statement.blocks, property block) :
    ∀ block ∈ (operation.run statement).state.blocks, property block := by
  by_cases notUnion : ∀ other, operation ≠ .union other
  · exact (related_run notUnion statement).forall_mem_blocks
      (fun _ _ edited => edited.preserves closed) holds
  · push Not at notUnion
    obtain ⟨other, rfl⟩ := notUnion
    simp only [Operation.run, union]
    split
    · cases statement with
      | node root branches =>
          obtain ⟨ofRoot, ofBranches⟩ := forall_mem_blocks_node.mp holds
          refine forall_mem_blocks_node.mpr ⟨closed _ _ (.invalidate root) ofRoot, ?_⟩
          intro branch branchMem
          rcases List.mem_append.mp branchMem with branchMem | branchMem
          · exact ofBranches branch branchMem
          · rw [List.mem_singleton.mp branchMem]
            exact ofBrought other rfl
    · exact holds

/-- A builder builds a statement without branches, over a block that has nothing
but its primary table. -/
theorem exists_ofPrimary_of_build
    {builder : StatementBuilder}
    {strategies : NamingStrategies}
    {id : StatementId}
    {statement : Statement}
    (built : builder.build strategies id = .ok statement) :
    ∃ namer primary, statement = .single (.ofPrimary id builder.ancestry builder.dialect
      namer builder.options primary) := by
  rw [StatementBuilder.build] at built
  split at built
  · cases built
  · cases built
    exact ⟨_, _, rfl⟩

/-- What no edit breaks holds of every block of a reachable tree, if it holds of
the blocks that builders build. -/
theorem Reachable.forall_mem_blocks
    {property : QueryBlock → Prop}
    (atFirst : ∀ id ancestry dialect namer options primary,
      property (.ofPrimary id ancestry dialect namer options primary))
    (closed : ∀ first second, Becomes first second → property first → property second)
    {statement : Statement}
    (reachable : statement.Reachable) :
    ∀ block ∈ statement.blocks, property block := by
  induction reachable with
  | built built =>
      obtain ⟨namer, primary, rfl⟩ := exists_ofPrimary_of_build built
      rw [single, forall_mem_blocks_node]
      exact ⟨atFirst _ _ _ _ _ _, fun _ member => absurd member List.not_mem_nil⟩
  | step _ _ operated _ ofStatement ofBrought =>
      exact forall_mem_blocks_onBranch (fun block => closed _ _ (.invalidate block))
        (fun _ => forall_mem_blocks_run closed ofBrought) operated ofStatement

end Run

end Statement
end SqlBuilder
