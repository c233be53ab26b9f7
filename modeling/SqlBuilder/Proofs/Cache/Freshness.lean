import SqlBuilder.Proofs.Cache.Change

/-!
# Fresh renderings

A rendering is fresh when the same rendering of the tree comes to it with
nothing kept. As long as no step overlooks a change, what is kept is fresh. The
first step that overlooks one leaves something behind that is not.
-/

namespace SqlBuilder

/-- The kind of text that a rendering stands for. -/
def Rendering.framing : Rendering → Framing
  | .select _ => .select
  | .update _ => .update
  | .delete _ => .delete

namespace QueryBlock

section RowQuery

variable
  {block : QueryBlock}
  {id : StatementId}
  {head : QueryBlock → String}
  {kind : RowQuery → Rendering}

/-- What a rendering of rows gives does not depend on what is kept. -/
theorem result_rowQuery_invalidate
    (head_invalidate : ∀ ready, head ready.invalidate = head ready) :
    (block.invalidate.rowQuery id head kind).result =
      (block.rowQuery id head kind).result := by
  simp only [rowQuery, reorderJoins_invalidate, Outcome.mapState]
  cases block.reorderJoins.result with
  | error error => rfl
  | ok answer =>
      simp only [result_rowCondition_invalidate _ id id, head_invalidate]
      cases (block.reorderJoins.state.rowCondition id).result <;> rfl

end RowQuery

/-- The UPDATE of a block does not depend on what it keeps. -/
theorem KeepsCurrent.result_updateQuery
    {block : QueryBlock}
    (current : block.KeepsCurrent)
    (id : StatementId) :
    (block.invalidate.updateQuery id).result = (block.updateQuery id).result := by
  cases kept : block.cachedUpdate? with
  | some query =>
      have fresh := current.update query (cachedUpdate?_eq_some_iff.mp kept) id
      rw [fresh, QueryBlock.updateQuery, kept]
      rfl
  | none =>
      simp only [QueryBlock.updateQuery, kept]
      exact result_rowQuery_invalidate fun _ => rfl

/-- The DELETE of a block does not depend on what it keeps. -/
theorem KeepsCurrent.result_deleteQuery
    {block : QueryBlock}
    (current : block.KeepsCurrent)
    (id : StatementId) :
    (block.invalidate.deleteQuery id).result = (block.deleteQuery id).result := by
  cases kept : block.cachedDelete? with
  | some query =>
      have fresh := current.delete query (cachedDelete?_eq_some_iff.mp kept) id
      rw [fresh, QueryBlock.deleteQuery, kept]
      rfl
  | none =>
      simp only [QueryBlock.deleteQuery, kept]
      exact result_rowQuery_invalidate fun _ => rfl

end QueryBlock

namespace Statement

/-! ## Coherence along a run -/

/-- An operation that overlooks nothing keeps a tree coherent. -/
theorem Coherent.run
    {statement : Statement}
    {operation : Operation}
    (coherent : statement.Coherent)
    (current : ∀ block ∈ statement.blocks, block.KeepsCurrent)
    (broughtCoherent : ∀ other, operation = .union other → other.Coherent)
    (quiet : ¬ Overlooks statement (operation.run statement).state) :
    (operation.run statement).state.Coherent := by
  rcases run_state_cases (current _ statement.block_mem_blocks) operation with
    ⟨other, rfl⟩ | state_eq | change
  · simp only [Operation.run, union]
    split
    · cases statement with
      | node root branches =>
          refine coherent_node.mpr ⟨keepsReading_of_cachedSelect?_eq_none rfl, ?_⟩
          intro branch branchMem
          rcases List.mem_append.mp branchMem with branchMem | branchMem
          · exact (coherent_node.mp coherent).2 branch branchMem
          · rw [List.mem_singleton.mp branchMem]
            exact broughtCoherent other rfl
    · exact coherent
  · rw [state_eq] at quiet ⊢
    exact (coherent.renderSelect quiet).1
  · exact coherent.of_related change.related quiet

/-- A statement that has forgotten its SELECT overlooks nothing at its root. -/
theorem exists_overlooks_of_cachedSelect?_eq_none
    {first second : QueryBlock}
    {before after : List Statement}
    (notKept : second.cachedSelect? = none)
    (overlooks : Overlooks (.node first before) (.node second after)) :
    ∃ (position : Nat) (old new : Statement), before[position]? = some old ∧
      after[position]? = some new ∧ Overlooks old new := by
  rcases overlooks_node.mp overlooks with ⟨_, kept, _⟩ | inBranch
  · rw [notKept] at kept
    cases kept
  · exact inBranch

/-- A union overlooks nothing. -/
theorem not_overlooks_union (statement other : Statement) :
    ¬ Overlooks statement (statement.union other).state := by
  simp only [union]
  split
  · cases statement with
    | node root branches =>
        intro overlooks
        obtain ⟨position, old, new, inBefore, inAfter, overlooks⟩ :=
          exists_overlooks_of_cachedSelect?_eq_none rfl overlooks
        have bound := (List.getElem?_eq_some_iff.mp inBefore).1
        rw [branches_node, List.getElem?_append_left bound, inBefore,
          Option.some.injEq] at inAfter
        exact not_overlooks_self old (inAfter ▸ overlooks)
  · exact not_overlooks_self statement

/-- A change of one branch overlooks no more than what it overlooks in there. -/
theorem overlooks_of_overlooks_set
    {root : QueryBlock}
    {branches : List Statement}
    {position : Nat}
    {old new : Statement}
    (found : branches[position]? = some old)
    (overlooks : Overlooks (.node root branches)
      (.node root.invalidate (branches.set position new))) : Overlooks old new := by
  obtain ⟨other, before, after, inBefore, inAfter, overlooks⟩ :=
    exists_overlooks_of_cachedSelect?_eq_none rfl overlooks
  by_cases same : position = other
  · subst same
    rw [List.getElem?_set_self (List.getElem?_eq_some_iff.mp found).1,
      Option.some.injEq] at inAfter
    rw [found, Option.some.injEq] at inBefore
    exact inBefore ▸ inAfter ▸ overlooks
  · rw [List.getElem?_set_ne same, inBefore, Option.some.injEq] at inAfter
    exact absurd (inAfter ▸ overlooks) (not_overlooks_self before)

/-- A step of a run that overlooks nothing keeps the tree coherent. -/
theorem Coherent.onBranch
    {statement : Statement}
    {operation : Operation}
    {path : List Nat}
    {outcome : Outcome Statement Unit}
    (coherent : statement.Coherent)
    (current : ∀ block ∈ statement.blocks, block.KeepsCurrent)
    (broughtCoherent : ∀ other, operation = .union other → other.Coherent)
    (operated : statement.onBranch operation.run path = some outcome)
    (quiet : ¬ Overlooks statement outcome.state) : outcome.state.Coherent := by
  induction path generalizing statement outcome with
  | nil =>
      rw [onBranch_nil, Option.some.injEq] at operated
      subst operated
      exact coherent.run current broughtCoherent quiet
  | cons position path inductionHypothesis =>
      cases statement with
      | node root branches =>
          obtain ⟨branch, changed, found, below, rfl⟩ := onBranch_cons_eq_some_iff.mp operated
          have member := List.mem_of_getElem? found
          obtain ⟨_, coherentBranches⟩ := coherent_node.mp coherent
          obtain ⟨_, currentBranches⟩ := forall_mem_blocks_node.mp current
          refine coherent_node.mpr ⟨keepsReading_of_cachedSelect?_eq_none rfl, ?_⟩
          intro other otherMem
          rcases List.mem_or_eq_of_mem_set otherMem with otherMem | rfl
          · exact coherentBranches other otherMem
          · apply inductionHypothesis (coherentBranches branch member)
              (currentBranches branch member) below
            intro overlooks
            refine quiet (.inBranch found ?_ overlooks)
            rw [List.getElem?_set_self (List.getElem?_eq_some_iff.mp found).1]

/-- The trees that a run leads to in which no step overlooks a change. -/
abbrev ReachedQuietly : Statement → Prop :=
  ReachedBy fun before after => ¬ Overlooks before after

/-- As long as nothing is overlooked the tree is coherent. -/
theorem ReachedQuietly.coherent
    {statement : Statement}
    (reached : ReachedQuietly statement) : statement.Coherent := by
  induction reached with
  | built built =>
      obtain ⟨namer, primary, rfl⟩ := exists_ofPrimary_of_build built
      refine coherent_node.mpr ⟨keepsReading_of_cachedSelect?_eq_none rfl, ?_⟩
      exact fun _ member => nomatch member
  | step reachedBefore _ operated quiet coherent broughtCoherent =>
      exact coherent.onBranch reachedBefore.reachable.keepsCurrent broughtCoherent
        operated quiet

/-! ## What is kept is fresh -/

/-- What a statement keeps is what it would be rendered to with nothing kept in
the whole tree. -/
def KeepsFresh (statement : Statement) : Prop :=
  ∀ rendering id, statement.block.cache = some rendering →
    (statement.cleared.render rendering.framing id).result = .ok rendering

/-- All that is kept in a tree is fresh. -/
def UpToDate (statement : Statement) : Prop :=
  statement.Throughout KeepsFresh

theorem upToDate_node {root : QueryBlock} {branches : List Statement} :
    (node root branches).UpToDate ↔
      (node root branches).KeepsFresh ∧ ∀ branch ∈ branches, branch.UpToDate :=
  throughout_node

theorem result_render_select_eq_ok_iff
    {statement : Statement}
    {id : StatementId}
    {rendering : Rendering} :
    (statement.render .select id).result = .ok rendering ↔
      ∃ query, (statement.renderSelect []).result = .ok query ∧
        rendering = .select query := by
  simp only [render, selectQuery, Outcome.result_map]
  cases (statement.renderSelect []).result with
  | error error => simp [Except.map]
  | ok query => simp [Except.map, eq_comm]

theorem block_cleared (statement : Statement) :
    statement.cleared.block = statement.block.invalidate := by
  cases statement with
  | node root branches => rw [cleared_node, block_node, block_node]

/-- The UPDATE of a tree does not depend on what is kept. -/
theorem result_render_update_cleared
    {statement : Statement}
    (current : statement.block.KeepsCurrent)
    (id : StatementId) :
    (statement.cleared.render .update id).result = (statement.render .update id).result := by
  have fresh := current.result_updateQuery id
  simp only [render, onRoot, Outcome.mapState, Outcome.result_map, block_cleared, fresh]

/-- The DELETE of a tree does not depend on what is kept. -/
theorem result_render_delete_cleared
    {statement : Statement}
    (current : statement.block.KeepsCurrent)
    (id : StatementId) :
    (statement.cleared.render .delete id).result = (statement.render .delete id).result := by
  have fresh := current.result_deleteQuery id
  simp only [render, onRoot, Outcome.mapState, Outcome.result_map, block_cleared, fresh]

theorem KeepsReading.keepsFresh
    {statement : Statement}
    (keeps : statement.KeepsReading)
    (current : statement.block.KeepsCurrent) : statement.KeepsFresh := by
  intro rendering id kept
  cases rendering with
  | select query =>
      obtain ⟨settled, rfl⟩ := keeps query (QueryBlock.cachedSelect?_eq_some_iff.mpr kept)
      exact result_render_select_eq_ok_iff.mpr
        ⟨_, settled.result_renderSelect_cleared nofun, rfl⟩
  | update query =>
      have fresh := current.update query kept id
      simp only [render, Rendering.framing, onRoot, Outcome.mapState, Outcome.result_map,
        block_cleared, fresh]
      rfl
  | delete query =>
      have fresh := current.delete query kept id
      simp only [render, Rendering.framing, onRoot, Outcome.mapState, Outcome.result_map,
        block_cleared, fresh]
      rfl

/-- All that a coherent tree keeps is fresh. -/
theorem Coherent.upToDate
    {statement : Statement}
    (coherent : statement.Coherent)
    (current : ∀ block ∈ statement.blocks, block.KeepsCurrent) : statement.UpToDate := by
  intro path branch found
  exact (coherent path branch found).keepsFresh
    (current _ (blocks_subset_of_branchAt? found branch.block_mem_blocks))

end Statement
end SqlBuilder
