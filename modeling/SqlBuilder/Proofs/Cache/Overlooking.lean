import SqlBuilder.Proofs.Cache.Reading

/-!
# Overlooked changes

The text of a SELECT holds the texts of the branches, so a change to a branch
puts it out of date. A step overlooks a change when it leaves a statement as it
was, with the SELECT that it keeps, and changes what stands below. Trees in
which nothing is overlooked keep only queries that can be read off them.
-/

namespace SqlBuilder
namespace Statement

/-- A kept SELECT is the query read off the statement as it stands. -/
def KeepsReading (statement : Statement) : Prop :=
  ∀ query, statement.block.cachedSelect? = some query →
    statement.Settled ∧ query = statement.reading

/-- Every SELECT kept in a tree is read off its statement as it stands. -/
def Coherent (statement : Statement) : Prop :=
  statement.Throughout KeepsReading

theorem coherent_node {root : QueryBlock} {branches : List Statement} :
    (node root branches).Coherent ↔
      (node root branches).KeepsReading ∧ ∀ branch ∈ branches, branch.Coherent :=
  throughout_node

/-- Every branch of a coherent tree is coherent. -/
theorem Coherent.branchAt?
    {statement branch : Statement}
    {path : List Nat}
    (coherent : statement.Coherent)
    (found : statement.branchAt? path = some branch) : branch.Coherent :=
  Throughout.branchAt? coherent found

theorem keepsReading_of_cachedSelect?_eq_none
    {statement : Statement}
    (notKept : statement.block.cachedSelect? = none) : statement.KeepsReading := by
  intro query kept
  rw [notKept] at kept
  cases kept

/-- A tree that keeps no SELECT is coherent. -/
theorem coherent_of_cachedSelect?_eq_none
    {statement : Statement}
    (notKept : ∀ block ∈ statement.blocks, block.cachedSelect?.isNone) :
    statement.Coherent := by
  intro path branch found
  apply keepsReading_of_cachedSelect?_eq_none
  rw [← Option.isNone_iff_eq_none]
  exact notKept _ (blocks_subset_of_branchAt? found branch.block_mem_blocks)

/-- A step overlooks a change: somewhere it leaves a block as it was, with a kept
SELECT, but changes more below it than what is kept there. -/
inductive Overlooks : Statement → Statement → Prop
  | atRoot {root : QueryBlock} {before after : List Statement} :
      root.cachedSelect?.isSome →
      after.map cleared ≠ before.map cleared →
      Overlooks (.node root before) (.node root after)
  | inBranch
      {first second : QueryBlock}
      {before after : List Statement}
      {position : Nat}
      {old new : Statement} :
      before[position]? = some old →
      after[position]? = some new →
      Overlooks old new →
      Overlooks (.node first before) (.node second after)

theorem overlooks_node
    {first second : QueryBlock}
    {before after : List Statement} :
    Overlooks (.node first before) (.node second after) ↔
      (second = first ∧ second.cachedSelect?.isSome ∧
          after.map cleared ≠ before.map cleared) ∨
        ∃ (position : Nat) (old new : Statement), before[position]? = some old ∧
          after[position]? = some new ∧ Overlooks old new := by
  constructor
  · intro overlooks
    cases overlooks with
    | atRoot kept differ => exact .inl ⟨rfl, kept, differ⟩
    | inBranch inBefore inAfter overlooks => exact .inr ⟨_, _, _, inBefore, inAfter, overlooks⟩
  · rintro (⟨rfl, kept, differ⟩ | ⟨position, old, new, inBefore, inAfter, overlooks⟩)
    · exact .atRoot kept differ
    · exact .inBranch inBefore inAfter overlooks

/-- Where nothing changes nothing is overlooked. -/
theorem not_overlooks_self (statement : Statement) : ¬ Overlooks statement statement := by
  induction statement with
  | node root branches inductionHypothesis =>
      rintro overlooks
      rcases overlooks_node.mp overlooks with
        ⟨_, _, differ⟩ | ⟨position, old, new, inBefore, inAfter, overlooks⟩
      · exact differ rfl
      · rw [inBefore, Option.some.injEq] at inAfter
        subst inAfter
        exact inductionHypothesis _ (List.mem_of_getElem? inBefore) overlooks

/-- A change of the root alone overlooks nothing. -/
theorem not_overlooks_of_same_branches
    {first second : QueryBlock}
    {branches : List Statement} :
    ¬ Overlooks (.node first branches) (.node second branches) := by
  intro overlooks
  rcases overlooks_node.mp overlooks with
    ⟨_, _, differ⟩ | ⟨position, old, new, inBefore, inAfter, overlooks⟩
  · exact differ rfl
  · rw [inBefore, Option.some.injEq] at inAfter
    exact not_overlooks_self old (inAfter ▸ overlooks)

/-- The branches of a step that overlooks nothing overlook nothing. -/
theorem forall₂_not_overlooks
    {relation : Statement → Statement → Prop}
    {first second : QueryBlock}
    {before after : List Statement}
    (quiet : ¬ Overlooks (.node first before) (.node second after))
    (pairs : List.Forall₂ relation before after) :
    List.Forall₂ (fun old new => relation old new ∧ ¬ Overlooks old new) before after := by
  rw [List.forall₂_iff_get] at pairs ⊢
  refine ⟨pairs.1, fun position inBefore inAfter => ⟨pairs.2 position inBefore inAfter, ?_⟩⟩
  intro overlooks
  exact quiet (.inBranch (List.getElem?_eq_getElem inBefore) (List.getElem?_eq_getElem inAfter)
    overlooks)

theorem not_overlooks_of_map
    {change : Statement → Statement}
    {first second : QueryBlock}
    {branches : List Statement}
    (quiet : ¬ Overlooks (.node first branches) (.node second (branches.map change)))
    {branch : Statement}
    (member : branch ∈ branches) : ¬ Overlooks branch (change branch) := by
  intro overlooks
  obtain ⟨position, found⟩ := List.mem_iff_getElem?.mp member
  exact quiet (.inBranch found (by rw [List.getElem?_map, found]; rfl) overlooks)

/-- Where nothing is overlooked a block left alone over a kept SELECT has the
same branches below, what they keep apart. -/
theorem cleared_eq_of_not_overlooks
    {root : QueryBlock}
    {before after : List Statement}
    (quiet : ¬ Overlooks (.node root before) (.node root after))
    {query : SelectQuery}
    (kept : root.cachedSelect? = some query) :
    (node root after).cleared = (node root before).cleared := by
  have same : after.map cleared = before.map cleared := by
    by_contra differ
    exact quiet (.atRoot (by rw [kept]; rfl) differ)
  rw [cleared_node, cleared_node, same]

/-- Trees that differ in what they keep at most are settled alike. -/
theorem settled_of_cleared_eq
    {first second : Statement}
    (same : second.cleared = first.cleared)
    (settled : first.Settled) : second.Settled := by
  rw [← settled_cleared, same, settled_cleared]
  exact settled

/-- Trees that differ in what they keep at most have the same reading. -/
theorem reading_of_cleared_eq
    {first second : Statement}
    (same : second.cleared = first.cleared) : second.reading = first.reading := by
  rw [← reading_cleared, same, reading_cleared]

/-- A block was left alone, or keeps no SELECT. -/
def LeftOrForgets (first second : QueryBlock) : Prop :=
  second = first ∨ second.cachedSelect? = none

theorem leftOrForgets_refl (block : QueryBlock) : LeftOrForgets block block :=
  .inl rfl

theorem leftOrForgets_of_cache
    {first second : QueryBlock}
    (change : second = first ∨ second.cache = none) : LeftOrForgets first second := by
  refine change.imp_right fun forgotten => ?_
  rw [QueryBlock.cachedSelect?, forgotten]

/-- At the root of a step that overlooks nothing, a block left alone keeps what
can be read off. -/
theorem keepsReading_of_leftOrForgets
    {first second : QueryBlock}
    {before after : List Statement}
    (keeps : (node first before).KeepsReading)
    (quiet : ¬ Overlooks (.node first before) (.node second after))
    (change : LeftOrForgets first second) : (node second after).KeepsReading := by
  rcases change with rfl | forgotten
  · intro query kept
    have same := cleared_eq_of_not_overlooks quiet kept
    obtain ⟨settled, rfl⟩ := keeps query kept
    exact ⟨settled_of_cleared_eq same settled, (reading_of_cleared_eq same).symm⟩
  · exact keepsReading_of_cachedSelect?_eq_none forgotten

/-- A tree stays coherent when its blocks are left alone or forget their SELECT
and nothing is overlooked. -/
theorem Coherent.of_related
    {before after : Statement}
    (coherent : before.Coherent)
    (related : Related LeftOrForgets before after)
    (quiet : ¬ Overlooks before after) : after.Coherent := by
  induction related using Related.induction with
  | node first second firsts seconds roots pairs inductionHypothesis =>
      obtain ⟨atRoot, below⟩ := coherent_node.mp coherent
      refine coherent_node.mpr ⟨keepsReading_of_leftOrForgets atRoot quiet roots, ?_⟩
      refine forall_mem_of_forall₂ (forall₂_not_overlooks quiet inductionHypothesis) ?_
      rintro old member new ⟨⟨_, kept⟩, quietBranch⟩
      exact kept (below old member) quietBranch

/-! ## What a SELECT leaves behind -/

theorem leftOrForgets_addItems (block : QueryBlock) (items : List SelectedItem) :
    LeftOrForgets block (block.addItems items) :=
  leftOrForgets_of_cache (block.addItems_eq_or_cache_eq_none items)

theorem related_mapBlocks_addItems (statement : Statement) (items : List SelectedItem) :
    Related LeftOrForgets statement (statement.mapBlocks (·.addItems items)) :=
  related_mapBlocks (fun block => leftOrForgets_addItems block items) statement

theorem cachedSelect?_reorderJoins (block : QueryBlock) :
    block.reorderJoins.state.cachedSelect? = block.cachedSelect? := by
  rw [QueryBlock.reorderJoins_state_eq]
  rfl

/-- Readying a block does not bring back a SELECT. -/
theorem cachedSelect?_readied_eq_none
    {block : QueryBlock}
    (notKept : block.cachedSelect? = none) : block.readied.cachedSelect? = none := by
  rcases leftOrForgets_addItems block.reorderJoins.state
    block.reorderJoins.state.orderingItems with unchanged | forgotten
  · rw [QueryBlock.readied, unchanged, cachedSelect?_reorderJoins, notKept]
  · exact forgotten

/-- Rendering renders each branch or, behind a failure, adds the waiting
entries to it. -/
theorem forall₂_renderBranches (waiting : List SelectedItem) (branches : List Statement) :
    List.Forall₂
      (fun before after => after = (before.renderSelect waiting).state ∨
        after = before.mapBlocks (·.addItems waiting))
      branches (renderBranches waiting branches).state := by
  induction branches with
  | nil => exact .nil
  | cons branch rest inductionHypothesis =>
      rw [renderBranches]
      split
      · refine .cons (.inl rfl) ?_
        rw [mapBranches_eq_map, List.forall₂_map_right_iff, List.forall₂_same]
        exact fun branch _ => .inr rfl
      · exact .cons (.inl rfl) inductionHypothesis

/-- When rendering the branches succeeds each of them is rendered. -/
theorem forall₂_renderBranches_of_ok
    {waiting : List SelectedItem}
    {branches : List Statement}
    {queries : List SelectQuery}
    (succeeded : (renderBranches waiting branches).result = .ok queries) :
    (renderBranches waiting branches).state =
        branches.map (fun branch => (branch.renderSelect waiting).state) ∧
      List.Forall₂ (fun branch query => (branch.renderSelect waiting).result = .ok query)
        branches queries := by
  induction branches generalizing queries with
  | nil =>
      cases succeeded
      exact ⟨rfl, .nil⟩
  | cons branch rest inductionHypothesis =>
      rw [renderBranches] at succeeded ⊢
      split at succeeded
      · cases succeeded
      · rename_i query rendered
        dsimp only at succeeded ⊢
        cases others : (renderBranches waiting rest).result with
        | error error =>
            rw [others] at succeeded
            cases succeeded
        | ok rendereds =>
            rw [others] at succeeded
            cases succeeded
            obtain ⟨state_eq, pairs⟩ := inductionHypothesis others
            exact ⟨by rw [List.map_cons, ← state_eq], .cons rendered pairs⟩

/-- A SELECT has left a settled tree behind, was read off it, and is what the
tree before would have been rendered to with nothing kept. -/
structure RendersFreshly
    (waiting : List SelectedItem)
    (before after : Statement)
    (query : SelectQuery) : Prop where
  settled : after.Settled
  reading : query = after.reading
  selects : after.SelectsAll waiting
  fresh : (before.cleared.renderSelect waiting).result = .ok query

/-- A kept SELECT is taken as it is. -/
theorem rendersFreshly_of_kept
    {waiting : List SelectedItem}
    {root : QueryBlock}
    {branches : List Statement}
    {query : SelectQuery}
    (keeps : (node root branches).KeepsReading)
    (kept : (root.addItems waiting).cachedSelect? = some query)
    (quiet : ¬ Overlooks (.node root branches)
      (.node (root.addItems waiting) (branches.map (mapBlocks (·.addItems waiting))))) :
    RendersFreshly waiting (.node root branches)
      (.node (root.addItems waiting) (branches.map (mapBlocks (·.addItems waiting))))
      query := by
  have selects := selectsAll_mapBlocks_addItems (.node root branches) waiting
  rw [mapBlocks_node] at selects
  rcases leftOrForgets_addItems root waiting with unchanged | forgotten
  · rw [unchanged] at kept quiet selects ⊢
    have same := cleared_eq_of_not_overlooks quiet kept
    obtain ⟨settled, rfl⟩ := keeps query kept
    refine ⟨settled_of_cleared_eq same settled, (reading_of_cleared_eq same).symm, selects, ?_⟩
    apply settled.result_renderSelect_cleared
    rw [← selectsAll_cleared, ← same, selectsAll_cleared]
    exact selects
  · rw [forgotten] at kept
    cases kept

/-- A SELECT is written anew from branches that are rendered freshly. -/
theorem rendersFreshly_of_rendered
    {waiting items : List SelectedItem}
    {root : QueryBlock}
    {branches : List Statement}
    {queries : List SelectQuery}
    (items_eq : items = (root.addItems waiting).reorderJoins.state.orderingItems)
    (ordered : (root.addItems waiting).reorderJoins.result = .ok ())
    (pairs : List.Forall₂
      (fun branch query => RendersFreshly (waiting ++ items) branch
        (branch.renderSelect (waiting ++ items)).state query)
      branches queries) :
    RendersFreshly waiting (.node root branches)
      (.node
        { (root.addItems waiting).readied with
          cache := some (.select ((root.addItems waiting).readied.query queries)) }
        (branches.map fun branch => (branch.renderSelect (waiting ++ items)).state))
      ((root.addItems waiting).readied.query queries) := by
  have readiedItems : (root.addItems waiting).readied.orderingItems = items := by
    rw [items_eq]
    exact QueryBlock.orderingItems_addItems _ _
  have each : ∀ branch ∈ branches, ∃ query, RendersFreshly (waiting ++ items) branch
      (branch.renderSelect (waiting ++ items)).state query :=
    forall_mem_of_forall₂ pairs.flip fun query _ branch pair => ⟨query, pair⟩
  have selects : ∀ after ∈ branches.map fun branch =>
      (branch.renderSelect (waiting ++ items)).state, after.SelectsAll (waiting ++ items) := by
    rw [List.forall_mem_map]
    intro branch member
    obtain ⟨query, pair⟩ := each branch member
    exact pair.selects
  constructor
  · refine .node (QueryBlock.mustReorder_readied ordered) (selectsAll_node.mpr ⟨?_, ?_⟩) ?_
    · exact QueryBlock.readied_selects_ordering _
    · intro branch member
      exact readiedItems ▸ (selectsAll_append.mp (selects branch member)).2
    · rw [List.forall_mem_map]
      intro branch member
      obtain ⟨query, pair⟩ := each branch member
      exact pair.settled
  · have readings : branches.map (fun branch =>
        (branch.renderSelect (waiting ++ items)).state.reading) = queries := by
      rw [← List.forall₂_eq_eq_eq, List.forall₂_map_left_iff]
      exact pairs.imp fun _ _ pair => pair.reading.symm
    rw [reading_node, List.map_map, ← readings]
    rfl
  · refine selectsAll_node.mpr ⟨?_, fun branch member =>
      (selectsAll_append.mp (selects branch member)).1⟩
    intro item member
    apply QueryBlock.hasSql_addItems_of_hasSql
    rw [QueryBlock.reorderJoins_state_eq]
    exact QueryBlock.hasSql_addItems_of_mem _ _ member
  · rw [cleared_node]
    apply result_renderSelect_invalidate_of_rendered _ ordered
    rw [← items_eq]
    apply result_renderBranches_of_forall₂
    rw [List.forall₂_map_left_iff]
    exact pairs.imp fun _ _ pair => pair.fresh

/-- A SELECT that overlooks nothing leaves a coherent tree and, if it succeeds,
renders freshly. -/
theorem Coherent.renderSelect
    {statement : Statement}
    {waiting : List SelectedItem}
    (coherent : statement.Coherent)
    (quiet : ¬ Overlooks statement (statement.renderSelect waiting).state) :
    (statement.renderSelect waiting).state.Coherent ∧
      ∀ query, (statement.renderSelect waiting).result = .ok query →
        RendersFreshly waiting statement (statement.renderSelect waiting).state query := by
  induction statement generalizing waiting with
  | node root branches inductionHypothesis =>
      obtain ⟨atRoot, below⟩ := coherent_node.mp coherent
      have outcome := renderSelect_outcome waiting root branches
      generalize Statement.renderSelect waiting (.node root branches) = rendering
        at outcome quiet ⊢
      cases outcome with
      | kept query kept =>
          refine ⟨coherent.of_related ?_ quiet, ?_⟩
          · have related := related_mapBlocks_addItems (.node root branches) waiting
            rw [mapBlocks_node] at related
            exact related
          · intro other succeeded
            cases succeeded
            exact rendersFreshly_of_kept atRoot kept quiet
      | unordered error notKept circular =>
          refine ⟨coherent_node.mpr ⟨?_, ?_⟩, fun query succeeded => nomatch succeeded⟩
          · apply keepsReading_of_cachedSelect?_eq_none
            exact (cachedSelect?_reorderJoins _).trans notKept
          · rw [List.forall_mem_map]
            intro branch member
            exact (below branch member).of_related (related_mapBlocks_addItems branch waiting)
              (not_overlooks_of_map quiet member)
      | stopped error events notKept ordered failed =>
          refine ⟨coherent_node.mpr ⟨?_, ?_⟩, fun query succeeded => nomatch succeeded⟩
          · exact keepsReading_of_cachedSelect?_eq_none (cachedSelect?_readied_eq_none notKept)
          · refine forall_mem_of_forall₂
              (forall₂_not_overlooks quiet (forall₂_renderBranches _ branches)) ?_
            rintro old member new ⟨rfl | rfl, quietBranch⟩
            · exact (inductionHypothesis old member (below old member) quietBranch).1
            · exact (below old member).of_related (related_mapBlocks_addItems _ _) quietBranch
      | rendered queries events notKept ordered succeeded =>
          obtain ⟨state_eq, pairs⟩ := forall₂_renderBranches_of_ok succeeded
          rw [state_eq] at quiet ⊢
          have both := (List.forall₂_and_left branches _).mpr ⟨fun _ member => member, pairs⟩
          have freshly := rendersFreshly_of_rendered rfl ordered
            (both.imp fun branch query pair =>
              (inductionHypothesis branch pair.1 (below branch pair.1)
                (not_overlooks_of_map quiet pair.1)).2 query pair.2)
          refine ⟨coherent_node.mpr ⟨?_, ?_⟩, ?_⟩
          · intro query kept
            cases kept
            exact ⟨freshly.settled, freshly.reading⟩
          · rw [List.forall_mem_map]
            intro branch member
            exact (inductionHypothesis branch member (below branch member)
              (not_overlooks_of_map quiet member)).1
          · intro query given
            cases given
            exact freshly

/-! ## Failures -/

/-- With nothing kept a SELECT comes to what the joins and the branches come to. -/
theorem result_renderSelect_of_not_kept
    {waiting : List SelectedItem}
    {root : QueryBlock}
    (branches : List Statement)
    (notKept : (root.addItems waiting).cachedSelect? = none) :
    ((node root branches).renderSelect waiting).result =
      (root.addItems waiting).reorderJoins.result.bind fun _ =>
        (renderBranches (waiting ++ (root.addItems waiting).reorderJoins.state.orderingItems)
          branches).result.map (root.addItems waiting).readied.query := by
  have outcome := renderSelect_outcome waiting root branches
  generalize renderSelect waiting (.node root branches) = rendering at outcome
  cases outcome with
  | kept query kept =>
      rw [notKept] at kept
      cases kept
  | unordered error _ circular => rw [circular]; rfl
  | stopped error events _ ordered failed => rw [ordered, Except.bind, failed]; rfl
  | rendered queries events _ ordered rendered => rw [ordered, Except.bind, rendered]; rfl

theorem result_renderBranches_cleared
    {waiting : List SelectedItem}
    {branches : List Statement}
    (each : ∀ branch ∈ branches, ¬ Overlooks branch (branch.renderSelect waiting).state →
      (branch.cleared.renderSelect waiting).result = (branch.renderSelect waiting).result)
    (quiet : List.Forall₂ (fun old new => ¬ Overlooks old new) branches
      (renderBranches waiting branches).state) :
    (renderBranches waiting (branches.map cleared)).result =
      (renderBranches waiting branches).result := by
  induction branches with
  | nil => rfl
  | cons branch rest inductionHypothesis =>
      rw [List.forall_mem_cons] at each
      rw [renderBranches] at quiet
      rw [List.map_cons, renderBranches, renderBranches]
      cases rendered : (branch.renderSelect waiting).result with
      | error error =>
          simp only [rendered] at quiet
          cases quiet with
          | cons first _ => rw [each.1 first, rendered]
      | ok query =>
          simp only [rendered] at quiet
          cases quiet with
          | cons first others =>
              rw [each.1 first, rendered]
              dsimp only
              rw [inductionHypothesis each.2 others]

/-- A SELECT of a coherent tree that overlooks nothing comes to what it comes to
with nothing kept, also where it fails. -/
theorem Coherent.result_renderSelect_cleared
    {statement : Statement}
    {waiting : List SelectedItem}
    (coherent : statement.Coherent)
    (quiet : ¬ Overlooks statement (statement.renderSelect waiting).state) :
    (statement.cleared.renderSelect waiting).result =
      (statement.renderSelect waiting).result := by
  induction statement generalizing waiting with
  | node root branches inductionHypothesis =>
      cases result : (Statement.renderSelect waiting (.node root branches)).result with
      | ok query => exact ((coherent.renderSelect quiet).2 query result).fresh
      | error error =>
          have added := root.addItems_invalidate waiting
          rw [cleared_node, result_renderSelect_of_not_kept _ (by rw [added]; rfl), added,
            QueryBlock.reorderJoins_invalidate, QueryBlock.readied_invalidate,
            QueryBlock.query_invalidate]
          have outcome := renderSelect_outcome waiting root branches
          generalize Statement.renderSelect waiting (.node root branches) = rendering
            at outcome quiet result
          cases outcome with
          | kept query kept => cases result
          | rendered queries events notKept ordered rendered => cases result
          | unordered error notKept circular =>
              cases result
              rw [Outcome.mapState, circular]
              rfl
          | stopped error events notKept ordered failed =>
              cases result
              have below := result_renderBranches_cleared
                (fun branch member => inductionHypothesis branch member
                  ((coherent_node.mp coherent).2 branch member))
                ((forall₂_not_overlooks quiet (forall₂_renderBranches _ branches)).imp
                  fun _ _ pair => pair.2)
              rw [Outcome.mapState, ordered, Except.bind]
              exact congrArg (Except.map _) (below.trans failed)

end Statement
end SqlBuilder
