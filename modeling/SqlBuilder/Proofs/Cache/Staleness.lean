import SqlBuilder.Proofs.Cache.Freshness
import SqlBuilder.Proofs.Join.Placement

/-!
# Stale renderings

A step that overlooks a change leaves a SELECT that differs from the fresh one
in the number of its joins or of its columns. So nothing stale is kept exactly
as long as nothing is overlooked.
-/

namespace SqlBuilder

namespace SelectList

theorem length_namedColumns (next : Nat) (list : SelectList) :
    (namedColumns next list).length = list.length := by
  induction list generalizing next with
  | nil => rfl
  | cons item rest inductionHypothesis =>
      rw [namedColumns]
      split <;> rw [List.length_cons, List.length_cons, inductionHypothesis]

end SelectList

namespace QueryBlock

/-- A query shows how many joins and columns its block has. -/
theorem lengths_eq_of_query_eq
    {first second : QueryBlock}
    {firsts seconds : List SelectQuery}
    (same : first.query firsts = second.query seconds) :
    first.joins.length = second.joins.length ∧
      first.selected.length = second.selected.length := by
  have columns_length : ∀ block : QueryBlock,
      block.arm.list.columns.length = block.selected.length := by
    intro block
    simp only [arm, outputList]
    split
    · exact SelectList.length_namedColumns 0 _
    · exact List.length_map _
  have joins_length : ∀ block : QueryBlock, block.arm.joins.length = block.joins.length :=
    fun block => List.length_map _
  have arms : first.arm = second.arm := by injection same
  rw [← joins_length, ← joins_length, ← columns_length, ← columns_length, arms]
  exact ⟨rfl, rfl⟩

theorem length_joins_readied (block : QueryBlock) :
    block.readied.joins.length = block.joins.length := by
  rw [joins_readied]
  exact block.perm_joins_reorderJoins.length_eq

theorem length_selected_le_addItems (block : QueryBlock) (items : List SelectedItem) :
    block.selected.length ≤ (block.addItems items).selected.length := by
  rcases block.addItems_eq_or_grows items with unchanged | ⟨_, longer⟩
  · exact Nat.le_of_eq (by rw [unchanged])
  · exact Nat.le_of_lt longer

theorem length_selected_le_readied (block : QueryBlock) :
    block.selected.length ≤ block.readied.selected.length := by
  have longer := length_selected_le_addItems block.reorderJoins.state
    block.reorderJoins.state.orderingItems
  rw [reorderJoins_state_eq] at longer
  rw [readied, reorderJoins_state_eq]
  exact longer

end QueryBlock

namespace Statement

open QueryBlock (ChangesVisibly)

/-- A SELECT that succeeds without being kept is read off the readied block and
the SELECTs of the branches. -/
theorem exists_queries_of_result_renderSelect
    {waiting : List SelectedItem}
    {root : QueryBlock}
    {branches : List Statement}
    {query : SelectQuery}
    (notKept : (root.addItems waiting).cachedSelect? = none)
    (succeeded : ((node root branches).renderSelect waiting).result = .ok query) :
    ∃ queries, query = (root.addItems waiting).readied.query queries ∧
      List.Forall₂ (fun branch inner =>
          (branch.renderSelect (waiting ++
            (root.addItems waiting).reorderJoins.state.orderingItems)).result = .ok inner)
        branches queries := by
  have outcome := renderSelect_outcome waiting root branches
  generalize renderSelect waiting (.node root branches) = rendering at outcome succeeded
  cases outcome with
  | kept query kept =>
      rw [notKept] at kept
      cases kept
  | unordered error notKept circular => cases succeeded
  | stopped error events notKept ordered failed => cases succeeded
  | rendered queries events notKept ordered rendered =>
      cases succeeded
      exact ⟨queries, rfl, (forall₂_renderBranches_of_ok rendered).2⟩

/-- A fresh SELECT is read off the readied block and the fresh SELECTs of the
branches. -/
theorem exists_queries_of_result_renderSelect_cleared
    {waiting : List SelectedItem}
    {root : QueryBlock}
    {branches : List Statement}
    {query : SelectQuery}
    (succeeded : ((node root branches).cleared.renderSelect waiting).result = .ok query) :
    ∃ queries, query = (root.addItems waiting).readied.query queries ∧
      List.Forall₂ (fun branch inner =>
          (branch.cleared.renderSelect (waiting ++
            (root.addItems waiting).reorderJoins.state.orderingItems)).result = .ok inner)
        branches queries := by
  have added := root.addItems_invalidate waiting
  rw [cleared_node] at succeeded
  obtain ⟨queries, rfl, rendered⟩ := exists_queries_of_result_renderSelect
    (by rw [added]; rfl) succeeded
  rw [added, QueryBlock.reorderJoins_invalidate, List.forall₂_map_left_iff] at rendered
  refine ⟨queries, ?_, rendered⟩
  rw [added, QueryBlock.readied_invalidate, QueryBlock.query_invalidate]

/-- Where a tree has changed visibly its fresh SELECT is not the reading of
before, and neither is it where entries are still waiting. -/
theorem eq_and_selectsAll_of_result_renderSelect_cleared
    {before after : Statement}
    (related : Related ChangesVisibly before after)
    {waiting : List SelectedItem}
    (succeeded : (after.cleared.renderSelect waiting).result = .ok before.reading) :
    after = before ∧ before.SelectsAll waiting := by
  induction related using Related.induction generalizing waiting with
  | node first second firsts seconds roots pairs inductionHypothesis =>
      obtain ⟨queries, read, rendered⟩ :=
        exists_queries_of_result_renderSelect_cleared succeeded
      rw [reading_node] at read
      obtain ⟨joins_length, selected_length⟩ := QueryBlock.lengths_eq_of_query_eq read
      rw [QueryBlock.length_joins_readied, QueryBlock.joins_addItems] at joins_length
      have readiedLonger := (second.addItems waiting).length_selected_le_readied
      have addedLonger := second.length_selected_le_addItems waiting
      obtain rfl : second = first := by
        rcases roots with unchanged | ⟨_, joins | columns⟩
        · exact unchanged
        · exact absurd joins_length.symm joins
        · omega
      have rootSelects : ∀ item ∈ waiting, second.selected.hasSql item.sql = true := by
        rcases second.addItems_eq_or_grows waiting with unchanged | ⟨_, grown⟩
        · intro item member
          have selected := second.hasSql_addItems_of_mem waiting member
          rwa [unchanged] at selected
        · omega
      obtain rfl : queries = firsts.map reading := by
        injection read with _ _ readings
        exact readings.symm
      rw [List.forall₂_map_right_iff] at rendered
      have same := List.Forall₂.mp (fun _ _ pair succeeded => pair.choose_spec succeeded)
        inductionHypothesis rendered.flip
      obtain rfl : firsts = seconds := by
        rw [← List.forall₂_eq_eq_eq]
        exact same.imp fun _ _ pair => pair.1.symm
      refine ⟨rfl, selectsAll_node.mpr ⟨rootSelects, fun branch member => ?_⟩⟩
      exact (selectsAll_append.mp (List.forall₂_same.mp same branch member).2).1

/-- Nothing changes where entries are added that are selected everywhere. -/
theorem mapBlocks_addItems_eq_self
    {statement : Statement}
    {items : List SelectedItem}
    (selects : statement.SelectsAll items) :
    statement.mapBlocks (·.addItems items) = statement := by
  induction statement with
  | node root branches inductionHypothesis =>
      obtain ⟨rootSelects, branchesSelect⟩ := selectsAll_node.mp selects
      have branches_eq : branches.map (mapBlocks (·.addItems items)) = branches.map id :=
        List.map_congr_left fun branch member =>
          inductionHypothesis branch member (branchesSelect branch member)
      rw [mapBlocks_node, QueryBlock.addItems_eq_self rootSelects, branches_eq, List.map_id]

/-- A SELECT that is written anew overlooks nothing at its root. -/
theorem exists_overlooks_of_rendered
    {waiting : List SelectedItem}
    {root : QueryBlock}
    {before after : List Statement}
    {rendering : Rendering}
    (notKept : (root.addItems waiting).cachedSelect? = none)
    (overlooks : Overlooks (.node root before)
      (.node { (root.addItems waiting).readied with cache := some rendering } after)) :
    ∃ (position : Nat) (old new : Statement), before[position]? = some old ∧
      after[position]? = some new ∧ Overlooks old new := by
  rcases overlooks_node.mp overlooks with ⟨root_eq, kept, _⟩ | inBranch
  · have selected_eq := congrArg (fun block => block.selected.length) root_eq
    have readiedLonger := (root.addItems waiting).length_selected_le_readied
    rcases root.addItems_eq_or_grows waiting with unchanged | ⟨_, grown⟩
    · rw [root_eq, ← unchanged, notKept] at kept
      cases kept
    · dsimp only at selected_eq
      omega
  · exact inBranch

/-- A SELECT that comes to the fresh one overlooks nothing. -/
theorem not_overlooks_renderSelect
    {statement : Statement}
    {waiting : List SelectedItem}
    {query : SelectQuery}
    (coherent : statement.Coherent)
    (succeeded : (statement.renderSelect waiting).result = .ok query)
    (fresh : (statement.cleared.renderSelect waiting).result = .ok query) :
    ¬ Overlooks statement (statement.renderSelect waiting).state := by
  induction statement generalizing waiting query with
  | node root branches inductionHypothesis =>
      obtain ⟨atRoot, below⟩ := coherent_node.mp coherent
      have outcome := renderSelect_outcome waiting root branches
      generalize Statement.renderSelect waiting (.node root branches) = rendering
        at outcome succeeded ⊢
      cases outcome with
      | unordered error notKept circular => cases succeeded
      | stopped error events notKept ordered failed => cases succeeded
      | kept kept kept_eq =>
          cases succeeded
          rcases leftOrForgets_addItems root waiting with unchanged | forgotten
          · rw [unchanged] at kept_eq ⊢
            obtain ⟨_, rfl⟩ := atRoot query kept_eq
            have selects := (eq_and_selectsAll_of_result_renderSelect_cleared
              (.refl QueryBlock.changesVisibly_refl _) fresh).2
            have same := mapBlocks_addItems_eq_self selects
            rw [mapBlocks_node, unchanged] at same
            rw [Outcome.state_ok, same]
            exact not_overlooks_self _
          · rw [forgotten] at kept_eq
            cases kept_eq
      | rendered queries events notKept ordered rendered =>
          cases succeeded
          obtain ⟨state_eq, pairs⟩ := forall₂_renderBranches_of_ok rendered
          obtain ⟨freshQueries, read, freshPairs⟩ :=
            exists_queries_of_result_renderSelect_cleared fresh
          obtain rfl : queries = freshQueries := by
            injection read
          have each : ∀ branch ∈ branches, ¬ Overlooks branch (branch.renderSelect
              (waiting ++ (root.addItems waiting).reorderJoins.state.orderingItems)).state := by
            refine forall_mem_of_forall₂ (List.Forall₂.mp (fun _ _ => And.intro)
              ((List.forall₂_and_left branches _).mpr ⟨fun _ member => member, pairs⟩)
              freshPairs).flip ?_
            rintro inner - branch ⟨⟨member, succeeded⟩, fresh⟩
            exact inductionHypothesis branch member (below branch member) succeeded fresh
          intro overlooks
          rw [state_eq] at overlooks
          obtain ⟨position, old, new, inBefore, inAfter, overlooks⟩ :=
            exists_overlooks_of_rendered notKept overlooks
          rw [List.getElem?_map, inBefore, Option.map_some, Option.some.injEq] at inAfter
          exact each old (List.mem_of_getElem? inBefore) (inAfter ▸ overlooks)

/-! ## What is kept over an overlooked change is stale -/

/-- A visible change that is overlooked leaves something stale behind. -/
theorem not_upToDate_of_visible
    {before after : Statement}
    (overlooks : Overlooks before after)
    (coherent : before.Coherent)
    (related : Related ChangesVisibly before after) : ¬ after.UpToDate := by
  induction overlooks with
  | @atRoot root before after kept differ =>
      intro upToDate
      obtain ⟨query, kept⟩ := Option.isSome_iff_exists.mp kept
      obtain ⟨_, rfl⟩ := (coherent_node.mp coherent).1 query kept
      have fresh := (upToDate_node.mp upToDate).1 _ ⟨0⟩
        (QueryBlock.cachedSelect?_eq_some_iff.mp kept)
      obtain ⟨query, succeeded, read⟩ := result_render_select_eq_ok_iff.mp fresh
      cases read
      have same := (eq_and_selectsAll_of_result_renderSelect_cleared related succeeded).1
      cases same
      exact differ rfl
  | inBranch inBefore inAfter _ inductionHypothesis =>
      intro upToDate
      cases related with
      | node roots pairs =>
          exact inductionHypothesis
            ((coherent_node.mp coherent).2 _ (List.mem_of_getElem? inBefore))
            (rel_getElem?_of_forall₂ pairs inBefore inAfter)
            ((upToDate_node.mp upToDate).2 _ (List.mem_of_getElem? inAfter))

/-- Entries that are added where a kept SELECT overlooks them leave something
stale behind. -/
theorem not_upToDate_mapBlocks_addItems
    {statement : Statement}
    (items : List SelectedItem)
    (coherent : statement.Coherent)
    (overlooks : Overlooks statement (statement.mapBlocks (·.addItems items))) :
    ¬ (statement.mapBlocks (·.addItems items)).UpToDate :=
  not_upToDate_of_visible overlooks coherent
    (related_mapBlocks (fun block => block.changesVisibly_addItems items) statement)

/-- A SELECT that overlooks a change leaves something stale behind. -/
theorem not_upToDate_renderSelect
    {statement : Statement}
    {waiting : List SelectedItem}
    (coherent : statement.Coherent)
    (overlooks : Overlooks statement (statement.renderSelect waiting).state) :
    ¬ (statement.renderSelect waiting).state.UpToDate := by
  induction statement generalizing waiting with
  | node root branches inductionHypothesis =>
      obtain ⟨atRoot, below⟩ := coherent_node.mp coherent
      -- Behind a failure branches only receive entries; before it they are rendered.
      have ofBranch : ∀ (items : List SelectedItem) (old new : Statement),
          old ∈ branches → Overlooks old new →
          new = (old.renderSelect items).state ∨ new = old.mapBlocks (·.addItems items) →
          ¬ new.UpToDate := by
        rintro items old new member overlooks (rfl | rfl)
        · exact inductionHypothesis old member (below old member) overlooks
        · exact not_upToDate_mapBlocks_addItems items (below old member) overlooks
      have outcome := renderSelect_outcome waiting root branches
      generalize Statement.renderSelect waiting (.node root branches) = rendering
        at outcome overlooks ⊢
      cases outcome with
      | kept query kept =>
          have added := not_upToDate_mapBlocks_addItems waiting coherent
          rw [mapBlocks_node] at added
          exact added overlooks
      | unordered error notKept circular =>
          obtain ⟨position, old, new, inBefore, inAfter, overlooks⟩ :=
            exists_overlooks_of_cachedSelect?_eq_none
              ((cachedSelect?_reorderJoins _).trans notKept) overlooks
          intro upToDate
          have newUpToDate := (upToDate_node.mp upToDate).2 new (List.mem_of_getElem? inAfter)
          rw [List.getElem?_map, inBefore, Option.map_some, Option.some.injEq] at inAfter
          exact ofBranch waiting old new (List.mem_of_getElem? inBefore) overlooks
            (.inr inAfter.symm) newUpToDate
      | stopped error events notKept ordered failed =>
          obtain ⟨position, old, new, inBefore, inAfter, overlooks⟩ :=
            exists_overlooks_of_cachedSelect?_eq_none
              (cachedSelect?_readied_eq_none notKept) overlooks
          intro upToDate
          have renderedOrAdded :=
            rel_getElem?_of_forall₂ (forall₂_renderBranches _ branches) inBefore inAfter
          exact ofBranch _ old new (List.mem_of_getElem? inBefore) overlooks renderedOrAdded
            ((upToDate_node.mp upToDate).2 new (List.mem_of_getElem? inAfter))
      | rendered queries events notKept ordered rendered =>
          obtain ⟨position, old, new, inBefore, inAfter, overlooks⟩ :=
            exists_overlooks_of_rendered notKept overlooks
          intro upToDate
          have renderedOrAdded :=
            rel_getElem?_of_forall₂ (forall₂_renderBranches _ branches) inBefore inAfter
          exact ofBranch _ old new (List.mem_of_getElem? inBefore) overlooks renderedOrAdded
            ((upToDate_node.mp upToDate).2 new (List.mem_of_getElem? inAfter))

/-- A step of a run that overlooks a change leaves something stale behind. -/
theorem not_upToDate_onBranch
    {statement : Statement}
    {operation : Operation}
    {path : List Nat}
    {outcome : Outcome Statement Unit}
    (coherent : statement.Coherent)
    (current : ∀ block ∈ statement.blocks, block.KeepsCurrent)
    (operated : statement.onBranch operation.run path = some outcome)
    (overlooks : Overlooks statement outcome.state) : ¬ outcome.state.UpToDate := by
  induction path generalizing statement outcome with
  | nil =>
      rw [onBranch_nil, Option.some.injEq] at operated
      subst operated
      rcases run_state_cases (current _ statement.block_mem_blocks) operation with
        ⟨other, rfl⟩ | state_eq | change
      · exact absurd overlooks (not_overlooks_union statement other)
      · rw [state_eq] at overlooks ⊢
        exact not_upToDate_renderSelect coherent overlooks
      · exact not_upToDate_of_visible overlooks coherent (change.visible_of_overlooks overlooks)
  | cons position path inductionHypothesis =>
      cases statement with
      | node root branches =>
          obtain ⟨branch, changed, found, below, rfl⟩ := onBranch_cons_eq_some_iff.mp operated
          have member := List.mem_of_getElem? found
          intro upToDate
          refine inductionHypothesis ((coherent_node.mp coherent).2 branch member)
            ((forall_mem_blocks_node.mp current).2 branch member) below
            (overlooks_of_overlooks_set found overlooks) ?_
          apply (upToDate_node.mp upToDate).2
          exact List.mem_set (List.getElem?_eq_some_iff.mp found).1 _

/-! ## Fresh exactly as long as nothing is overlooked -/

/-- A rendering does not depend on what a coherent tree keeps, exactly if it
overlooks nothing itself. -/
theorem Coherent.result_render_cleared_iff
    {statement : Statement}
    {framing : Framing}
    {id : StatementId}
    {rendering : Rendering}
    (coherent : statement.Coherent)
    (current : statement.block.KeepsCurrent)
    (rendered : (statement.render framing id).result = .ok rendering) :
    (statement.cleared.render framing id).result = .ok rendering ↔
      ¬ Overlooks statement (statement.render framing id).state := by
  cases framing with
  | select =>
      obtain ⟨query, succeeded, rfl⟩ := result_render_select_eq_ok_iff.mp rendered
      constructor
      · intro fresh
        obtain ⟨other, fresh, same⟩ := result_render_select_eq_ok_iff.mp fresh
        cases same
        exact not_overlooks_renderSelect coherent succeeded fresh
      · intro quiet
        refine result_render_select_eq_ok_iff.mpr ⟨query, ?_, rfl⟩
        exact ((coherent.renderSelect quiet).2 query succeeded).fresh
  | update =>
      apply iff_of_true ((result_render_update_cleared current id).trans rendered)
      cases statement with
      | node root branches => exact not_overlooks_of_same_branches
  | delete =>
      apply iff_of_true ((result_render_delete_cleared current id).trans rendered)
      cases statement with
      | node root branches => exact not_overlooks_of_same_branches

/-- The text of a rendering that overlooks nothing does not depend on what a
coherent tree keeps. -/
theorem Coherent.result_sql_cleared
    {statement : Statement}
    {framing : Framing}
    {id : StatementId}
    {text : String}
    (coherent : statement.Coherent)
    (current : statement.block.KeepsCurrent)
    (written : (statement.sql framing id).result = .ok text)
    (quiet : ¬ Overlooks statement (statement.render framing id).state) :
    (statement.cleared.sql framing id).result = .ok text := by
  rw [result_sql] at written ⊢
  cases rendered : (statement.render framing id).result with
  | error error =>
      rw [rendered] at written
      cases written
  | ok rendering =>
      rw [(coherent.result_render_cleared_iff current rendered).mpr quiet]
      rw [rendered] at written
      exact written

/-- As long as no step overlooks a change, all that is kept is fresh; a render
that succeeds comes to the fresh rendering exactly if it overlooks nothing
itself, and then its text is the fresh one; and a step leaves something stale
behind exactly if it overlooks a change. -/
theorem fresh_iff_not_overlooks
    {statement : Statement}
    (reached : ReachedQuietly statement) :
    statement.UpToDate ∧
      (∀ path branch framing id rendering, statement.branchAt? path = some branch →
        (branch.render framing id).result = .ok rendering →
        ((branch.cleared.render framing id).result = .ok rendering ↔
          ¬ Overlooks branch (branch.render framing id).state)) ∧
      (∀ path branch framing id text, statement.branchAt? path = some branch →
        (branch.sql framing id).result = .ok text →
        ¬ Overlooks branch (branch.render framing id).state →
        (branch.cleared.sql framing id).result = .ok text) ∧
      ∀ (operation : Operation) path outcome,
        (∀ other, operation = .union other → ReachedQuietly other) →
        statement.onBranch operation.run path = some outcome →
        (outcome.state.UpToDate ↔ ¬ Overlooks statement outcome.state) := by
  have coherent := reached.coherent
  have current := reached.reachable.keepsCurrent
  have currentAt : ∀ path branch, statement.branchAt? path = some branch →
      branch.block.KeepsCurrent := fun path branch found =>
    current _ (blocks_subset_of_branchAt? found branch.block_mem_blocks)
  refine ⟨coherent.upToDate current, ?_, ?_, ?_⟩
  · intro path branch framing id rendering found rendered
    exact (coherent.branchAt? found).result_render_cleared_iff (currentAt path branch found)
      rendered
  · intro path branch framing id text found written quiet
    exact (coherent.branchAt? found).result_sql_cleared (currentAt path branch found) written
      quiet
  · intro operation path outcome brought operated
    constructor
    · intro upToDate overlooks
      exact not_upToDate_onBranch coherent current operated overlooks upToDate
    · intro quiet
      have after : ReachedQuietly outcome.state := reached.step brought operated quiet
      exact after.coherent.upToDate after.reachable.keepsCurrent

/-- People and people again, before anything is rendered. -/
def twicePeople : Statement :=
  (Operation.run (.union (people {})) (people {})).state

theorem fresh_iff_not_overlooks_twicePeople :
    twicePeople.UpToDate ∧
      (twicePeople.cleared.sql .select ⟨2⟩).result =
        .ok "SELECT * FROM person A0 UNION ALL SELECT * FROM person A0" ∧
      (twicePeople.sql .select ⟨2⟩).state.UpToDate := by
  have peopleReached := reachedBy_people (fun before after => ¬ Overlooks before after) {}
  have reached : ReachedQuietly twicePeople := by
    refine peopleReached.run (.union (people {})) ?_ (not_overlooks_union _ _)
    intro other isUnion
    cases isUnion
    exact peopleReached
  obtain ⟨upToDate, renders, texts, steps⟩ := fresh_iff_not_overlooks reached
  have quiet : ¬ Overlooks twicePeople (twicePeople.render .select ⟨2⟩).state :=
    (renders [] twicePeople .select ⟨2⟩ _ (branchAt?_nil _) rfl).mp rfl
  refine ⟨upToDate, texts [] twicePeople .select ⟨2⟩ _ (branchAt?_nil _) rfl quiet, ?_⟩
  exact (steps (.render .select ⟨2⟩) [] _ (fun other isUnion => nomatch isUnion)
    (onBranch_nil _)).mpr quiet

/-- People with cities, united with people and rendered, and then the same cities
joined once more. -/
def citiesJoinedAgain : Statement :=
  let joinCities : Operation := .crossJoin { name := "city" } (some "X") none
  let united := (Operation.run (.union (people {})) ((people {}).runAll [joinCities])).state
  united.runAll [.render .select ⟨2⟩, joinCities]

/-- The second join reaches the branch alone, and the statement above keeps
serving its old text. -/
theorem stale_select_citiesJoinedAgain :
    citiesJoinedAgain.Reachable ∧
      (citiesJoinedAgain.sql .select ⟨3⟩).result = .ok
        "SELECT * FROM person A0 CROSS JOIN city X UNION ALL SELECT * FROM person A0" ∧
      (citiesJoinedAgain.cleared.sql .select ⟨3⟩).result = .ok
        ("SELECT * FROM person A0 CROSS JOIN city X UNION ALL " ++
          "SELECT * FROM person A0 CROSS JOIN city X") := by
  have peopleReached := reachedBy_people (fun _ _ => True) {}
  refine ⟨Reachable.runAll (by simp) ?_, rfl, rfl⟩
  refine ReachedBy.run (Reachable.runAll (by simp) peopleReached) (.union (people {})) ?_ trivial
  intro other isUnion
  cases isUnion
  exact peopleReached

end Statement
end SqlBuilder
