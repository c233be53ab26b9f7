import SqlBuilder.Proofs.Join.Emission
import SqlBuilder.Proofs.Selection.Growth

/-!
# Following a statement through a run

A statement in a tree keeps its place, whatever is done to the tree, while its select
list grows. The statements above it may keep a SELECT that was written when the list
was shorter. An operation on the statement makes all of them forget theirs, so that
from then on everything they keep shows at least the list that the operation left.
-/

namespace SqlBuilder

namespace SelectQuery

/-- The query of the branch at a path. -/
def branchAt? (query : SelectQuery) : List Nat → Option SelectQuery
  | [] => some query
  | position :: path =>
      query.branches[position]?.bind fun branch => branch.branchAt? path

/-- A query shows a select list at the branch at a path. The list starts with one
list, and another starts with it. -/
def ShowsAt (query : SelectQuery) (path : List Nat) (least most : SelectList) : Prop :=
  ∃ inner items, query.branchAt? path = some inner ∧ inner.Lists items ∧
    least <+: items ∧ items <+: most

theorem ShowsAt.of_isPrefix
    {query : SelectQuery}
    {path : List Nat}
    {least most longer : SelectList}
    (shows : query.ShowsAt path least most)
    (grown : most <+: longer) : query.ShowsAt path least longer := by
  obtain ⟨inner, items, found, lists, atLeast, atMost⟩ := shows
  exact ⟨inner, items, found, lists, atLeast, atMost.trans grown⟩

/-- What the query of a branch shows a query shows below the position of the
branch. -/
theorem ShowsAt.below
    {query branch : SelectQuery}
    {position : Nat}
    {path : List Nat}
    {least most : SelectList}
    (shows : branch.ShowsAt path least most)
    (found : query.branches[position]? = some branch) :
    query.ShowsAt (position :: path) least most := by
  obtain ⟨inner, items, foundBelow, bounds⟩ := shows
  refine ⟨inner, items, ?_, bounds⟩
  rw [branchAt?, found, Option.bind_some, foundBelow]

end SelectQuery

namespace Statement

open QueryBlock (Grows EditedTo)

/-- A statement stands at a path of a tree. If a list is known that its select list
starts with, the SELECTs kept on the way show no less of it than that. -/
inductive Follows (known : Option SelectList) : List Nat → Statement → Statement → Prop
  | here {statement : Statement} :
      (∀ least ∈ known, least <+: statement.block.selected) →
      Follows known [] statement statement
  | inBranch
      {root : QueryBlock}
      {branches : List Statement}
      {position : Nat}
      {path : List Nat}
      {branch followed : Statement} :
      branches[position]? = some branch →
      Follows known path branch followed →
      (∀ least ∈ known, ∀ query, root.cachedSelect? = some query →
        query.ShowsAt (position :: path) least followed.block.selected) →
      Follows known (position :: path) (.node root branches) followed

variable {known : Option SelectList} {place : List Nat} {statement followed : Statement}

theorem Follows.branchAt?_eq (follows : Follows known place statement followed) :
    statement.branchAt? place = some followed := by
  induction follows with
  | here _ => exact branchAt?_nil _
  | inBranch found _ _ inductionHypothesis =>
      rw [branchAt?_cons, branches_node, found, Option.bind_some, inductionHypothesis]

theorem Follows.known_isPrefix
    (follows : Follows known place statement followed) :
    ∀ least ∈ known, least <+: followed.block.selected := by
  induction follows with
  | here atLeast => exact atLeast
  | inBranch _ _ _ inductionHypothesis => exact inductionHypothesis

/-- Every statement of a tree is followed when nothing has to be known. -/
theorem follows_none (found : statement.branchAt? place = some followed) :
    Follows none place statement followed := by
  induction place generalizing statement with
  | nil =>
      rw [branchAt?_nil, Option.some.injEq] at found
      subst found
      exact .here fun _ isKnown => nomatch isKnown
  | cons position path inductionHypothesis =>
      cases statement with
      | node root branches =>
          rw [branchAt?_cons, branches_node, Option.bind_eq_some_iff] at found
          obtain ⟨branch, at_position, found⟩ := found
          exact .inBranch at_position (inductionHypothesis found) fun _ isKnown => nomatch isKnown

/-- A statement is followed from every statement above it. -/
theorem Follows.of_append
    {upper rest : List Nat}
    {above : Statement}
    (follows : Follows known (upper ++ rest) statement followed)
    (found : statement.branchAt? upper = some above) : Follows known rest above followed := by
  induction upper generalizing statement with
  | nil =>
      rw [branchAt?_nil, Option.some.injEq] at found
      exact found ▸ follows
  | cons position upper inductionHypothesis =>
      cases follows with
      | inBranch inBranches follows _ =>
          rw [branchAt?_cons, branches_node, inBranches, Option.bind_some] at found
          exact inductionHypothesis follows found

/-! ## Changes other than renderings -/

/-- Where every block on the way is left alone or forgets its SELECT, the statement is
still followed. -/
theorem Follows.of_related
    {after : Statement}
    (follows : Follows known place statement followed)
    (related : Related (fun old new => LeftOrForgets old new ∧ Grows old new)
      statement after) :
    ∃ later, Follows known place after later ∧ Grows followed.block later.block := by
  induction follows generalizing after with
  | @here statement atLeast =>
      have grown := related.block.2
      exact ⟨after, .here fun least isKnown => (atLeast least isKnown).trans grown, grown⟩
  | inBranch found _ kept inductionHypothesis =>
      cases related with
      | node roots pairs =>
          obtain ⟨branch, foundAfter, related⟩ := exists_getElem?_of_forall₂ pairs found
          obtain ⟨later, follows, grown⟩ := inductionHypothesis related
          refine ⟨later, .inBranch foundAfter follows ?_, grown⟩
          intro least isKnown query keptAfter
          rcases roots.1 with rfl | forgotten
          · exact (kept least isKnown query keptAfter).of_isPrefix grown
          · rw [forgotten] at keptAfter
            cases keptAfter

/-- Entries that are added to every block leave the statement followed. -/
theorem Follows.mapBlocks_addItems
    (follows : Follows known place statement followed)
    (items : List SelectedItem) :
    ∃ later, Follows known place (statement.mapBlocks (·.addItems items)) later ∧
      Grows followed.block later.block := by
  apply follows.of_related
  refine related_mapBlocks (fun block => ⟨leftOrForgets_addItems block items, ?_⟩) statement
  exact QueryBlock.EditedTo.grows (.inr (block.readiedTo_addItems items))

/-- A statement is followed into a tree in which its root has forgotten its SELECT and
the branch on the way has changed. -/
theorem Follows.inBranch_of_not_kept
    {root : QueryBlock}
    {branches : List Statement}
    {position : Nat}
    {branch : Statement}
    (follows : Follows known place branch followed)
    (found : branches[position]? = some branch)
    (notKept : root.cachedSelect? = none) :
    Follows known (position :: place) (.node root branches) followed := by
  refine .inBranch found follows fun least isKnown query kept => ?_
  rw [notKept] at kept
  cases kept

/-! ## Renderings -/

/-- A SELECT that is rendered is kept. -/
theorem cachedSelect?_of_result_renderSelect
    {waiting : List SelectedItem}
    {query : SelectQuery}
    (rendered : (statement.renderSelect waiting).result = .ok query) :
    (statement.renderSelect waiting).state.block.cachedSelect? = some query := by
  cases statement with
  | node root branches =>
      have outcome := renderSelect_outcome waiting root branches
      generalize renderSelect waiting (.node root branches) = rendering at outcome rendered
      cases outcome with
      | kept query kept =>
          cases rendered
          exact kept
      | unordered error _ _ => cases rendered
      | stopped error events _ _ _ => cases rendered
      | rendered queries events _ _ _ =>
          cases rendered
          rfl

/-- A SELECT shows the select list that its rendering leaves. -/
theorem lists_of_result_renderSelect
    {waiting : List SelectedItem}
    {query : SelectQuery}
    (current : statement.block.KeepsCurrent)
    (rendered : (statement.renderSelect waiting).result = .ok query) :
    query.Lists (statement.renderSelect waiting).state.block.selected := by
  have readied := (related_renderSelect waiting statement).block
  have currentAfter := QueryBlock.EditedTo.preserves
    (fun _ _ becomes => QueryBlock.KeepsCurrent.becomes becomes) (.inr readied) current
  have kept := QueryBlock.cachedSelect?_eq_some_iff.mp
    (cachedSelect?_of_result_renderSelect rendered)
  rw [(currentAfter.select query kept).1]
  exact QueryBlock.lists_query _ _

/-- Rendering a SELECT readies the root. -/
theorem readiedTo_selectQuery (statement : Statement) :
    QueryBlock.ReadiedTo statement.block statement.selectQuery.state.block :=
  (related_renderSelect [] statement).block

/-- A SELECT is read off the root that its rendering leaves, and the rendering has added
to the select list of the root what the ordering needs. -/
theorem query_eq_and_selected_eq_of_result_selectQuery
    {query : SelectQuery}
    (current : statement.block.KeepsCurrent)
    (rendered : statement.selectQuery.result = .ok query) :
    query = statement.selectQuery.state.block.query query.branches ∧
      statement.selectQuery.state.block.selected =
        statement.block.selected.addAll statement.block.orderingItems := by
  cases statement with
  | node root branches =>
      rw [block_node] at current ⊢
      rcases selectQuery_cases rendered with ⟨kept, block_eq⟩ | ⟨queries, _, rfl, block_eq⟩
      · obtain ⟨query_eq, selects⟩ := current.select query kept
        rw [block_eq, ← QueryBlock.selected_addItems,
          QueryBlock.addItems_eq_self selects]
        exact ⟨query_eq, rfl⟩
      · rw [block_eq]
        exact ⟨rfl, root.selected_readied_eq⟩

/-- A rendering leaves a statement followed, and if it succeeds, the SELECT shows no
less of its select list than those that were kept. -/
def FollowsRendering
    (known : Option SelectList)
    (place : List Nat)
    (rendering : Outcome Statement SelectQuery)
    (followed : Statement) : Prop :=
  ∃ later, Follows known place rendering.state later ∧ Grows followed.block later.block ∧
    ∀ query, rendering.result = .ok query →
      ∀ least ∈ known, query.ShowsAt place least later.block.selected

/-- The branches are rendered in turn until one fails. A statement in one of them is
followed, whether the branch has been rendered or not. -/
theorem Follows.renderBranches
    {branches : List Statement}
    {position : Nat}
    {branch : Statement}
    {items : List SelectedItem}
    (follows : Follows known place branch followed)
    (found : branches[position]? = some branch)
    (below : FollowsRendering known place (branch.renderSelect items) followed) :
    ∃ after later, (Statement.renderBranches items branches).state[position]? = some after ∧
      Follows known place after later ∧ Grows followed.block later.block := by
  obtain ⟨after, foundAfter, change⟩ :=
    exists_getElem?_of_forall₂ (forall₂_renderBranches items branches) found
  rcases change with rfl | rfl
  · obtain ⟨later, follows, grown, _⟩ := below
    exact ⟨_, later, foundAfter, follows, grown⟩
  · obtain ⟨later, follows, grown⟩ := follows.mapBlocks_addItems items
    exact ⟨_, later, foundAfter, follows, grown⟩

/-- A rendering that leaves the statement followed in a branch leaves it followed in
the tree. -/
theorem Follows.renderSelect_node
    {root : QueryBlock}
    {branches : List Statement}
    {position : Nat}
    {branch : Statement}
    (waiting : List SelectedItem)
    (found : branches[position]? = some branch)
    (follows : Follows known place branch followed)
    (kept : ∀ least ∈ known, ∀ query, root.cachedSelect? = some query →
      query.ShowsAt (position :: place) least followed.block.selected)
    (below : ∀ items, FollowsRendering known place (branch.renderSelect items) followed) :
    FollowsRendering known (position :: place) ((node root branches).renderSelect waiting)
      followed := by
  obtain ⟨added, followsAdded, grownAdded⟩ := follows.mapBlocks_addItems waiting
  have foundAdded : (branches.map (mapBlocks (·.addItems waiting)))[position]? =
      some (branch.mapBlocks (·.addItems waiting)) := by
    rw [List.getElem?_map, found, Option.map_some]
  have outcome := renderSelect_outcome waiting root branches
  generalize Statement.renderSelect waiting (.node root branches) = rendering at outcome
  cases outcome with
  | kept query keptAfter =>
      -- What is kept is rendered only if no entry was added to the root.
      rcases leftOrForgets_addItems root waiting with unchanged | forgotten
      · rw [unchanged] at keptAfter ⊢
        have stillShown : ∀ least ∈ known, ∀ query, root.cachedSelect? = some query →
            query.ShowsAt (position :: place) least added.block.selected :=
          fun least isKnown query isKept => (kept least isKnown query isKept).of_isPrefix grownAdded
        refine ⟨added, .inBranch foundAdded followsAdded stillShown, grownAdded, ?_⟩
        intro other rendered least isKnown
        cases rendered
        exact stillShown least isKnown query keptAfter
      · rw [forgotten] at keptAfter
        cases keptAfter
  | unordered error notKept circular =>
      have stillNotKept : (root.addItems waiting).reorderJoins.state.cachedSelect? = none := by
        rw [cachedSelect?_reorderJoins, notKept]
      exact ⟨added, followsAdded.inBranch_of_not_kept foundAdded stillNotKept, grownAdded,
        fun _ rendered => nomatch rendered⟩
  | stopped error events notKept ordered failed =>
      obtain ⟨after, later, foundAfter, followsAfter, grown⟩ :=
        follows.renderBranches found (below _)
      have stillNotKept := cachedSelect?_readied_eq_none notKept
      exact ⟨later, followsAfter.inBranch_of_not_kept foundAfter stillNotKept, grown,
        fun _ rendered => nomatch rendered⟩
  | rendered queries events notKept ordered rendered =>
      obtain ⟨state_eq, pairs⟩ := forall₂_renderBranches_of_ok rendered
      obtain ⟨branchQuery, foundQuery, branchRendered⟩ := exists_getElem?_of_forall₂ pairs found
      obtain ⟨later, followsAfter, grown, shows⟩ := below _
      have shown : ∀ least ∈ known,
          ((root.addItems waiting).readied.query queries).ShowsAt (position :: place) least
            later.block.selected :=
        fun least isKnown => (shows branchQuery branchRendered least isKnown).below foundQuery
      refine ⟨later, .inBranch ?_ followsAfter ?_, grown, ?_⟩
      · rw [state_eq, List.getElem?_map, found, Option.map_some]
      · intro least isKnown query keptAfter
        cases keptAfter
        exact shown least isKnown
      · intro query rendered least isKnown
        cases rendered
        exact shown least isKnown

/-- Every rendering of a tree leaves its statements followed. -/
theorem Follows.renderSelect
    (follows : Follows known place statement followed)
    (current : ∀ block ∈ statement.blocks, block.KeepsCurrent)
    (waiting : List SelectedItem) :
    FollowsRendering known place (statement.renderSelect waiting) followed := by
  induction follows generalizing waiting with
  | @here statement atLeast =>
      have grown : Grows statement.block (statement.renderSelect waiting).state.block :=
        QueryBlock.EditedTo.grows (.inr (related_renderSelect waiting statement).block)
      have stillAtLeast : ∀ least ∈ known,
          least <+: (statement.renderSelect waiting).state.block.selected :=
        fun least isKnown => (atLeast least isKnown).trans grown
      refine ⟨_, .here stillAtLeast, grown, fun query rendered least isKnown => ?_⟩
      exact ⟨query, _, rfl, lists_of_result_renderSelect
        (current _ statement.block_mem_blocks) rendered, stillAtLeast least isKnown,
        List.prefix_refl _⟩
  | inBranch found follows kept inductionHypothesis =>
      have currentBelow := (forall_mem_blocks_node.mp current).2 _ (List.mem_of_getElem? found)
      exact follows.renderSelect_node waiting found kept (inductionHypothesis currentBelow)

/-! ## Operations -/

/-- A union leaves the statements of the tree where they are. -/
theorem Follows.union
    (follows : Follows known place statement followed)
    (other : Statement) :
    ∃ later, Follows known place (statement.union other).state later ∧
      Grows followed.block later.block := by
  simp only [Statement.union]
  split
  · cases follows with
    | here atLeast => exact ⟨_, .here atLeast, List.prefix_refl _⟩
    | inBranch found follows _ =>
        refine ⟨followed, follows.inBranch_of_not_kept ?_ rfl, List.prefix_refl _⟩
        rw [branches_node, List.getElem?_append_left (List.getElem?_eq_some_iff.mp found).1, found]
  · exact ⟨followed, follows, List.prefix_refl _⟩

/-- Every operation on the root leaves a statement of the tree followed. -/
theorem Follows.run
    (follows : Follows known place statement followed)
    (current : ∀ block ∈ statement.blocks, block.KeepsCurrent)
    (operation : Operation) :
    ∃ later, Follows known place (operation.run statement).state later ∧
      Grows followed.block later.block := by
  by_cases notUnion : ∀ other, operation ≠ .union other
  · rcases run_state_cases (current _ statement.block_mem_blocks) operation with
      ⟨other, isUnion⟩ | state_eq | change
    · exact absurd isUnion (notUnion other)
    · rw [state_eq]
      obtain ⟨later, follows, grown, _⟩ := follows.renderSelect current []
      exact ⟨later, follows, grown⟩
    · apply follows.of_related
      exact change.related.and ((related_run notUnion statement).mono fun _ _ => EditedTo.grows)
  · push Not at notUnion
    obtain ⟨other, rfl⟩ := notUnion
    exact follows.union other

/-- Every step of a run on a tree leaves a statement of the tree followed. -/
theorem Follows.onBranch
    (follows : Follows known place statement followed)
    (current : ∀ block ∈ statement.blocks, block.KeepsCurrent)
    {operation : Operation}
    {path : List Nat}
    {outcome : Outcome Statement Unit}
    (operated : statement.onBranch operation.run path = some outcome) :
    ∃ later, Follows known place outcome.state later ∧ Grows followed.block later.block := by
  induction path generalizing statement place outcome with
  | nil =>
      rw [onBranch_nil, Option.some.injEq] at operated
      exact operated ▸ follows.run current operation
  | cons position path inductionHypothesis =>
      cases statement with
      | node root branches =>
          obtain ⟨branch, changed, found, below, rfl⟩ := onBranch_cons_eq_some_iff.mp operated
          have currentBelow := (forall_mem_blocks_node.mp current).2 branch
            (List.mem_of_getElem? found)
          cases follows with
          | here atLeast => exact ⟨_, .here atLeast, List.prefix_refl _⟩
          | @inBranch _ _ other _ inOther _ foundOther follows _ =>
              by_cases same : position = other
              · subst same
                rw [found, Option.some.injEq] at foundOther
                subst foundOther
                obtain ⟨later, follows, grown⟩ := inductionHypothesis follows currentBelow below
                refine ⟨later, follows.inBranch_of_not_kept ?_ rfl, grown⟩
                rw [List.getElem?_set_self (List.getElem?_eq_some_iff.mp found).1]
              · refine ⟨followed, follows.inBranch_of_not_kept ?_ rfl, List.prefix_refl _⟩
                rw [List.getElem?_set_ne same, foundOther]

/-- When a tree is united with another its statements are followed into the other. -/
theorem Follows.brought
    (follows : Follows known place statement followed)
    {upper above : Statement}
    {path : List Nat}
    {outcome : Outcome Statement Unit}
    (found : upper.branchAt? path = some above)
    (operated : upper.onBranch (·.union statement) path = some outcome)
    (united : outcome.result = .ok ()) :
    Follows known (path ++ above.branches.length :: place) outcome.state followed := by
  induction path generalizing upper outcome with
  | nil =>
      rw [branchAt?_nil, Option.some.injEq] at found
      rw [onBranch_nil, Option.some.injEq] at operated
      subst found operated
      simp only [Statement.union] at united ⊢
      split at united
      · rename_i supported
        rw [if_pos supported]
        refine follows.inBranch_of_not_kept ?_ rfl
        rw [List.getElem?_append_right (Nat.le_refl _), Nat.sub_self]
        rfl
      · cases united
  | cons position path inductionHypothesis =>
      cases upper with
      | node root branches =>
          obtain ⟨branch, changed, inBranches, below, rfl⟩ :=
            onBranch_cons_eq_some_iff.mp operated
          rw [branchAt?_cons, branches_node, inBranches, Option.bind_some] at found
          refine (inductionHypothesis found below united).inBranch_of_not_kept ?_ rfl
          rw [List.getElem?_set_self (List.getElem?_eq_some_iff.mp inBranches).1]

/-- Once a statement has been operated on, every statement above it has forgotten what
it kept, and nothing is kept that shows less than its select list. -/
theorem follows_onBranch
    {Value : Type}
    {operate : Statement → Outcome Statement Value}
    {outcome : Outcome Statement Value}
    (found : statement.branchAt? place = some followed)
    (operated : statement.onBranch operate place = some outcome) :
    Follows (some (operate followed).state.block.selected) place outcome.state
      (operate followed).state := by
  induction place generalizing statement outcome with
  | nil =>
      rw [branchAt?_nil, Option.some.injEq] at found
      rw [onBranch_nil, Option.some.injEq] at operated
      subst found operated
      refine .here fun least isKnown => ?_
      cases isKnown
      exact List.prefix_refl _
  | cons position path inductionHypothesis =>
      cases statement with
      | node root branches =>
          obtain ⟨branch, changed, inBranches, below, rfl⟩ :=
            onBranch_cons_eq_some_iff.mp operated
          rw [branchAt?_cons, branches_node, inBranches, Option.bind_some] at found
          refine (inductionHypothesis found below).inBranch_of_not_kept ?_ rfl
          rw [List.getElem?_set_self (List.getElem?_eq_some_iff.mp inBranches).1]

end Statement
end SqlBuilder
