import SqlBuilder.Proofs.Selection.Following

/-!
# Positions are stable

A selection answers with the positions of its columns, and these are right for the rest
of every run: in the select list of the statement, and in every SELECT that the
statement or one above it is rendered to. A run may operate at any place of the tree,
and may unite the tree with another.
-/

namespace SqlBuilder

/-! ## Selections -/

/-- Columns to select, with the arguments of their selection. -/
inductive Selection where
  | ofExpression (expression : Expression) (aliasName : Option String) (everywhere : Bool)
  | ofMapping (ref : Option TableRef) (mapping : Mapping) (aliasName : Option String)
      (everywhere : Bool)
  | ofColumn (ref : Option TableRef) (column : Column) (aliasName : Option String)
      (everywhere : Bool)

namespace Selection

/-- Carry out a selection, and answer with the positions of its columns. -/
def run : Selection → Statement → Outcome Statement (List Nat)
  | .ofExpression expression aliasName everywhere, statement =>
      statement.select expression aliasName everywhere
  | .ofMapping ref mapping aliasName everywhere, statement =>
      statement.selectMapping ref mapping aliasName everywhere
  | .ofColumn ref column aliasName everywhere, statement =>
      (statement.selectColumn ref column aliasName everywhere).map fun position => [position]

/-- The selection as an operation. -/
def operation : Selection → Operation
  | .ofExpression expression aliasName everywhere => .select expression aliasName everywhere
  | .ofMapping ref mapping aliasName everywhere => .selectMapping ref mapping aliasName everywhere
  | .ofColumn ref column aliasName everywhere => .selectColumn ref column aliasName everywhere

/-- The texts of the columns, in order. -/
def texts : Selection → Statement → List String
  | .ofExpression expression _ _, _ => expression.components.map Expression.text
  | .ofMapping ref mapping _ _, statement =>
      mapping.columns.map fun column =>
        (ref.getD statement.block.primary).aliasName ++ "." ++ column
  | .ofColumn ref column _ _, statement =>
      [(ref.getD statement.block.primary).aliasName ++ "." ++ column.name]

theorem operation_run (selection : Selection) (statement : Statement) :
    selection.operation.run statement = (selection.run statement).map fun _ => () := by
  cases selection with
  | ofExpression expression aliasName everywhere => rfl
  | ofMapping ref mapping aliasName everywhere => rfl
  | ofColumn ref column aliasName everywhere =>
      rw [operation, run, Operation.run]
      cases selected : statement.selectColumn ref column aliasName everywhere with
      | mk state result events => cases result <;> rfl

variable {statement : Statement} {positions : List Nat}

/-- A selection that succeeds answers with the position of each of its columns. -/
theorem standsAt_of_run
    {selection : Selection}
    (selected : (selection.run statement).result = .ok positions) :
    List.Forall₂ (selection.run statement).state.block.selected.StandsAt
      (selection.texts statement) positions := by
  cases selection with
  | ofExpression expression aliasName everywhere => exact Statement.standsAt_select selected
  | ofMapping ref mapping aliasName everywhere =>
      exact Statement.standsAt_selectMapping selected
  | ofColumn ref column aliasName everywhere =>
      rw [run, Outcome.result_map] at selected
      cases answered : (statement.selectColumn ref column aliasName everywhere).result with
      | error error =>
          rw [answered] at selected
          cases selected
      | ok position =>
          rw [answered] at selected
          cases selected
          exact .cons (Statement.standsAt_selectColumn answered) .nil

/-- A run can select at any place of a tree. -/
theorem reachable_of_onBranch
    (selection : Selection)
    {path : List Nat}
    {outcome : Outcome Statement (List Nat)}
    (reachable : statement.Reachable)
    (operated : statement.onBranch selection.run path = some outcome) :
    outcome.state.Reachable := by
  have asOperation : statement.onBranch selection.operation.run path =
      some (outcome.map fun _ => ()) := by
    rw [funext selection.operation_run]
    exact Statement.onBranch_map operated
  refine .step reachable (fun other isUnion => ?_) asOperation trivial
  cases selection <;> cases isUnion

end Selection

namespace Statement

open QueryBlock (Grows)

/-! ## Runs that go on -/

/-- A run goes on from a tree, and the statement at a place of it is followed to where
it stands later. A step operates at any path; and when the tree is united with another,
the place is found below the new branch. -/
inductive Continues (statement : Statement) (place : List Nat) :
    Statement → List Nat → Prop
  | refl : Continues statement place statement place
  | step
      {later : Statement}
      {laterPlace path : List Nat}
      {operation : Operation}
      {outcome : Outcome Statement Unit} :
      Continues statement place later laterPlace →
      (∀ other, operation = .union other → other.Reachable) →
      later.onBranch operation.run path = some outcome →
      Continues statement place outcome.state laterPlace
  | brought
      {later upper above : Statement}
      {laterPlace path : List Nat}
      {outcome : Outcome Statement Unit} :
      Continues statement place later laterPlace →
      upper.Reachable →
      upper.branchAt? path = some above →
      upper.onBranch (·.union later) path = some outcome →
      outcome.result = .ok () →
      Continues statement place outcome.state (path ++ above.branches.length :: laterPlace)

variable
  {statement followed later : Statement}
  {known : Option SelectList}
  {place laterPlace : List Nat}

/-- An operation on the root is a step. -/
theorem Continues.run
    (continues : Continues statement place later laterPlace)
    (operation : Operation)
    (brought : ∀ other, operation = .union other → other.Reachable) :
    Continues statement place (operation.run later).state laterPlace :=
  continues.step brought (onBranch_nil later)

/-- A run that goes on is a run. -/
theorem Continues.reachable
    (continues : Continues statement place later laterPlace)
    (reachable : statement.Reachable) : later.Reachable := by
  induction continues with
  | refl => exact reachable
  | step _ brought operated inductionHypothesis =>
      exact .step inductionHypothesis brought operated trivial
  | @brought later upper above laterPlace path outcome _ upperReachable _ operated _
      inductionHypothesis =>
      refine @ReachedBy.step _ upper (.union later) path outcome upperReachable ?_ operated trivial
      intro other isUnion
      cases isUnion
      exact inductionHypothesis

/-- A statement is followed as far as a run goes on. -/
theorem Follows.continues
    (follows : Follows known place statement followed)
    (reachable : statement.Reachable)
    (continues : Continues statement place later laterPlace) :
    ∃ node, Follows known laterPlace later node ∧ Grows followed.block node.block := by
  induction continues with
  | refl => exact ⟨followed, follows, List.prefix_refl _⟩
  | step continues _ operated inductionHypothesis =>
      obtain ⟨node, follows, grown⟩ := inductionHypothesis
      obtain ⟨next, follows, grownNext⟩ :=
        follows.onBranch (continues.reachable reachable).keepsCurrent operated
      exact ⟨next, follows, grown.trans grownNext⟩
  | brought _ _ found operated united inductionHypothesis =>
      obtain ⟨node, follows, grown⟩ := inductionHypothesis
      exact ⟨node, follows.brought found operated united, grown⟩

/-- Whenever the statement at a place is rendered, or one above it, the SELECT has a
clause for the statement, in which columns stand at positions. The clause lists all
that the statement has selected afterwards or, seen from above, what that starts
with. -/
def ShowsPositions
    (statement : Statement)
    (place : List Nat)
    (texts : List String)
    (positions : List Nat) : Prop :=
  ∀ upper rest above query, place = upper ++ rest →
    statement.branchAt? upper = some above →
    above.selectQuery.result = .ok query →
    ∃ inner items after, query.branchAt? rest = some inner ∧ inner.Lists items ∧
      List.Forall₂ (SelectList.StandsAt items) texts positions ∧
      above.selectQuery.state.branchAt? rest = some after ∧
      items <+: after.block.selected ∧ (rest = [] → items = after.block.selected)

/-- A SELECT shows at the positions what stands there in the list that is known. -/
theorem Follows.showsPositions
    {least : SelectList}
    {texts : List String}
    {positions : List Nat}
    (follows : Follows (some least) place statement followed)
    (current : ∀ block ∈ statement.blocks, block.KeepsCurrent)
    (stands : List.Forall₂ least.StandsAt texts positions) :
    statement.ShowsPositions place texts positions := by
  intro upper rest above query place_eq foundAbove rendered
  subst place_eq
  have followsBelow := follows.of_append foundAbove
  have currentBelow : ∀ block ∈ above.blocks, block.KeepsCurrent :=
    fun block member => current block (blocks_subset_of_branchAt? foundAbove member)
  obtain ⟨after, followsAfter, _, shows⟩ := followsBelow.renderSelect currentBelow []
  cases rest with
  | nil =>
      have lists := lists_of_result_renderSelect
        (currentBelow _ above.block_mem_blocks) rendered
      have isAfter := followsAfter.branchAt?_eq
      rw [branchAt?_nil, Option.some.injEq] at isAfter
      have atLeast := followsAfter.known_isPrefix least rfl
      rw [← isAfter] at atLeast
      exact ⟨query, _, _, rfl, lists, stands.imp fun _ _ stands => stands.of_isPrefix atLeast,
        branchAt?_nil _, List.prefix_refl _, fun _ => rfl⟩
  | cons position rest =>
      obtain ⟨inner, items, found, lists, atLeast, atMost⟩ := shows query rendered least rfl
      exact ⟨inner, items, after, found, lists,
        stands.imp fun _ _ stands => stands.of_isPrefix atLeast, followsAfter.branchAt?_eq, atMost,
        fun isNil => nomatch isNil⟩

/-- A run changes a select list at its end alone and never lets a text stand in it
twice, and the positions that a selection answers with stay those of its columns, in
the list and in every SELECT that shows it. -/
theorem Reachable.selection_stable
    (reachable : statement.Reachable)
    (found : statement.branchAt? place = some followed) :
    (∀ later laterPlace, Continues statement place later laterPlace →
      ∃ node, later.branchAt? laterPlace = some node ∧
        followed.block.selected <+: node.block.selected ∧ node.block.selected.Distinct) ∧
    ∀ (selection : Selection) outcome positions,
      statement.onBranch selection.run place = some outcome →
      outcome.result = .ok positions →
      ∀ later laterPlace, Continues outcome.state place later laterPlace →
        ∃ node, later.branchAt? laterPlace = some node ∧
          List.Forall₂ node.block.selected.StandsAt (selection.texts followed) positions ∧
          later.ShowsPositions laterPlace (selection.texts followed) positions := by
  constructor
  · intro later laterPlace continues
    obtain ⟨node, follows, grown⟩ := (follows_none found).continues reachable continues
    have distinct := (continues.reachable reachable).distinct node.block
      (blocks_subset_of_branchAt? follows.branchAt?_eq node.block_mem_blocks)
    exact ⟨node, follows.branchAt?_eq, grown, distinct⟩
  · intro selection outcome positions operated selected later laterPlace continues
    have answered : (selection.run followed).result = .ok positions :=
      (result_onBranch found operated).symm.trans selected
    have reachableAfter := selection.reachable_of_onBranch reachable operated
    obtain ⟨node, follows, grown⟩ :=
      (follows_onBranch found operated).continues reachableAfter continues
    have stands := Selection.standsAt_of_run answered
    have current := (continues.reachable reachableAfter).keepsCurrent
    exact ⟨node, follows.branchAt?_eq, stands.imp fun _ _ stands => stands.of_isPrefix grown,
      follows.showsPositions current stands⟩

/-- The name of a person is selected behind the age, and stays there when the
statement becomes the branch of another that selects both everywhere. -/
theorem selection_stable_people :
    let age : Operation := .select (.derived "A0.age") none true
    let name : Selection := .ofColumn none { table := "person", name := "name" } none true
    let named := name.run ((people .postgresql).runAll [age])
    let united := ((people .postgresql).union named.state).state
    let later := united.runAll [age, name.operation]
    named.result = .ok [2] ∧ Continues named.state [] later [0] ∧
      (later.sql .select ⟨2⟩).result = .ok ("SELECT A0.age, A0.name FROM person A0 " ++
        "UNION ALL SELECT A0.age, A0.name FROM person A0") ∧
      (∃ node, later.branchAt? [0] = some node ∧
        List.Forall₂ node.block.selected.StandsAt ["A0.name"] [2]) ∧
      later.ShowsPositions [0] ["A0.name"] [2] := by
  intro age name named united later
  have people_reachable := reachedBy_people (fun _ _ => True) .postgresql
  have reachable : ((people .postgresql).runAll [age]).Reachable :=
    people_reachable.run age (fun _ isUnion => nomatch isUnion) trivial
  have brought : Continues named.state [] united [0] :=
    Continues.refl.brought people_reachable rfl (onBranch_nil _) rfl
  have continues : Continues named.state [] later [0] :=
    (brought.run age fun _ isUnion => nomatch isUnion).run name.operation
      fun _ isUnion => nomatch isUnion
  obtain ⟨_, stable⟩ := Reachable.selection_stable reachable (branchAt?_nil _)
  obtain ⟨node, found, stands, shows⟩ :=
    stable name named [2] (onBranch_nil _) rfl later [0] continues
  exact ⟨rfl, continues, by decide, ⟨node, found, stands⟩, shows⟩

end Statement
end SqlBuilder
