import SqlBuilder.Proofs.Bounds.Rendering
import SqlBuilder.Proofs.Selection.Growth

/-!
# Lists on record

The parallel lists of a tree are those that were given when its orderings were set. They are
put on record along a run: a call that sets an ordering records its lists, one that takes the
ordering away leaves none, and a union brings in the record of the other tree. No list is
recorded before its length has been compared with that of the expressions, so the record
stands for the orderings all along, and every rendering stays within the bounds of its lists.
-/

namespace SqlBuilder

namespace OrderingTree

/-- The record of the branch reached by a path of positions. -/
def branchAt? : OrderingTree → List Nat → Option OrderingTree
  | tree, [] => some tree
  | .node _ branches, position :: path =>
      branches[position]?.bind fun branch => branch.branchAt? path

/-- Change the record of the branch reached by a path of positions. -/
def changeAt (change : OrderingTree → OrderingTree) : OrderingTree → List Nat → OrderingTree
  | tree, [] => change tree
  | .node lists branches, position :: path =>
      .node lists (branches.modify position (changeAt change · path))

/-- What is on record after a call, by how it ended. A union brings in the record of the
other tree. -/
def record (tree : OrderingTree) (operation : Operation) (result : Except StatementError Unit)
    (brought : OrderingTree) : OrderingTree :=
  match operation, result, tree with
  | .setOrdering expressions directions nulls, .ok _, .node _ branches =>
      .node { expressions := expressions, directions := directions, nulls := nulls } branches
  | .clearOrdering, .ok _, .node _ branches => .node {} branches
  | .union _, .ok _, .node lists branches => .node lists (branches ++ [brought])
  | _, _, _ => tree

/-- A call that fails puts nothing on record. -/
theorem record_error
    (tree : OrderingTree)
    (operation : Operation)
    (error : StatementError)
    (brought : OrderingTree) : tree.record operation (.error error) brought = tree := by
  cases operation <;> rfl

/-- Only operations that set an ordering and unions put something on record. -/
theorem record_eq_self
    {operation : Operation}
    (notUnion : ∀ other, operation ≠ .union other)
    (setsNone : ¬ operation.SetsOrdering)
    (tree : OrderingTree)
    (result : Except StatementError Unit)
    (brought : OrderingTree) : tree.record operation result brought = tree := by
  cases operation with
  | setOrdering expressions directions nulls => exact absurd trivial setsNone
  | clearOrdering => exact absurd trivial setsNone
  | union other => exact absurd rfl (notUnion other)
  | _ => rfl

end OrderingTree

namespace Statement

/-- What is on record for a tree after a run. -/
inductive Recorded : Statement → OrderingTree → Prop
  | built
      {builder : StatementBuilder}
      {strategies : NamingStrategies}
      {id : StatementId}
      {statement : Statement} :
      builder.build strategies id = .ok statement →
      Recorded statement .single
  | step
      {statement : Statement}
      {tree brought : OrderingTree}
      {operation : Operation}
      {path : List Nat}
      {outcome : Outcome Statement Unit} :
      Recorded statement tree →
      (∀ other, operation = .union other → Recorded other brought) →
      statement.onBranch operation.run path = some outcome →
      Recorded outcome.state (tree.changeAt (·.record operation outcome.result brought) path)

/-- An operation on the root records what it does there. -/
theorem Recorded.run
    {statement : Statement}
    {tree : OrderingTree}
    (recorded : Recorded statement tree)
    (operation : Operation)
    (brought : OrderingTree)
    (ofBrought : ∀ other, operation = .union other → Recorded other brought) :
    Recorded (operation.run statement).state
      (tree.record operation (operation.run statement).result brought) := by
  have recordedAt := recorded.step ofBrought (onBranch_nil statement)
  rwa [OrderingTree.changeAt] at recordedAt

end Statement

namespace OrderingTree

open Statement

variable {tree brought : OrderingTree} {statement : Statement}

/-- Lists that stand for the orderings of a tree stand for the same orderings in another. -/
theorem Fits.of_related
    {first second : Statement}
    (fits : tree.Fits first)
    (related : Related (fun old new => new.ordering = old.ordering) first second) :
    tree.Fits second := by
  induction related using Related.induction generalizing tree with
  | node first second firsts seconds roots pairs inductionHypothesis =>
      cases fits with
      | node stands fitsBelow =>
          refine .node (roots ▸ stands) (forall₂_trans ?_ fitsBelow inductionHypothesis)
          exact fun tree _ _ ofBranch pair => pair.choose_spec ofBranch

/-- The lists that are accepted for an ordering stand for its terms. -/
theorem Fits.setOrdering
    (fits : tree.Fits statement)
    (expressions : List Expression)
    (directions : List Bool)
    (nulls : Option (List (Option NullOrder))) :
    (tree.record (.setOrdering expressions directions nulls)
      (statement.setOrdering expressions directions nulls).result brought).Fits
      (statement.setOrdering expressions directions nulls).state := by
  simp only [Statement.setOrdering]
  split
  · rw [Outcome.result_fail, record_error]
    exact fits
  · rename_i lengths
    split
    · rw [Outcome.result_fail, record_error]
      exact fits
    · simp only [Bool.or_eq_true, decide_eq_true_eq, not_or, not_not] at lengths
      obtain ⟨sameLength, nullCount⟩ := lengths
      cases fits with
      | node _ fitsBelow =>
          refine .node (OrderingLists.standsFor_ofLists sameLength fun places isGiven => ?_)
            fitsBelow
          obtain rfl : nulls = some places := isGiven
          exact nullCount

theorem Fits.clearOrdering (fits : tree.Fits statement) :
    (tree.record .clearOrdering (.ok ()) brought).Fits statement.clearOrdering := by
  cases fits with
  | node _ fitsBelow => exact .node .nil fitsBelow

/-- A branch that is brought in comes with its own record. -/
theorem Fits.union
    {other : Statement}
    (fits : tree.Fits statement)
    (fitsOther : brought.Fits other) :
    (tree.record (.union other) (statement.union other).result brought).Fits
      (statement.union other).state := by
  simp only [Statement.union]
  split
  · cases fits with
    | node stands fitsBelow =>
        exact .node stands (List.rel_append fitsBelow (.cons fitsOther .nil))
  · rw [Outcome.result_fail, record_error]
    exact fits

/-- What is on record after an operation stands for the orderings that it leaves. -/
theorem Fits.run
    {operation : Operation}
    (fits : tree.Fits statement)
    (fitsBrought : ∀ other, operation = .union other → brought.Fits other) :
    (tree.record operation (operation.run statement).result brought).Fits
      (operation.run statement).state := by
  by_cases sets : operation.SetsOrdering
  · cases operation with
    | setOrdering expressions directions nulls => exact fits.setOrdering _ _ _
    | clearOrdering => exact fits.clearOrdering
    | _ => exact absurd sets id
  · by_cases notUnion : ∀ other, operation ≠ .union other
    · rw [record_eq_self notUnion sets]
      exact fits.of_related ((related_edits_run notUnion statement).mono
        fun _ _ edits => edits.ordering_eq sets)
    · push Not at notUnion
      obtain ⟨other, rfl⟩ := notUnion
      exact fits.union (fitsBrought other rfl)

/-- Below the statements that are passed on the way the record changes as the branch
does. -/
theorem Fits.onBranch_run
    {operation : Operation}
    {path : List Nat}
    {outcome : Outcome Statement Unit}
    (fits : tree.Fits statement)
    (fitsBrought : ∀ other, operation = .union other → brought.Fits other)
    (operated : statement.onBranch operation.run path = some outcome) :
    (tree.changeAt (·.record operation outcome.result brought) path).Fits outcome.state := by
  induction path generalizing statement tree outcome with
  | nil =>
      rw [onBranch_nil, Option.some.injEq] at operated
      subst operated
      exact fits.run fitsBrought
  | cons position path inductionHypothesis =>
      cases fits with
      | node stands fitsBelow =>
          obtain ⟨branch, changed, at_position, below, rfl⟩ :=
            onBranch_cons_eq_some_iff.mp operated
          refine .node stands (forall₂_modify_set fitsBelow at_position fun tree ofBranch => ?_)
          exact inductionHypothesis ofBranch below

/-- Lists that stand for the orderings of a tree do so in every branch. -/
theorem Fits.branchAt?
    {branch : Statement}
    {path : List Nat}
    (fits : tree.Fits statement)
    (found : statement.branchAt? path = some branch) :
    ∃ below, tree.branchAt? path = some below ∧ below.Fits branch := by
  induction path generalizing statement tree with
  | nil =>
      rw [branchAt?_nil, Option.some.injEq] at found
      exact ⟨tree, by rw [OrderingTree.branchAt?], found ▸ fits⟩
  | cons position path inductionHypothesis =>
      cases fits with
      | node stands fitsBelow =>
          rw [branchAt?_cons, branches_node, Option.bind_eq_some_iff] at found
          obtain ⟨next, at_position, found⟩ := found
          obtain ⟨counterpart, inTrees, ofNext⟩ :=
            exists_getElem?_of_forall₂ fitsBelow.flip at_position
          obtain ⟨below, belowFound, ofBranch⟩ := inductionHypothesis ofNext found
          refine ⟨below, ?_, ofBranch⟩
          rw [OrderingTree.branchAt?, inTrees, Option.bind_some, belowFound]

end OrderingTree

namespace Statement

/-- What is on record stands for the orderings of the tree. -/
theorem Recorded.fits
    {statement : Statement}
    {tree : OrderingTree}
    (recorded : Recorded statement tree) : tree.Fits statement := by
  induction recorded with
  | built built =>
      obtain ⟨namer, primary, rfl⟩ := exists_ofPrimary_of_build built
      exact .node .nil .nil
  | step _ _ operated ofStatement ofBrought => exact ofStatement.onBranch_run ofBrought operated

end Statement
end SqlBuilder
