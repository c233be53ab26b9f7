import SqlBuilder.Proofs.Cache.Staleness
import SqlBuilder.Proofs.Trace.Tree

/-!
# Runs that render in between

One run may render and log where another one goes on to its next operation. As
long as these renderings leave nothing but traces, and the run overlooks no change,
the two trees differ in traces alone, and their SELECTs agree.
-/

namespace SqlBuilder

namespace Operation

/-- The operation renders a statement. -/
def Renders : Operation → Prop
  | .render _ _ | .log _ => True
  | _ => False

theorem Mutates.ne_union
    {operation : Operation}
    (mutates : operation.Mutates)
    (other : Statement) : operation ≠ .union other := by
  rintro rfl
  exact mutates

theorem Renders.ne_union
    {operation : Operation}
    (renders : operation.Renders)
    (other : Statement) : operation ≠ .union other := by
  rintro rfl
  exact renders

end Operation

namespace Statement

open QueryBlock (Matches LeavesTraces)

variable {first second : Statement}

/-- Both trees come from the same operations at the same paths, but on the way to
the first one statements were rendered or logged as well. These renderings left
nothing but traces, and no step overlooked a change. -/
inductive SameRun : Statement → Statement → Prop
  | built
      {builder : StatementBuilder}
      {strategies : NamingStrategies}
      {id : StatementId}
      {statement : Statement} :
      builder.build strategies id = .ok statement →
      SameRun statement statement
  | mutated
      {first second : Statement}
      {operation : Operation}
      {path : List Nat}
      {outcome other : Outcome Statement Unit} :
      SameRun first second →
      operation.Mutates →
      first.onBranch operation.run path = some outcome →
      second.onBranch operation.run path = some other →
      ¬ Overlooks first outcome.state →
      SameRun outcome.state other.state
  | united
      {first second brought broughtSecond : Statement}
      {path : List Nat}
      {outcome other : Outcome Statement Unit} :
      SameRun first second →
      SameRun brought broughtSecond →
      first.onBranch (Operation.union brought).run path = some outcome →
      second.onBranch (Operation.union broughtSecond).run path = some other →
      SameRun outcome.state other.state
  | rendered
      {first second : Statement}
      {operation : Operation}
      {path : List Nat}
      {outcome : Outcome Statement Unit} :
      SameRun first second →
      operation.Renders →
      first.onBranch operation.run path = some outcome →
      Related LeavesTraces first outcome.state →
      ¬ Overlooks first outcome.state →
      SameRun outcome.state second

/-! ## What a run with renderings keeps -/

/-- A union overlooks nothing at any path. -/
theorem not_overlooks_onBranch_union
    {statement brought : Statement}
    {path : List Nat}
    {outcome : Outcome Statement Unit}
    (united : statement.onBranch (Operation.union brought).run path = some outcome) :
    ¬ Overlooks statement outcome.state := by
  induction path generalizing statement outcome with
  | nil =>
      rw [onBranch_nil, Option.some.injEq] at united
      exact united ▸ not_overlooks_union statement brought
  | cons position path inductionHypothesis =>
      cases statement with
      | node root branches =>
          obtain ⟨branch, changed, found, below, rfl⟩ := onBranch_cons_eq_some_iff.mp united
          intro overlooks
          exact inductionHypothesis below (overlooks_of_overlooks_set found overlooks)

/-- Neither run overlooks anything in the first tree, and the second tree is
reachable. -/
theorem SameRun.reached (run : SameRun first second) :
    ReachedQuietly first ∧ second.Reachable := by
  induction run with
  | built built => exact ⟨.built built, .built built⟩
  | mutated _ mutates operated operatedSecond quiet inductionHypothesis =>
      refine ⟨.step inductionHypothesis.1 ?_ operated quiet,
        .step inductionHypothesis.2 ?_ operatedSecond trivial⟩
      · exact fun other isUnion => absurd isUnion (mutates.ne_union other)
      · exact fun other isUnion => absurd isUnion (mutates.ne_union other)
  | united _ _ united unitedSecond inductionHypothesis broughtHypothesis =>
      refine ⟨.step inductionHypothesis.1 ?_ united (not_overlooks_onBranch_union united),
        .step inductionHypothesis.2 ?_ unitedSecond trivial⟩
      · rintro other isUnion
        cases isUnion
        exact broughtHypothesis.1
      · rintro other isUnion
        cases isUnion
        exact broughtHypothesis.2
  | rendered _ renders operated _ quiet inductionHypothesis =>
      refine ⟨.step inductionHypothesis.1 ?_ operated quiet, inductionHypothesis.2⟩
      exact fun other isUnion => absurd isUnion (renders.ne_union other)

/-- The trees differ in traces alone. -/
theorem SameRun.matched (run : SameRun first second) : Related Matches first second := by
  induction run with
  | built built =>
      obtain ⟨namer, primary, rfl⟩ := exists_ofPrimary_of_build built
      exact .node (.of_eq rfl rfl (.inl rfl)) .nil
  | mutated before mutates operated operatedSecond _ inductionHypothesis =>
      exact matches_onBranch (fun _ _ => matches_run mutates) inductionHypothesis
        before.reached.2.consistent operated operatedSecond
  | united before _ united unitedSecond inductionHypothesis broughtHypothesis =>
      exact matches_onBranch (fun _ _ matched _ => matches_union matched broughtHypothesis)
        inductionHypothesis before.reached.2.consistent united unitedSecond
  | rendered _ _ _ leaves _ inductionHypothesis =>
      exact .compose (fun _ _ _ leaves matched => leaves.matches matched) leaves
        inductionHypothesis

/-! ## The SELECTs of the two trees -/

/-- At every path the SELECTs agree, unless the first one overlooks a change. -/
theorem SameRun.result_selectQuery
    (run : SameRun first second)
    {path : List Nat}
    {branch : Statement}
    (found : first.branchAt? path = some branch) :
    ∃ other, second.branchAt? path = some other ∧
      (¬ Overlooks branch branch.selectQuery.state →
        branch.selectQuery.result = other.selectQuery.result) ∧
      ∀ query, branch.selectQuery.result = .ok query →
        (other.selectQuery.result = .ok query ↔
          ¬ Overlooks branch branch.selectQuery.state) := by
  obtain ⟨other, inSecond, matched⟩ := run.matched.branchAt? found
  have coherent := run.reached.1.coherent.branchAt? found
  have fresh : (branch.cleared.renderSelect []).result = other.selectQuery.result :=
    result_renderSelect_cleared_of_matches matched []
  refine ⟨other, inSecond, ?_, ?_⟩
  · intro quiet
    exact (coherent.result_renderSelect_cleared quiet).symm.trans fresh
  · intro query succeeded
    constructor
    · intro same
      exact not_overlooks_renderSelect coherent succeeded (fresh.trans same)
    · intro quiet
      rw [← fresh]
      exact (coherent.result_renderSelect_cleared quiet).trans succeeded

/-! ## Statements without branches -/

/-- Where there are no branches none appear, and nothing is overlooked. -/
theorem branches_eq_nil_and_not_overlooks
    {relation : QueryBlock → QueryBlock → Prop}
    {before after : Statement}
    (related : Related relation before after)
    (branchless : before.branches = []) : after.branches = [] ∧ ¬ Overlooks before after := by
  cases related with
  | node roots pairs =>
      rw [branches_node] at branchless
      subst branchless
      cases pairs with
      | nil => exact ⟨rfl, not_overlooks_of_same_branches⟩

/-- Operations on statements without branches continue both runs. -/
theorem SameRun.runAll
    {operations : List Operation}
    (mutate : ∀ operation ∈ operations, operation.Mutates)
    (run : SameRun first second)
    (branchless : first.branches = []) :
    SameRun (first.runAll operations) (second.runAll operations) ∧
      (first.runAll operations).branches = [] := by
  induction operations generalizing first second with
  | nil => exact ⟨run, branchless⟩
  | cons operation operations inductionHypothesis =>
      rw [List.forall_mem_cons] at mutate
      obtain ⟨stillBranchless, quiet⟩ := branches_eq_nil_and_not_overlooks
        (related_run mutate.1.ne_union first) branchless
      exact inductionHypothesis mutate.2
        (.mutated run mutate.1 (onBranch_nil first) (onBranch_nil second) quiet) stillBranchless

/-- The SELECTs of statements without branches agree. -/
theorem SameRun.result_selectQuery_of_branchless
    (run : SameRun first second)
    (branchless : first.branches = []) :
    first.selectQuery.result = second.selectQuery.result := by
  obtain ⟨other, found, agree, _⟩ := run.result_selectQuery (branchAt?_nil first)
  rw [branchAt?_nil, Option.some.injEq] at found
  subst found
  exact agree (branches_eq_nil_and_not_overlooks (related_renderSelect [] first) branchless).2

end Statement
end SqlBuilder
