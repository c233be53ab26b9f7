import Mathlib.Data.List.Forall2
import SqlBuilder.Statement.Branches

/-!
# Trees of statements

Induction over a statement and its branches, and the laws of the functions that
walk a whole tree. A path of positions leads to a branch at any depth, and a
property holds throughout a tree when it holds of the statement at every path.
Two trees of one shape are related when their blocks are, place by place.
-/

namespace SqlBuilder
namespace Statement

/-- Induction over a tree: what holds of every branch passes to the statement
above them. -/
@[elab_as_elim, induction_eliminator]
theorem induction
    {motive : Statement → Prop}
    (node : ∀ block branches,
      (∀ branch ∈ branches, motive branch) → motive (.node block branches)) :
    ∀ statement, motive statement
  | .node block branches => node block branches fun branch _ => induction node branch

theorem mapBranches_eq_map
    (change : QueryBlock → QueryBlock)
    (branches : List Statement) :
    mapBranches change branches = branches.map (mapBlocks change) := by
  induction branches with
  | nil => rfl
  | cons branch rest inductionHypothesis =>
      rw [mapBranches, inductionHypothesis, List.map_cons]

theorem branchBlocks_eq_flatMap (branches : List Statement) :
    branchBlocks branches = branches.flatMap blocks := by
  induction branches with
  | nil => rfl
  | cons branch rest inductionHypothesis =>
      rw [branchBlocks, inductionHypothesis, List.flatMap_cons]

@[simp] theorem mapBlocks_node
    (change : QueryBlock → QueryBlock)
    (root : QueryBlock)
    (branches : List Statement) :
    (node root branches).mapBlocks change =
      .node (change root) (branches.map (mapBlocks change)) := by
  rw [mapBlocks, mapBranches_eq_map]

@[simp] theorem blocks_node (root : QueryBlock) (branches : List Statement) :
    (node root branches).blocks = root :: branches.flatMap blocks := by
  rw [blocks, branchBlocks_eq_flatMap]

@[simp] theorem blocks_mapBlocks
    (change : QueryBlock → QueryBlock)
    (statement : Statement) :
    (statement.mapBlocks change).blocks = statement.blocks.map change := by
  induction statement with
  | node root branches inductionHypothesis =>
      rw [mapBlocks_node, blocks_node, blocks_node, List.map_cons, List.map_flatMap,
        List.flatMap_map]
      congr 1
      exact List.flatMap_congr inductionHypothesis

theorem mapBlocks_id (statement : Statement) :
    statement.mapBlocks (fun block => block) = statement := by
  induction statement with
  | node root branches inductionHypothesis =>
      rw [mapBlocks_node, List.map_congr_left inductionHypothesis, List.map_id']

/-- One change of every block after another is one change. -/
theorem mapBlocks_mapBlocks
    (statement : Statement)
    (first second : QueryBlock → QueryBlock) :
    (statement.mapBlocks first).mapBlocks second =
      statement.mapBlocks fun block => second (first block) := by
  induction statement with
  | node root branches inductionHypothesis =>
      rw [mapBlocks_node, mapBlocks_node, mapBlocks_node, List.map_map]
      exact congrArg (node _) (List.map_congr_left inductionHypothesis)

@[simp] theorem block_modify
    (statement : Statement)
    (everywhere : Bool)
    (change : QueryBlock → QueryBlock) :
    (statement.modify everywhere change).block = change statement.block := by
  cases statement with
  | node root branches =>
      unfold modify
      split
      · rw [mapBlocks_node, block_node, block_node]
      · rfl

/-- A property of every block of a tree is one of its root and of every block of
its branches. -/
theorem forall_mem_blocks_node
    {property : QueryBlock → Prop}
    {root : QueryBlock}
    {branches : List Statement} :
    (∀ block ∈ (node root branches).blocks, property block) ↔
      property root ∧ ∀ branch ∈ branches, ∀ block ∈ branch.blocks, property block := by
  rw [blocks_node, List.forall_mem_cons]
  refine and_congr_right fun _ => ?_
  constructor
  · intro holds branch branchMem block blockMem
    exact holds block (List.mem_flatMap.mpr ⟨branch, branchMem, blockMem⟩)
  · intro holds block blockMem
    obtain ⟨branch, branchMem, blockMem⟩ := List.mem_flatMap.mp blockMem
    exact holds branch branchMem block blockMem

/-- The root is one of the blocks. -/
theorem block_mem_blocks (statement : Statement) : statement.block ∈ statement.blocks := by
  cases statement with
  | node root branches => simp

/-! ## Paths -/

@[simp] theorem branchAt?_nil (statement : Statement) :
    statement.branchAt? [] = some statement := by
  rw [branchAt?]

@[simp] theorem branchAt?_cons
    (statement : Statement)
    (position : Nat)
    (path : List Nat) :
    statement.branchAt? (position :: path) =
      statement.branches[position]?.bind fun branch => branch.branchAt? path := by
  rw [branchAt?]

/-- Every block of a branch is a block of the tree. -/
theorem blocks_subset_of_branchAt?
    {statement branch : Statement}
    {path : List Nat}
    (found : statement.branchAt? path = some branch) :
    branch.blocks ⊆ statement.blocks := by
  induction path generalizing statement with
  | nil =>
      rw [branchAt?_nil, Option.some.injEq] at found
      rw [found]
      exact List.Subset.refl _
  | cons position path inductionHypothesis =>
      cases statement with
      | node root branches =>
          rw [branchAt?_cons, branches_node, Option.bind_eq_some_iff] at found
          obtain ⟨next, at_position, found⟩ := found
          intro block blockMem
          rw [blocks_node]
          exact List.mem_cons_of_mem _ (List.mem_flatMap.mpr
            ⟨next, List.mem_of_getElem? at_position, inductionHypothesis found blockMem⟩)

/-- A property holds of the statement at every path of a tree. -/
def Throughout (property : Statement → Prop) (statement : Statement) : Prop :=
  ∀ path branch, statement.branchAt? path = some branch → property branch

theorem throughout_node
    {property : Statement → Prop}
    {root : QueryBlock}
    {branches : List Statement} :
    (node root branches).Throughout property ↔
      property (.node root branches) ∧ ∀ branch ∈ branches, branch.Throughout property := by
  constructor
  · intro holds
    refine ⟨holds [] _ (branchAt?_nil _), ?_⟩
    intro branch branchMem path inner found
    obtain ⟨position, at_position⟩ := List.mem_iff_getElem?.mp branchMem
    exact holds (position :: path) inner (by simp [at_position, found])
  · rintro ⟨atRoot, below⟩ path inner found
    cases path with
    | nil =>
        rw [branchAt?_nil, Option.some.injEq] at found
        exact found ▸ atRoot
    | cons position path =>
        rw [branchAt?_cons, branches_node, Option.bind_eq_some_iff] at found
        obtain ⟨branch, at_position, found⟩ := found
        exact below branch (List.mem_of_getElem? at_position) path inner found

/-- What holds throughout a tree holds throughout the branch at a path. -/
theorem Throughout.branchAt?
    {property : Statement → Prop}
    {statement branch : Statement}
    {path : List Nat}
    (holds : statement.Throughout property)
    (found : statement.branchAt? path = some branch) :
    branch.Throughout property := by
  induction path generalizing statement with
  | nil =>
      rw [branchAt?_nil, Option.some.injEq] at found
      exact found ▸ holds
  | cons position path inductionHypothesis =>
      cases statement with
      | node root branches =>
          rw [branchAt?_cons, branches_node, Option.bind_eq_some_iff] at found
          obtain ⟨next, at_position, found⟩ := found
          exact inductionHypothesis
            ((throughout_node.mp holds).2 next (List.mem_of_getElem? at_position)) found

section OnBranch

variable {Value : Type} {operate : Statement → Outcome Statement Value}

@[simp] theorem onBranch_nil (statement : Statement) :
    onBranch operate statement [] = some (operate statement) := by
  rw [onBranch]

/-- An operation on a branch below a position changes that branch, and makes
the statement above it forget its last rendering. -/
theorem onBranch_cons_eq_some_iff
    {root : QueryBlock}
    {branches : List Statement}
    {position : Nat}
    {path : List Nat}
    {outcome : Outcome Statement Value} :
    onBranch operate (.node root branches) (position :: path) = some outcome ↔
      ∃ branch changed, branches[position]? = some branch ∧
        onBranch operate branch path = some changed ∧
        outcome = changed.mapState fun state =>
          .node root.invalidate (branches.set position state) := by
  rw [onBranch, branches_node, Option.bind_eq_some_iff]
  constructor
  · rintro ⟨branch, at_position, operated⟩
    obtain ⟨changed, below, rfl⟩ := Option.map_eq_some_iff.mp operated
    exact ⟨branch, changed, at_position, below, rfl⟩
  · rintro ⟨branch, changed, at_position, below, rfl⟩
    exact ⟨branch, at_position, Option.map_eq_some_iff.mpr ⟨changed, below, rfl⟩⟩

/-- An operation on a branch answers as it does on the branch alone. -/
theorem result_onBranch
    {statement branch : Statement}
    {path : List Nat}
    {outcome : Outcome Statement Value}
    (found : statement.branchAt? path = some branch)
    (operated : onBranch operate statement path = some outcome) :
    outcome.result = (operate branch).result := by
  induction path generalizing statement outcome with
  | nil =>
      rw [branchAt?_nil, Option.some.injEq] at found
      rw [onBranch_nil, Option.some.injEq] at operated
      subst found operated
      rfl
  | cons position path inductionHypothesis =>
      cases statement with
      | node root branches =>
          obtain ⟨next, changed, at_position, below, rfl⟩ := onBranch_cons_eq_some_iff.mp operated
          rw [branchAt?_cons, branches_node, at_position, Option.bind_some] at found
          have answered := inductionHypothesis found below
          exact answered

/-- Below the branch that was operated on stands what the operation made of it. -/
theorem branchAt?_onBranch
    {statement branch : Statement}
    {path rest : List Nat}
    {outcome : Outcome Statement Value}
    (found : statement.branchAt? path = some branch)
    (operated : onBranch operate statement path = some outcome) :
    outcome.state.branchAt? (path ++ rest) = (operate branch).state.branchAt? rest := by
  induction path generalizing statement outcome with
  | nil =>
      rw [branchAt?_nil, Option.some.injEq] at found
      rw [onBranch_nil, Option.some.injEq] at operated
      subst found operated
      rfl
  | cons position path inductionHypothesis =>
      cases statement with
      | node root branches =>
          obtain ⟨next, changed, at_position, below, rfl⟩ := onBranch_cons_eq_some_iff.mp operated
          rw [branchAt?_cons, branches_node, at_position, Option.bind_some] at found
          have set_at : (branches.set position changed.state)[position]? = some changed.state :=
            List.getElem?_set_self (List.getElem?_eq_some_iff.mp at_position).1
          rw [List.cons_append, branchAt?_cons]
          simp only [Outcome.mapState, branches_node, set_at, Option.bind_some]
          exact inductionHypothesis found below

/-- The answer of an operation on a branch can be changed afterwards. -/
theorem onBranch_map
    {Other : Type}
    {change : Value → Other}
    {statement : Statement}
    {path : List Nat}
    {outcome : Outcome Statement Value}
    (operated : onBranch operate statement path = some outcome) :
    onBranch (fun branch => (operate branch).map change) statement path =
      some (outcome.map change) := by
  induction path generalizing statement outcome with
  | nil =>
      rw [onBranch_nil, Option.some.injEq] at operated ⊢
      rw [operated]
  | cons position path inductionHypothesis =>
      cases statement with
      | node root branches =>
          obtain ⟨next, changed, at_position, below, rfl⟩ := onBranch_cons_eq_some_iff.mp operated
          exact onBranch_cons_eq_some_iff.mpr
            ⟨next, changed.map change, at_position, inductionHypothesis below, rfl⟩

end OnBranch

/-! ## Trees of one shape -/

/-- What pairs carry over from the first list holds all through the second. -/
theorem forall_mem_of_forall₂
    {First Second : Type}
    {relation : First → Second → Prop}
    {property : Second → Prop}
    {firsts : List First}
    {seconds : List Second}
    (pairs : List.Forall₂ relation firsts seconds)
    (carries : ∀ first ∈ firsts, ∀ second, relation first second → property second) :
    ∀ second ∈ seconds, property second := by
  induction pairs with
  | nil => exact fun _ member => nomatch member
  | cons pair _ inductionHypothesis =>
      rw [List.forall_mem_cons] at carries ⊢
      exact ⟨carries.1 _ pair, inductionHypothesis carries.2⟩

theorem rel_getElem?_of_forall₂
    {First Second : Type}
    {relation : First → Second → Prop}
    {firsts : List First}
    {seconds : List Second}
    (pairs : List.Forall₂ relation firsts seconds)
    {position : Nat}
    {first : First}
    {second : Second}
    (inFirsts : firsts[position]? = some first)
    (inSeconds : seconds[position]? = some second) : relation first second := by
  obtain ⟨firstBound, rfl⟩ := List.getElem?_eq_some_iff.mp inFirsts
  obtain ⟨secondBound, rfl⟩ := List.getElem?_eq_some_iff.mp inSeconds
  exact pairs.get firstBound secondBound

/-- What stands at a position of the first list is paired with what stands there in
the second. -/
theorem exists_getElem?_of_forall₂
    {First Second : Type}
    {relation : First → Second → Prop}
    {firsts : List First}
    {seconds : List Second}
    (pairs : List.Forall₂ relation firsts seconds)
    {position : Nat}
    {first : First}
    (inFirsts : firsts[position]? = some first) :
    ∃ second, seconds[position]? = some second ∧ relation first second := by
  have bound : position < seconds.length :=
    pairs.length_eq ▸ (List.getElem?_eq_some_iff.mp inFirsts).1
  have inSeconds := List.getElem?_eq_getElem bound
  exact ⟨_, inSeconds, rel_getElem?_of_forall₂ pairs inFirsts inSeconds⟩

/-- Composition of pairings that meet in the second list. -/
theorem forall₂_trans
    {First Second Third : Type}
    {left : First → Second → Prop}
    {right : Second → Third → Prop}
    {both : First → Third → Prop}
    (composes : ∀ first second third, left first second → right second third → both first third)
    {firsts : List First}
    {seconds : List Second}
    {thirds : List Third}
    (pairs : List.Forall₂ left firsts seconds)
    (others : List.Forall₂ right seconds thirds) : List.Forall₂ both firsts thirds := by
  induction pairs generalizing thirds with
  | nil =>
      cases others
      exact .nil
  | cons pair _ inductionHypothesis =>
      cases others with
      | cons other others => exact .cons (composes _ _ _ pair other) (inductionHypothesis others)

/-- A change of both lists at one position keeps them paired. -/
theorem forall₂_modify_set
    {First Second : Type}
    {relation : First → Second → Prop}
    {change : First → First}
    {firsts : List First}
    {seconds : List Second}
    (pairs : List.Forall₂ relation firsts seconds)
    {position : Nat}
    {old new : Second}
    (found : seconds[position]? = some old)
    (changed : ∀ first, relation first old → relation (change first) new) :
    List.Forall₂ relation (firsts.modify position change) (seconds.set position new) := by
  induction pairs generalizing position with
  | nil => cases found
  | cons pair rest inductionHypothesis =>
      cases position with
      | zero =>
          rw [List.getElem?_cons_zero, Option.some.injEq] at found
          exact .cons (changed _ (found ▸ pair)) rest
      | succ position => exact .cons pair (inductionHypothesis found)

/-- Two trees have the same shape, and their blocks are related place by
place. -/
inductive Related (relation : QueryBlock → QueryBlock → Prop) : Statement → Statement → Prop
  | node {first second : QueryBlock} {firsts seconds : List Statement} :
      relation first second →
      List.Forall₂ (Related relation) firsts seconds →
      Related relation (.node first firsts) (.node second seconds)

theorem Related.refl
    {relation : QueryBlock → QueryBlock → Prop}
    (reflexive : ∀ block, relation block block)
    (statement : Statement) : Related relation statement statement := by
  induction statement with
  | node root branches inductionHypothesis =>
      exact .node (reflexive root) (List.forall₂_same.mpr inductionHypothesis)

theorem related_mapBlocks
    {relation : QueryBlock → QueryBlock → Prop}
    {change : QueryBlock → QueryBlock}
    (related : ∀ block, relation block (change block))
    (statement : Statement) :
    Related relation statement (statement.mapBlocks change) := by
  induction statement with
  | node root branches inductionHypothesis =>
      rw [mapBlocks_node]
      refine .node (related root) ?_
      rw [List.forall₂_map_right_iff, List.forall₂_same]
      exact inductionHypothesis

/-- Two changes of every block lead to related trees if they lead to related blocks. -/
theorem related_mapBlocks_of_forall_mem
    {relation : QueryBlock → QueryBlock → Prop}
    {first second : QueryBlock → QueryBlock}
    {statement : Statement}
    (related : ∀ block ∈ statement.blocks, relation (first block) (second block)) :
    Related relation (statement.mapBlocks first) (statement.mapBlocks second) := by
  induction statement with
  | node root branches inductionHypothesis =>
      rw [forall_mem_blocks_node] at related
      rw [mapBlocks_node, mapBlocks_node]
      refine .node related.1 ?_
      rw [List.forall₂_map_left_iff, List.forall₂_map_right_iff, List.forall₂_same]
      exact fun branch member => inductionHypothesis branch member (related.2 branch member)

/-- Induction over two related trees at once. -/
@[elab_as_elim]
theorem Related.induction
    {relation : QueryBlock → QueryBlock → Prop}
    {motive : (first second : Statement) → Related relation first second → Prop}
    (node : ∀ (first second : QueryBlock) (firsts seconds : List Statement)
      (roots : relation first second)
      (pairs : List.Forall₂ (Related relation) firsts seconds),
      List.Forall₂ (fun first second => ∃ related, motive first second related)
        firsts seconds →
      motive (.node first firsts) (.node second seconds) (.node roots pairs))
    {first second : Statement}
    (related : Related relation first second) : motive first second related := by
  induction first generalizing second with
  | node root branches inductionHypothesis =>
      cases related with
      | node roots pairs =>
          refine node _ _ _ _ roots pairs ?_
          have both := (List.forall₂_and_left branches _).mpr ⟨inductionHypothesis, pairs⟩
          exact both.imp fun _ _ pair => ⟨pair.2, pair.1 pair.2⟩

theorem Related.block
    {relation : QueryBlock → QueryBlock → Prop}
    {first second : Statement}
    (related : Related relation first second) : relation first.block second.block := by
  cases related with
  | node roots _ => exact roots

theorem Related.mono
    {weak strong : QueryBlock → QueryBlock → Prop}
    (implies : ∀ first second, strong first second → weak first second)
    {first second : Statement}
    (related : Related strong first second) : Related weak first second := by
  induction related using Related.induction with
  | node first second firsts seconds roots pairs inductionHypothesis =>
      exact .node (implies _ _ roots) (inductionHypothesis.imp fun _ _ pair => pair.2)

/-- What holds of two blocks after a change of the first holds throughout two trees after a
change of the first. -/
theorem Related.mapBlocks_left
    {relation changed : QueryBlock → QueryBlock → Prop}
    {change : QueryBlock → QueryBlock}
    (implies : ∀ first second, relation first second → changed (change first) second)
    {first second : Statement}
    (related : Related relation first second) :
    Related changed (first.mapBlocks change) second := by
  induction related using Related.induction with
  | node first second firsts seconds roots pairs inductionHypothesis =>
      rw [mapBlocks_node]
      refine .node (implies _ _ roots) ?_
      rw [List.forall₂_map_left_iff]
      exact inductionHypothesis.imp fun _ _ pair => pair.2

theorem Related.and
    {left right : QueryBlock → QueryBlock → Prop}
    {first second : Statement}
    (ofLeft : Related left first second)
    (ofRight : Related right first second) :
    Related (fun old new => left old new ∧ right old new) first second := by
  induction ofLeft using Related.induction with
  | node first second firsts seconds roots pairs inductionHypothesis =>
      cases ofRight with
      | node rightRoots rightPairs =>
          refine .node ⟨roots, rightRoots⟩ ?_
          rw [List.forall₂_iff_get] at inductionHypothesis rightPairs ⊢
          refine ⟨inductionHypothesis.1, fun position inFirsts inSeconds => ?_⟩
          obtain ⟨_, both⟩ := inductionHypothesis.2 position inFirsts inSeconds
          exact both (rightPairs.2 position inFirsts inSeconds)

/-- Related trees have branches at the same paths, and these are related. -/
theorem Related.branchAt?
    {relation : QueryBlock → QueryBlock → Prop}
    {first second : Statement}
    (related : Related relation first second)
    {path : List Nat}
    {branch : Statement}
    (found : first.branchAt? path = some branch) :
    ∃ other, second.branchAt? path = some other ∧ Related relation branch other := by
  induction path generalizing first second with
  | nil =>
      rw [branchAt?_nil, Option.some.injEq] at found
      exact ⟨second, branchAt?_nil _, found ▸ related⟩
  | cons position path inductionHypothesis =>
      cases related with
      | @node first second firsts seconds roots pairs =>
          rw [branchAt?_cons, branches_node, Option.bind_eq_some_iff] at found
          obtain ⟨next, at_position, found⟩ := found
          obtain ⟨counterpart, inSecond, related⟩ :=
            exists_getElem?_of_forall₂ pairs at_position
          obtain ⟨other, found, pair⟩ := inductionHypothesis related found
          exact ⟨other, by simp [inSecond, found], pair⟩

/-- The blocks of related trees are related in order. -/
theorem Related.blocks
    {relation : QueryBlock → QueryBlock → Prop}
    {first second : Statement}
    (related : Related relation first second) :
    List.Forall₂ relation first.blocks second.blocks := by
  induction related using Related.induction with
  | node first second firsts seconds roots pairs inductionHypothesis =>
      rw [blocks_node, blocks_node]
      exact .cons roots (List.rel_flatMap inductionHypothesis fun _ _ pair => pair.2)

/-- What the relation carries over holds of every block of the second tree when
it holds of every block of the first. -/
theorem Related.forall_mem_blocks
    {relation : QueryBlock → QueryBlock → Prop}
    {property : QueryBlock → Prop}
    (carries : ∀ first second, relation first second → property first → property second)
    {first second : Statement}
    (related : Related relation first second)
    (holds : ∀ block ∈ first.blocks, property block) :
    ∀ block ∈ second.blocks, property block :=
  forall_mem_of_forall₂ related.blocks fun first member second pair =>
    carries first second pair (holds first member)

end Statement
end SqlBuilder
