import SqlBuilder.Proofs.Cache.Overlooking
import SqlBuilder.Proofs.Trace.Block

/-!
# Traces of renderings in a tree

An operation does the same to two trees that differ in traces of renderings
alone, and they still differ in nothing else afterwards. A SELECT that starts with
nothing kept comes to the same for both.
-/

namespace SqlBuilder

/-- The operation neither renders a statement nor brings in a branch. -/
def Operation.Mutates : Operation → Prop
  | .render _ _ | .log _ | .union _ => False
  | _ => True

namespace QueryBlock

/-- Two blocks that keep no SELECT are rendered alike, their branches apart. -/
structure RendersAlike (first second : QueryBlock) : Prop where
  firstNotKept : ∀ waiting, (first.addItems waiting).cachedSelect? = none
  secondNotKept : ∀ waiting, (second.addItems waiting).cachedSelect? = none
  result_eq : ∀ waiting, (first.addItems waiting).reorderJoins.result =
    (second.addItems waiting).reorderJoins.result
  orderingItems_eq : ∀ waiting, (first.addItems waiting).reorderJoins.state.orderingItems =
    (second.addItems waiting).reorderJoins.state.orderingItems
  query_eq : ∀ waiting, (first.addItems waiting).readied.query =
    (second.addItems waiting).readied.query

/-- Nothing is found in a block that keeps nothing, also after additions. -/
theorem cachedSelect?_addItems_invalidate (block : QueryBlock) (items : List SelectedItem) :
    (block.invalidate.addItems items).cachedSelect? = none := by
  rw [addItems_invalidate]
  rfl

/-- Traces of renderings do not show once nothing is kept. -/
theorem Matches.rendersAlike
    {first second : QueryBlock}
    (matched : Matches first second) : RendersAlike first.invalidate second := by
  have added := fun waiting => matched.forget.map (sparesJoins_addItems waiting)
  constructor
  · exact first.cachedSelect?_addItems_invalidate
  · intro waiting
    rw [cachedSelect?, (added waiting).cache_eq_none]
  · exact fun waiting => (added waiting).reorderJoins.1
  · exact fun waiting => (added waiting).reorderJoins.2.orderingItems_eq
  · exact fun waiting => (added waiting).readied.query_eq

end QueryBlock

namespace Statement

open QueryBlock (Matches RendersAlike SparesJoins matches_invalidate)

variable {first second : Statement}

/-! ## Walks through two trees -/

theorem forall₂_set
    {First Second : Type}
    {relation : First → Second → Prop}
    {firsts : List First}
    {seconds : List Second}
    (pairs : List.Forall₂ relation firsts seconds)
    (position : Nat)
    {oneFirst : First}
    {oneSecond : Second}
    (pair : relation oneFirst oneSecond) :
    List.Forall₂ relation (firsts.set position oneFirst) (seconds.set position oneSecond) := by
  induction pairs generalizing position with
  | nil => exact .nil
  | cons head tail inductionHypothesis =>
      cases position with
      | zero => exact .cons pair tail
      | succ position => exact .cons head (inductionHypothesis position)

theorem related_mapBlocks_both
    {relation : QueryBlock → QueryBlock → Prop}
    {change : QueryBlock → QueryBlock}
    (carries : ∀ first second, relation first second → relation (change first) (change second))
    (related : Related relation first second) :
    Related relation (first.mapBlocks change) (second.mapBlocks change) := by
  induction related using Related.induction with
  | node first second firsts seconds roots pairs inductionHypothesis =>
      rw [mapBlocks_node, mapBlocks_node]
      refine .node (carries _ _ roots) ?_
      rw [List.forall₂_map_left_iff, List.forall₂_map_right_iff]
      exact inductionHypothesis.imp fun _ _ pair => pair.2

theorem related_modifyBlock_both
    {relation : QueryBlock → QueryBlock → Prop}
    {change : QueryBlock → QueryBlock}
    (carries : ∀ first second, relation first second → relation (change first) (change second))
    (related : Related relation first second) :
    Related relation (first.modifyBlock change) (second.modifyBlock change) := by
  cases related with
  | node roots pairs => exact .node (carries _ _ roots) pairs

theorem related_modify_both
    {relation : QueryBlock → QueryBlock → Prop}
    {change : QueryBlock → QueryBlock}
    (carries : ∀ first second, relation first second → relation (change first) (change second))
    (everywhere : Bool)
    (related : Related relation first second) :
    Related relation (first.modify everywhere change) (second.modify everywhere change) := by
  unfold modify
  split
  · exact related_mapBlocks_both carries related
  · exact related_modifyBlock_both carries related

/-- What holds of two blocks after a change of one holds throughout two trees after
a change of one. -/
theorem Related.compose
    {changed apart stillApart : QueryBlock → QueryBlock → Prop}
    (composes : ∀ old new other, changed old new → apart old other → stillApart new other)
    {old new other : Statement}
    (toNew : Related changed old new)
    (toOther : Related apart old other) : Related stillApart new other := by
  induction toNew using Related.induction generalizing other with
  | node oldRoot newRoot olds news roots pairs inductionHypothesis =>
      cases toOther with
      | node otherRoots others =>
          refine .node (composes _ _ _ roots otherRoots)
            (forall₂_trans ?_ inductionHypothesis.flip others)
          exact fun _ _ _ pair other => pair.choose_spec other

/-! ## Joins -/

/-- What follows of pairs from a property of the second lists holds of all pairs. -/
theorem forall₂_of_mem_right
    {First Second : Type}
    {relation conclusion : First → Second → Prop}
    {firsts : List First}
    {seconds : List Second}
    (pairs : List.Forall₂ relation firsts seconds)
    (follows : ∀ first, ∀ second ∈ seconds, relation first second → conclusion first second) :
    List.Forall₂ conclusion firsts seconds := by
  induction pairs with
  | nil => exact .nil
  | cons pair _ inductionHypothesis =>
      refine .cons (follows _ _ List.mem_cons_self pair) (inductionHypothesis ?_)
      exact fun first second member => follows first second (List.mem_cons_of_mem _ member)

theorem matches_spreadJoinToBranches
    {spec : JoinSpec}
    {firsts seconds : List Statement}
    (pairs : List.Forall₂ (fun first second =>
      Related Matches first second ∧
        (first.spreadJoin spec).result = (second.spreadJoin spec).result ∧
        Related Matches (first.spreadJoin spec).state (second.spreadJoin spec).state)
      firsts seconds) :
    (spreadJoinToBranches spec firsts).result = (spreadJoinToBranches spec seconds).result ∧
      List.Forall₂ (Related Matches) (spreadJoinToBranches spec firsts).state
        (spreadJoinToBranches spec seconds).state := by
  induction pairs with
  | nil => exact ⟨rfl, .nil⟩
  | cons pair rest inductionHypothesis =>
      obtain ⟨_, result_eq, joined⟩ := pair
      simp only [spreadJoinToBranches, result_eq]
      split
      · exact ⟨rfl, .cons joined (rest.imp fun _ _ pair => pair.1)⟩
      · exact ⟨inductionHypothesis.1, .cons joined inductionHypothesis.2⟩

/-- A join that spreads ends alike in both trees. -/
theorem matches_spreadJoin
    (matched : Related Matches first second)
    (consistent : ∀ block ∈ second.blocks, block.Consistent)
    (spec : JoinSpec) :
    (first.spreadJoin spec).result = (second.spreadJoin spec).result ∧
      Related Matches (first.spreadJoin spec).state (second.spreadJoin spec).state := by
  induction matched using Related.induction generalizing spec with
  | node first second firsts seconds roots pairs inductionHypothesis =>
      obtain ⟨rootConsistent, consistentBelow⟩ := forall_mem_blocks_node.mp consistent
      obtain ⟨result_eq, joined⟩ := roots.join rootConsistent spec
      simp only [spreadJoin, result_eq]
      split
      · exact ⟨result_eq, .node joined pairs⟩
      · rename_i target _
        obtain ⟨others_eq, others⟩ := matches_spreadJoinToBranches
          (forall₂_of_mem_right inductionHypothesis fun _ branch member pair =>
            ⟨pair.choose, pair.choose_spec (consistentBelow branch member)
              (spec.resolvedTo target)⟩)
        split
        · exact ⟨by rw [others_eq], .node joined others⟩
        · exact ⟨result_eq, .node joined pairs⟩

theorem matches_crossJoinToBranches
    {table : Table}
    {target : TableRef}
    {firsts seconds : List Statement}
    (pairs : List.Forall₂ (fun first second =>
      Related Matches first second ∧
        (crossJoin table (some target.aliasName) (some target.group) first).result =
          (crossJoin table (some target.aliasName) (some target.group) second).result ∧
        Related Matches (crossJoin table (some target.aliasName) (some target.group) first).state
          (crossJoin table (some target.aliasName) (some target.group) second).state)
      firsts seconds) :
    (crossJoinToBranches table target firsts).result =
        (crossJoinToBranches table target seconds).result ∧
      List.Forall₂ (Related Matches) (crossJoinToBranches table target firsts).state
        (crossJoinToBranches table target seconds).state := by
  induction pairs with
  | nil => exact ⟨rfl, .nil⟩
  | cons pair rest inductionHypothesis =>
      obtain ⟨_, result_eq, joined⟩ := pair
      simp only [crossJoinToBranches, result_eq]
      split
      · exact ⟨rfl, .cons joined (rest.imp fun _ _ pair => pair.1)⟩
      · exact ⟨inductionHypothesis.1, .cons joined inductionHypothesis.2⟩

/-- A cross join ends alike in both trees. -/
theorem matches_crossJoin
    (matched : Related Matches first second)
    (table : Table)
    (aliasName group : Option String) :
    (first.crossJoin table aliasName group).result =
        (second.crossJoin table aliasName group).result ∧
      Related Matches (first.crossJoin table aliasName group).state
        (second.crossJoin table aliasName group).state := by
  induction matched using Related.induction generalizing aliasName group with
  | node first second firsts seconds roots pairs inductionHypothesis =>
      obtain ⟨result_eq, joined⟩ := roots.crossJoin table aliasName group
      simp only [crossJoin, result_eq]
      split
      · exact ⟨result_eq, .node joined pairs⟩
      · rename_i target _
        obtain ⟨others_eq, others⟩ := matches_crossJoinToBranches
          (inductionHypothesis.imp fun _ _ pair =>
            ⟨pair.choose, pair.choose_spec (some target.aliasName) (some target.group)⟩)
        exact ⟨by rw [others_eq], .node joined others⟩

/-! ## Operations -/

/-- An edit that spares the joins leaves two trees that differ in traces alone as
such, at the root or everywhere. -/
theorem matches_modify
    (change : QueryBlock → QueryBlock)
    (spares : SparesJoins change)
    (everywhere : Bool)
    (matched : Related Matches first second) :
    Related Matches (first.modify everywhere change) (second.modify everywhere change) :=
  related_modify_both (fun _ _ pair => pair.map spares) everywhere matched

theorem matches_selectMapping
    (matched : Related Matches first second)
    (ref : Option TableRef)
    (mapping : Mapping)
    (aliasName : Option String)
    (everywhere : Bool) :
    Related Matches (first.selectMapping ref mapping aliasName everywhere).state
      (second.selectMapping ref mapping aliasName everywhere).state := by
  simp only [selectMapping, matched.block.primary_eq]
  split
  · exact matched
  · split
    · exact matched
    · exact matches_modify _ (QueryBlock.sparesJoins_addItems _) everywhere matched

theorem matches_setOptions
    (matched : Related Matches first second)
    (strategies : NamingStrategies)
    (options : StatementOptions) :
    Related Matches (first.setOptions strategies options).state
      (second.setOptions strategies options).state := by
  simp only [setOptions]
  split
  · exact matched
  · exact matches_modify (·.setOptions options _)
      (.of_forgets (fun _ _ _ => rfl) fun _ => ⟨rfl, rfl, rfl⟩) false matched

/-- An operation that neither renders nor brings in a branch leaves two trees that
differ in traces alone as such. -/
theorem matches_run
    {operation : Operation}
    (mutates : operation.Mutates)
    (matched : Related Matches first second)
    (consistent : ∀ block ∈ second.blocks, block.Consistent) :
    Related Matches (operation.run first).state (operation.run second).state := by
  cases operation with
  | render framing id => cases mutates
  | log id => cases mutates
  | union other => cases mutates
  | select expression aliasName everywhere =>
      simp only [Operation.run, Outcome.state_map, select]
      split
      · exact matched
      · exact matches_modify _ (QueryBlock.sparesJoins_select _ _) everywhere matched
  | selectMapping ref mapping aliasName everywhere =>
      exact matches_selectMapping matched ref mapping aliasName everywhere
  | selectColumn ref column aliasName everywhere =>
      simp only [Operation.run, Outcome.state_map, selectColumn]
      split
      · exact matched
      · exact matches_selectMapping matched ref _ aliasName everywhere
  | join spec =>
      simp only [Operation.run, Outcome.state_map, join]
      split
      · exact matched
      · exact (matches_spreadJoin matched consistent spec).2
  | crossJoin table aliasName group => exact (matches_crossJoin matched table aliasName group).2
  | removeCrossJoin aliasName =>
      exact related_mapBlocks_both (fun _ _ pair => pair.removeCrossJoin aliasName) matched
  | reorderJoins =>
      cases matched with
      | node roots pairs => exact .node roots.reorderJoins.2 pairs
  | whereAnd predicate everywhere =>
      exact matches_modify _ (QueryBlock.sparesJoins_whereAnd predicate) everywhere matched
  | whereOr predicate everywhere =>
      exact matches_modify (·.whereOr predicate)
        (.of_forgets (fun _ _ _ => rfl) fun _ => ⟨rfl, rfl, rfl⟩) everywhere matched
  | groupBy expression =>
      exact matches_modify (·.groupBy expression)
        (.of_forgets (fun _ _ _ => rfl) fun _ => ⟨rfl, rfl, rfl⟩) true matched
  | setHaving predicate =>
      exact matches_modify (·.setHaving predicate)
        (.of_forgets (fun _ _ _ => rfl) fun _ => ⟨rfl, rfl, rfl⟩) true matched
  | setDistinct distinct =>
      exact matches_modify (·.setDistinct distinct)
        (.of_forgets (fun _ _ _ => rfl) fun _ => ⟨rfl, rfl, rfl⟩) false matched
  | setRange range =>
      exact matches_modify (·.setRange range)
        (.of_forgets (fun _ _ _ => rfl) fun _ => ⟨rfl, rfl, rfl⟩) false matched
  | setOrdering expressions directions nulls =>
      simp only [Operation.run, setOrdering]
      split
      · exact matched
      · split
        · exact matched
        · exact matches_modify (·.setOrdering _)
            (.of_forgets (fun _ _ _ => rfl) fun _ => ⟨rfl, rfl, rfl⟩) false matched
  | clearOrdering =>
      exact matches_modify (·.setOrdering [])
        (.of_forgets (fun _ _ _ => rfl) fun _ => ⟨rfl, rfl, rfl⟩) false matched
  | setUpdates assignments =>
      simp only [Operation.run, setUpdates]
      split
      · exact matched
      · exact matches_modify (·.setUpdates assignments)
          (.of_forgets (fun _ _ _ => rfl) fun _ => ⟨rfl, rfl, rfl⟩) false matched
  | setOptions strategies options => exact matches_setOptions matched strategies options
  | setNamingStrategy strategies key =>
      simp only [Operation.run, setNamingStrategy, matched.block.options_eq]
      exact matches_setOptions matched strategies _

/-- Two trees that differ in traces alone still do when trees of this kind are
united with them. -/
theorem matches_union
    {other otherSecond : Statement}
    (matched : Related Matches first second)
    (brought : Related Matches other otherSecond) :
    Related Matches (first.union other).state (second.union otherSecond).state := by
  cases matched with
  | @node first second firsts seconds roots pairs =>
      cases unions : second.capabilities.unions with
      | true =>
          simp only [union, block_node, branches_node, roots.capabilities_eq, unions, ↓reduceIte]
          exact .node (matches_invalidate roots) (List.rel_append pairs (.cons brought .nil))
      | false =>
          simp only [union, block_node, roots.capabilities_eq, unions, Bool.false_eq_true,
            ↓reduceIte]
          exact .node roots pairs

/-- Operations that end alike at the root of two trees do so at every path. -/
theorem matches_onBranch
    {operate operateSecond : Statement → Outcome Statement Unit}
    (operated : ∀ first second, Related Matches first second →
      (∀ block ∈ second.blocks, block.Consistent) →
      Related Matches (operate first).state (operateSecond second).state)
    {path : List Nat}
    {outcome outcomeSecond : Outcome Statement Unit}
    (matched : Related Matches first second)
    (consistent : ∀ block ∈ second.blocks, block.Consistent)
    (inFirst : first.onBranch operate path = some outcome)
    (inSecond : second.onBranch operateSecond path = some outcomeSecond) :
    Related Matches outcome.state outcomeSecond.state := by
  induction path generalizing first second outcome outcomeSecond with
  | nil =>
      rw [onBranch_nil, Option.some.injEq] at inFirst inSecond
      exact inFirst ▸ inSecond ▸ operated first second matched consistent
  | cons position path inductionHypothesis =>
      cases matched with
      | node roots pairs =>
          obtain ⟨branch, changed, found, below, rfl⟩ := onBranch_cons_eq_some_iff.mp inFirst
          obtain ⟨branchSecond, changedSecond, foundSecond, belowSecond, rfl⟩ :=
            onBranch_cons_eq_some_iff.mp inSecond
          refine .node (matches_invalidate roots) (forall₂_set pairs position ?_)
          exact inductionHypothesis (rel_getElem?_of_forall₂ pairs found foundSecond)
            ((forall_mem_blocks_node.mp consistent).2 branchSecond
              (List.mem_of_getElem? foundSecond)) below belowSecond

/-! ## The SELECT of two trees -/

theorem result_renderBranches_congr
    {waiting : List SelectedItem}
    {firsts seconds : List Statement}
    (pairs : List.Forall₂ (fun first second =>
      (first.renderSelect waiting).result = (second.renderSelect waiting).result)
      firsts seconds) :
    (renderBranches waiting firsts).result = (renderBranches waiting seconds).result := by
  induction pairs with
  | nil => rfl
  | @cons first second firsts seconds pair _ inductionHypothesis =>
      rw [renderBranches, renderBranches]
      cases rendered : (second.renderSelect waiting).result with
      | error error => rw [pair, rendered]
      | ok query =>
          rw [pair, rendered]
          dsimp only
          rw [inductionHypothesis]

/-- Trees whose blocks are rendered alike are rendered alike. -/
theorem result_renderSelect_congr
    (alike : Related RendersAlike first second)
    (waiting : List SelectedItem) :
    (first.renderSelect waiting).result = (second.renderSelect waiting).result := by
  induction alike using Related.induction generalizing waiting with
  | node first second firsts seconds roots pairs inductionHypothesis =>
      have below : ∀ items, (renderBranches items firsts).result =
          (renderBranches items seconds).result := fun items =>
        result_renderBranches_congr (inductionHypothesis.imp fun _ _ pair => pair.choose_spec items)
      rw [result_renderSelect_of_not_kept _ (roots.firstNotKept waiting),
        result_renderSelect_of_not_kept _ (roots.secondNotKept waiting), roots.result_eq waiting,
        roots.orderingItems_eq waiting, below, roots.query_eq waiting]

/-- With nothing kept the SELECTs of two trees that differ in traces alone come to
the same. -/
theorem result_renderSelect_cleared_of_matches
    (matched : Related Matches first second)
    (waiting : List SelectedItem) :
    (first.cleared.renderSelect waiting).result = (second.renderSelect waiting).result := by
  have alike : Related RendersAlike first.cleared second :=
    matched.mapBlocks_left fun _ _ pair => pair.rendersAlike
  exact result_renderSelect_congr alike waiting

end Statement
end SqlBuilder
