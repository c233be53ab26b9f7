import SqlBuilder.Proofs.Cache.Staleness
import SqlBuilder.Proofs.Selection.InStep

/-!
# The width of the arms

The arms of a union have to select equally many columns. When the select lists
are in step every arm shows its list as it is, with one exception: a dialect that
numbers rows among the columns adds the row number to the arm of the statement
that has the range, and to no arm below it.
-/

namespace SqlBuilder

namespace OutputList

/-- The columns of a list as they are written, the row number behind the
others. -/
def columnTexts (list : OutputList) : List String :=
  list.columns.map OutputColumn.toSql ++ (list.rowNumber.map rowNumberColumn).toList

theorem length_columnTexts (list : OutputList) : list.columnTexts.length = list.width := by
  rw [columnTexts, width, List.length_append, List.length_map]
  cases list.rowNumber <;> rfl

/-- A list that names its columns is written as these, with commas between
them. -/
theorem toSql_eq_intercalate
    {list : OutputList}
    (named : list.columns ≠ [])
    (primary : TableRef) : list.toSql primary = String.intercalate ", " list.columnTexts := by
  obtain ⟨columns, rowNumber⟩ := list
  cases columns with
  | nil => exact absurd rfl named
  | cons column columns => rfl

end OutputList

namespace SelectQuery

mutual

/-- The arms of a query, its own before those of its branches. -/
def arms : SelectQuery → List SelectArm
  | .node arm _ branches _ => arm :: branchArms branches

/-- The arms of the branches. -/
def branchArms : List SelectQuery → List SelectArm
  | [] => []
  | branch :: rest => branch.arms ++ branchArms rest

end

theorem branchArms_eq_flatMap (branches : List SelectQuery) :
    branchArms branches = branches.flatMap arms := by
  induction branches with
  | nil => rfl
  | cons branch rest inductionHypothesis =>
      rw [branchArms, inductionHypothesis, List.flatMap_cons]

end SelectQuery

namespace Pagination

/-- Without a range no row number is selected. -/
theorem choose_of_not_isRestricted
    {range : Range}
    (capabilities : Capabilities)
    (unrestricted : range.isRestricted = false) :
    choose capabilities range = .unrestricted := by
  rw [choose, unrestricted]
  rfl

end Pagination

namespace QueryBlock

theorem length_columns_outputList (block : QueryBlock) :
    block.outputList.columns.length = block.selected.length := by
  simp only [outputList]
  split
  · exact SelectList.length_namedColumns 0 _
  · exact List.length_map _

/-- An arm shows the select list and, in some dialects, the row number. -/
theorem width_outputList (block : QueryBlock) :
    block.outputList.width =
      block.selected.length + block.pagination.inlineRowNumber?.toList.length := by
  rw [OutputList.width, length_columns_outputList]
  rfl

/-- Rendering does not touch the range, nor what the dialect makes of it. -/
theorem ReadiedTo.range_eq_and_dialect_eq
    {first second : QueryBlock}
    (readied : ReadiedTo first second) :
    second.range = first.range ∧ second.dialect = first.dialect := by
  rw [readied.eq]
  exact ⟨rfl, rfl⟩

theorem ReadiedTo.pagination_eq
    {first second : QueryBlock}
    (readied : ReadiedTo first second) : second.pagination = first.pagination := by
  obtain ⟨range_eq, dialect_eq⟩ := readied.range_eq_and_dialect_eq
  rw [pagination, pagination, capabilities, capabilities, range_eq, dialect_eq]

end QueryBlock

namespace Statement

/-- The query read off a tree has the arms of its blocks. -/
theorem arms_reading (statement : Statement) :
    statement.reading.arms = statement.blocks.map QueryBlock.arm := by
  induction statement with
  | node root branches inductionHypothesis =>
      rw [reading_node, QueryBlock.query, SelectQuery.arms, SelectQuery.branchArms_eq_flatMap,
        blocks_node, List.map_cons, List.map_flatMap, List.flatMap_map]
      congr 1
      exact List.flatMap_congr inductionHypothesis

theorem arm_reading (statement : Statement) :
    statement.reading.arm = statement.block.arm := by
  cases statement with
  | node root branches => rw [reading_node, block_node]; rfl

/-- With the select lists in step, and nothing kept that is out of date, a SELECT
is the query read off the tree that it leaves behind: an addition reaches all
blocks or none. -/
theorem Coherent.eq_reading_of_shared
    {statement : Statement}
    {list : SelectList}
    {waiting : List SelectedItem}
    {query : SelectQuery}
    (coherent : statement.Coherent)
    (shared : ∀ block ∈ statement.blocks, block.selected = list)
    (succeeded : (statement.renderSelect waiting).result = .ok query) :
    query = (statement.renderSelect waiting).state.reading := by
  induction statement generalizing waiting query with
  | node root branches inductionHypothesis =>
      obtain ⟨keeps, coherentBelow⟩ := coherent_node.mp coherent
      obtain ⟨rootShared, sharedBelow⟩ := forall_mem_blocks_node.mp shared
      have outcome := renderSelect_outcome waiting root branches
      generalize Statement.renderSelect waiting (.node root branches) = rendering
        at outcome succeeded ⊢
      cases outcome with
      | unordered error notKept circular => cases succeeded
      | stopped error events notKept ordered failed => cases succeeded
      | kept kept kept_eq =>
          cases succeeded
          rcases leftOrForgets_addItems root waiting with unchanged | forgotten
          · have selects : (node root branches).SelectsAll waiting := by
              intro item member block blockMem
              have selected := root.hasSql_addItems_of_mem waiting member
              rwa [unchanged, rootShared, ← shared block blockMem] at selected
            have same := mapBlocks_addItems_eq_self selects
            rw [unchanged] at kept_eq
            rw [mapBlocks_node] at same
            rw [Outcome.state_ok, same]
            exact (keeps query kept_eq).2
          · rw [forgotten] at kept_eq
            cases kept_eq
      | rendered queries events notKept ordered rendered =>
          cases succeeded
          obtain ⟨state_eq, pairs⟩ := forall₂_renderBranches_of_ok rendered
          have queries_eq : queries = branches.map fun branch =>
              (branch.renderSelect
                (waiting ++ (root.addItems waiting).reorderJoins.state.orderingItems)
                ).state.reading := by
            rw [← List.forall₂_eq_eq_eq, List.forall₂_map_right_iff]
            have both := (List.forall₂_and_left branches _).mpr ⟨fun _ member => member, pairs⟩
            exact (both.imp fun branch inner pair =>
              inductionHypothesis branch pair.1 (coherentBelow branch pair.1)
                (sharedBelow branch pair.1) pair.2).flip
          rw [reading_node, state_eq, List.map_map]
          exact congrArg (root.addItems waiting).readied.query queries_eq

/-- In a tree in step every arm is as wide as the select list of the root, and
wider by a row number where its block selects one. -/
theorem InStep.width_arm
    {statement : Statement}
    (inStep : statement.InStep) :
    ∀ block ∈ statement.blocks, block.arm.list.width =
      statement.block.selected.length + block.pagination.inlineRowNumber?.toList.length := by
  intro block blockMem
  rw [← inStep.shared block blockMem]
  exact block.width_outputList

/-- Where only the root has a range no branch selects a row number. -/
theorem inlineRowNumber?_of_related
    {before after : Statement}
    (related : Related QueryBlock.ReadiedTo before after)
    (unranged : ∀ block ∈ before.blocks, block.range.isRestricted = false) :
    ∀ block ∈ after.blocks, block.pagination.inlineRowNumber? = none := by
  refine forall_mem_of_forall₂ related.blocks fun first member second readied => ?_
  rw [readied.pagination_eq, QueryBlock.pagination,
    Pagination.choose_of_not_isRestricted _ (unranged first member)]
  rfl

/-- Where only the root had a range before a rendering, the arms are of one width
afterwards exactly if there are no branches or the root selects no row numbers. -/
theorem forall_width_eq_iff_of_related
    {before after : Statement}
    (related : Related QueryBlock.ReadiedTo before after)
    (inStep : after.InStep)
    (unranged : ∀ branch ∈ before.branches, ∀ block ∈ branch.blocks,
      block.range.isRestricted = false) :
    (∀ block ∈ after.blocks, block.arm.list.width = after.block.arm.list.width) ↔
      before.branches = [] ∨ before.block.pagination.inlineRowNumber? = none := by
  have width_root := inStep.width_arm _ after.block_mem_blocks
  rw [related.block.pagination_eq] at width_root
  cases related with
  | @node first second firsts seconds roots pairs =>
      obtain ⟨_, width_below⟩ := forall_mem_blocks_node.mp inStep.width_arm
      have unnumberedBelow : ∀ changed ∈ seconds, ∀ block ∈ changed.blocks,
          block.pagination.inlineRowNumber? = none :=
        forall_mem_of_forall₂ pairs fun branch branchMem changed pair =>
          inlineRowNumber?_of_related pair (unranged branch branchMem)
      simp only [block_node, branches_node, forall_mem_blocks_node, true_and]
        at width_root width_below ⊢
      constructor
      · intro sameWidth
        cases pairs with
        | nil => exact .inl rfl
        | @cons branch changed _ rest pair _ =>
            have width := width_below changed List.mem_cons_self _ changed.block_mem_blocks
            rw [sameWidth changed List.mem_cons_self _ changed.block_mem_blocks, width_root,
              unnumberedBelow changed List.mem_cons_self _ changed.block_mem_blocks,
              Nat.add_left_cancel_iff] at width
            exact .inr (Option.toList_eq_nil_iff.mp (List.length_eq_zero_iff.mp width))
      · rintro (alone | unnumbered)
        · subst alone
          cases pairs with
          | nil => exact fun _ member => nomatch member
        · intro changed changedMem block blockMem
          rw [width_below changed changedMem block blockMem, width_root, unnumbered,
            unnumberedBelow changed changedMem block blockMem]

/-- Let the select lists of a tree be in step and name columns, let only the root
have an ordering or a range, and let nothing be kept that is out of date. Then a
SELECT has an arm for each block, which names its columns, and the arms are of one
width exactly if there are no branches or the root does not select row numbers. -/
theorem sameWidth_iff_inlineRowNumber?_eq_none
    {statement : Statement}
    {query : SelectQuery}
    (coherent : statement.Coherent)
    (inStep : statement.InStep)
    (named : statement.block.selected ≠ [])
    (unranged : ∀ branch ∈ statement.branches, ∀ block ∈ branch.blocks,
      block.range.isRestricted = false)
    (rendered : statement.selectQuery.result = .ok query) :
    query.arms.length = statement.blocks.length ∧
      (∀ arm ∈ query.arms,
        arm.list.toSql arm.primary = String.intercalate ", " arm.list.columnTexts ∧
          arm.list.columnTexts.length = arm.list.width) ∧
      ((∀ arm ∈ query.arms, arm.list.width = query.arm.list.width) ↔
        statement.branches = [] ∨ statement.block.pagination.inlineRowNumber? = none) := by
  have related := related_renderSelect [] statement
  obtain ⟨items, gains⟩ := inStep.exists_related_gains_renderSelect
  have afterInStep := inStep.of_gains gains
  have query_eq := coherent.eq_reading_of_shared inStep.shared rendered
  have arms_eq := arms_reading (statement.renderSelect []).state
  have arm_eq := arm_reading (statement.renderSelect []).state
  rw [← query_eq] at arms_eq arm_eq
  refine ⟨?_, ?_, ?_⟩
  · rw [arms_eq, List.length_map]
    exact related.blocks.length_eq.symm
  · rw [arms_eq, List.forall_mem_map]
    intro block blockMem
    refine ⟨OutputList.toSql_eq_intercalate ?_ _, OutputList.length_columnTexts _⟩
    rw [← List.length_pos_iff]
    change 0 < block.outputList.columns.length
    rw [block.length_columns_outputList, afterInStep.shared block blockMem,
      gains.block.selected]
    obtain ⟨added, grown⟩ := statement.block.selected.exists_addAll_eq_append items
    rw [grown, List.length_append]
    have := List.length_pos_iff.mpr named
    omega
  · rw [arms_eq, List.forall_mem_map, arm_eq]
    exact forall_width_eq_iff_of_related related afterInStep unranged

/-- The identities of the first two people, from people that are united with people
at two depths. -/
def firstPeople (capabilities : Capabilities) : Statement :=
  (nestedPeople capabilities).runAll
    [.selectColumn none { table := "person", name := "id" } none true,
      .setRange { count := some 2 }]

theorem sameWidth_firstPeople :
    ∃ query, (firstPeople .postgresql).selectQuery.result = .ok query ∧
      query.arms.length = 3 ∧ ∀ arm ∈ query.arms, arm.list.width = query.arm.list.width := by
  have coherent : (firstPeople .postgresql).Coherent := coherent_of_cachedSelect?_eq_none (by decide)
  have inStep : (firstPeople .postgresql).InStep := ⟨by decide, by decide⟩
  obtain ⟨arms, _, sameWidth⟩ := sameWidth_iff_inlineRowNumber?_eq_none coherent inStep
    (by decide) (by decide) rfl
  exact ⟨_, rfl, arms, sameWidth.mpr (.inr rfl)⟩

/-- A dialect that numbers rows among the columns numbers those of the first arm
alone. -/
theorem widths_firstPeople_db2 :
    (firstPeople .db2).Reachable ∧ (firstPeople .db2).InStep ∧ (firstPeople .db2).Coherent ∧
      (∀ branch ∈ (firstPeople .db2).branches, ∀ block ∈ branch.blocks,
        block.ordering = [] ∧ block.range.isRestricted = false) ∧
      ∃ query, (firstPeople .db2).selectQuery.result = .ok query ∧
        query.arms.map (·.list.width) = [2, 1, 1] ∧
        (firstPeople .db2).selectSql.result = .ok
          ("SELECT subq.id FROM (SELECT A0.id, ROW_NUMBER() OVER() rn FROM person A0 " ++
            "UNION ALL SELECT A0.id FROM person A0 UNION ALL SELECT A0.id FROM person A0) " ++
            "subq WHERE subq.rn <= 2") := by
  refine ⟨(reachable_nestedPeople .db2).runAll (by simp), ⟨by decide, by decide⟩,
    coherent_of_cachedSelect?_eq_none (by decide), by decide, _, rfl, rfl, by decide +kernel⟩

end Statement
end SqlBuilder
