import SqlBuilder.Dialect.Preset
import SqlBuilder.Proofs.TreeHistory

/-!
# Select lists in step

The blocks of a union tree select the same columns as long as every column is
selected everywhere and only the root has an ordering. The positions that a
selection answers with are then those of its columns in every block, and stay
so, since select lists grow at their ends only.
-/

namespace SqlBuilder

namespace SelectList

/-- The list with several more entries, added in order. -/
def addAll (list : SelectList) (items : List SelectedItem) : SelectList :=
  items.foldl add list

/-- The first entry with a SQL text stands at a position, counted from one. -/
def StandsAt (list : SelectList) (sql : String) (position : Nat) : Prop :=
  ∃ before item after, list = before ++ item :: after ∧ item.sql = sql ∧
    (∀ other ∈ before, other.sql ≠ sql) ∧ position = before.length + 1

/-- Entries are added at the end. -/
theorem exists_addAll_eq_append (list : SelectList) (items : List SelectedItem) :
    ∃ added, list.addAll items = list ++ added := by
  induction items generalizing list with
  | nil => exact ⟨[], (List.append_nil list).symm⟩
  | cons item items inductionHypothesis =>
      obtain ⟨added, grown⟩ := inductionHypothesis (list.add item)
      rw [addAll, List.foldl_cons, ← addAll, grown, add]
      split
      · exact ⟨added, rfl⟩
      · exact ⟨item :: added, by rw [List.append_assoc, List.singleton_append]⟩

/-- An addition does not move what stands in a list. -/
theorem StandsAt.addAll
    {list : SelectList}
    {sql : String}
    {position : Nat}
    (stands : list.StandsAt sql position)
    (items : List SelectedItem) : (list.addAll items).StandsAt sql position := by
  obtain ⟨before, item, after, rfl, isIt, isFirst, rfl⟩ := stands
  obtain ⟨added, grown⟩ := exists_addAll_eq_append (before ++ item :: after) items
  refine ⟨before, item, after ++ added, ?_, isIt, isFirst, rfl⟩
  rw [grown, List.append_assoc, List.cons_append]

/-- A text that is selected stands where its position says. -/
theorem standsAt_position
    {list : SelectList}
    {sql : String}
    (present : list.hasSql sql = true) : list.StandsAt sql (list.position sql) := by
  induction list with
  | nil => cases present
  | cons item rest inductionHypothesis =>
      by_cases isIt : item.sql = sql
      · refine ⟨[], item, rest, rfl, isIt, fun _ member => (nomatch member), ?_⟩
        simp [position, List.findIdx_cons, isIt]
      · have restPresent : hasSql rest sql = true := by
          simpa [hasSql, isIt] using present
        obtain ⟨before, found, after, rest_eq, isFound, isFirst, atPosition⟩ :=
          inductionHypothesis restPresent
        refine ⟨item :: before, found, after, by rw [rest_eq, List.cons_append], isFound,
          List.forall_mem_cons.mpr ⟨isIt, isFirst⟩, ?_⟩
        have notIt : (item.sql == sql) = false := beq_false_of_ne isIt
        rw [List.length_cons, ← atPosition, position, List.findIdx_cons, notIt, cond_false]
        rfl

end SelectList

namespace QueryBlock

theorem selected_addItems (block : QueryBlock) (items : List SelectedItem) :
    (block.addItems items).selected = block.selected.addAll items := by
  induction items generalizing block with
  | nil => rfl
  | cons item items inductionHypothesis =>
      rw [addItems_cons, inductionHypothesis, addItem_eq, SelectList.addAll,
        SelectList.addAll, List.foldl_cons]

/-- A block has gained entries of its select list, and has the ordering it
had. -/
structure Gains (items : List SelectedItem) (first second : QueryBlock) : Prop where
  selected : second.selected = first.selected.addAll items
  ordering : second.ordering = first.ordering

theorem gains_refl (block : QueryBlock) : Gains [] block block :=
  ⟨rfl, rfl⟩

theorem gains_addItems (block : QueryBlock) (items : List SelectedItem) :
    Gains items block (block.addItems items) :=
  ⟨block.selected_addItems items, block.ordering_addItems items⟩

/-- The positions of entries that are selected are those of their texts. -/
theorem standsAt_positions
    {block : QueryBlock}
    {items : List SelectedItem}
    (selected : ∀ item ∈ items, block.selected.hasSql item.sql = true) :
    List.Forall₂ block.selected.StandsAt (items.map SelectedItem.sql)
      (block.positions items) := by
  rw [positions, List.forall₂_map_left_iff, List.forall₂_map_right_iff, List.forall₂_same]
  exact fun item member => SelectList.standsAt_position (selected item member)

theorem gains_select
    (block : QueryBlock)
    (expression : Expression)
    (items : List SelectedItem) : Gains items block (block.select expression items) :=
  ⟨selected_addItems _ items, by rw [select, addItems_eq]; rfl⟩

/-- Reordering the joins does not show in the select list. -/
theorem Gains.reorderJoins
    {items : List SelectedItem}
    {first second : QueryBlock}
    (gains : Gains items first second) : Gains items first second.reorderJoins.state := by
  rw [reorderJoins_state_eq]
  exact ⟨gains.selected, gains.ordering⟩

/-- Readying a block adds what its ordering needs. -/
theorem Gains.readied
    {items : List SelectedItem}
    {first second : QueryBlock}
    (gains : Gains items first second) :
    Gains (items ++ second.reorderJoins.state.orderingItems) first second.readied := by
  have reordered := gains.reorderJoins
  have added := second.reorderJoins.state.gains_addItems
    second.reorderJoins.state.orderingItems
  constructor
  · rw [QueryBlock.readied, added.selected, reordered.selected, SelectList.addAll,
      SelectList.addAll, SelectList.addAll, List.foldl_append]
  · rw [QueryBlock.readied, added.ordering, reordered.ordering]

/-- What rendering a SELECT adds to a select list. -/
theorem selected_readied_eq (block : QueryBlock) :
    block.readied.selected = block.selected.addAll block.orderingItems := by
  have items_eq : block.reorderJoins.state.orderingItems = block.orderingItems := by
    rw [reorderJoins_state_eq]
    rfl
  rw [block.gains_refl.readied.selected, items_eq, List.nil_append]

end QueryBlock

namespace Statement

open QueryBlock (Gains)

/-- The blocks of a tree select the same entries in the same order, and no block
of a branch has an ordering. -/
structure InStep (statement : Statement) : Prop where
  shared : ∀ block ∈ statement.blocks, block.selected = statement.block.selected
  unordered : ∀ branch ∈ statement.branches, ∀ block ∈ branch.blocks, block.ordering = []

/-- In every block of a tree the texts are selected at the positions. -/
def SelectsAt (statement : Statement) (texts : List String) (positions : List Nat) : Prop :=
  ∀ block ∈ statement.blocks, List.Forall₂ block.selected.StandsAt texts positions

/-- A tree whose blocks have all gained the same entries is still in step. -/
theorem InStep.of_gains
    {before after : Statement}
    {items : List SelectedItem}
    (inStep : before.InStep)
    (related : Related (Gains items) before after) : after.InStep := by
  constructor
  · refine forall_mem_of_forall₂ related.blocks fun first member second gains => ?_
    rw [gains.selected, related.block.selected, inStep.shared first member]
  · cases related with
    | node roots pairs =>
        refine forall_mem_of_forall₂ pairs fun first member second pair => ?_
        exact pair.forall_mem_blocks
          (fun _ _ gains unordered => gains.ordering.trans unordered)
          (inStep.unordered first member)

/-- A change of the root that its select list does not show leaves a tree in
step. -/
theorem InStep.modifyBlock
    {statement : Statement}
    {change : QueryBlock → QueryBlock}
    (inStep : statement.InStep)
    (selected_eq : (change statement.block).selected = statement.block.selected) :
    (statement.modifyBlock change).InStep := by
  cases statement with
  | node root branches =>
      obtain ⟨_, sharedBelow⟩ := forall_mem_blocks_node.mp inStep.shared
      refine ⟨forall_mem_blocks_node.mpr ⟨rfl, ?_⟩, inStep.unordered⟩
      intro branch branchMem block blockMem
      exact (sharedBelow branch branchMem block blockMem).trans selected_eq.symm

/-! ## Rendering -/

/-- Rendering adds the waiting entries to every block and, on the way down, what
the ordering of the root needs. -/
theorem exists_related_gains_renderSelect_node
    (waiting : List SelectedItem)
    (root : QueryBlock)
    {branches : List Statement}
    (below : ∀ items, ∀ branch ∈ branches,
      Related (Gains items) branch (branch.renderSelect items).state) :
    ∃ added, (root.ordering = [] → added = []) ∧
      Related (Gains (waiting ++ added)) (.node root branches)
        ((node root branches).renderSelect waiting).state := by
  have rootAdded := root.gains_addItems waiting
  have branchesAdded : List.Forall₂ (Related (Gains waiting)) branches
      (branches.map (mapBlocks (·.addItems waiting))) := by
    rw [List.forall₂_map_right_iff, List.forall₂_same]
    exact fun branch _ => related_mapBlocks (fun block => block.gains_addItems waiting) branch
  have branchesRendered : ∀ items, List.Forall₂ (Related (Gains items)) branches
      (renderBranches items branches).state := fun items =>
    related_branches_renderSelect (fun block => block.gains_addItems items) branches
      (below items)
  have unordered : root.ordering = [] →
      (root.addItems waiting).reorderJoins.state.orderingItems = [] := fun none =>
    QueryBlock.orderingItems_eq_nil (rootAdded.reorderJoins.ordering.trans none)
  have outcome := renderSelect_outcome waiting root branches
  generalize renderSelect waiting (.node root branches) = rendering at outcome
  cases outcome with
  | kept query kept =>
      refine ⟨[], fun _ => rfl, ?_⟩
      rw [List.append_nil]
      exact .node rootAdded branchesAdded
  | unordered error notKept circular =>
      refine ⟨[], fun _ => rfl, ?_⟩
      rw [List.append_nil]
      exact .node rootAdded.reorderJoins branchesAdded
  | stopped error events notKept ordered failed =>
      exact ⟨_, unordered, .node rootAdded.readied (branchesRendered _)⟩
  | rendered queries events notKept ordered rendered =>
      have readied := rootAdded.readied
      exact ⟨_, unordered, .node ⟨readied.selected, readied.ordering⟩ (branchesRendered _)⟩

/-- Without an ordering in the tree rendering adds the waiting entries to every
block, and nothing else. -/
theorem related_gains_renderSelect_of_unordered
    {statement : Statement}
    (unordered : ∀ block ∈ statement.blocks, block.ordering = [])
    (waiting : List SelectedItem) :
    Related (Gains waiting) statement (statement.renderSelect waiting).state := by
  induction statement generalizing waiting with
  | node root branches inductionHypothesis =>
      obtain ⟨rootUnordered, branchesUnordered⟩ := forall_mem_blocks_node.mp unordered
      obtain ⟨added, none, related⟩ := exists_related_gains_renderSelect_node
        waiting root fun items branch member =>
          inductionHypothesis branch member (branchesUnordered branch member) items
      rw [none rootUnordered, List.append_nil] at related
      exact related

/-- Rendering a tree in step adds the same entries to all its blocks. -/
theorem InStep.exists_related_gains_renderSelect
    {statement : Statement}
    (inStep : statement.InStep) :
    ∃ items, Related (Gains items) statement (statement.renderSelect []).state := by
  cases statement with
  | node root branches =>
      obtain ⟨added, _, related⟩ := exists_related_gains_renderSelect_node
        [] root fun items branch member =>
          related_gains_renderSelect_of_unordered (inStep.unordered branch member) items
      exact ⟨_, related⟩

/-! ## Selecting everywhere -/

theorem related_gains_select
    (statement : Statement)
    (expression : Expression)
    (aliasName : Option String) :
    ∃ items, Related (Gains items) statement
      (statement.select expression aliasName true).state := by
  simp only [select]
  split
  · exact ⟨[], .refl QueryBlock.gains_refl statement⟩
  · exact ⟨_, related_mapBlocks (fun block => block.gains_select expression _) statement⟩

theorem related_gains_selectMapping
    (statement : Statement)
    (ref : Option TableRef)
    (mapping : Mapping)
    (aliasName : Option String) :
    ∃ items, Related (Gains items) statement
      (statement.selectMapping ref mapping aliasName true).state := by
  simp only [selectMapping]
  split
  · exact ⟨[], .refl QueryBlock.gains_refl statement⟩
  · split
    · exact ⟨[], .refl QueryBlock.gains_refl statement⟩
    · exact ⟨_, related_mapBlocks (fun block => block.gains_addItems _) statement⟩

theorem related_gains_selectColumn
    (statement : Statement)
    (ref : Option TableRef)
    (column : Column)
    (aliasName : Option String) :
    ∃ items, Related (Gains items) statement
      (statement.selectColumn ref column aliasName true).state := by
  simp only [selectColumn]
  split
  · exact ⟨[], .refl QueryBlock.gains_refl statement⟩
  · exact related_gains_selectMapping statement ref column.toMapping aliasName

end Statement

namespace Operation

/-- The operations that select in every branch, order the root or render a
SELECT. -/
inductive SelectsEverywhere : Operation → Prop
  | select (expression : Expression) (aliasName : Option String) :
      SelectsEverywhere (.select expression aliasName true)
  | selectMapping (ref : Option TableRef) (mapping : Mapping) (aliasName : Option String) :
      SelectsEverywhere (.selectMapping ref mapping aliasName true)
  | selectColumn (ref : Option TableRef) (column : Column) (aliasName : Option String) :
      SelectsEverywhere (.selectColumn ref column aliasName true)
  | setOrdering (expressions : List Expression) (directions : List Bool)
      (nulls : Option (List (Option NullOrder))) :
      SelectsEverywhere (.setOrdering expressions directions nulls)
  | clearOrdering : SelectsEverywhere .clearOrdering
  | renderSelect (id : StatementId) : SelectsEverywhere (.render .select id)

end Operation

namespace Statement

open QueryBlock (Gains)

/-- An operation of a run leaves a tree in step, and adds to all select lists at
their ends. -/
theorem InStep.run
    {statement : Statement}
    {operation : Operation}
    (inStep : statement.InStep)
    (everywhere : operation.SelectsEverywhere) :
    (operation.run statement).state.InStep ∧
      ∃ items, (operation.run statement).state.block.selected =
        statement.block.selected.addAll items := by
  have ofGains : ∀ after : Statement, (∃ items, Related (Gains items) statement after) →
      after.InStep ∧ ∃ items, after.block.selected = statement.block.selected.addAll items :=
    fun after ⟨items, related⟩ => ⟨inStep.of_gains related, items, related.block.selected⟩
  have ofOrdering : ∀ terms,
      (statement.modifyBlock (·.setOrdering terms)).InStep ∧
        ∃ items, (statement.modifyBlock (·.setOrdering terms)).block.selected =
          statement.block.selected.addAll items := by
    intro terms
    refine ⟨inStep.modifyBlock rfl, [], ?_⟩
    cases statement with
    | node root branches => rfl
  cases everywhere with
  | select expression aliasName =>
      exact ofGains _ (related_gains_select statement expression aliasName)
  | selectMapping ref mapping aliasName =>
      exact ofGains _ (related_gains_selectMapping statement ref mapping aliasName)
  | selectColumn ref column aliasName =>
      exact ofGains _ (related_gains_selectColumn statement ref column aliasName)
  | setOrdering expressions directions nulls =>
      simp only [Operation.run, setOrdering]
      split
      · exact ⟨inStep, [], rfl⟩
      · split
        · exact ⟨inStep, [], rfl⟩
        · exact ofOrdering _
  | clearOrdering => exact ofOrdering []
  | renderSelect id => exact ofGains _ inStep.exists_related_gains_renderSelect

theorem InStep.runAll
    {statement : Statement}
    {operations : List Operation}
    (inStep : statement.InStep)
    (everywhere : ∀ operation ∈ operations, operation.SelectsEverywhere) :
    (statement.runAll operations).InStep := by
  induction operations generalizing statement with
  | nil => exact inStep
  | cons operation operations inductionHypothesis =>
      rw [List.forall_mem_cons] at everywhere
      exact inductionHypothesis (inStep.run everywhere.1).1 everywhere.2

/-- Columns stay at their positions in every block of a tree in step. -/
theorem SelectsAt.runAll
    {statement : Statement}
    {operations : List Operation}
    {texts : List String}
    {positions : List Nat}
    (selectsAt : statement.SelectsAt texts positions)
    (inStep : statement.InStep)
    (everywhere : ∀ operation ∈ operations, operation.SelectsEverywhere) :
    (statement.runAll operations).SelectsAt texts positions := by
  induction operations generalizing statement with
  | nil => exact selectsAt
  | cons operation operations inductionHypothesis =>
      rw [List.forall_mem_cons] at everywhere
      obtain ⟨stillInStep, items, grown⟩ := inStep.run everywhere.1
      refine inductionHypothesis ?_ stillInStep everywhere.2
      intro block blockMem
      rw [stillInStep.shared block blockMem, grown]
      exact (selectsAt _ statement.block_mem_blocks).imp fun _ _ stands => stands.addAll items

/-- Where a tree is in step columns stand in every block where they stand in the
root. -/
theorem InStep.selectsAt
    {statement : Statement}
    (inStep : statement.InStep)
    {texts : List String}
    {positions : List Nat}
    (stands : List.Forall₂ statement.block.selected.StandsAt texts positions) :
    statement.SelectsAt texts positions := by
  intro block blockMem
  rw [inStep.shared block blockMem]
  exact stands

end Statement

/-! ## What a selection selects -/

theorem map_zipIdx_fst {First Second : Type} (change : First → Second) (list : List First) :
    (list.zipIdx.map fun entry => change entry.1) = list.map change := by
  have entries : (fun entry : First × Nat => change entry.1) = change ∘ Prod.fst := rfl
  rw [entries, ← List.map_map, List.zipIdx_map_fst]

/-- An expression is selected by the texts of its components. -/
theorem Expression.map_sql_selectedItems (expression : Expression) (aliasName : Option String) :
    (expression.selectedItems aliasName).map SelectedItem.sql =
      expression.components.map Expression.text := by
  simp only [selectedItems]
  split
  · rename_i part isOnly
    rw [expression.text_eq_intercalate, isOnly, List.map_singleton, List.map_singleton,
      String.intercalate_singleton]
  · rw [List.map_map]
    exact map_zipIdx_fst Expression.text expression.components

/-- A mapping is selected by its columns, behind the alias of the table. -/
theorem Mapping.map_sql_selectedItems
    (mapping : Mapping)
    (ref : TableRef)
    (aliasName : Option String) :
    (mapping.selectedItems ref aliasName).map SelectedItem.sql =
      mapping.columns.map fun column => ref.aliasName ++ "." ++ column := by
  rw [selectedItems, List.map_map]
  exact map_zipIdx_fst (fun column => ref.aliasName ++ "." ++ column) mapping.columns

namespace Statement

section Answers

variable
  {statement : Statement}
  {ref : Option TableRef}
  {aliasName : Option String}
  {everywhere : Bool}
  {positions : List Nat}

/-- A selection that succeeds answers with the positions of its columns in the select
list of the statement. -/
theorem standsAt_select
    {expression : Expression}
    (selected : (statement.select expression aliasName everywhere).result = .ok positions) :
    List.Forall₂
      (statement.select expression aliasName everywhere).state.block.selected.StandsAt
      (expression.components.map Expression.text) positions := by
  simp only [select] at selected ⊢
  split at selected
  · cases selected
  · rename_i notBlank
    cases selected
    rw [if_neg notBlank, ← expression.map_sql_selectedItems aliasName]
    apply QueryBlock.standsAt_positions
    intro item member
    rw [Outcome.state_ok, block_modify]
    exact QueryBlock.hasSql_addItems_of_mem _ _ member

theorem standsAt_selectMapping
    {mapping : Mapping}
    (selected : (statement.selectMapping ref mapping aliasName everywhere).result =
      .ok positions) :
    List.Forall₂
      (statement.selectMapping ref mapping aliasName everywhere).state.block.selected.StandsAt
      (mapping.columns.map fun column =>
        (ref.getD statement.block.primary).aliasName ++ "." ++ column) positions := by
  simp only [selectMapping] at selected ⊢
  split at selected
  · cases selected
  · rename_i notEmpty
    split at selected
    · cases selected
    · rename_i sameTable
      cases selected
      rw [if_neg notEmpty, if_neg sameTable, ← mapping.map_sql_selectedItems _ aliasName]
      apply QueryBlock.standsAt_positions
      intro item member
      rw [Outcome.state_ok, block_modify]
      exact QueryBlock.hasSql_addItems_of_mem _ _ member

theorem standsAt_selectColumn
    {column : Column}
    {position : Nat}
    (selected : (statement.selectColumn ref column aliasName everywhere).result =
      .ok position) :
    (statement.selectColumn ref column aliasName everywhere).state.block.selected.StandsAt
      ((ref.getD statement.block.primary).aliasName ++ "." ++ column.name) position := by
  simp only [selectColumn] at selected ⊢
  split at selected
  · cases selected
  · rename_i named
    rw [if_neg named, Outcome.state_map]
    rw [Outcome.result_map] at selected
    cases mapped : (statement.selectMapping ref column.toMapping aliasName
        everywhere).result with
    | error error =>
        rw [mapped] at selected
        cases selected
    | ok positions =>
        rw [mapped] at selected
        cases selected
        have stands := standsAt_selectMapping mapped
        cases stands with
        | cons first _ => exact first

end Answers

/-- A selection that succeeds answers with the positions of its columns, in every
block of a tree in step. -/
theorem InStep.selectsAt_select
    {statement : Statement}
    {expression : Expression}
    {aliasName : Option String}
    {positions : List Nat}
    (inStep : statement.InStep)
    (selected : (statement.select expression aliasName true).result = .ok positions) :
    (statement.select expression aliasName true).state.SelectsAt
      (expression.components.map Expression.text) positions :=
  (inStep.run (.select expression aliasName)).1.selectsAt (standsAt_select selected)

theorem InStep.selectsAt_selectMapping
    {statement : Statement}
    {ref : Option TableRef}
    {mapping : Mapping}
    {aliasName : Option String}
    {positions : List Nat}
    (inStep : statement.InStep)
    (selected : (statement.selectMapping ref mapping aliasName true).result = .ok positions) :
    (statement.selectMapping ref mapping aliasName true).state.SelectsAt
      (mapping.columns.map fun column =>
        (ref.getD statement.block.primary).aliasName ++ "." ++ column) positions :=
  (inStep.run (.selectMapping ref mapping aliasName)).1.selectsAt
    (standsAt_selectMapping selected)

theorem InStep.selectsAt_selectColumn
    {statement : Statement}
    {ref : Option TableRef}
    {column : Column}
    {aliasName : Option String}
    {position : Nat}
    (inStep : statement.InStep)
    (selected : (statement.selectColumn ref column aliasName true).result = .ok position) :
    (statement.selectColumn ref column aliasName true).state.SelectsAt
      [(ref.getD statement.block.primary).aliasName ++ "." ++ column.name] [position] :=
  (inStep.run (.selectColumn ref column aliasName)).1.selectsAt
    (.cons (standsAt_selectColumn selected) .nil)

/-- The select lists of a tree stay in step, however often columns are selected
everywhere, the root is ordered or unordered, and SELECTs are rendered with
success or without. The positions that a selection answers with are those of its
columns in every block, and remain so for the rest of the run. -/
theorem inStep_of_selectsEverywhere
    {statement : Statement}
    {operations later : List Operation}
    (inStep : statement.InStep)
    (everywhere : ∀ operation ∈ operations, operation.SelectsEverywhere)
    (laterEverywhere : ∀ operation ∈ later, operation.SelectsEverywhere) :
    (statement.runAll operations).InStep ∧
      (∀ expression aliasName positions,
        ((statement.runAll operations).select expression aliasName true).result =
            .ok positions →
          (((statement.runAll operations).select expression aliasName true).state.runAll
            later).SelectsAt (expression.components.map Expression.text) positions) ∧
      (∀ ref mapping aliasName positions,
        ((statement.runAll operations).selectMapping ref mapping aliasName true).result =
            .ok positions →
          (((statement.runAll operations).selectMapping ref mapping aliasName
              true).state.runAll later).SelectsAt
            (mapping.columns.map fun column =>
              (ref.getD (statement.runAll operations).block.primary).aliasName ++ "." ++
                column) positions) ∧
      ∀ ref column aliasName position,
        ((statement.runAll operations).selectColumn ref column aliasName true).result =
            .ok position →
          (((statement.runAll operations).selectColumn ref column aliasName
              true).state.runAll later).SelectsAt
            [(ref.getD (statement.runAll operations).block.primary).aliasName ++ "." ++
              column.name] [position] := by
  have before := inStep.runAll everywhere
  refine ⟨before, ?_, ?_, ?_⟩
  · intro expression aliasName positions selected
    exact (before.selectsAt_select selected).runAll
      (before.run (.select expression aliasName)).1 laterEverywhere
  · intro ref mapping aliasName positions selected
    exact (before.selectsAt_selectMapping selected).runAll
      (before.run (.selectMapping ref mapping aliasName)).1 laterEverywhere
  · intro ref column aliasName position selected
    exact (before.selectsAt_selectColumn selected).runAll
      (before.run (.selectColumn ref column aliasName)).1 laterEverywhere

/-- People, united with people that are united with people themselves. -/
def nestedPeople (capabilities : Capabilities) : Statement :=
  let people := people capabilities
  (people.union (people.union people).state).state

theorem reachable_nestedPeople (capabilities : Capabilities) :
    (nestedPeople capabilities).Reachable := by
  have united : ∀ other : Statement, other.Reachable →
      ((people capabilities).union other).state.Reachable := by
    intro other reachable
    refine ReachedBy.run (reachedBy_people _ capabilities) (.union other) ?_ trivial
    intro _ isUnion
    cases isUnion
    exact reachable
  exact united _ (united _ (reachedBy_people _ capabilities))

/-- Ordering by age selects the age in every block, so the name that is selected
afterwards is the second column everywhere. -/
theorem inStep_nestedPeople_byAge :
    let byAge : List Operation :=
      [.setOrdering [.derived "A0.age"] [false] none, .render .select ⟨2⟩]
    let before := (nestedPeople .postgresql).runAll byAge
    let named := before.selectColumn none { table := "person", name := "name" } none true
    before.InStep ∧ before.block.selected.map SelectedItem.sql = ["A0.age"] ∧
      named.result = .ok 2 ∧
      (named.state.runAll [.clearOrdering, .render .select ⟨3⟩]).SelectsAt ["A0.name"] [2] := by
  intro byAge before named
  have inStep : (nestedPeople .postgresql).InStep := by
    constructor <;> simp [nestedPeople, union, people, single] <;> decide
  have everywhere : ∀ operation ∈ byAge, operation.SelectsEverywhere := by
    simp only [byAge, List.forall_mem_cons]
    exact ⟨.setOrdering _ _ _, .renderSelect _, List.forall_mem_nil _⟩
  have laterEverywhere : ∀ operation ∈ [Operation.clearOrdering, .render .select ⟨3⟩],
      operation.SelectsEverywhere := by
    simp only [List.forall_mem_cons]
    exact ⟨.clearOrdering, .renderSelect _, List.forall_mem_nil _⟩
  obtain ⟨stillInStep, _, _, columns⟩ :=
    inStep_of_selectsEverywhere inStep everywhere laterEverywhere
  exact ⟨stillInStep, rfl, rfl, columns none _ none 2 rfl⟩

end Statement
end SqlBuilder
