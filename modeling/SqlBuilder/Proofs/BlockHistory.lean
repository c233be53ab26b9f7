import Mathlib.Logic.Relation
import SqlBuilder.Proofs.Joining
import SqlBuilder.Proofs.Operation

/-!
# The history of a block

However an operation walks through a tree, what happens to each single block is
one of a few edits. The edits that rendering makes, additions to the select list
and a new order of the joins, leave everything else in a block as it is.
-/

namespace SqlBuilder

open Relation (ReflTransGen)

namespace QueryBlock

/-- One edit of a block. A SELECT is kept only for a block whose joins are in
order and whose ordering is selected. -/
inductive Becomes : QueryBlock → QueryBlock → Prop
  | invalidate (block : QueryBlock) : Becomes block block.invalidate
  | addItem (block : QueryBlock) (item : SelectedItem) : Becomes block (block.addItem item)
  | select (block : QueryBlock) (expression : Expression) (items : List SelectedItem) :
      Becomes block (block.select expression items)
  | join (block : QueryBlock) (spec : JoinSpec) : Becomes block (block.join spec).state
  | crossJoin (block : QueryBlock) (table : Table) (aliasName group : Option String) :
      Becomes block (block.crossJoin table aliasName group).state
  | removeCrossJoin (block : QueryBlock) (aliasName : String) :
      Becomes block (block.removeCrossJoin aliasName)
  | reorderJoins (block : QueryBlock) : Becomes block block.reorderJoins.state
  | whereAnd (block : QueryBlock) (predicate : Predicate) :
      Becomes block (block.whereAnd predicate)
  | whereOr (block : QueryBlock) (predicate : Predicate) :
      Becomes block (block.whereOr predicate)
  | groupBy (block : QueryBlock) (expression : Expression) :
      Becomes block (block.groupBy expression)
  | setHaving (block : QueryBlock) (predicate : Predicate) :
      Becomes block (block.setHaving predicate)
  | setDistinct (block : QueryBlock) (distinct : Bool) :
      Becomes block (block.setDistinct distinct)
  | setRange (block : QueryBlock) (range : Range) : Becomes block (block.setRange range)
  | setOrdering (block : QueryBlock) (terms : List OrderTerm) :
      Becomes block (block.setOrdering terms)
  | setUpdates (block : QueryBlock) (assignments : List Assignment) :
      Becomes block (block.setUpdates assignments)
  | setOptions (block : QueryBlock) (options : StatementOptions) (namer : Namer) :
      Becomes block (block.setOptions options namer)
  | keepSelect (block : QueryBlock) (branches : List SelectQuery) :
      block.mustReorder = false →
      (∀ item ∈ block.orderingItems, block.selected.hasSql item.sql = true) →
      Becomes block { block with cache := some (.select (block.query branches)) }
  | updateQuery (block : QueryBlock) (id : StatementId) :
      Becomes block (block.updateQuery id).state
  | deleteQuery (block : QueryBlock) (id : StatementId) :
      Becomes block (block.deleteQuery id).state

/-- One edit that rendering a SELECT makes. -/
inductive Readies : QueryBlock → QueryBlock → Prop
  | addItem (block : QueryBlock) (item : SelectedItem) : Readies block (block.addItem item)
  | reorderJoins (block : QueryBlock) : Readies block block.reorderJoins.state
  | keepSelect (block : QueryBlock) (branches : List SelectQuery) :
      block.mustReorder = false →
      (∀ item ∈ block.orderingItems, block.selected.hasSql item.sql = true) →
      Readies block { block with cache := some (.select (block.query branches)) }

theorem Readies.becomes {first second : QueryBlock} (readies : Readies first second) :
    Becomes first second := by
  cases readies with
  | addItem item => exact .addItem first item
  | reorderJoins => exact .reorderJoins first
  | keepSelect branches unmarked selected => exact .keepSelect first branches unmarked selected

/-- A block is readied by any number of the edits that rendering a SELECT
makes. -/
abbrev ReadiedTo : QueryBlock → QueryBlock → Prop :=
  ReflTransGen Readies

/-- What an operation makes of a block: one edit, or what rendering makes of
it. -/
def EditedTo (first second : QueryBlock) : Prop :=
  Becomes first second ∨ ReadiedTo first second

theorem editedTo_refl (block : QueryBlock) : EditedTo block block :=
  .inr .refl

theorem Becomes.editedTo {first second : QueryBlock} (becomes : Becomes first second) :
    EditedTo first second :=
  .inl becomes

theorem readiedTo_addItems (block : QueryBlock) (items : List SelectedItem) :
    ReadiedTo block (block.addItems items) := by
  induction items generalizing block with
  | nil => exact .refl
  | cons item items inductionHypothesis =>
      exact .head (.addItem block item) (inductionHypothesis _)

/-- What no edit breaks holds of everything that a block is edited to. -/
theorem EditedTo.preserves
    {property : QueryBlock → Prop}
    (closed : ∀ first second, Becomes first second → property first → property second)
    {first second : QueryBlock}
    (edited : EditedTo first second)
    (holds : property first) : property second := by
  rcases edited with becomes | readied
  · exact closed _ _ becomes holds
  · induction readied with
    | refl => exact holds
    | tail _ readies inductionHypothesis =>
        exact closed _ _ readies.becomes inductionHypothesis

/-! ## What additions to the select list leave alone -/

section AddItems

variable (block : QueryBlock) (item : SelectedItem) (items : List SelectedItem)

/-- An addition changes the select list and the kept rendering, and nothing
else. -/
theorem addItem_eq :
    block.addItem item =
      { block with
        selected := block.selected.add item
        cache := if block.selected.hasSql item.sql then block.cache else none } := by
  cases present : block.selected.hasSql item.sql with
  | true => simp [addItem, present]
  | false => simp [addItem, present]

/-- Additions in a row change the select list and the kept rendering, and
nothing else. -/
theorem addItems_eq :
    block.addItems items =
      { block with
        selected := (block.addItems items).selected
        cache := (block.addItems items).cache } := by
  induction items generalizing block with
  | nil => rfl
  | cons item items inductionHypothesis =>
      rw [addItems_cons, inductionHypothesis, addItem_eq]

@[simp] theorem mustReorder_addItems :
    (block.addItems items).mustReorder = block.mustReorder := by
  rw [addItems_eq]

@[simp] theorem joins_addItems : (block.addItems items).joins = block.joins := by
  rw [addItems_eq]

@[simp] theorem orderingItems_addItems :
    (block.addItems items).orderingItems = block.orderingItems := by
  rw [addItems_eq]
  rfl

/-- A text that is selected stays selected. -/
theorem hasSql_addItem_of_hasSql
    {sql : String}
    (present : block.selected.hasSql sql = true) :
    (block.addItem item).selected.hasSql sql = true := by
  rw [addItem_eq]
  cases known : block.selected.hasSql item.sql with
  | true => simpa [known] using present
  | false =>
      simp only [SelectList.add, known, Bool.false_eq_true, ↓reduceIte]
      simp only [SelectList.hasSql, List.any_append, Bool.or_eq_true] at present ⊢
      exact .inl present

theorem hasSql_addItems_of_hasSql
    {sql : String}
    (present : block.selected.hasSql sql = true) :
    (block.addItems items).selected.hasSql sql = true := by
  induction items generalizing block with
  | nil => exact present
  | cons item items inductionHypothesis =>
      exact inductionHypothesis _ (hasSql_addItem_of_hasSql _ _ present)

/-- After additions every text added is selected. -/
theorem hasSql_addItems_of_mem {item : SelectedItem} (member : item ∈ items) :
    (block.addItems items).selected.hasSql item.sql = true := by
  induction items generalizing block with
  | nil => cases member
  | cons first items inductionHypothesis =>
      rw [addItems_cons]
      rcases List.mem_cons.mp member with rfl | member
      · apply hasSql_addItems_of_hasSql
        rw [addItem_eq]
        exact SelectList.hasSql_add_self _ _
      · exact inductionHypothesis _ member

end AddItems

/-- Joins that are not marked for reordering stay as they are. -/
theorem reorderJoins_of_mustReorder_eq_false
    {block : QueryBlock}
    (unmarked : block.mustReorder = false) :
    block.reorderJoins = .ok block () := by
  rw [reorderJoins, if_neg (by simp [unmarked])]

/-- Reordering changes the order of the joins and the mark, and nothing else. -/
theorem reorderJoins_state_eq (block : QueryBlock) :
    block.reorderJoins.state =
      { block with
        joins := block.reorderJoins.state.joins
        mustReorder := block.reorderJoins.state.mustReorder } := by
  simp only [reorderJoins]
  split
  · split <;> rfl
  · rfl

/-- When the joins could be put in order nothing is left to reorder. -/
theorem mustReorder_reorderJoins
    {block : QueryBlock}
    (ordered : block.reorderJoins.result = .ok ()) :
    block.reorderJoins.state.mustReorder = false := by
  cases marked : block.mustReorder with
  | false =>
      rw [reorderJoins_of_mustReorder_eq_false marked]
      exact marked
  | true =>
      simp only [reorderJoins, marked, ↓reduceIte] at ordered ⊢
      split at ordered
      · rename_i placed
        rw [if_pos placed]
        rfl
      · cases ordered

/-- Without an ordering there is nothing to select for it. -/
theorem orderingItems_eq_nil
    {block : QueryBlock}
    (unordered : block.ordering = []) : block.orderingItems = [] := by
  unfold orderingItems
  rw [unordered]
  cases block.orderMode <;> rfl

/-- The block as it is rendered: its joins in order as far as possible, and the
columns of its ordering selected. -/
def readied (block : QueryBlock) : QueryBlock :=
  block.reorderJoins.state.addItems block.reorderJoins.state.orderingItems

theorem joins_readied (block : QueryBlock) :
    block.readied.joins = block.reorderJoins.state.joins := by
  rw [readied, joins_addItems]

theorem readiedTo_readied (block : QueryBlock) : ReadiedTo block block.readied :=
  .head (.reorderJoins block) (readiedTo_addItems _ _)

/-- What is needed to keep a SELECT of a block holds once it is readied. -/
theorem readied_selects_ordering
    (block : QueryBlock)
    (item : SelectedItem)
    (member : item ∈ block.readied.orderingItems) :
    block.readied.selected.hasSql item.sql = true := by
  rw [readied, orderingItems_addItems] at member
  exact hasSql_addItems_of_mem _ _ member

theorem mustReorder_readied
    {block : QueryBlock}
    (ordered : block.reorderJoins.result = .ok ()) :
    block.readied.mustReorder = false := by
  rw [readied, mustReorder_addItems, mustReorder_reorderJoins ordered]

/-- Rendering a SELECT touches the joins, the select list and what is kept, and
nothing else. -/
theorem ReadiedTo.eq
    {first second : QueryBlock}
    (readied : ReadiedTo first second) :
    second =
      { first with
        joins := second.joins
        mustReorder := second.mustReorder
        selected := second.selected
        cache := second.cache } := by
  induction readied with
  | refl => rfl
  | tail _ readies inductionHypothesis =>
      cases readies with
      | addItem item => rw [addItem_eq, inductionHypothesis]
      | reorderJoins => rw [reorderJoins_state_eq, inductionHypothesis]
      | keepSelect => rw [inductionHypothesis]

/-- A rendering of rows changes a block as reordering does, but for what is
kept. -/
theorem rowQuery_state_eq
    (block : QueryBlock)
    (id : StatementId)
    (head : QueryBlock → String)
    (kind : RowQuery → Rendering) :
    (block.rowQuery id head kind).state =
      { block.reorderJoins.state with cache := (block.rowQuery id head kind).state.cache } := by
  simp only [rowQuery]
  split
  · rfl
  · split <;> rfl

/-- No edit changes the identity of a block or the statements around it. -/
theorem Becomes.identity_eq
    {first second : QueryBlock}
    (becomes : Becomes first second) :
    second.id = first.id ∧ second.ancestry = first.ancestry := by
  have ofRows : ∀ id head kind, (first.rowQuery id head kind).state.id = first.id ∧
      (first.rowQuery id head kind).state.ancestry = first.ancestry := by
    intro id head kind
    rw [rowQuery_state_eq, reorderJoins_state_eq]
    exact ⟨rfl, rfl⟩
  cases becomes with
  | join spec =>
      rcases first.join_state_cases spec with unchanged | ⟨source, target, _, _, appended⟩
      · rw [unchanged]
        exact ⟨rfl, rfl⟩
      · rw [appended, appendKeyedJoin_eq]
        exact ⟨rfl, rfl⟩
  | crossJoin table aliasName group =>
      rcases first.crossJoin_state_cases table aliasName group with
        unchanged | ⟨target, _, appended⟩
      · rw [unchanged]
        exact ⟨rfl, rfl⟩
      · rw [appended]
        exact ⟨rfl, rfl⟩
  | removeCrossJoin aliasName =>
      unfold QueryBlock.removeCrossJoin
      split <;> exact ⟨rfl, rfl⟩
  | reorderJoins =>
      rw [reorderJoins_state_eq]
      exact ⟨rfl, rfl⟩
  | updateQuery id =>
      unfold QueryBlock.updateQuery
      split
      · exact ⟨rfl, rfl⟩
      · exact ofRows id _ _
  | deleteQuery id =>
      unfold QueryBlock.deleteQuery
      split
      · exact ⟨rfl, rfl⟩
      · exact ofRows id _ _
  | addItem item =>
      rw [addItem_eq]
      exact ⟨rfl, rfl⟩
  | select expression items =>
      rw [QueryBlock.select, addItems_eq]
      exact ⟨rfl, rfl⟩
  | whereAnd predicate =>
      rw [whereAnd_eq]
      exact ⟨rfl, rfl⟩
  | invalidate | whereOr | groupBy | setHaving | setDistinct | setRange | setOrdering |
      setUpdates | setOptions | keepSelect => exact ⟨rfl, rfl⟩

/-! ## What leaves the ordering alone -/

section Ordering

variable (block : QueryBlock)

@[simp] theorem ordering_addItems (items : List SelectedItem) :
    (block.addItems items).ordering = block.ordering := by
  rw [addItems_eq]

@[simp] theorem ordering_reorderJoins :
    block.reorderJoins.state.ordering = block.ordering := by
  rw [reorderJoins_state_eq]

theorem ordering_join (spec : JoinSpec) : (block.join spec).state.ordering = block.ordering := by
  rcases block.join_state_cases spec with unchanged | ⟨source, target, _, _, appended⟩
  · rw [unchanged]
  · rw [appended, appendKeyedJoin_eq]

theorem ordering_crossJoin (table : Table) (aliasName group : Option String) :
    (block.crossJoin table aliasName group).state.ordering = block.ordering := by
  rcases block.crossJoin_state_cases table aliasName group with
    unchanged | ⟨target, _, appended⟩
  · rw [unchanged]
  · rw [appended, appendCrossJoin]

theorem ordering_removeCrossJoin (aliasName : String) :
    (block.removeCrossJoin aliasName).ordering = block.ordering := by
  unfold removeCrossJoin
  split <;> rfl

theorem ordering_whereAnd (predicate : Predicate) :
    (block.whereAnd predicate).ordering = block.ordering := by
  rw [whereAnd_eq]

theorem ordering_updateQuery (id : StatementId) :
    (block.updateQuery id).state.ordering = block.ordering := by
  unfold updateQuery
  split
  · rfl
  · rw [rowQuery_state_eq, ordering_reorderJoins]

theorem ordering_deleteQuery (id : StatementId) :
    (block.deleteQuery id).state.ordering = block.ordering := by
  unfold deleteQuery
  split
  · rfl
  · rw [rowQuery_state_eq, ordering_reorderJoins]

end Ordering

theorem ReadiedTo.ordering_eq
    {first second : QueryBlock}
    (readied : ReadiedTo first second) : second.ordering = first.ordering := by
  rw [readied.eq]

/-! ## What edits do to the joins -/

/-- What an edit does to the tables of a block and to its joins. -/
inductive EditsJoins (first second : QueryBlock) : Prop
  | kept :
      second.registry = first.registry → second.primary = first.primary →
      second.joins = first.joins → second.mustReorder = first.mustReorder →
      EditsJoins first second
  | reordered :
      second.registry = first.registry → second.primary = first.primary →
      second.joins = first.reorderJoins.state.joins →
      second.mustReorder = first.reorderJoins.state.mustReorder →
      EditsJoins first second
  | joined (spec : JoinSpec) :
      second = (first.join spec).state → EditsJoins first second
  | crossJoined (table : Table) (aliasName group : Option String) :
      second = (first.crossJoin table aliasName group).state → EditsJoins first second
  | removed (aliasName : String) :
      second = first.removeCrossJoin aliasName → EditsJoins first second

/-- Most edits leave tables and joins alone. -/
theorem Becomes.editsJoins
    {first second : QueryBlock}
    (becomes : Becomes first second) : EditsJoins first second := by
  have ofRows : ∀ id head kind, EditsJoins first (first.rowQuery id head kind).state := by
    intro id head kind
    rw [rowQuery_state_eq]
    apply EditsJoins.reordered
    · rw [reorderJoins_state_eq]
    · rw [reorderJoins_state_eq]
    · rfl
    · rfl
  cases becomes with
  | join spec => exact .joined spec rfl
  | crossJoin table aliasName group => exact .crossJoined table aliasName group rfl
  | removeCrossJoin aliasName => exact .removed aliasName rfl
  | reorderJoins =>
      apply EditsJoins.reordered
      · rw [reorderJoins_state_eq]
      · rw [reorderJoins_state_eq]
      · rfl
      · rfl
  | updateQuery id =>
      unfold QueryBlock.updateQuery
      split
      · exact .kept rfl rfl rfl rfl
      · exact ofRows id _ _
  | deleteQuery id =>
      unfold QueryBlock.deleteQuery
      split
      · exact .kept rfl rfl rfl rfl
      · exact ofRows id _ _
  | addItem item =>
      rw [addItem_eq]
      exact .kept rfl rfl rfl rfl
  | select expression items =>
      rw [QueryBlock.select, addItems_eq]
      exact .kept rfl rfl rfl rfl
  | whereAnd predicate =>
      rw [whereAnd_eq]
      exact .kept rfl rfl rfl rfl
  | invalidate | whereOr | groupBy | setHaving | setDistinct | setRange | setOrdering |
      setUpdates | setOptions | keepSelect => exact .kept rfl rfl rfl rfl

end QueryBlock
end SqlBuilder
