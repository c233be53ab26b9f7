import Mathlib.Data.List.Nodup
import SqlBuilder.Proofs.Selection.Width

/-!
# How select lists grow

Whatever is done to a block, its select list gains entries at its end, and only such
whose texts it does not have. So a list starts with every list that it has been, no
text stands in it twice, and what stands at a position stays there. A query that is
read off a block shows the list in order.
-/

namespace SqlBuilder

namespace SelectList

theorem prefix_addAll (list : SelectList) (items : List SelectedItem) :
    list <+: list.addAll items := by
  obtain ⟨added, grown⟩ := list.exists_addAll_eq_append items
  exact ⟨added, grown.symm⟩

/-- What stands in a list stands in every list that starts with it. -/
theorem StandsAt.of_isPrefix
    {list longer : SelectList}
    {sql : String}
    {position : Nat}
    (stands : list.StandsAt sql position)
    (grown : list <+: longer) : longer.StandsAt sql position := by
  obtain ⟨before, item, after, rfl, isIt, isFirst, rfl⟩ := stands
  obtain ⟨added, rfl⟩ := grown
  exact ⟨before, item, after ++ added, by simp, isIt, isFirst, rfl⟩

/-- No two entries have the same text. -/
def Distinct (list : SelectList) : Prop :=
  (list.map SelectedItem.sql).Nodup

theorem Distinct.add
    {list : SelectList}
    (distinct : list.Distinct)
    (item : SelectedItem) : (list.add item).Distinct := by
  rw [SelectList.add]
  split
  · exact distinct
  · rename_i absent
    rw [Distinct, List.map_append, List.nodup_append]
    refine ⟨distinct, List.nodup_singleton _, ?_⟩
    rintro sql sqlMem other otherMem rfl
    obtain ⟨present, presentMem, rfl⟩ := List.mem_map.mp sqlMem
    refine absent (List.any_eq_true.mpr ⟨present, presentMem, ?_⟩)
    exact beq_iff_eq.mpr (List.mem_singleton.mp otherMem)

theorem Distinct.addAll
    {list : SelectList}
    (distinct : list.Distinct)
    (items : List SelectedItem) : (list.addAll items).Distinct := by
  induction items generalizing list with
  | nil => exact distinct
  | cons item items inductionHypothesis => exact inductionHypothesis (distinct.add item)

/-- Where texts are unique an entry is determined by its text. -/
theorem Distinct.eq_of_sql_eq
    {list : SelectList}
    (distinct : list.Distinct)
    {first second : SelectedItem}
    (firstMem : first ∈ list)
    (secondMem : second ∈ list)
    (sql_eq : first.sql = second.sql) : first = second :=
  List.inj_on_of_nodup_map distinct firstMem secondMem sql_eq

theorem isSome_find? (list : SelectList) (sql : String) :
    (list.find? sql).isSome = list.hasSql sql := by
  rw [Bool.eq_iff_iff, find?, List.find?_isSome, hasSql, List.any_eq_true]

theorem sql_of_find?_eq_some
    {list : SelectList}
    {sql : String}
    {entry : SelectedItem}
    (found : list.find? sql = some entry) : entry.sql = sql := by
  rw [find?] at found
  simpa using List.find?_some found

/-- Where texts are unique an entry is found by its text. -/
theorem Distinct.find?_eq_some
    {list : SelectList}
    (distinct : list.Distinct)
    {item : SelectedItem}
    (member : item ∈ list) : list.find? item.sql = some item := by
  have present : list.hasSql item.sql = true :=
    List.any_eq_true.mpr ⟨item, member, beq_self_eq_true _⟩
  rw [← isSome_find?] at present
  obtain ⟨entry, found⟩ := Option.isSome_iff_exists.mp present
  rw [found, distinct.eq_of_sql_eq (List.mem_of_find?_eq_some found) member
    (sql_of_find?_eq_some found)]

/-- Of several entries with one text the first is kept. -/
theorem find?_addAll (list : SelectList) (items : List SelectedItem) (sql : String) :
    (list.addAll items).find? sql = SelectList.find? (list ++ items) sql := by
  induction items generalizing list with
  | nil => rw [List.append_nil]; rfl
  | cons item items inductionHypothesis =>
      rw [SelectList.addAll, List.foldl_cons, ← SelectList.addAll, inductionHypothesis, add]
      split
      · rename_i present
        by_cases isIt : item.sql = sql
        · rw [isIt, ← isSome_find?] at present
          simp only [find?, List.find?_append] at present ⊢
          rw [Option.or_of_isSome present, Option.or_of_isSome present]
        · simp [find?, List.find?_append, isIt]
      · rw [List.append_assoc, List.singleton_append]

end SelectList

namespace QueryBlock

/-- An edit adds entries to a select list, or none. -/
theorem Becomes.exists_selected_eq
    {first second : QueryBlock}
    (becomes : Becomes first second) :
    ∃ items, second.selected = first.selected.addAll items := by
  cases becomes with
  | addItem item => exact ⟨[item], first.selected_addItems [item]⟩
  | select expression items => exact ⟨items, (first.gains_select expression items).selected⟩
  | join spec =>
      rcases first.join_state_cases spec with unchanged | ⟨source, target, _, _, appended⟩
      · exact ⟨[], by rw [unchanged]; rfl⟩
      · exact ⟨[], by rw [appended, appendKeyedJoin_eq]; rfl⟩
  | crossJoin table aliasName group =>
      rcases first.crossJoin_state_cases table aliasName group with
        unchanged | ⟨target, _, appended⟩
      · exact ⟨[], by rw [unchanged]; rfl⟩
      · exact ⟨[], by rw [appended]; rfl⟩
  | removeCrossJoin aliasName =>
      unfold QueryBlock.removeCrossJoin
      exact ⟨[], by split <;> rfl⟩
  | reorderJoins => exact ⟨[], by rw [reorderJoins_state_eq]; rfl⟩
  | updateQuery id =>
      unfold QueryBlock.updateQuery
      split
      · exact ⟨[], rfl⟩
      · exact ⟨[], by rw [rowQuery_state_eq, reorderJoins_state_eq]; rfl⟩
  | deleteQuery id =>
      unfold QueryBlock.deleteQuery
      split
      · exact ⟨[], rfl⟩
      · exact ⟨[], by rw [rowQuery_state_eq, reorderJoins_state_eq]; rfl⟩
  | whereAnd predicate => exact ⟨[], by rw [whereAnd_eq]; rfl⟩
  | invalidate | whereOr | groupBy | setHaving | setDistinct | setRange | setOrdering |
      setUpdates | setOptions | keepSelect => exact ⟨[], rfl⟩

/-- No edit makes a text stand twice in a select list. -/
theorem Becomes.distinct
    {first second : QueryBlock}
    (becomes : Becomes first second)
    (distinct : first.selected.Distinct) : second.selected.Distinct := by
  obtain ⟨items, selected_eq⟩ := becomes.exists_selected_eq
  rw [selected_eq]
  exact distinct.addAll items

/-- The select list of the second block starts with that of the first. -/
def Grows (first second : QueryBlock) : Prop :=
  first.selected <+: second.selected

theorem Becomes.grows
    {first second : QueryBlock}
    (becomes : Becomes first second) : Grows first second := by
  obtain ⟨items, selected_eq⟩ := becomes.exists_selected_eq
  rw [Grows, selected_eq]
  exact first.selected.prefix_addAll items

/-- Whatever an operation makes of a block, its select list grows at its end. -/
theorem EditedTo.grows
    {first second : QueryBlock}
    (edited : EditedTo first second) : Grows first second := by
  have closed : ∀ old new, Becomes old new → Grows first old → Grows first new :=
    fun _ _ becomes grown => grown.trans becomes.grows
  exact edited.preserves closed (List.prefix_refl _)

end QueryBlock

/-- No text stands twice in a select list of a reachable tree. -/
theorem Statement.Reachable.distinct
    {statement : Statement}
    (reachable : statement.Reachable) :
    ∀ block ∈ statement.blocks, block.selected.Distinct :=
  reachable.forall_mem_blocks (fun _ _ _ _ _ _ => List.nodup_nil) fun _ _ becomes =>
    becomes.distinct

/-! ## What queries show of a list -/

/-- A column shows an entry: its text and, where it has one, its alias. -/
structure OutputColumn.Shows (column : OutputColumn) (item : SelectedItem) : Prop where
  sql : column.sql = item.sql
  aliasName : ∀ name, item.aliasName = some name → column.aliasName = some name

theorem SelectList.shows_columns (list : SelectList) :
    List.Forall₂ OutputColumn.Shows list.columns list := by
  rw [columns, List.forall₂_map_left_iff, List.forall₂_same]
  exact fun item _ => ⟨rfl, fun _ named => named⟩

theorem SelectList.shows_namedColumns (next : Nat) (list : SelectList) :
    List.Forall₂ OutputColumn.Shows (namedColumns next list) list := by
  induction list generalizing next with
  | nil => exact .nil
  | cons item rest inductionHypothesis =>
      rw [namedColumns]
      split
      · rename_i name named
        exact .cons ⟨rfl, fun _ same => named ▸ same⟩ (inductionHypothesis next)
      · rename_i unnamed
        refine .cons ⟨rfl, fun name same => ?_⟩ (inductionHypothesis (next + 1))
        rw [unnamed] at same
        cases same

/-- The SELECT clause of a query has a column for each of some entries, in order. A
query around it that selects columns by name selects these. -/
structure SelectQuery.Lists (query : SelectQuery) (items : SelectList) : Prop where
  columns : List.Forall₂ OutputColumn.Shows query.arm.list.columns items
  written : items ≠ [] → query.arm.list.toSql query.arm.primary =
    String.intercalate ", " query.arm.list.columnTexts
  outer : ∀ names filter, query.ending.wrapper = .numberColumn names filter →
    names = items.map SelectedItem.outerName

theorem Pagination.names_eq_of_wrapper
    {pagination : Pagination}
    {range : Range}
    {selected : SelectList}
    {names : List String}
    {filter : RowFilter}
    (numbered : pagination.wrapper range selected = .numberColumn names filter) :
    names = selected.map SelectedItem.outerName := by
  cases pagination with
  | unrestricted | trailing => cases numbered
  | nested rowNumber => cases numbered
  | inline rowNumber =>
      cases numbered
      rfl

/-- A query that is read off a block shows its select list. -/
theorem QueryBlock.lists_query (block : QueryBlock) (branches : List SelectQuery) :
    (block.query branches).Lists block.selected := by
  have columns : List.Forall₂ OutputColumn.Shows block.outputList.columns block.selected := by
    simp only [outputList]
    split
    · exact SelectList.shows_namedColumns 0 _
    · exact SelectList.shows_columns _
  refine ⟨columns, fun nonempty => ?_, fun names filter numbered => ?_⟩
  · apply OutputList.toSql_eq_intercalate
    intro none
    change block.outputList.columns = [] at none
    rw [none, List.forall₂_nil_left_iff] at columns
    exact nonempty columns
  · exact Pagination.names_eq_of_wrapper numbered

end SqlBuilder
