import Mathlib.Data.List.Pairwise
import SqlBuilder.Proofs.Grouping.ColumnList
import SqlBuilder.Proofs.Grouping.Composition
import SqlBuilder.Proofs.Locking.Texts

/-!
# Groupings that name the selected columns

Some dialects want every selected column in the GROUP BY. There the columns that are
missing are written behind what is grouped by. What counts is the first selection of a
text, which may have been that of a computed value; and what is missing is decided by
texts, so that a column is written twice if it is one of several columns of a grouping
expression.
-/

namespace SqlBuilder

/-! ## What a clause has to name -/

namespace Composition

/-- The columns of the expressions that are grouped by. -/
def groupedColumns (composition : Composition) : List String :=
  composition.grouping.flatMap Expression.columnTexts

/-- The columns of tables that are selected. -/
def tableColumns (composition : Composition) : List String :=
  (composition.selected.filter SelectedText.isColumn).map SelectedText.sql

/-- The first selection of the text is that of a column of a table. -/
def IsFirstColumn (composition : Composition) (sql : String) : Prop :=
  composition.selected.find? (fun text => text.sql == sql) = some { sql := sql, isColumn := true }

/-- All texts read as what they are meant for. -/
@[mk_iff]
structure IsReadable (composition : Composition) : Prop where
  grouping : ∀ expression ∈ composition.grouping, Text.IsClosed expression.text
  tableColumns : ∀ column ∈ composition.tableColumns, Text.IsColumn column

/-- Every selected column of a table is grouped by, or its first selection was that of a
column. -/
def IsComplete (composition : Composition) : Prop :=
  ∀ column ∈ composition.tableColumns,
    column ∈ composition.groupedColumns ∨ composition.IsFirstColumn column

/-- No column is brought in by two texts. -/
@[mk_iff]
structure IsApart (composition : Composition) : Prop where
  within : ∀ expression ∈ composition.grouping, expression.columnTexts.Nodup
  between : ∀ first ∈ composition.grouping, ∀ second ∈ composition.grouping,
    first.text ≠ second.text → ∀ column ∈ first.columnTexts, column ∉ second.columnTexts
  selected : ∀ column ∈ composition.tableColumns, composition.IsFirstColumn column →
    ∀ expression ∈ composition.grouping, column ∈ expression.columnTexts →
      expression.text = column

instance (composition : Composition) (sql : String) : Decidable (composition.IsFirstColumn sql) :=
  inferInstanceAs (Decidable (_ = _))

instance (composition : Composition) : Decidable composition.IsReadable :=
  decidable_of_iff _ (composition.isReadable_iff).symm

instance (composition : Composition) : Decidable composition.IsComplete :=
  inferInstanceAs (Decidable (∀ column ∈ composition.tableColumns, _))

instance (composition : Composition) : Decidable composition.IsApart :=
  decidable_of_iff _ (composition.isApart_iff).symm

/-- A text whose first selection is that of a column of a table is selected as one. -/
theorem IsFirstColumn.mem_tableColumns
    {composition : Composition}
    {column : String}
    (first : composition.IsFirstColumn column) : column ∈ composition.tableColumns :=
  List.mem_map.mpr ⟨_, List.mem_filter.mpr ⟨List.mem_of_find?_eq_some first, rfl⟩, rfl⟩

end Composition

/-! ## Entries by their first selection -/

namespace SelectList

/-- The text of a column of a table is that of the entry that is found by it. -/
theorem Distinct.mem_primaries_iff
    {list : SelectList}
    (distinct : list.Distinct)
    {sql : String} :
    sql ∈ (list.filter SelectedItem.isPrimary).map SelectedItem.sql ↔
      ∃ item, list.find? sql = some item ∧ item.isPrimary = true := by
  rw [List.mem_map]
  constructor
  · rintro ⟨item, member, rfl⟩
    obtain ⟨selected, isPrimary⟩ := List.mem_filter.mp member
    exact ⟨item, distinct.find?_eq_some selected, isPrimary⟩
  · rintro ⟨item, found, isPrimary⟩
    exact ⟨item, List.mem_filter.mpr ⟨List.mem_of_find?_eq_some found, isPrimary⟩,
      sql_of_find?_eq_some found⟩

end SelectList

/-! ## The clause -/

theorem nodup_eraseDups {Value : Type} [BEq Value] [LawfulBEq Value] (values : List Value) :
    values.eraseDups.Nodup := by
  match values with
  | [] => exact List.nodup_nil
  | value :: values =>
      have rest := nodup_eraseDups (values.filter fun other => !other == value)
      rw [List.eraseDups_cons, List.nodup_cons]
      refine ⟨?_, rest⟩
      simp [List.mem_eraseDups]
termination_by values.length
decreasing_by exact Nat.lt_succ_of_le (List.length_filter_le _ _)

/-- The grouping of an arm stands in its text. -/
theorem SelectQuery.hasPiece_groupBy
    {query : SelectQuery}
    (grouped : query.arm.groupBy ≠ []) :
    HasPiece query.toSql (" GROUP BY " ++ String.intercalate ", " query.arm.groupBy) := by
  let clause := if query.arm.groupBy.isEmpty then ""
    else " GROUP BY " ++ String.intercalate ", " query.arm.groupBy
  have clause_eq : clause = " GROUP BY " ++ String.intercalate ", " query.arm.groupBy :=
    if_neg (mt List.isEmpty_iff.mp grouped)
  have inArm : HasPiece query.arm.toSql clause :=
    ((HasPiece.refl clause).append_left _).append_right _
  rw [clause_eq] at inArm
  exact hasPiece_of_arm inArm

namespace Composition

/-- The texts of a clause are those of the expressions that are grouped by, and of the
columns that are missing among them. -/
structure Writes (composition : Composition) (items : List String) : Prop where
  nodup : items.Nodup
  mem_iff : ∀ text, text ∈ items ↔
    (∃ expression ∈ composition.grouping, expression.text = text) ∨
      composition.IsFirstColumn text

namespace Writes

variable {composition : Composition} {items : List String}

theorem ne_nil (writes : composition.Writes items) (grouped : composition.grouping ≠ []) :
    items ≠ [] := by
  obtain ⟨expression, member⟩ := List.exists_mem_of_ne_nil _ grouped
  exact List.ne_nil_of_mem ((writes.mem_iff _).mpr (.inl ⟨expression, member, rfl⟩))

/-- The clause is read text by text. -/
theorem columnList_eq
    (writes : composition.Writes items)
    (readable : composition.IsReadable)
    (grouped : composition.grouping ≠ []) :
    Text.columnList (String.intercalate ", " items) = items.flatMap Text.columnList := by
  apply Text.columnList_intercalate (writes.ne_nil grouped)
  intro text member
  rcases (writes.mem_iff text).mp member with ⟨expression, isGrouped, rfl⟩ | first
  · exact readable.grouping expression isGrouped
  · exact (readable.tableColumns text first.mem_tableColumns).closed

/-- The clause has the columns that are grouped by, and those whose first selection is
that of a column. -/
theorem mem_flatMap_iff
    (writes : composition.Writes items)
    (readable : composition.IsReadable)
    {column : String} :
    column ∈ items.flatMap Text.columnList ↔
      column ∈ composition.groupedColumns ∨ composition.IsFirstColumn column := by
  simp only [List.mem_flatMap, groupedColumns, Expression.columnTexts]
  constructor
  · rintro ⟨text, member, isRead⟩
    rcases (writes.mem_iff text).mp member with ⟨expression, isGrouped, rfl⟩ | first
    · exact .inl ⟨expression, isGrouped, isRead⟩
    · rw [(readable.tableColumns text first.mem_tableColumns).single,
        List.mem_singleton] at isRead
      exact .inr (isRead ▸ first)
  · rintro (⟨expression, isGrouped, isRead⟩ | first)
    · exact ⟨expression.text, (writes.mem_iff _).mpr (.inl ⟨expression, isGrouped, rfl⟩), isRead⟩
    · refine ⟨column, (writes.mem_iff _).mpr (.inr first), ?_⟩
      rw [(readable.tableColumns column first.mem_tableColumns).single]
      exact List.mem_singleton_self column

/-- No column stands twice in the clause exactly if no column is brought in by two
texts. -/
theorem nodup_flatMap_iff
    (writes : composition.Writes items)
    (readable : composition.IsReadable) :
    (items.flatMap Text.columnList).Nodup ↔ composition.IsApart := by
  have single : ∀ column, composition.IsFirstColumn column →
      Text.columnList column = [column] :=
    fun column first => (readable.tableColumns column first.mem_tableColumns).single
  have ofGrouping : ∀ expression ∈ composition.grouping, expression.text ∈ items :=
    fun expression member => (writes.mem_iff _).mpr (.inl ⟨expression, member, rfl⟩)
  rw [List.nodup_flatMap]
  constructor
  · rintro ⟨within, apart⟩
    have disjoint : ∀ first ∈ items, ∀ second ∈ items, first ≠ second →
        ∀ column ∈ Text.columnList first, column ∉ Text.columnList second := by
      have symmetric : Std.Symm (Function.onFun List.Disjoint Text.columnList) :=
        ⟨fun _ _ disjoint _ inSecond inFirst => disjoint inFirst inSecond⟩
      exact fun first isFirst second isSecond differ _ inFirst =>
        apart.forall isFirst isSecond differ inFirst
    refine ⟨fun expression member => within _ (ofGrouping expression member),
      fun first isFirst second isSecond => disjoint _ (ofGrouping first isFirst) _
        (ofGrouping second isSecond), ?_⟩
    intro column _ first expression member isRead
    by_contra differ
    refine disjoint _ (ofGrouping expression member) _
      ((writes.mem_iff column).mpr (.inr first)) differ column isRead ?_
    rw [single column first]
    exact List.mem_singleton_self column
  · rintro ⟨within, between, selected⟩
    constructor
    · intro text member
      rcases (writes.mem_iff text).mp member with ⟨expression, isGrouped, rfl⟩ | first
      · exact within expression isGrouped
      · rw [single text first]
        exact List.nodup_singleton text
    · refine writes.nodup.pairwise_of_forall_ne fun first firstMem second secondMem differ => ?_
      -- Each of the two texts is a grouping expression or the column that it reads as.
      intro column inFirst inSecond
      rcases (writes.mem_iff first).mp firstMem with ⟨firstOf, isGrouped, rfl⟩ | firstOnly
      · rcases (writes.mem_iff second).mp secondMem with ⟨secondOf, alsoGrouped, rfl⟩ | secondOnly
        · exact between firstOf isGrouped secondOf alsoGrouped differ column inFirst inSecond
        · rw [single second secondOnly, List.mem_singleton] at inSecond
          exact differ (selected second secondOnly.mem_tableColumns secondOnly firstOf isGrouped
            (inSecond ▸ inFirst))
      · rw [single first firstOnly, List.mem_singleton] at inFirst
        rcases (writes.mem_iff second).mp secondMem with ⟨secondOf, alsoGrouped, rfl⟩ | secondOnly
        · exact differ (selected first firstOnly.mem_tableColumns firstOnly secondOf alsoGrouped
            (inFirst ▸ inSecond)).symm
        · rw [single second secondOnly, List.mem_singleton] at inSecond
          exact differ (inFirst.symm.trans inSecond)

/-- Every column that is asked for stands in the clause exactly once, if the clause is
complete and no column is brought in by two texts. -/
theorem count_eq_one_iff
    (writes : composition.Writes items)
    (readable : composition.IsReadable) :
    (∀ column ∈ composition.groupedColumns ++ composition.tableColumns,
        (items.flatMap Text.columnList).count column = 1) ↔
      composition.IsComplete ∧ composition.IsApart := by
  rw [← writes.nodup_flatMap_iff readable]
  constructor
  · intro once
    constructor
    · intro column member
      rw [← writes.mem_flatMap_iff readable, ← List.count_pos_iff,
        once column (List.mem_append_right _ member)]
      exact Nat.one_pos
    · rw [List.nodup_iff_count_eq_one]
      intro column member
      apply once
      rw [List.mem_append]
      exact ((writes.mem_flatMap_iff readable).mp member).imp_right
        IsFirstColumn.mem_tableColumns
  · rintro ⟨complete, unique⟩ column member
    apply List.count_eq_one_of_mem unique
    rw [writes.mem_flatMap_iff readable]
    rcases List.mem_append.mp member with grouped | selected
    · exact .inl grouped
    · exact complete column selected

end Writes

end Composition

namespace QueryBlock

/-- The ordering of an aggregated block brings in no columns as such. -/
theorem isPrimary_orderingItems_eq_false
    {block : QueryBlock}
    (aggregated : block.aggregated = true) :
    ∀ item ∈ block.orderingItems, item.isPrimary = false := by
  intro item member
  unfold orderingItems at member
  split at member
  · obtain ⟨term, _, member⟩ := List.mem_flatMap.mp member
    obtain ⟨part, _, rfl⟩ := List.mem_map.mp member
    rw [aggregated, Bool.not_true]
  · rename_i mode
    simp only [orderMode, aggregated, Bool.not_true, Bool.and_false, Bool.false_eq_true,
      ↓reduceIte] at mode
    split_ifs at mode
  · cases member

/-- Items that are no columns do not show among the columns. -/
theorem filter_isPrimary_addAll
    (list : SelectList)
    {items : List SelectedItem}
    (noColumns : ∀ item ∈ items, item.isPrimary = false) :
    (list.addAll items).filter SelectedItem.isPrimary = list.filter SelectedItem.isPrimary := by
  induction items generalizing list with
  | nil => rfl
  | cons item items inductionHypothesis =>
      rw [List.forall_mem_cons] at noColumns
      rw [SelectList.addAll, List.foldl_cons, ← SelectList.addAll,
        inductionHypothesis _ noColumns.2, SelectList.add]
      split
      · rfl
      · rw [List.filter_append, List.filter_cons_of_neg (by simp [noColumns.1]), List.filter_nil,
          List.append_nil]

/-- What rendering selects for the ordering is not grouped by. -/
theorem ReadiedTo.groupByItems_eq
    {before after : QueryBlock}
    (readied : ReadiedTo before after)
    (aggregated : before.aggregated = true)
    (selected_eq : after.selected = before.selected.addAll before.orderingItems) :
    after.groupByItems = before.groupByItems := by
  have columns_eq := filter_isPrimary_addAll before.selected
    (isPrimary_orderingItems_eq_false aggregated)
  rw [← selected_eq] at columns_eq
  rw [groupByItems, columns_eq, readied.eq]
  rfl

/-- Where selected columns have to be grouped by, a block writes its composition. -/
theorem Composes.writes
    {composition : Composition}
    {block : QueryBlock}
    (composes : block.Composes composition)
    (distinct : block.selected.Distinct)
    (grouped : composition.grouping ≠ [])
    (completes : block.capabilities.groupsBySelectedColumns = true) :
    composition.Writes block.groupByItems := by
  have items_eq : block.groupByItems = (block.grouping.map Expression.text ++
      (block.selected.filter SelectedItem.isPrimary).map SelectedItem.sql).eraseDups := by
    have nonempty : block.grouping.isEmpty = false :=
      List.isEmpty_eq_false_iff.mpr (composes.grouping ▸ grouped)
    simp only [groupByItems, composes.aggregated grouped, nonempty, completes, Bool.not_false,
      Bool.and_self, ↓reduceIte]
  refine ⟨items_eq ▸ nodup_eraseDups _, fun text => ?_⟩
  rw [items_eq, List.mem_eraseDups, List.mem_append, List.mem_map, composes.grouping,
    distinct.mem_primaries_iff]
  refine or_congr_right ?_
  obtain ⟨items, items_eq, selected_eq⟩ := composes.selected
  rw [selected_eq, SelectList.find?_addAll, List.nil_append, Composition.IsFirstColumn, ← items_eq,
    List.find?_map, Option.map_eq_some_iff]
  change (∃ item, SelectList.find? items text = some item ∧ _) ↔
    ∃ item, SelectList.find? items text = some item ∧ _
  refine exists_congr fun item => and_congr_right fun found => ?_
  have isIt := SelectList.sql_of_find?_eq_some found
  simp [SelectedItem.selectedText, isIt]

end QueryBlock

namespace Statement

/-- Once a statement is grouped, a clause that has to name the selected columns has every
column that is grouped by, and every other column of a table whose first selection was
that of a column. So every column of the grouping expressions and every selected column
of a table stands in it exactly once, exactly if the first selections are complete and no
column is brought in by two texts. A grouping expression over columns is read as these. -/
theorem groupBy_names_once_iff
    {start statement : Statement}
    {composition : Composition}
    {query : SelectQuery}
    (reachable : start.Reachable)
    (unselected : start.block.selected = [])
    (ungrouped : start.block.grouping = [])
    (completes : start.block.capabilities.groupsBySelectedColumns = true)
    (composed : ComposedFrom start composition statement)
    (grouped : composition.grouping ≠ [])
    (readable : composition.IsReadable)
    (rendered : statement.selectQuery.result = .ok query) :
    let clause := String.intercalate ", " query.arm.groupBy
    HasPiece query.toSql (" GROUP BY " ++ clause) ∧
      (∀ column, column ∈ Text.columnList clause ↔
        column ∈ composition.groupedColumns ∨ composition.IsFirstColumn column) ∧
      ((∀ column ∈ composition.groupedColumns ++ composition.tableColumns,
          (Text.columnList clause).count column = 1) ↔
        composition.IsComplete ∧ composition.IsApart) ∧
      ∀ expression ∈ composition.grouping,
        (∀ part ∈ expression.components, Text.IsColumn part.text) →
          expression.columnTexts = expression.components.map Expression.text := by
  intro clause
  obtain ⟨composes, dialect_eq⟩ := composed.composes unselected ungrouped
  have reached := composed.reachable reachable
  obtain ⟨query_eq, selected_eq⟩ := query_eq_and_selected_eq_of_result_selectQuery
    (reached.keepsCurrent _ statement.block_mem_blocks) rendered
  have groupBy_eq : query.arm.groupBy = statement.block.groupByItems := by
    rw [query_eq]
    exact statement.readiedTo_selectQuery.groupByItems_eq (composes.aggregated grouped) selected_eq
  have writes : composition.Writes query.arm.groupBy := by
    rw [groupBy_eq]
    apply composes.writes (reached.distinct _ statement.block_mem_blocks) grouped
    rwa [QueryBlock.capabilities, dialect_eq]
  have clause_eq : Text.columnList clause = query.arm.groupBy.flatMap Text.columnList :=
    writes.columnList_eq readable grouped
  rw [clause_eq]
  refine ⟨SelectQuery.hasPiece_groupBy (writes.ne_nil grouped),
    fun _ => writes.mem_flatMap_iff readable, writes.count_eq_one_iff readable,
    fun _ _ => Expression.columnTexts_eq⟩

/-- Names of people with their number, for each age. -/
def peopleGroupedByAge : Statement :=
  (people .postgresql).runAll
    [.selectColumn none { table := "person", name := "name" } none true,
      .select .countAll none true, .groupBy (.columns "person" "A0" ["age"])]

theorem groupBy_names_once_peopleGroupedByAge :
    peopleGroupedByAge.selectSql.result = .ok
        "SELECT A0.name, COUNT(*) FROM person A0 GROUP BY A0.age, A0.name" ∧
      ∃ composition query, ComposedFrom (people .postgresql) composition peopleGroupedByAge ∧
        peopleGroupedByAge.selectQuery.result = .ok query ∧
        composition.groupedColumns ++ composition.tableColumns = ["A0.age", "A0.name"] ∧
        ∀ column ∈ composition.groupedColumns ++ composition.tableColumns,
          (Text.columnList (String.intercalate ", " query.arm.groupBy)).count column = 1 := by
  let name := Selection.ofColumn none { table := "person", name := "name" } none true
  let number := Selection.ofExpression .countAll none true
  have selected : ComposedFrom (people .postgresql) _ (name.run (people .postgresql)).state :=
    .selected .start rfl
  have counted : ComposedFrom (people .postgresql) _
      (number.run (name.run (people .postgresql)).state).state := .selected selected rfl
  have composed := counted.grouped (.columns "person" "A0" ["age"])
  obtain ⟨query, rendered⟩ : ∃ query, peopleGroupedByAge.selectQuery.result = .ok query := ⟨_, rfl⟩
  obtain ⟨_, _, once_iff, _⟩ := groupBy_names_once_iff (reachedBy_people _ .postgresql) rfl rfl rfl
    composed (List.cons_ne_nil _ _) (by decide +kernel) rendered
  exact ⟨by decide +kernel, _, query, composed, rendered, by decide +kernel,
    once_iff.mpr (by decide +kernel)⟩

/-- Cities of people, for each address. -/
def peopleGroupedByAddress : Statement :=
  (people .postgresql).runAll
    [.selectColumn none { table := "person", name := "city" } none true,
      .groupBy (.columns "person" "A0" ["city", "street"])]

/-- The city is written as a column of the address, and once more by itself. -/
theorem not_groupBy_names_once_peopleGroupedByAddress :
    peopleGroupedByAddress.Reachable ∧
      peopleGroupedByAddress.selectSql.result = .ok
        "SELECT A0.city FROM person A0 GROUP BY A0.city, A0.street, A0.city" ∧
      ∃ composition query, ComposedFrom (people .postgresql) composition peopleGroupedByAddress ∧
        composition.IsReadable ∧ "A0.city" ∈ composition.tableColumns ∧
        peopleGroupedByAddress.selectQuery.result = .ok query ∧
        (Text.columnList (String.intercalate ", " query.arm.groupBy)).count "A0.city" = 2 := by
  let city := Selection.ofColumn none { table := "person", name := "city" } none true
  have selected : ComposedFrom (people .postgresql) _ (city.run (people .postgresql)).state :=
    .selected .start rfl
  have composed := selected.grouped (.columns "person" "A0" ["city", "street"])
  exact ⟨composed.reachable (reachedBy_people _ .postgresql), by decide +kernel, _, _, composed,
    by decide +kernel, by decide +kernel, rfl, by decide +kernel⟩

end Statement
end SqlBuilder
