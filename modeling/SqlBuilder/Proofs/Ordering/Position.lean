import SqlBuilder.Proofs.Ordering.Columns
import SqlBuilder.Proofs.Selection.Aliases

/-!
# Ordering by position

A dialect may order by positions of the select list. Every column of the ordering is
then selected, unless its text is selected already, and the ORDER BY has the position
of its text. The name of a result column is looked up in the same way, by its text: the
entry that is selected under the name is found only if it also has the name as its text.
-/

namespace SqlBuilder

namespace SelectList

/-- Where texts are unique an entry is at the position of its text. -/
theorem Distinct.position_eq_iff
    {list : SelectList}
    (distinct : list.Distinct)
    {place : Nat}
    {entry : SelectedItem}
    (atPlace : list[place]? = some entry)
    {sql : String}
    (present : list.hasSql sql = true) :
    list.position sql = place + 1 ↔ entry.sql = sql := by
  obtain ⟨before, item, after, list_eq, isIt, _, position_eq⟩ := standsAt_position present
  have atPosition : list[before.length]? = some item := by simp [list_eq]
  rw [position_eq, Nat.add_right_cancel_iff]
  constructor
  · rintro rfl
    rw [atPlace, Option.some.injEq] at atPosition
    rw [atPosition, isIt]
  · intro isEntry
    have sqlAtPosition : (list.map SelectedItem.sql)[before.length]? = some sql := by
      rw [List.getElem?_map, atPosition, Option.map_some, isIt]
    have sqlAtPlace : (list.map SelectedItem.sql)[place]? = some sql := by
      rw [List.getElem?_map, atPlace, Option.map_some, isEntry]
    apply (List.getElem?_inj (List.getElem?_eq_some_iff.mp sqlAtPosition).1 distinct).mp
    rw [sqlAtPosition, sqlAtPlace]

/-- What is added to a list has no text of the list. -/
theorem Distinct.sql_ne_of_mem_drop
    {list longer : SelectList}
    (distinct : longer.Distinct)
    (grown : list <+: longer)
    {entry : SelectedItem}
    (member : entry ∈ list) :
    ∀ added ∈ longer.drop list.length, added.sql ≠ entry.sql := by
  obtain ⟨rest, rfl⟩ := grown
  rw [List.drop_left]
  intro added addedMem same
  rw [Distinct, List.map_append, List.nodup_append] at distinct
  exact distinct.2.2 _ (List.mem_map_of_mem member) _ (List.mem_map_of_mem addedMem) same.symm

end SelectList

namespace OrderItem

/-- The key is the position at which the text of a column stands in a select list, with
the direction of the column and nothing in front of it. -/
structure Addresses (item : OrderItem) (list : SelectList) (column : OrderTerm) : Prop where
  position : ∃ position, item.name = toString position ∧
    list.StandsAt column.expression.text position
  descending : item.descending = column.descending
  nullKey : item.nullKey = none

/-- The key is the position of the entry at a place of a select list, and what the longer
list has besides does not bring in the name. -/
structure Reuses
    (item : OrderItem)
    (list longer : SelectList)
    (name : String)
    (place : Nat) : Prop where
  position : item.name = toString (place + 1)
  nothingAdded : ∀ added ∈ longer.drop list.length, added.sql ≠ name

/-- A position that is found by a text is that of an entry exactly if the entry has the
text. -/
theorem reuses_iff
    {item : OrderItem}
    {list longer : SelectList}
    {name : String}
    (distinct : longer.Distinct)
    (grown : list <+: longer)
    (present : longer.hasSql name = true)
    (found : item.name = toString (longer.position name))
    {place : Nat}
    {entry : SelectedItem}
    (atPlace : list[place]? = some entry) :
    item.Reuses list longer name place ↔ entry.sql = name := by
  have stillAtPlace : longer[place]? = some entry := by
    obtain ⟨rest, rfl⟩ := grown
    rw [List.getElem?_append_left (List.getElem?_eq_some_iff.mp atPlace).1, atPlace]
  have position_iff := distinct.position_eq_iff stillAtPlace present
  constructor
  · rintro ⟨position, _⟩
    apply position_iff.mp
    apply injective_numbered "" ""
    simpa only [String.empty_append, String.append_empty] using found.symm.trans position
  · rintro rfl
    exact ⟨by rw [found, position_iff.mpr rfl],
      distinct.sql_ne_of_mem_drop grown (List.mem_of_getElem? atPlace)⟩

end OrderItem

namespace QueryBlock

theorem orderMode_eq_positional
    {block : QueryBlock}
    (topLevel : block.isSubquery = false)
    (byPosition : block.capabilities.ordersByPosition = true) :
    block.orderMode = .positional := by
  simp only [orderMode, topLevel, byPosition, Bool.false_eq_true, ↓reduceIte]

/-- Once its columns are selected, an ordering by position is written as the positions of
their texts, in order. -/
theorem forall₂_addresses_of_positional
    {block : QueryBlock}
    (byPosition : block.orderMode = .positional)
    (selects : ∀ column ∈ block.orderingColumns,
      block.selected.hasSql column.expression.text = true) :
    List.Forall₂
      (fun column item => OrderItem.Addresses item block.selected column ∧
        item.name = toString (block.selected.position column.expression.text))
      block.orderingColumns (block.orderKeys.map block.dialect.orderItem) := by
  rw [orderKeys_of_positional byPosition, List.map_map, List.forall₂_map_right_iff,
    List.forall₂_same]
  intro column member
  have nullKey : (block.dialect.orderItem (column.key
      (toString (block.selected.position column.expression.text)) column.expression
      true)).nullKey = none := by
    simp [Dialect.orderItem, Capabilities.nullKey?, OrderTerm.key]
  exact ⟨⟨⟨_, rfl, SelectList.standsAt_position (selects column member)⟩, rfl, nullKey⟩, rfl⟩

end QueryBlock

namespace Statement

/-- In a SELECT that orders by position every column of the ordering has a key, the
position of its text, and is selected if it was not. The key of a result column is the
position of the entry that was selected under its name, and the name brings in no entry
of its own, exactly if the name is also the text of that entry. -/
theorem reuses_iff_sql_eq_alias
    {statement : Statement}
    {query : SelectQuery}
    (reachable : statement.Reachable)
    (topLevel : statement.block.isSubquery = false)
    (byPosition : statement.block.capabilities.ordersByPosition = true)
    (rendered : statement.selectQuery.result = .ok query) :
    let before := statement.block.selected
    let after := statement.selectQuery.state.block.selected
    query.Lists after ∧
      after = before.addAll (statement.block.orderingColumns.map fun column =>
        { sql := column.expression.text
          aliasName := none
          isPrimary := !statement.block.aggregated }) ∧
      List.Forall₂
        (fun column item => OrderItem.Addresses item after column ∧
          ∀ name, column.expression = .resultAlias name →
            ∀ place entry, before[place]? = some entry → entry.aliasName = some name →
              (item.Reuses before after name place ↔ entry.sql = name))
        statement.block.orderingColumns query.ending.orderBy := by
  intro before after
  have mode := QueryBlock.orderMode_eq_positional topLevel byPosition
  have columns_eq := statement.readiedTo_selectQuery.orderingColumns_eq
  have mode_eq := statement.readiedTo_selectQuery.orderMode_eq
  obtain ⟨query_eq, selected_eq⟩ := query_eq_and_selected_eq_of_result_selectQuery
    (reachable.keepsCurrent _ statement.block_mem_blocks) rendered
  rw [QueryBlock.orderingItems_of_positional mode] at selected_eq
  have distinct : statement.selectQuery.state.block.selected.Distinct := by
    rw [selected_eq]
    exact (reachable.distinct _ statement.block_mem_blocks).addAll _
  have grown : statement.block.selected <+: statement.selectQuery.state.block.selected := by
    rw [selected_eq]
    exact statement.block.selected.prefix_addAll _
  have present : ∀ column ∈ statement.block.orderingColumns,
      statement.selectQuery.state.block.selected.hasSql column.expression.text = true := by
    intro column member
    rw [selected_eq, ← QueryBlock.selected_addItems]
    exact QueryBlock.hasSql_addItems_of_mem _ _ (List.mem_map_of_mem member)
  have orderBy_eq : query.ending.orderBy = statement.selectQuery.state.block.orderKeys.map
      statement.selectQuery.state.block.dialect.orderItem := by
    rw [query_eq]
    rfl
  refine ⟨by rw [query_eq]; exact QueryBlock.lists_query .., selected_eq, ?_⟩
  have addresses := QueryBlock.forall₂_addresses_of_positional (mode_eq.trans mode)
    (by rwa [columns_eq])
  rw [← orderBy_eq, columns_eq] at addresses
  have both := (List.forall₂_and_left _ _).mpr ⟨fun _ member => member, addresses⟩
  refine both.imp fun column item ⟨member, addressed, found⟩ => ⟨addressed, ?_⟩
  intro name expression_eq place entry atPlace _
  have text_eq : column.expression.text = name := by rw [expression_eq]; rfl
  exact OrderItem.reuses_iff distinct grown (text_eq ▸ present column member) (text_eq ▸ found)
    atPlace

/-- People with a result column that has its name as its text, ordered by it, then by
their ages and names. -/
def peopleByTotal : Statement :=
  (people .legacy).runAll
    [.selectColumn none { table := "person", name := "name" } none true,
      .select (.derived "total") (some "total") true,
      .setOrdering [.resultAlias "total", .columns "person" "A0" ["age", "name"]] [true, false]
        none]

theorem reuses_peopleByTotal :
    peopleByTotal.selectSql.result = .ok
        "SELECT A0.name, total AS total, A0.age FROM person A0 ORDER BY 2 DESC, 3, 1" ∧
      ∃ query, peopleByTotal.selectQuery.result = .ok query ∧
        ∃ item ∈ query.ending.orderBy, item.Reuses peopleByTotal.block.selected
          peopleByTotal.selectQuery.state.block.selected "total" 1 := by
  have reachable : peopleByTotal.Reachable :=
    Reachable.runAll (by simp) (reachedBy_people _ .legacy)
  obtain ⟨query, rendered⟩ : ∃ query, peopleByTotal.selectQuery.result = .ok query := ⟨_, rfl⟩
  obtain ⟨_, _, addresses⟩ := reuses_iff_sql_eq_alias reachable rfl rfl rendered
  have columns_eq : ∃ rest, peopleByTotal.block.orderingColumns =
      { expression := .resultAlias "total", descending := true, nulls := none } :: rest := ⟨_, rfl⟩
  obtain ⟨rest, columns_eq⟩ := columns_eq
  rw [columns_eq] at addresses
  obtain ⟨item, items, ⟨_, reuses_iff⟩, _, orderBy_eq⟩ := List.forall₂_cons_left_iff.mp addresses
  exact ⟨by decide +kernel, query, rendered, item, orderBy_eq ▸ List.mem_cons_self,
    (reuses_iff "total" rfl 1 _ rfl rfl).mpr rfl⟩

/-- People by what they are called, which is the name of a result column. -/
def peopleByCalled : Statement :=
  (people .legacy).runAll
    [.selectColumn none { table := "person", name := "name" } (some "called") true,
      .setOrdering [.resultAlias "called"] [false] none]

/-- The name of the result column is selected as a column of its own, and the ordering is
by that. -/
theorem not_reuses_peopleByCalled :
    peopleByCalled.Reachable ∧ peopleByCalled.branches = [] ∧
      peopleByCalled.block.isSubquery = false ∧
      peopleByCalled.block.capabilities.ordersByPosition = true ∧
      SelectList.aliases peopleByCalled.block.selected = ["called"] ∧
      peopleByCalled.selectSql.result = .ok
        "SELECT A0.name AS called, called FROM person A0 ORDER BY 2" ∧
      ∃ query item, peopleByCalled.selectQuery.result = .ok query ∧
        query.ending.orderBy = [item] ∧
        ¬ item.Reuses peopleByCalled.block.selected
          peopleByCalled.selectQuery.state.block.selected "called" 0 := by
  refine ⟨Reachable.runAll (by simp) (reachedBy_people _ .legacy), rfl, rfl, rfl, by decide,
    by decide +kernel, _, _, rfl, rfl, fun reuses => ?_⟩
  have position := reuses.position
  revert position
  decide +kernel

end Statement
end SqlBuilder
