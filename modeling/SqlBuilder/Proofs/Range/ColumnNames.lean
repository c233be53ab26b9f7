import SqlBuilder.Proofs.Locking.Texts
import SqlBuilder.Proofs.Selection.Aliases

/-!
# Names of columns within a numbering query

A range that is cut out by numbering rows is a query around the columns, which knows them
by names. Where a middle query numbers the rows, every column without an alias gets a
numbered one. Where the query numbers its own rows, such a column goes by its name behind
the table, which is also the name of every column of that name in another table.
-/

namespace SqlBuilder

/-! ## Columns of tables -/

/-- The text is a column behind the alias of its table. -/
structure Text.IsQualified (qualifier column text : String) : Prop where
  text_eq : text = qualifier ++ "." ++ column
  nonempty : qualifier ≠ ""
  qualifierDotless : '.' ∉ qualifier.toList
  columnDotless : '.' ∉ column.toList

theorem Text.IsQualified.withoutQualifier_eq
    {qualifier column text : String}
    (qualified : IsQualified qualifier column text) : withoutQualifier text = column := by
  rw [withoutQualifier, qualified.text_eq, splitAtDot_qualified qualified.qualifierDotless]
  exact if_neg qualified.nonempty

/-- A column of a query goes by its alias, or else by its name behind the table. -/
def OutputColumn.GoesBy (column : OutputColumn) (name : String) : Prop :=
  match column.aliasName with
  | some aliasName => aliasName = name
  | none => ∃ qualifier, Text.IsQualified qualifier name column.sql

namespace SelectList

/-- The entries without an alias, in order. -/
def unnamed (list : SelectList) : SelectList :=
  list.filter fun item => item.aliasName.isNone

/-- The numbered alias that an entry may get. -/
def numberedAlias (number : Nat) : String :=
  "DN_" ++ toString number

/-- Entries by their aliases, and by some other name where they have none. -/
theorem perm_map_getD (list : SelectList) (name : SelectedItem → String) :
    (list.map fun item => item.aliasName.getD (name item)).Perm
      (aliases list ++ (unnamed list).map name) := by
  induction list with
  | nil => exact .refl _
  | cons item rest inductionHypothesis =>
      rw [aliases, unnamed] at inductionHypothesis ⊢
      cases named : item.aliasName with
      | none =>
          rw [List.filterMap_cons_none named, List.filter_cons_of_pos (by simp [named]),
            List.map_cons, List.map_cons, named]
          exact (inductionHypothesis.cons _).trans List.perm_middle.symm
      | some aliasName =>
          rw [List.filterMap_cons_some named, List.filter_cons_of_neg (by simp [named]),
            List.map_cons, named]
          exact inductionHypothesis.cons _

/-- The names that are given are the aliases, and numbers where there is none. -/
theorem exists_namedColumns_perm (next : Nat) (list : SelectList) :
    ∃ names : List String, (namedColumns next list).map OutputColumn.aliasName = names.map some ∧
      names.Perm
        (aliases list ++ (List.range' next (unnamed list).length).map numberedAlias) := by
  induction list generalizing next with
  | nil => exact ⟨[], rfl, .refl _⟩
  | cons item rest inductionHypothesis =>
      rw [namedColumns]
      cases named : item.aliasName with
      | none =>
          obtain ⟨names, names_eq, perm⟩ := inductionHypothesis (next + 1)
          refine ⟨numberedAlias next :: names, ?_, ?_⟩
          · rw [List.map_cons, List.map_cons, names_eq]
            rfl
          · rw [aliases, List.filterMap_cons_none named, unnamed,
              List.filter_cons_of_pos (by simp [named]), List.length_cons, List.range'_succ,
              List.map_cons]
            exact (perm.cons _).trans List.perm_middle.symm
      | some aliasName =>
          obtain ⟨names, names_eq, perm⟩ := inductionHypothesis next
          refine ⟨aliasName :: names, ?_, ?_⟩
          · rw [List.map_cons, List.map_cons, names_eq]
          · rw [aliases, List.filterMap_cons_some named, unnamed,
              List.filter_cons_of_neg (by simp [named])]
            exact perm.cons _

theorem numberedAlias_injective : Function.Injective numberedAlias := by
  intro first second same
  rw [numberedAlias, numberedAlias] at same
  exact injective_numbered "DN_" "" (by simpa only [String.append_empty] using same)

theorem numberedAlias_ne_rn (number : Nat) : numberedAlias number ≠ "rn" := by
  intro same
  have characters := congrArg String.toList same
  rw [numberedAlias, String.toList_append] at characters
  cases characters

/-- The entries are columns of tables, and their aliases differ from each other and from
the name of the row number. -/
structure IsNameable (list : SelectList) : Prop where
  ofTables : ∀ item ∈ list, ∃ qualifier column, Text.IsQualified qualifier column item.sql
  nodup : (aliases list).Nodup
  notRowNumber : "rn" ∉ aliases list

/-- No numbered alias is an alias of the list already. -/
def AvoidsNumbers (list : SelectList) : Prop :=
  ∀ number < (unnamed list).length, numberedAlias number ∉ aliases list

/-- The names differ from each other and from the aliases of the list. -/
structure KeepsApart (list : SelectList) (names : List String) : Prop where
  nodup : names.Nodup
  notAliases : ∀ name ∈ names, name ∉ aliases list

theorem keepsApart_numberedAlias_iff (list : SelectList) :
    list.KeepsApart ((List.range' 0 (unnamed list).length).map numberedAlias) ↔
      list.AvoidsNumbers := by
  have member_iff : ∀ number, number ∈ List.range' 0 (unnamed list).length ↔
      number < (unnamed list).length := by
    simp [List.mem_range'_1]
  constructor
  · intro apart number small
    exact apart.notAliases _ (List.mem_map_of_mem ((member_iff number).mpr small))
  · intro avoids
    refine ⟨List.Nodup.map numberedAlias_injective List.nodup_range', ?_⟩
    rw [List.forall_mem_map]
    exact fun number member => avoids number ((member_iff number).mp member)

namespace IsNameable

variable {list : SelectList} {names others : List String}

/-- Aliases and other names are pairwise different exactly if the others are kept apart. -/
theorem nodup_iff
    (nameable : list.IsNameable)
    (perm : names.Perm (aliases list ++ others)) :
    names.Nodup ↔ list.KeepsApart others := by
  rw [perm.nodup_iff, List.nodup_append]
  constructor
  · rintro ⟨_, nodup, differ⟩
    exact ⟨nodup, fun name member isAlias => differ name isAlias name member rfl⟩
  · rintro ⟨nodup, notAliases⟩
    refine ⟨nameable.nodup, nodup, ?_⟩
    rintro name isAlias other member rfl
    exact notAliases name member isAlias

/-- Only another name may be that of the row number. -/
theorem rn_mem_iff
    (nameable : list.IsNameable)
    (perm : names.Perm (aliases list ++ others)) :
    "rn" ∈ names ↔ "rn" ∈ others := by
  rw [perm.mem_iff, List.mem_append]
  exact or_iff_right nameable.notRowNumber

end IsNameable

end SelectList

/-- Beside a column of another name, every name denotes one column exactly if the names
differ from each other and from the other. -/
theorem count_append_singleton_eq_one_iff {names : List String} {other : String} :
    (∀ name ∈ names, (names ++ [other]).count name = 1) ↔ names.Nodup ∧ other ∉ names := by
  constructor
  · intro once
    constructor
    · rw [List.nodup_iff_count_le_one]
      intro name
      by_cases member : name ∈ names
      · have atMost := once name member
        rw [List.count_append] at atMost
        omega
      · rw [List.count_eq_zero_of_not_mem member]
        exact Nat.zero_le 1
    · intro member
      have twice := once other member
      have present := List.count_pos_iff.mpr member
      rw [List.count_append, List.count_singleton_self] at twice
      omega
  · rintro ⟨nodup, absent⟩ name member
    have all : (names ++ [other]).Nodup := by
      rw [List.nodup_append]
      refine ⟨nodup, List.nodup_singleton other, ?_⟩
      rintro name member _ isOther rfl
      exact absent (List.mem_singleton.mp isOther ▸ member)
    exact List.count_eq_one_of_mem all (List.mem_append_left _ member)

namespace QueryBlock

variable {block : QueryBlock} {branches : List SelectQuery}

/-- Under a middle query every column has an alias, given or numbered. -/
theorem exists_aliases_of_numberedRows
    {rowNumber : String}
    {filter : RowFilter}
    (numbered : (block.query branches).ending.wrapper = .numberedRows rowNumber filter) :
    ∃ names : List String,
      (block.query branches).arm.list.columns.map OutputColumn.aliasName = names.map some ∧
        names.Perm (SelectList.aliases block.selected ++
          (List.range' 0 (SelectList.unnamed block.selected).length).map
            SelectList.numberedAlias) := by
  change block.pagination.wrapper block.range block.selected = _ at numbered
  have namesColumns : block.pagination.namesColumns = true := by
    cases paginated : block.pagination <;> rw [paginated] at numbered <;> cases numbered
    rfl
  have columns_eq : (block.query branches).arm.list.columns =
      SelectList.namedColumns 0 block.selected := by
    change (if block.pagination.namesColumns then _ else _) = _
    rw [if_pos namesColumns]
  rw [columns_eq]
  exact SelectList.exists_namedColumns_perm 0 block.selected

/-- Where the query numbers its own rows it is read by the names that its columns go by,
which are the aliases and the names of columns behind their tables. -/
theorem goesBy_of_numberColumn
    {names : List String}
    {filter : RowFilter}
    (ofTables : ∀ item ∈ block.selected, ∃ qualifier column,
      Text.IsQualified qualifier column item.sql)
    (numbered : (block.query branches).ending.wrapper = .numberColumn names filter) :
    List.Forall₂ OutputColumn.GoesBy (block.query branches).arm.list.columns names ∧
      ∃ columns,
        List.Forall₂ (fun item column => ∃ qualifier, Text.IsQualified qualifier column item.sql)
          (SelectList.unnamed block.selected) columns ∧
        names.Perm (SelectList.aliases block.selected ++ columns) := by
  -- Only a row number among the columns is read by names, and it names no columns.
  change block.pagination.wrapper block.range block.selected = _ at numbered
  have names_eq : names = block.selected.map SelectedItem.outerName :=
    Pagination.names_eq_of_wrapper numbered
  have notNamed : block.pagination.namesColumns = false := by
    cases paginated : block.pagination <;> rw [paginated] at numbered <;> cases numbered
    rfl
  have columns_eq : (block.query branches).arm.list.columns = block.selected.columns := by
    change (if block.pagination.namesColumns then _ else _) = _
    rw [notNamed, if_neg Bool.false_ne_true]
  have qualified : ∀ item ∈ block.selected, ∃ qualifier,
      Text.IsQualified qualifier (Text.withoutQualifier item.sql) item.sql := by
    intro item member
    obtain ⟨qualifier, column, qualified⟩ := ofTables item member
    exact ⟨qualifier, qualified.withoutQualifier_eq.symm ▸ qualified⟩
  constructor
  · rw [columns_eq, names_eq, SelectList.columns, List.forall₂_map_left_iff,
      List.forall₂_map_right_iff, List.forall₂_same]
    intro item member
    rw [OutputColumn.GoesBy, SelectedItem.outerName]
    cases item.aliasName with
    | none => exact qualified item member
    | some aliasName => rfl
  · refine ⟨(SelectList.unnamed block.selected).map fun item =>
      Text.withoutQualifier item.sql, ?_, ?_⟩
    · rw [List.forall₂_map_right_iff, List.forall₂_same]
      exact fun item member => qualified item (List.mem_of_mem_filter member)
    · rw [names_eq]
      exact SelectList.perm_map_getD block.selected fun item => Text.withoutQualifier item.sql

end QueryBlock

/-- The names by which a query around the query reads its columns stand in the text. -/
theorem SelectQuery.hasPiece_names
    {query : SelectQuery}
    {names : List String}
    {filter : RowFilter}
    (numbered : query.ending.wrapper = .numberColumn names filter)
    (nonempty : names ≠ []) :
    HasPiece query.toSql
      ("SELECT " ++ String.intercalate ", " (names.map ("subq." ++ ·)) ++ " FROM (") := by
  cases query with
  | node arm unionAll branches ending =>
      let columns := if names.isEmpty then "subq.*"
        else String.intercalate ", " (names.map ("subq." ++ ·))
      have columns_eq : columns = String.intercalate ", " (names.map ("subq." ++ ·)) :=
        if_neg (mt List.isEmpty_iff.mp nonempty)
      have front : ∀ inner, HasPiece (Wrapper.around inner (.numberColumn names filter))
          ("SELECT " ++ columns ++ " FROM (") := fun inner =>
        (((HasPiece.refl ("SELECT " ++ columns ++ " FROM (")).append_right inner).append_right
          ") subq WHERE ").append_right (filter.toSql "subq.rn")
      change ending.wrapper = _ at numbered
      rw [toSql, numbered, ← columns_eq]
      exact front _

namespace Statement

/-- A SELECT that cuts out a range by numbering rows shows the select list. Under a middle
query every column has an alias, and the aliases differ from each other exactly if no
numbered one is given already. A query that numbers its own rows is read by the names that
its columns go by. These differ from each other exactly if the columns without an alias
have names of their own, and each of them denotes one column only, exactly if furthermore
none of these is named like the row number. -/
theorem keepsApart_iff
    {statement : Statement}
    {query : SelectQuery}
    (reachable : statement.Reachable)
    (rendered : statement.selectQuery.result = .ok query)
    (nameable : SelectList.IsNameable statement.selectQuery.state.block.selected) :
    let list := statement.selectQuery.state.block.selected
    query.Lists list ∧
      (∀ rowNumber filter, query.ending.wrapper = .numberedRows rowNumber filter →
        ∃ names : List String,
          query.arm.list.columns.map OutputColumn.aliasName = names.map some ∧
            "rn" ∉ names ∧ (names.Nodup ↔ list.AvoidsNumbers)) ∧
      ∀ names filter, query.ending.wrapper = .numberColumn names filter →
        (names ≠ [] → HasPiece query.toSql
          ("SELECT " ++ String.intercalate ", " (names.map ("subq." ++ ·)) ++ " FROM (")) ∧
          List.Forall₂ OutputColumn.GoesBy query.arm.list.columns names ∧
          ∃ columns,
            List.Forall₂
              (fun item column => ∃ qualifier, Text.IsQualified qualifier column item.sql)
              list.unnamed columns ∧
            (names.Nodup ↔ list.KeepsApart columns) ∧
            ((∀ name ∈ names, (names ++ ["rn"]).count name = 1) ↔
              list.KeepsApart columns ∧ "rn" ∉ columns) := by
  intro list
  obtain ⟨query_eq, _⟩ := query_eq_and_selected_eq_of_result_selectQuery
    (reachable.keepsCurrent _ statement.block_mem_blocks) rendered
  refine ⟨?_, ?_, ?_⟩
  · rw [query_eq]
    exact QueryBlock.lists_query _ _
  · intro rowNumber filter numbered
    rw [query_eq] at numbered
    obtain ⟨names, names_eq, perm⟩ := QueryBlock.exists_aliases_of_numberedRows numbered
    refine ⟨names, by rwa [query_eq], ?_, ?_⟩
    · rw [nameable.rn_mem_iff perm, List.mem_map]
      rintro ⟨number, _, isNumbered⟩
      exact SelectList.numberedAlias_ne_rn number isNumbered
    · rw [nameable.nodup_iff perm, SelectList.keepsApart_numberedAlias_iff]
  · intro names filter numbered
    refine ⟨SelectQuery.hasPiece_names numbered, ?_⟩
    rw [query_eq] at numbered ⊢
    obtain ⟨goesBy, columns, areColumns, perm⟩ :=
      QueryBlock.goesBy_of_numberColumn nameable.ofTables numbered
    refine ⟨goesBy, columns, areColumns, nameable.nodup_iff perm, ?_⟩
    rw [count_append_singleton_eq_one_iff, nameable.nodup_iff perm, nameable.rn_mem_iff perm]

/-- The first people with their phones, in a dialect that numbers rows among the columns. -/
def firstPeopleWithPhones (phoneAlias : Option String) : Statement :=
  (people .db2).runAll
    [.crossJoin { name := "phone" } (some "B0") none,
      .selectColumn none { table := "person", name := "id" } none true,
      .selectColumn (some { table := { name := "phone" }, aliasName := "B0", group := "Group1" })
        { table := "phone", name := "id" } phoneAlias true,
      .setRange { count := some 2 }]

theorem nameable_firstPeopleWithPhones
    {phoneAlias : Option String}
    (isOne : phoneAlias ∈ [none, some "phone_id"]) :
    SelectList.IsNameable
      (firstPeopleWithPhones phoneAlias).selectQuery.state.block.selected := by
  have texts : ∀ phoneAlias ∈ [none, some "phone_id"],
      ∀ item ∈ (firstPeopleWithPhones phoneAlias).selectQuery.state.block.selected,
        item.sql = "A0" ++ "." ++ "id" ∨ item.sql = "B0" ++ "." ++ "id" := by
    decide +kernel
  have aliases : ∀ phoneAlias ∈ [none, some "phone_id"], SelectList.aliases
      (firstPeopleWithPhones phoneAlias).selectQuery.state.block.selected =
        phoneAlias.toList := by
    decide +kernel
  constructor
  · intro item member
    rcases texts phoneAlias isOne item member with ofPerson | ofPhone
    · exact ⟨"A0", "id", ofPerson, by decide, by decide, by decide⟩
    · exact ⟨"B0", "id", ofPhone, by decide, by decide, by decide⟩
  · rw [aliases phoneAlias isOne]
    cases phoneAlias <;> simp
  · rw [aliases phoneAlias isOne]
    revert phoneAlias
    decide

theorem keepsApart_firstPeopleWithPhones :
    (firstPeopleWithPhones (some "phone_id")).selectSql.result = .ok
        ("SELECT subq.id, subq.phone_id FROM (SELECT A0.id, B0.id AS phone_id, " ++
          "ROW_NUMBER() OVER() rn FROM person A0 CROSS JOIN phone B0) subq WHERE subq.rn <= 2") ∧
      ∃ query names filter,
        (firstPeopleWithPhones (some "phone_id")).selectQuery.result = .ok query ∧
        query.ending.wrapper = .numberColumn names filter ∧
        List.Forall₂ OutputColumn.GoesBy query.arm.list.columns names ∧
        ∀ name ∈ names, (names ++ ["rn"]).count name = 1 := by
  have reachable : (firstPeopleWithPhones (some "phone_id")).Reachable :=
    Reachable.runAll (by simp) (reachedBy_people _ .db2)
  obtain ⟨query, rendered⟩ : ∃ query,
      (firstPeopleWithPhones (some "phone_id")).selectQuery.result = .ok query := ⟨_, rfl⟩
  obtain ⟨_, _, single⟩ := keepsApart_iff reachable rendered
    (nameable_firstPeopleWithPhones (by decide))
  obtain ⟨filter, numbered⟩ : ∃ filter, query.ending.wrapper =
      .numberColumn ["id", "phone_id"] filter := by
    cases rendered
    exact ⟨_, rfl⟩
  obtain ⟨_, goesBy, columns, areColumns, _, denotes_iff⟩ := single _ _ numbered
  refine ⟨by decide +kernel, query, _, filter, rendered, numbered, goesBy, denotes_iff.mpr ?_⟩
  have unnamed_eq : SelectList.unnamed
      (firstPeopleWithPhones (some "phone_id")).selectQuery.state.block.selected =
        [{ sql := "A0.id", aliasName := none, isPrimary := true }] := by
    decide +kernel
  rw [unnamed_eq] at areColumns
  obtain ⟨column, _, ⟨_, qualified⟩, none, rfl⟩ := List.forall₂_cons_left_iff.mp areColumns
  cases none
  obtain rfl : "id" = column := qualified.withoutQualifier_eq
  exact ⟨⟨by decide, by decide +kernel⟩, by decide⟩

/-- Without the alias both columns are named alike, so that neither name denotes one of
them. -/
theorem not_keepsApart_firstPeopleWithPhones :
    (firstPeopleWithPhones none).Reachable ∧
      SelectList.IsNameable (firstPeopleWithPhones none).selectQuery.state.block.selected ∧
      (firstPeopleWithPhones none).selectSql.result = .ok
        ("SELECT subq.id, subq.id FROM (SELECT A0.id, B0.id, " ++
          "ROW_NUMBER() OVER() rn FROM person A0 CROSS JOIN phone B0) subq WHERE subq.rn <= 2") ∧
      ∃ query names filter, (firstPeopleWithPhones none).selectQuery.result = .ok query ∧
        query.ending.wrapper = .numberColumn names filter ∧ ¬ names.Nodup :=
  ⟨Reachable.runAll (by simp) (reachedBy_people _ .db2),
    nameable_firstPeopleWithPhones (by decide), by decide +kernel, _, ["id", "id"], _, rfl, rfl,
    by decide⟩

end Statement
end SqlBuilder
