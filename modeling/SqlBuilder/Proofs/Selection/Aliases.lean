import Mathlib.Data.List.Nodup
import SqlBuilder.Proofs.Naming.Scheme
import SqlBuilder.Proofs.Ordering.Columns
import SqlBuilder.Proofs.Selection.Following
import SqlBuilder.Proofs.Trace.Run

/-!
# Aliases of ordering columns

Where a dialect names the columns of an ordering they are selected under numbered
aliases. The numbers are places in the ordering of the moment, and the entries stay when
the ordering is replaced. So a name in the ORDER BY is that of one entry as long as no
rendering selects a column under an alias that an earlier ordering has left behind.
-/

namespace SqlBuilder

namespace SelectList

/-- The aliases in a select list, in order. -/
def aliases (list : SelectList) : List String :=
  list.filterMap SelectedItem.aliasName

/-- The entries under an alias. -/
def entriesUnder (list : SelectList) (name : String) : List SelectedItem :=
  list.filter fun item => item.aliasName == some name

theorem aliases_append (first second : SelectList) :
    aliases (first ++ second) = aliases first ++ aliases second :=
  List.filterMap_append ..

theorem length_entriesUnder (list : SelectList) (name : String) :
    (list.entriesUnder name).length = list.aliases.count name := by
  rw [entriesUnder, aliases, List.count_filterMap, List.countP_eq_length_filter]

/-- An entry is the only one under its alias if the alias does not occur twice. -/
theorem entriesUnder_eq_singleton
    {list : SelectList}
    {name : String}
    (once : list.aliases.count name ≤ 1)
    {item : SelectedItem}
    (member : item ∈ list)
    (named : item.aliasName = some name) : list.entriesUnder name = [item] := by
  have found : item ∈ list.entriesUnder name :=
    List.mem_filter.mpr ⟨member, by rw [named, beq_self_eq_true]⟩
  rw [← length_entriesUnder] at once
  match entries_eq : list.entriesUnder name with
  | [] => simp [entries_eq] at found
  | [only] =>
      rw [entries_eq, List.mem_singleton] at found
      rw [found]
  | first :: second :: rest => simp [entries_eq] at once

/-- Entries are added at the end, some of them in the order given. -/
theorem exists_addAll_eq_append_sublist (list : SelectList) (items : List SelectedItem) :
    ∃ added : SelectList, list.addAll items = list ++ added ∧ added.Sublist items := by
  induction items generalizing list with
  | nil => exact ⟨[], (List.append_nil list).symm, List.Sublist.refl _⟩
  | cons item items inductionHypothesis =>
      obtain ⟨added, grown, sublist⟩ := inductionHypothesis (list.add item)
      rw [addAll, List.foldl_cons, ← addAll, grown, add]
      split
      · exact ⟨added, rfl, sublist.cons item⟩
      · exact ⟨item :: added, by rw [List.append_assoc, List.singleton_append],
          sublist.cons_cons item⟩

end SelectList

/-! ## The aliases that an ordering needs -/

/-- The names that renderings give to columns of orderings start alike. -/
def IsOrderingAlias (name : String) : Prop :=
  "NUCORDER".toList <+: name.toList

instance (name : String) : Decidable (IsOrderingAlias name) :=
  inferInstanceAs (Decidable (_ <+: _))

namespace OrderTerm

theorem isOrderingAlias_columnAlias (term : OrderTerm) (termNumber columnNumber : Nat) :
    IsOrderingAlias (term.columnAlias termNumber columnNumber) := by
  unfold columnAlias IsOrderingAlias
  split
  · rw [String.append_assoc, String.append_assoc, String.toList_append]
    exact List.prefix_append ..
  · rw [String.toList_append]
    exact List.prefix_append ..

/-- The digits behind the stem of an alias are the number of its term. -/
theorem takeWhile_isDigit_columnAlias (term : OrderTerm) (termNumber columnNumber : Nat) :
    ((term.columnAlias termNumber columnNumber).toList.drop 8).takeWhile Char.isDigit =
      Nat.toDigits 10 termNumber := by
  have digits : ∀ digit ∈ Nat.toDigits 10 termNumber, digit.isDigit = true :=
    fun _ => Nat.isDigit_of_mem_toDigits (by decide) (by decide)
  have behindStem : ∀ tail : List Char,
      (("NUCORDER".toList ++ (Nat.toDigits 10 termNumber ++ tail)).drop 8).takeWhile Char.isDigit =
        Nat.toDigits 10 termNumber ++ tail.takeWhile Char.isDigit := by
    intro tail
    change (Nat.toDigits 10 termNumber ++ tail).takeWhile Char.isDigit = _
    exact List.takeWhile_append_of_pos digits
  unfold columnAlias
  split
  · rw [String.toList_append, String.toList_append, String.toList_append, List.append_assoc,
      List.append_assoc, Nat.toString_eq_repr, Nat.toList_repr, behindStem]
    exact List.append_nil _
  · rw [String.toList_append, Nat.toString_eq_repr, Nat.toList_repr]
    have := behindStem []
    rwa [List.append_nil, List.takeWhile_nil, List.append_nil] at this

theorem termNumber_eq_of_columnAlias_eq
    {first second : OrderTerm}
    {firstTerm firstColumn secondTerm secondColumn : Nat}
    (same : first.columnAlias firstTerm firstColumn =
      second.columnAlias secondTerm secondColumn) : firstTerm = secondTerm := by
  have digits : Nat.toDigits 10 firstTerm = Nat.toDigits 10 secondTerm := by
    rw [← first.takeWhile_isDigit_columnAlias firstTerm firstColumn, same,
      takeWhile_isDigit_columnAlias]
  rw [← Nat.toList_repr, ← Nat.toList_repr, String.toList_inj] at digits
  apply injective_numbered "" ""
  simp only [Nat.toString_eq_repr, digits]

/-- The columns of a term have aliases of their own. -/
theorem columnNumber_eq_of_columnAlias_eq
    {term : OrderTerm}
    {termNumber first second : Nat}
    (firstBound : first < term.expression.arity)
    (secondBound : second < term.expression.arity)
    (same : term.columnAlias termNumber first = term.columnAlias termNumber second) :
    first = second := by
  unfold columnAlias at same
  split at same
  · apply injective_numbered ("NUCORDER" ++ toString termNumber ++ "_") ""
    simpa only [String.append_empty] using same
  · omega

/-- A term is selected under the aliases of its columns. -/
theorem aliases_namedItems (term : OrderTerm) (termNumber : Nat) :
    SelectList.aliases (term.namedItems termNumber) =
      if term.expression.isResultAlias then []
      else (List.range term.expression.arity).map (term.columnAlias termNumber) := by
  rw [namedItems]
  split
  · rfl
  · have numbers : term.expression.components.zipIdx.map Prod.snd =
        List.range term.expression.arity := by
      rw [List.zipIdx_map_snd, List.range_eq_range']
      rfl
    rw [← numbers, List.map_map, SelectList.aliases, List.filterMap_map, ← List.filterMap_eq_map]
    rfl

theorem exists_columnAlias_of_mem_aliases
    {term : OrderTerm}
    {termNumber : Nat}
    {name : String}
    (member : name ∈ SelectList.aliases (term.namedItems termNumber)) :
    ∃ columnNumber, term.columnAlias termNumber columnNumber = name := by
  rw [aliases_namedItems] at member
  split at member
  · cases member
  · obtain ⟨columnNumber, _, alias_eq⟩ := List.mem_map.mp member
    exact ⟨columnNumber, alias_eq⟩

theorem nodup_aliases_namedItems (term : OrderTerm) (termNumber : Nat) :
    (SelectList.aliases (term.namedItems termNumber)).Nodup := by
  rw [aliases_namedItems]
  split
  · exact List.nodup_nil
  · refine List.Nodup.map_on (fun first firstMem second secondMem same => ?_) List.nodup_range
    exact columnNumber_eq_of_columnAlias_eq (List.mem_range.mp firstMem)
      (List.mem_range.mp secondMem) same

end OrderTerm

namespace QueryBlock

/-- The aliases that an ordering needs are names of orderings, and differ. -/
theorem aliases_orderingItems (block : QueryBlock) :
    (SelectList.aliases block.orderingItems).Nodup ∧
      ∀ name ∈ SelectList.aliases block.orderingItems, IsOrderingAlias name := by
  unfold orderingItems
  split
  · have unnamed : SelectList.aliases
        (block.ordering.flatMap (OrderTerm.positionalItems block.aggregated)) = [] := by
      rw [SelectList.aliases, List.filterMap_eq_nil_iff]
      intro item member
      obtain ⟨term, _, member⟩ := List.mem_flatMap.mp member
      obtain ⟨part, _, rfl⟩ := List.mem_map.mp member
      rfl
    rw [unnamed]
    exact ⟨List.nodup_nil, fun _ member => nomatch member⟩
  · have numbered : block.ordering.zipIdx.Pairwise fun first second => first.2 ≠ second.2 := by
      rw [← List.pairwise_map, List.zipIdx_map_snd]
      exact List.nodup_range'
    have aliases_eq : SelectList.aliases
        (block.ordering.zipIdx.flatMap fun entry => entry.1.namedItems entry.2) =
        block.ordering.zipIdx.flatMap fun entry =>
          SelectList.aliases (entry.1.namedItems entry.2) := List.filterMap_flatMap ..
    rw [aliases_eq, List.nodup_flatMap]
    refine ⟨⟨fun entry _ => entry.1.nodup_aliases_namedItems entry.2, ?_⟩, ?_⟩
    · refine numbered.imp fun {first second} differ name inFirst inSecond => differ ?_
      obtain ⟨firstColumn, rfl⟩ := OrderTerm.exists_columnAlias_of_mem_aliases inFirst
      obtain ⟨secondColumn, same⟩ := OrderTerm.exists_columnAlias_of_mem_aliases inSecond
      exact OrderTerm.termNumber_eq_of_columnAlias_eq same.symm
    · intro name member
      obtain ⟨entry, _, member⟩ := List.mem_flatMap.mp member
      obtain ⟨columnNumber, rfl⟩ := OrderTerm.exists_columnAlias_of_mem_aliases member
      exact entry.1.isOrderingAlias_columnAlias _ _
  · exact ⟨List.nodup_nil, fun _ member => nomatch member⟩

end QueryBlock

namespace Statement

/-- Rendering adds entries that the ordering needs, in their order, or none. -/
theorem exists_selected_sql_eq (statement : Statement) (framing : Framing) (id : StatementId) :
    ∃ added : SelectList, (statement.sql framing id).state.block.selected =
        statement.block.selected ++ added ∧
      added.Sublist statement.block.orderingItems := by
  have unchanged : ∀ other : QueryBlock, other.selected = statement.block.selected →
      ∃ added : SelectList, other.selected = statement.block.selected ++ added ∧
        added.Sublist statement.block.orderingItems := fun other same =>
    ⟨[], by rw [same, List.append_nil], List.nil_sublist _⟩
  have rows : ∀ head kind,
      (statement.block.rowQuery id head kind).state.selected = statement.block.selected := by
    intro head kind
    rw [QueryBlock.rowQuery_state_eq, QueryBlock.reorderJoins_state_eq]
  cases statement with
  | node root branches =>
      cases framing with
      | select =>
          have readied := root.selected.exists_addAll_eq_append_sublist root.orderingItems
          rw [← QueryBlock.selected_readied_eq] at readied
          have outcome := renderSelect_outcome [] root branches
          simp only [sql, selectSql, selectQuery, Outcome.state_map]
          generalize renderSelect [] (node root branches) = rendering at outcome ⊢
          cases outcome with
          | kept query kept => exact unchanged _ rfl
          | unordered error notKept circular =>
              exact unchanged _ (by rw [block_node, QueryBlock.reorderJoins_state_eq]; rfl)
          | stopped error events notKept ordered failed => exact readied
          | rendered queries events notKept ordered rendered => exact readied
      | update =>
          apply unchanged
          change (root.updateQuery id).state.selected = _
          unfold QueryBlock.updateQuery
          split
          · rfl
          · exact rows _ _
      | delete =>
          apply unchanged
          change (root.deleteQuery id).state.selected = _
          unfold QueryBlock.deleteQuery
          split
          · rfl
          · exact rows _ _

end Statement

/-! ## Runs that keep aliases apart -/

namespace QueryBlock

/-- A step selects a column under an alias that is in the select list already. -/
def RepeatsAlias (before after : QueryBlock) (name : String) : Prop :=
  name ∈ SelectList.aliases before.selected ∧
    name ∈ SelectList.aliases (after.selected.drop before.selected.length)

/-- When a step selects no two columns under one alias, an alias occurs twice afterwards
exactly if it did before or is repeated. -/
theorem count_aliases_le_one_iff
    {before after : QueryBlock}
    {added : SelectList}
    (grown : after.selected = before.selected ++ added)
    (once : added.aliases.Nodup)
    (name : String) :
    (SelectList.aliases after.selected).count name ≤ 1 ↔
      (SelectList.aliases before.selected).count name ≤ 1 ∧ ¬ before.RepeatsAlias after name := by
  have addedOnce := List.nodup_iff_count_le_one.mp once name
  rw [RepeatsAlias, grown, List.drop_left, SelectList.aliases_append, List.count_append,
    ← List.count_pos_iff, ← List.count_pos_iff]
  omega

end QueryBlock

namespace Operation

/-- The aliases under which an operation selects columns of a statement, unless it
renders it. -/
def aliases (operation : Operation) (statement : Statement) : List String :=
  match operation with
  | .render _ _ | .log _ => []
  | _ => SelectList.aliases
      ((operation.run statement).state.block.selected.drop statement.block.selected.length)

variable {operation : Operation}

theorem aliases_of_not_renders
    (mutates : ¬ operation.Renders)
    {statement : Statement}
    {added : SelectList}
    (grown : (operation.run statement).state.block.selected =
      statement.block.selected ++ added) :
    operation.aliases statement = added.aliases := by
  have added_eq : SelectList.aliases ((operation.run statement).state.block.selected.drop
      statement.block.selected.length) = added.aliases := by
    rw [grown, List.drop_left]
  rw [← added_eq]
  cases operation with
  | render framing id => exact absurd trivial mutates
  | log id => exact absurd trivial mutates
  | _ => rfl

/-- A rendering selects columns of the ordering alone. -/
theorem exists_selected_eq_of_renders (renders : operation.Renders) (statement : Statement) :
    ∃ added : SelectList, (operation.run statement).state.block.selected =
        statement.block.selected ++ added ∧
      added.Sublist statement.block.orderingItems := by
  cases operation with
  | render framing id => exact statement.exists_selected_sql_eq framing id
  | log id =>
      rw [run, Statement.state_log]
      exact statement.exists_selected_sql_eq _ id
  | _ => exact renders.elim

/-- A step leaves the aliases that were there, those that the caller chose, and names of
orderings. -/
theorem mem_aliases_or_of_mem_run
    {statement : Statement}
    {name : String}
    (member : name ∈ SelectList.aliases (operation.run statement).state.block.selected)
    (chosen : ¬ IsOrderingAlias name) :
    name ∈ SelectList.aliases statement.block.selected ∨ name ∈ operation.aliases statement := by
  by_cases renders : operation.Renders
  · obtain ⟨added, grown, needed⟩ := exists_selected_eq_of_renders renders statement
    rw [grown, SelectList.aliases_append, List.mem_append] at member
    refine .inl (member.resolve_right fun inAdded => chosen ?_)
    have fromOrdering := needed.filterMap SelectedItem.aliasName
    exact statement.block.aliases_orderingItems.2 name (fromOrdering.subset inAdded)
  · obtain ⟨added, grown⟩ := (Statement.editedTo_run operation statement).grows
    rw [aliases_of_not_renders renders grown.symm]
    rwa [← grown, SelectList.aliases_append, List.mem_append] at member

/-- When the caller chooses aliases that are new, an alias occurs twice after a step
exactly if it did before or the step is a rendering that repeats it. -/
theorem count_aliases_run_le_one_iff
    {statement : Statement}
    (distinct : (operation.aliases statement).Nodup)
    (foreign : ∀ name ∈ operation.aliases statement, ¬ IsOrderingAlias name)
    (unused : ∀ name ∈ SelectList.aliases statement.block.selected, ¬ IsOrderingAlias name →
      name ∉ operation.aliases statement)
    (name : String) :
    (SelectList.aliases (operation.run statement).state.block.selected).count name ≤ 1 ↔
      (SelectList.aliases statement.block.selected).count name ≤ 1 ∧
        ¬ (operation.Renders ∧
          statement.block.RepeatsAlias (operation.run statement).state.block name) := by
  by_cases renders : operation.Renders
  · obtain ⟨added, grown, needed⟩ := exists_selected_eq_of_renders renders statement
    have addedOnce : added.aliases.Nodup := statement.block.aliases_orderingItems.1.sublist
      (needed.filterMap SelectedItem.aliasName)
    rw [and_iff_right renders]
    exact QueryBlock.count_aliases_le_one_iff grown addedOnce name
  · obtain ⟨added, grown⟩ := (Statement.editedTo_run operation statement).grows
    rw [aliases_of_not_renders renders grown.symm] at distinct foreign unused
    have chosenAnew : ¬ statement.block.RepeatsAlias (operation.run statement).state.block
        name := by
      rw [QueryBlock.RepeatsAlias, ← grown, List.drop_left]
      exact fun ⟨inBefore, inAdded⟩ => unused name inBefore (foreign name inAdded) inAdded
    rw [QueryBlock.count_aliases_le_one_iff grown.symm distinct name, and_iff_left chosenAnew,
      and_iff_left fun rendered => renders rendered.1]

end Operation

namespace Statement

/-- The aliases under which a run selects columns, those of renderings apart. -/
def callerAliases : List Operation → Statement → List String
  | [], _ => []
  | operation :: rest, statement =>
      operation.aliases statement ++ callerAliases rest (operation.run statement).state

/-- Some rendering of a run selects a column under an alias that is in the select list
already. -/
def RepeatsAlias : List Operation → Statement → String → Prop
  | [], _, _ => False
  | operation :: rest, statement, name =>
      (operation.Renders ∧
        statement.block.RepeatsAlias (operation.run statement).state.block name) ∨
      RepeatsAlias rest (operation.run statement).state name

/-- When callers choose aliases of their own, an alias occurs twice in the end exactly if it
did at first or a rendering repeated it. -/
theorem count_aliases_runAll_le_one_iff
    {operations : List Operation}
    {statement : Statement}
    (distinct : (callerAliases operations statement).Nodup)
    (foreign : ∀ name ∈ callerAliases operations statement, ¬ IsOrderingAlias name)
    (unused : ∀ name ∈ SelectList.aliases statement.block.selected, ¬ IsOrderingAlias name →
      name ∉ callerAliases operations statement)
    (name : String) :
    (SelectList.aliases (statement.runAll operations).block.selected).count name ≤ 1 ↔
      (SelectList.aliases statement.block.selected).count name ≤ 1 ∧
        ¬ RepeatsAlias operations statement name := by
  induction operations generalizing statement with
  | nil => exact (and_iff_left not_false).symm
  | cons operation rest inductionHypothesis =>
      rw [callerAliases] at distinct foreign unused
      obtain ⟨distinctStep, distinctRest, apart⟩ := List.nodup_append.mp distinct
      obtain ⟨foreignStep, foreignRest⟩ := List.forall_mem_append.mp foreign
      have step := Operation.count_aliases_run_le_one_iff distinctStep foreignStep
        (fun other member chosen inStep =>
          unused other member chosen (List.mem_append_left _ inStep)) name
      rw [RepeatsAlias, not_or, ← and_assoc, ← step]
      refine inductionHypothesis distinctRest foreignRest fun other member chosen inRest => ?_
      cases Operation.mem_aliases_or_of_mem_run member chosen with
      | inl inBefore => exact unused other inBefore chosen (List.mem_append_right _ inRest)
      | inr inStep => exact apart other inStep other inRest rfl

/-- What no edit breaks holds of the root of a statement all through a run. -/
theorem block_runAll
    {property : QueryBlock → Prop}
    (atFirst : ∀ id ancestry dialect namer options primary,
      property (.ofPrimary id ancestry dialect namer options primary))
    (closed : ∀ first second, QueryBlock.Becomes first second → property first → property second)
    {builder : StatementBuilder}
    {strategies : NamingStrategies}
    {id : StatementId}
    {start : Statement}
    (built : builder.build strategies id = .ok start)
    (operations : List Operation) : property (start.runAll operations).block := by
  have ofRun : ∀ statement : Statement, property statement.block →
      property (statement.runAll operations).block := by
    induction operations with
    | nil => exact fun _ holds => holds
    | cons operation rest inductionHypothesis =>
        exact fun statement holds => inductionHypothesis _
          ((editedTo_run operation statement).preserves closed holds)
  obtain ⟨namer, primary, rfl⟩ := exists_ofPrimary_of_build built
  exact ofRun _ (atFirst _ _ _ _ _ _)

end Statement

/-! ## Names in the ORDER BY -/

theorem Expression.isResultAlias_of_mem_components
    {expression column : Expression}
    (member : column ∈ expression.components) :
    column.isResultAlias = expression.isResultAlias := by
  cases expression with
  | columns table aliasName names =>
      cases names with
      | nil => rw [List.mem_singleton.mp member]
      | cons name names =>
          rw [components_columns_cons] at member
          obtain ⟨part, _, rfl⟩ := List.mem_map.mp member
          rfl
  | _ => rw [List.mem_singleton.mp member]

namespace QueryBlock

/-- Where the name of a column in the ORDER BY is an alias, one entry of the select list
has this alias, and it is the column. -/
def Unambiguous (block : QueryBlock) : Prop :=
  ∀ key ∈ block.orderKeys, key.expression.isResultAlias = false →
    key.name ∈ SelectList.aliases block.selected →
      ∃ entry, SelectList.entriesUnder block.selected key.name = [entry] ∧
        entry.sql = key.expression.text

/-- A column of the ordering is selected without an alias, and its text is the alias of
another entry. -/
def Shadowed (block : QueryBlock) : Prop :=
  ∃ key ∈ block.orderKeys, key.expression.isResultAlias = false ∧
    key.expression.text ∈ SelectList.aliases block.selected ∧
      ∃ entry ∈ block.selected, entry.sql = key.expression.text ∧ entry.aliasName = none

instance (block : QueryBlock) : Decidable block.Shadowed :=
  inferInstanceAs (Decidable (∃ key ∈ _, _ ∧ _ ∧ ∃ entry ∈ _, _ ∧ _))

/-- The columns of the ordering are named as they are selected, in a block that selects
each text once. -/
structure NamesOrdering (block : QueryBlock) : Prop where
  mode : block.orderMode = .selected
  distinct : SelectList.Distinct block.selected
  selects : ∀ item ∈ block.orderingItems, block.selected.hasSql item.sql = true

variable {block : QueryBlock}

theorem orderMode_eq_selected
    (topLevel : block.isSubquery = false)
    (byName : block.capabilities.ordersByPosition = false)
    (selectsColumns : block.capabilities.selectsOrderingColumns = true)
    (plain : block.aggregated = false) : block.orderMode = .selected := by
  simp only [orderMode, topLevel, byName, selectsColumns, plain, Bool.not_false, Bool.and_true,
    Bool.false_eq_true, ↓reduceIte]

/-- The key of a column of the ordering names the column as it is selected. -/
theorem NamesOrdering.exists_term
    (names : block.NamesOrdering)
    {key : OrderKey}
    (member : key ∈ block.orderKeys)
    (column : key.expression.isResultAlias = false) :
    ∃ term ∈ block.ordering, term.expression.isResultAlias = false ∧
      key.expression ∈ term.expression.components ∧
      key.name = ((SelectList.find? block.selected key.expression.text).bind
        SelectedItem.aliasName).getD key.expression.text := by
  obtain ⟨term, termMem, member⟩ := List.mem_flatMap.mp member
  rw [names.mode] at member
  obtain ⟨part, partMem, rfl⟩ := List.mem_map.mp member
  have notAlias := (Expression.isResultAlias_of_mem_components partMem).symm.trans column
  refine ⟨term, termMem, notAlias, partMem, ?_⟩
  simp only [OrderTerm.key, notAlias, Bool.false_eq_true, ↓reduceIte]

/-- A column is named by the alias under which it is selected, or else by its text. -/
theorem NamesOrdering.exists_entry
    (names : block.NamesOrdering)
    {key : OrderKey}
    (member : key ∈ block.orderKeys)
    (column : key.expression.isResultAlias = false) :
    ∃ entry ∈ block.selected, entry.sql = key.expression.text ∧
      key.name = entry.aliasName.getD key.expression.text := by
  obtain ⟨term, termMem, notAlias, partMem, name_eq⟩ := names.exists_term member column
  obtain ⟨termNumber, atTerm⟩ := List.mem_iff_getElem?.mp termMem
  obtain ⟨columnNumber, atPart⟩ := List.mem_iff_getElem?.mp partMem
  let item : SelectedItem :=
    { sql := key.expression.text
      aliasName := some (term.columnAlias termNumber columnNumber)
      isPrimary := true }
  have needed : item ∈ block.orderingItems := by
    rw [orderingItems, names.mode]
    refine List.mem_flatMap.mpr ⟨(term, termNumber), List.mem_zipIdx_iff_getElem?.mpr atTerm, ?_⟩
    rw [OrderTerm.namedItems, if_neg (by simp [notAlias])]
    exact List.mem_map.mpr
      ⟨(key.expression, columnNumber), List.mem_zipIdx_iff_getElem?.mpr atPart, rfl⟩
  have selected := names.selects item needed
  rw [← SelectList.isSome_find?] at selected
  obtain ⟨entry, found⟩ := Option.isSome_iff_exists.mp selected
  refine ⟨entry, List.mem_of_find?_eq_some found, SelectList.sql_of_find?_eq_some found, ?_⟩
  rw [name_eq, found, Option.bind_some]

theorem NamesOrdering.not_shadowed
    (names : block.NamesOrdering)
    (unambiguous : block.Unambiguous) : ¬ block.Shadowed := by
  rintro ⟨key, member, column, isAlias, entry, entryMem, sql_eq, unnamed⟩
  obtain ⟨found, foundMem, foundSql, name_eq⟩ := names.exists_entry member column
  obtain rfl := names.distinct.eq_of_sql_eq entryMem foundMem (sql_eq.trans foundSql.symm)
  rw [unnamed, Option.getD_none] at name_eq
  obtain ⟨only, only_eq, onlySql⟩ := unambiguous key member column (name_eq ▸ isAlias)
  have onlyMem : only ∈ SelectList.entriesUnder block.selected key.name :=
    only_eq ▸ List.mem_singleton_self only
  obtain ⟨onlySelected, onlyNamed⟩ := List.mem_filter.mp onlyMem
  obtain rfl := names.distinct.eq_of_sql_eq entryMem onlySelected (sql_eq.trans onlySql.symm)
  simp [unnamed] at onlyNamed

/-- Names are unambiguous if they do not occur twice among the aliases, and none that is
the text of a column occurs there. -/
theorem NamesOrdering.unambiguous_iff (names : block.NamesOrdering) :
    block.Unambiguous ↔
      (∀ key ∈ block.orderKeys, key.expression.isResultAlias = false →
        (SelectList.aliases block.selected).count key.name ≤ 1) ∧ ¬ block.Shadowed := by
  constructor
  · refine fun unambiguous => ⟨fun key member column => ?_, names.not_shadowed unambiguous⟩
    by_cases isAlias : key.name ∈ SelectList.aliases block.selected
    · obtain ⟨entry, only, _⟩ := unambiguous key member column isAlias
      exact Nat.le_of_eq (by rw [← SelectList.length_entriesUnder, only, List.length_singleton])
    · rw [List.count_eq_zero.mpr isAlias]
      exact Nat.zero_le 1
  · rintro ⟨once, visible⟩ key member column isAlias
    obtain ⟨entry, entryMem, sql_eq, name_eq⟩ := names.exists_entry member column
    refine ⟨entry, ?_, sql_eq⟩
    cases named : entry.aliasName with
    | none =>
        rw [named, Option.getD_none] at name_eq
        rw [name_eq] at isAlias
        exact absurd ⟨key, member, column, isAlias, entry, entryMem, sql_eq, named⟩ visible
    | some name =>
        rw [named, Option.getD_some] at name_eq
        rw [name_eq]
        exact SelectList.entriesUnder_eq_singleton (name_eq ▸ once key member column) entryMem
          named

end QueryBlock

namespace Statement

open QueryBlock (NamesOrdering)

/-- When callers choose aliases of their own, the names of columns in the ORDER BY of a
SELECT are unambiguous exactly if no rendering, neither on the way nor this one, has selected
a column under such a name while it was taken, and if none that is the text of a column
without an alias is the alias of another. -/
theorem unambiguous_iff_not_repeatsAlias
    {builder : StatementBuilder}
    {strategies : NamingStrategies}
    {id : StatementId}
    {start statement : Statement}
    {operations : List Operation}
    {query : SelectQuery}
    (built : builder.build strategies id = .ok start)
    (ran : start.runAll operations = statement)
    (distinct : (callerAliases operations start).Nodup)
    (foreign : ∀ name ∈ callerAliases operations start, ¬ IsOrderingAlias name)
    (topLevel : statement.block.isSubquery = false)
    (byName : statement.block.capabilities.ordersByPosition = false)
    (selectsColumns : statement.block.capabilities.selectsOrderingColumns = true)
    (plain : statement.block.aggregated = false)
    (rendered : statement.selectQuery.result = .ok query) :
    let after := statement.selectQuery.state.block
    query.ending.orderBy = after.orderKeys.map after.dialect.orderItem ∧
      query.Lists after.selected ∧
      (after.Unambiguous ↔
        (∀ key ∈ after.orderKeys, key.expression.isResultAlias = false →
          ¬ RepeatsAlias operations start key.name ∧
            ¬ statement.block.RepeatsAlias after key.name) ∧
        ¬ after.Shadowed) := by
  intro after
  subst ran
  have readied := (related_renderSelect [] (start.runAll operations)).block
  have edited : QueryBlock.EditedTo (start.runAll operations).block after := .inr readied
  have current : after.KeepsCurrent :=
    edited.preserves (fun _ _ becomes => .becomes becomes)
      (block_runAll (fun _ _ _ _ _ _ => .of_cache_eq_none rfl)
        (fun _ _ becomes => .becomes becomes) built operations)
  have kept := QueryBlock.cachedSelect?_eq_some_iff.mp
    (cachedSelect?_of_result_renderSelect rendered)
  obtain ⟨query_eq, selects⟩ := current.select query kept
  have names : after.NamesOrdering :=
    { mode := readied.orderMode_eq.trans
        (QueryBlock.orderMode_eq_selected topLevel byName selectsColumns plain)
      distinct := edited.preserves (fun _ _ becomes => becomes.distinct)
        (block_runAll (fun _ _ _ _ _ _ => List.nodup_nil)
          (fun _ _ becomes => becomes.distinct) built operations)
      selects := selects }
  refine ⟨by rw [query_eq]; rfl, by rw [query_eq]; exact QueryBlock.lists_query .., ?_⟩
  have once_iff : ∀ name, (SelectList.aliases after.selected).count name ≤ 1 ↔
      ¬ RepeatsAlias operations start name ∧
        ¬ (start.runAll operations).block.RepeatsAlias after name := by
    intro name
    have empty : start.block.selected = [] := by
      obtain ⟨namer, primary, rfl⟩ := exists_ofPrimary_of_build built
      rfl
    have noAliases : SelectList.aliases start.block.selected = [] := by
      rw [empty]
      rfl
    obtain ⟨added, grown, needed⟩ : ∃ added : SelectList,
        after.selected = (start.runAll operations).block.selected ++ added ∧
          added.Sublist (start.runAll operations).block.orderingItems :=
      (start.runAll operations).exists_selected_sql_eq .select id
    have addedOnce := (start.runAll operations).block.aliases_orderingItems.1.sublist
      (needed.filterMap SelectedItem.aliasName)
    rw [QueryBlock.count_aliases_le_one_iff grown addedOnce,
      count_aliases_runAll_le_one_iff distinct foreign (by simp [noAliases]), noAliases,
      List.count_nil, and_iff_right (Nat.zero_le 1)]
  simp only [names.unambiguous_iff, once_iff]

/-- Order people by columns, or by several columns at a time. -/
def orderPeople (columns : List (List String)) : Operation :=
  .setOrdering (columns.map (Expression.columns "person" "A0")) (columns.map fun _ => false) none

/-- People are ordered by age and rendered, and then ordered by their names first. -/
def peopleByNameAndAge : List Operation :=
  [.selectColumn none { table := "person", name := "name" } (some "called") true,
    orderPeople [["age"]], .render .select ⟨2⟩,
    orderPeople [["name"], ["age"], ["zone", "street"]]]

/-- The age keeps the alias that it got when it came first. -/
theorem unambiguous_peopleByNameAndAge :
    let ordered := (people .postgresql).runAll peopleByNameAndAge
    callerAliases peopleByNameAndAge (people .postgresql) = ["called"] ∧
      ordered.selectSql.result = .ok
        ("SELECT A0.name AS called, A0.age AS NUCORDER0, A0.zone AS NUCORDER2_0, " ++
          "A0.street AS NUCORDER2_1 FROM person A0 " ++
          "ORDER BY called, NUCORDER0, NUCORDER2_0, NUCORDER2_1") ∧
      ordered.selectQuery.state.block.Unambiguous := by
  intro ordered
  let builder : StatementBuilder :=
    { dialect := .ofCapabilities .postgresql
      table := { name := "person" }
      aliasName := some "A0" }
  have built : builder.build .standard ⟨1⟩ = .ok (people .postgresql) := rfl
  have aliases_eq : callerAliases peopleByNameAndAge (people .postgresql) = ["called"] := by
    decide +kernel
  have foreign : ∀ name ∈ callerAliases peopleByNameAndAge (people .postgresql),
      ¬ IsOrderingAlias name := by
    rw [aliases_eq]
    decide
  have apart : ∀ name, ¬ RepeatsAlias peopleByNameAndAge (people .postgresql) name := by
    have renderedApart : ∀ name ∈ ["called"], name ∉ ["NUCORDER0"] := by decide
    rintro name (⟨⟨⟩, _⟩ | ⟨⟨⟩, _⟩ | ⟨_, taken, added⟩ | ⟨⟨⟩, _⟩ | ⟨⟨⟩⟩)
    exact renderedApart name taken added
  have rendered : ∃ query, ordered.selectQuery.result = .ok query := ⟨_, rfl⟩
  obtain ⟨query, rendered⟩ := rendered
  obtain ⟨_, _, unambiguous_iff⟩ := unambiguous_iff_not_repeatsAlias built rfl
    (by rw [aliases_eq]; decide) foreign rfl rfl rfl rfl rendered
  have lastApart : ∀ name, ¬ ordered.block.RepeatsAlias ordered.selectQuery.state.block name := by
    have renderedApart : ∀ name ∈ ["called", "NUCORDER0"],
        name ∉ ["NUCORDER2_0", "NUCORDER2_1"] := by decide
    exact fun name repeated => renderedApart name repeated.1 repeated.2
  exact ⟨aliases_eq, by decide +kernel,
    unambiguous_iff.mpr ⟨fun key _ _ => ⟨apart key.name, lastApart key.name⟩, by decide +kernel⟩⟩

/-- People are ordered by name and rendered, and then ordered by their ages first. -/
def peopleByAgeAndName : List Operation :=
  [.selectColumn none { table := "person", name := "id" } none true,
    orderPeople [["name"]], .render .select ⟨2⟩, orderPeople [["age"], ["name"]]]

/-- The name keeps the alias that it got when it came first, and the age, which comes
first now, gets the same. -/
theorem not_unambiguous_peopleByAgeAndName :
    let ordered := (people .postgresql).runAll peopleByAgeAndName
    callerAliases peopleByAgeAndName (people .postgresql) = [] ∧
      ordered.block.isSubquery = false ∧ ordered.block.aggregated = false ∧
      ordered.branches = [] ∧
      ordered.selectSql.result = .ok ("SELECT A0.id, A0.name AS NUCORDER0, " ++
        "A0.age AS NUCORDER0 FROM person A0 ORDER BY NUCORDER0, NUCORDER0") ∧
      ¬ ordered.selectQuery.state.block.Unambiguous := by
  intro ordered
  refine ⟨by decide +kernel, rfl, rfl, rfl, by decide +kernel, fun unambiguous => ?_⟩
  let key : OrderKey :=
    { name := "NUCORDER0"
      expression := .columns "person" "A0" ["age"]
      descending := false
      nulls := none
      positional := false }
  obtain ⟨entry, only, _⟩ := unambiguous key (by decide +kernel) rfl (by decide +kernel)
  have length_eq := congrArg List.length only
  rw [List.length_singleton] at length_eq
  revert length_eq
  decide +kernel

end Statement
end SqlBuilder
