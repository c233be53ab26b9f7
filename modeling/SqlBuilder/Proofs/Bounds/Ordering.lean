import SqlBuilder.Proofs.Bounds.Access

/-!
# Checked selection of ordering columns

An ordering is given by parallel lists. Its columns are selected one after the other, each
position that is answered with is looked up at once, and each direction is read by the
number of its expression. As long as the lists are of one length nothing is looked up in
vain, and the keys are those that are read off the select list in the end.
-/

namespace SqlBuilder

namespace QueryBlock

variable {block : QueryBlock}

theorem distinct_addItems
    (distinct : block.selected.Distinct)
    (items : List SelectedItem) : (block.addItems items).selected.Distinct := by
  rw [selected_addItems]
  exact distinct.addAll items

/-- Select entries one after the other. -/
def putAll? (block : QueryBlock) (items : List SelectedItem) : Option QueryBlock :=
  items.foldlM (fun grown item => (grown.put? item).map Prod.fst) block

end QueryBlock

namespace OrderTerm

/-- The entries that a term adds to a select list, given how the ordering refers to
columns. -/
def items (term : OrderTerm) (mode : OrderMode) (aggregated : Bool) (number : Nat) :
    List SelectedItem :=
  match mode with
  | .positional => term.positionalItems aggregated
  | .selected => term.namedItems number
  | .direct => []

/-- The entries of terms that are numbered from a number on. -/
def itemsFrom (mode : OrderMode) (aggregated : Bool) (number : Nat) (terms : List OrderTerm) :
    List SelectedItem :=
  (terms.zipIdx number).flatMap fun entry => entry.1.items mode aggregated entry.2

/-- Select columns one after the other, and write a key for each from its position and its
alias. -/
def putColumns? (write : Nat → Option String → Expression → OrderKey) :
    List (Expression × SelectedItem) → QueryBlock → Option (QueryBlock × List OrderKey)
  | [], block => some (block, [])
  | (column, item) :: rest, block => do
      let (grown, position, entry) ← block.put? item
      let (ready, keys) ← putColumns? write rest grown
      return (ready, write position entry.aliasName column :: keys)

/-- The keys of a term, one for each column, which is selected where the ordering asks
for it. -/
def keys? (term : OrderTerm) (mode : OrderMode) (aggregated : Bool) (number : Nat)
    (block : QueryBlock) : Option (QueryBlock × List OrderKey) :=
  if term.expression.isResultAlias && mode != .positional then
    some (block, [term.key term.expression.text term.expression false])
  else
    match mode with
    | .positional =>
        putColumns? (fun position _ column => term.key (toString position) column true)
          (term.expression.components.zip (term.positionalItems aggregated)) block
    | .selected =>
        putColumns? (fun _ aliasName column => term.key (aliasName.getD column.text) column false)
          (term.expression.components.zip (term.namedItems number)) block
    | .direct =>
        some (block, term.expression.components.map fun column =>
          term.key column.text column false)

/-- The columns stand in the list that results as each of them stood when it was looked
up. -/
theorem putColumns?_eq
    (write : Nat → Option String → Expression → OrderKey)
    {block : QueryBlock}
    (distinct : block.selected.Distinct)
    (columns : List (Expression × SelectedItem)) :
    putColumns? write columns block =
      some (block.addItems (columns.map Prod.snd), columns.map fun column =>
        write ((block.addItems (columns.map Prod.snd)).selected.position column.2.sql)
          (((block.addItems (columns.map Prod.snd)).selected.find? column.2.sql).bind
            SelectedItem.aliasName)
          column.1) := by
  induction columns generalizing block with
  | nil => rfl
  | cons first rest inductionHypothesis =>
      obtain ⟨column, item⟩ := first
      obtain ⟨entry, put_eq, find_eq⟩ := QueryBlock.exists_put?_eq distinct item
      have grown : (block.addItem item).selected <+:
          ((block.addItem item).addItems (rest.map Prod.snd)).selected := by
        rw [QueryBlock.selected_addItems]
        exact SelectList.prefix_addAll _ _
      have present : (block.addItem item).selected.hasSql item.sql = true :=
        SelectList.isSome_find? _ _ ▸ Option.isSome_of_eq_some find_eq
      obtain ⟨position_eq, later_eq⟩ :=
        SelectList.position_eq_and_find?_eq_of_isPrefix grown present
      have others : putColumns? write rest (block.addItem item) = some _ :=
        inductionHypothesis (QueryBlock.distinct_addItems distinct [item])
      simp only [putColumns?, put_eq, others, Option.bind_eq_bind, Option.bind_some,
        Option.pure_def, List.map_cons, QueryBlock.addItems_cons, position_eq, later_eq, find_eq]

theorem components_of_isResultAlias
    {expression : Expression}
    (isAlias : expression.isResultAlias = true) : expression.components = [expression] := by
  cases expression with
  | resultAlias name => rfl
  | columns | aggregate | derived => cases isAlias

/-- The keys of a term are those that are read off the list that its columns have been
added to. -/
theorem keys?_eq
    (term : OrderTerm)
    (mode : OrderMode)
    (aggregated : Bool)
    (number : Nat)
    {block : QueryBlock}
    (distinct : block.selected.Distinct) :
    term.keys? mode aggregated number block =
      some (block.addItems (term.items mode aggregated number),
        term.keys mode (block.addItems (term.items mode aggregated number)).selected) := by
  cases mode with
  | positional =>
      have pairs : term.expression.components.zip (term.positionalItems aggregated) =
          term.expression.components.map fun column =>
            (column, ⟨column.text, none, !aggregated⟩) := by
        conv_lhs => rw [← List.map_id term.expression.components]
        exact List.zip_map'
      have items_eq : (term.expression.components.map fun column =>
          (column, (⟨column.text, none, !aggregated⟩ : SelectedItem))).map Prod.snd =
            term.items .positional aggregated number := by
        rw [List.map_map]
        rfl
      simp only [keys?, bne_self_eq_false, Bool.and_false, Bool.false_eq_true, if_false]
      rw [pairs, putColumns?_eq _ distinct, items_eq, List.map_map]
      rfl
  | selected =>
      by_cases isAlias : term.expression.isResultAlias = true
      · have components_eq := components_of_isResultAlias isAlias
        simp [keys?, isAlias, items, namedItems, keys, components_eq]
      · have pairs : term.expression.components.zip (term.namedItems number) =
            term.expression.components.zipIdx.map fun entry =>
              (entry.1, ⟨entry.1.text, some (term.columnAlias number entry.2), true⟩) := by
          conv_lhs => rw [← List.zipIdx_map_fst 0 term.expression.components]
          rw [namedItems, if_neg isAlias]
          exact List.zip_map'
        have items_eq : (term.expression.components.zipIdx.map fun entry =>
            (entry.1, (⟨entry.1.text, some (term.columnAlias number entry.2), true⟩ :
              SelectedItem))).map Prod.snd =
              term.items .selected aggregated number := by
          rw [List.map_map, items, namedItems, if_neg isAlias]
          rfl
        simp only [keys?, isAlias, Bool.false_and, Bool.false_eq_true, if_false]
        have keys_eq (list : SelectList) : term.keys .selected list =
            term.expression.components.zipIdx.map fun entry =>
              term.key (((list.find? entry.1.text).bind SelectedItem.aliasName).getD entry.1.text)
                entry.1 false := by
          rw [map_zipIdx_fst fun column =>
            term.key (((list.find? column.text).bind SelectedItem.aliasName).getD column.text)
              column false]
          simp [keys, isAlias]
        rw [pairs, putColumns?_eq _ distinct, items_eq, List.map_map, keys_eq]
        rfl
  | direct =>
      by_cases isAlias : term.expression.isResultAlias = true
      · have components_eq := components_of_isResultAlias isAlias
        simp [keys?, isAlias, items, keys, components_eq]
      · simp [keys?, isAlias, items, keys]

/-- The keys of a term stay the same when more is selected behind its columns. -/
theorem keys_eq_of_isPrefix
    {term : OrderTerm}
    {mode : OrderMode}
    {aggregated : Bool}
    {number : Nat}
    {list longer : SelectList}
    (grown : list <+: longer)
    (present : ∀ item ∈ term.items mode aggregated number, list.hasSql item.sql = true) :
    term.keys mode longer = term.keys mode list := by
  unfold keys
  apply List.map_congr_left
  intro column member
  cases mode with
  | positional =>
      have selected := present _ (List.mem_map_of_mem member)
      dsimp only
      rw [(SelectList.position_eq_and_find?_eq_of_isPrefix grown selected).1]
  | selected =>
      by_cases isAlias : term.expression.isResultAlias = true
      · simp only [if_pos isAlias]
      · have texts_eq : (term.namedItems number).map SelectedItem.sql =
            term.expression.components.map Expression.text := by
          rw [namedItems, if_neg isAlias, List.map_map]
          exact map_zipIdx_fst Expression.text _
        have columnText : column.text ∈ (term.namedItems number).map SelectedItem.sql :=
          texts_eq ▸ List.mem_map_of_mem member
        obtain ⟨item, itemMem, isText⟩ := List.mem_map.mp columnText
        have selected := present item itemMem
        rw [isText] at selected
        simp only [if_neg isAlias,
          (SelectList.position_eq_and_find?_eq_of_isPrefix grown selected).2]
  | direct => rfl

end OrderTerm

/-! ## Parallel lists -/

/-- An ordering as it is asked for, in parallel lists. -/
structure OrderingLists where
  expressions : List Expression := []
  directions : List Bool := []
  nulls : Option (List (Option NullOrder)) := none
  deriving DecidableEq, Repr

namespace OrderingLists

/-- The place of nulls that is asked for the expression with a number, if there is one. -/
def nullsAt (lists : OrderingLists) (number : Nat) : Option NullOrder :=
  lists.nulls.bind fun places => places[number]?.join

/-- The keys of some expressions with their numbers. Each direction is read by the number
of its expression. -/
def keysOf? (lists : OrderingLists) (mode : OrderMode) (aggregated : Bool) :
    List (Expression × Nat) → QueryBlock → Option (QueryBlock × List OrderKey)
  | [], block => some (block, [])
  | (expression, number) :: rest, block => do
      let descending ← lists.directions[number]?
      let term : OrderTerm := ⟨expression, descending, lists.nullsAt number⟩
      let (grown, keys) ← term.keys? mode aggregated number block
      let (ready, others) ← keysOf? lists mode aggregated rest grown
      return (ready, keys ++ others)

/-- The keys of the ordering of a block, with its columns selected where it asks for
that. -/
def keys? (lists : OrderingLists) (block : QueryBlock) :
    Option (QueryBlock × List OrderKey) :=
  lists.keysOf? block.orderMode block.aggregated lists.expressions.zipIdx block

/-- An expression and the direction and the place of nulls under its number are a term. -/
def ReadsAs (lists : OrderingLists) (entry : Expression × Nat) (term : OrderTerm) : Prop :=
  term.expression = entry.1 ∧ lists.directions[entry.2]? = some term.descending ∧
    lists.nullsAt entry.2 = term.nulls

/-- Number by number the lists read as these terms. -/
def StandsFor (lists : OrderingLists) (terms : List OrderTerm) : Prop :=
  List.Forall₂ lists.ReadsAs lists.expressions.zipIdx terms

/-- Lists of one length stand for the terms that are made from them. -/
theorem standsFor_ofLists
    {lists : OrderingLists}
    (sameLength : lists.expressions.length = lists.directions.length)
    (nullsLength : ∀ places ∈ lists.nulls, lists.expressions.length = places.length) :
    lists.StandsFor
      (OrderTerm.ofLists lists.expressions lists.directions lists.nulls) := by
  have placesLength : lists.expressions.length =
      (lists.nulls.getD (lists.expressions.map fun _ => none)).length := by
    cases given : lists.nulls with
    | none => simp
    | some places => exact nullsLength places given
  rw [StandsFor, List.forall₂_iff_get]
  refine ⟨?_, ?_⟩
  · rw [OrderTerm.ofLists, List.length_map, List.length_zip, List.length_zip, ← sameLength,
      ← placesLength, Nat.min_self, Nat.min_self, List.length_zipIdx]
  · intro number inExpressions inTerms
    rw [List.length_zipIdx] at inExpressions
    have inDirections := sameLength ▸ inExpressions
    have nullsAt_eq : (lists.nulls.getD (lists.expressions.map fun _ => none))[number]? =
        some (lists.nullsAt number) := by
      rw [nullsAt]
      cases given : lists.nulls with
      | none => simp [inExpressions]
      | some places =>
          have inPlaces := nullsLength places given ▸ inExpressions
          simp [inPlaces]
    simp only [OrderTerm.ofLists, List.get_eq_getElem, List.getElem_map, List.getElem_zip,
      List.getElem_zipIdx, Nat.zero_add]
    exact ⟨rfl, List.getElem?_eq_getElem inDirections,
      ((List.getElem_eq_iff _).mpr nullsAt_eq).symm⟩

/-- Each key stays as it was read off the list behind the columns of its own term. -/
theorem keysOf?_eq
    {lists : OrderingLists}
    (mode : OrderMode)
    (aggregated : Bool)
    {number : Nat}
    {expressions : List Expression}
    {terms : List OrderTerm}
    (reads : List.Forall₂ lists.ReadsAs (expressions.zipIdx number) terms)
    {block : QueryBlock}
    (distinct : block.selected.Distinct) :
    lists.keysOf? mode aggregated (expressions.zipIdx number) block =
      some (block.addItems (OrderTerm.itemsFrom mode aggregated number terms),
        terms.flatMap fun term => term.keys mode
          (block.addItems (OrderTerm.itemsFrom mode aggregated number terms)).selected) := by
  induction expressions generalizing number terms block with
  | nil =>
      cases reads
      rfl
  | cons expression rest inductionHypothesis =>
      rw [List.zipIdx_cons] at reads ⊢
      cases reads with
      | @cons _ term _ terms ofTerm others =>
          obtain ⟨rfl, direction, nulls_eq⟩ := ofTerm
          have keys_eq := term.keys?_eq mode aggregated number distinct
          have rest_eq := inductionHypothesis others
            (QueryBlock.distinct_addItems distinct (term.items mode aggregated number))
          have grown : (block.addItems (term.items mode aggregated number)).selected <+:
              ((block.addItems (term.items mode aggregated number)).addItems
                (OrderTerm.itemsFrom mode aggregated (number + 1) terms)).selected := by
            rw [QueryBlock.selected_addItems (block.addItems _)]
            exact SelectList.prefix_addAll _ _
          have stays := OrderTerm.keys_eq_of_isPrefix grown fun item member =>
            block.hasSql_addItems_of_mem _ member
          have items_eq : OrderTerm.itemsFrom mode aggregated number (term :: terms) =
              term.items mode aggregated number ++
                OrderTerm.itemsFrom mode aggregated (number + 1) terms := rfl
          simp only [keysOf?, direction, Option.bind_eq_bind, Option.bind_some, nulls_eq, keys_eq,
            rest_eq, Option.pure_def, items_eq, QueryBlock.addItems_append, List.flatMap_cons,
            stays]

/-- The entries that the ordering of a block needs are those of its terms. -/
theorem orderingItems_eq_itemsFrom (block : QueryBlock) :
    block.orderingItems =
      OrderTerm.itemsFrom block.orderMode block.aggregated 0 block.ordering := by
  rw [QueryBlock.orderingItems, OrderTerm.itemsFrom]
  cases block.orderMode with
  | positional =>
      conv_lhs => rw [← List.zipIdx_map_fst 0 block.ordering]
      rw [List.flatMap_map]
      rfl
  | selected => rfl
  | direct => exact (List.flatMap_eq_nil_iff.mpr fun _ _ => rfl).symm

/-- Selecting the columns of an ordering never goes wrong. -/
theorem keys?_eq
    {lists : OrderingLists}
    {block : QueryBlock}
    (stands : lists.StandsFor block.ordering)
    (distinct : block.selected.Distinct) :
    lists.keys? block =
      some (block.addItems block.orderingItems, (block.addItems block.orderingItems).orderKeys) := by
  rw [keys?, keysOf?_eq _ _ stands distinct, ← orderingItems_eq_itemsFrom]
  rw [QueryBlock.orderKeys, QueryBlock.addItems_eq]
  rfl

end OrderingLists
end SqlBuilder
