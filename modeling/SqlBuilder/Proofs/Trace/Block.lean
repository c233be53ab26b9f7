import SqlBuilder.Proofs.Cache.Reading
import SqlBuilder.Proofs.Join.Marking

/-!
# Traces of a rendering in a block

A rendering that finds nothing to add to a select list and no join to move leaves
two traces in a block: the rendering that is kept, and the mark for reordering
that is gone. The second does not matter as long as the joins stay in order,
whichever tables are joined later. No edit tells apart two blocks that differ in
such traces alone.
-/

namespace SqlBuilder

namespace QueryBlock

variable {block first second : QueryBlock}

/-- A join by keys starts from an alias that is free. -/
def Dangles (block : QueryBlock) : Prop :=
  ∃ join ∈ block.joins, join.kind.isOrderIndependent = false ∧
    ∃ source ∈ join.source, block.registry.get? source.aliasName = none

/-- The joins are in order, and no table that is joined later can change that. -/
structure StaysOrdered (block : QueryBlock) : Prop where
  ready : Join.AllReady block.isLocalSource block.joins
  anchored : ¬ block.Dangles

/-- The first block is the second one but for traces of renderings: it may keep
one, and it may lack the mark for reordering where joins stay in order. The second
block keeps nothing. -/
inductive Matches : QueryBlock → QueryBlock → Prop
  | intro {block : QueryBlock} {mark : Bool} {cache : Option Rendering} :
      block.cache = none →
      (mark = block.mustReorder ∨ mark = false ∧ block.StaysOrdered) →
      Matches { block with mustReorder := mark, cache := cache } block

theorem Matches.of_eq
    (forgotten : second.cache = none)
    (same : first = { second with mustReorder := first.mustReorder, cache := first.cache })
    (mark : first.mustReorder = second.mustReorder ∨
      first.mustReorder = false ∧ second.StaysOrdered) : Matches first second := by
  rw [same]
  exact .intro forgotten mark

/-! ## Edits that spare the joins -/

/-- An edit neither touches the joins nor asks for the mark or for what is
kept. -/
structure SparesJoins (change : QueryBlock → QueryBlock) : Prop where
  commutes : ∀ block mark cache, ∃ kept,
    change { block with mustReorder := mark, cache := cache } =
      { change block with mustReorder := mark, cache := kept }
  registry : ∀ block, (change block).registry = block.registry
  primary : ∀ block, (change block).primary = block.primary
  joins : ∀ block, (change block).joins = block.joins
  mustReorder : ∀ block, (change block).mustReorder = block.mustReorder
  cache : ∀ block, block.cache = none → (change block).cache = none

/-- Joins stay in order where nothing happens to them. -/
theorem StaysOrdered.of_kept
    (ordered : first.StaysOrdered)
    (registry_eq : second.registry = first.registry)
    (primary_eq : second.primary = first.primary)
    (joins_eq : second.joins = first.joins) : second.StaysOrdered := by
  constructor
  · rw [isLocalSource_congr registry_eq primary_eq, joins_eq]
    exact ordered.ready
  · rw [Dangles, registry_eq, joins_eq]
    exact ordered.anchored

theorem Matches.map
    {change : QueryBlock → QueryBlock}
    (matched : Matches first second)
    (spares : SparesJoins change) : Matches (change first) (change second) := by
  cases matched with
  | intro forgotten mark =>
      obtain ⟨kept, changed⟩ := spares.commutes second _ _
      rw [changed]
      refine .intro (spares.cache second forgotten) ?_
      rw [spares.mustReorder]
      refine mark.imp_right fun idle => ⟨idle.1, ?_⟩
      exact idle.2.of_kept (spares.registry _) (spares.primary _) (spares.joins _)

theorem sparesJoins_addItems (items : List SelectedItem) : SparesJoins (·.addItems items) := by
  constructor
  · intro block mark cache
    induction items generalizing block cache with
    | nil => exact ⟨cache, rfl⟩
    | cons item items inductionHypothesis =>
        simp only [addItems_cons]
        rw [addItem_eq, addItem_eq]
        obtain ⟨kept, added⟩ := inductionHypothesis
          { block with
            selected := block.selected.add item
            cache := if block.selected.hasSql item.sql then block.cache else none }
          (if block.selected.hasSql item.sql then cache else none)
        exact ⟨kept, added⟩
  · intro block
    rw [addItems_eq]
  · intro block
    rw [addItems_eq]
  · intro block
    rw [addItems_eq]
  · intro block
    rw [addItems_eq]
  · intro block forgotten
    rcases block.addItems_eq_or_cache_eq_none items with unchanged | changed
    · rw [unchanged, forgotten]
    · exact changed

/-- An edit that forgets what is kept spares the joins when all else that it
changes lies outside them. -/
theorem SparesJoins.of_forgets
    {change : QueryBlock → QueryBlock}
    (commutes : ∀ block mark cache,
      change { block with mustReorder := mark, cache := cache } =
        { change block with mustReorder := mark, cache := none })
    (kept : ∀ block, (change block).registry = block.registry ∧
      (change block).primary = block.primary ∧ (change block).joins = block.joins) :
    SparesJoins change := by
  have shape : ∀ block, change block =
      { change block with mustReorder := block.mustReorder, cache := none } :=
    fun block => commutes block block.mustReorder block.cache
  constructor
  · exact fun block mark cache => ⟨none, commutes block mark cache⟩
  · exact fun block => (kept block).1
  · exact fun block => (kept block).2.1
  · exact fun block => (kept block).2.2
  · intro block
    rw [shape]
  · intro block _
    rw [shape]

theorem matches_invalidate (matched : Matches first second) :
    Matches first.invalidate second.invalidate :=
  matched.map (.of_forgets (fun _ _ _ => rfl) fun _ => ⟨rfl, rfl, rfl⟩)

/-- Forgetting what the first block keeps leaves fewer traces. -/
theorem Matches.forget (matched : Matches first second) : Matches first.invalidate second := by
  cases matched with
  | intro forgotten mark => exact .intro forgotten mark

theorem Matches.cache_eq_none (matched : Matches first second) : second.cache = none := by
  cases matched with
  | intro forgotten mark => exact forgotten

theorem sparesJoins_select (expression : Expression) (items : List SelectedItem) :
    SparesJoins (·.select expression items) := by
  refine .of_forgets (fun block mark cache => ?_) fun block => ?_
  · obtain ⟨kept, added⟩ := (sparesJoins_addItems items).commutes
      { block with aggregated := block.aggregated || expression.isAggregate } mark cache
    exact congrArg invalidate added
  · simp only [select, invalidate]
    rw [addItems_eq]
    exact ⟨rfl, rfl, rfl⟩

theorem sparesJoins_whereAnd (predicate : Predicate) :
    SparesJoins (·.whereAnd predicate) := by
  constructor
  · intro block mark cache
    simp only [whereAnd]
    split
    · exact ⟨cache, rfl⟩
    · exact ⟨none, rfl⟩
  · intro block
    rw [whereAnd_eq]
  · intro block
    rw [whereAnd_eq]
  · intro block
    rw [whereAnd_eq]
  · intro block
    rw [whereAnd_eq]
  · intro block forgotten
    rcases block.whereAnd_eq_or_cache_eq_none predicate with unchanged | changed
    · rw [unchanged, forgotten]
    · exact changed

/-! ## Joins -/

/-- Joins stay in order with one more that is ready behind them and starts, if
it is joined by keys, from a registered table. -/
theorem StaysOrdered.of_append
    {join : Join}
    (ordered : first.StaysOrdered)
    (kind : Option JoinKind)
    (registry_eq : second.registry = first.registry.insert join.target kind)
    (primary_eq : second.primary = first.primary)
    (joins_eq : second.joins = first.joins ++ [join])
    (ready : join.isReady second.isLocalSource first.joins = true)
    (sourced : ∀ source ∈ join.source, first.registry.get? source.aliasName ≠ none) :
    second.StaysOrdered := by
  have stillFound : ∀ aliasName, first.registry.get? aliasName ≠ none →
      second.registry.get? aliasName = first.registry.get? aliasName := by
    intro aliasName taken
    obtain ⟨ref, found⟩ := Option.ne_none_iff_exists'.mp taken
    rw [registry_eq, found, Registry.get?_insert_of_eq_some found]
  have anchored : ∀ other ∈ first.joins, other.kind.isOrderIndependent = false →
      ∀ source ∈ other.source, first.registry.get? source.aliasName ≠ none := by
    intro other member keyed source isSource isFree
    exact ordered.anchored ⟨other, member, keyed, source, isSource, isFree⟩
  constructor
  · rw [joins_eq, Join.allReady_concat]
    refine ⟨?_, ready⟩
    intro before other after split_eq
    rw [Join.isReady_iff]
    intro source keyed isSource sourceLocal
    have member : other ∈ first.joins := by
      rw [split_eq]
      exact List.mem_append_right _ List.mem_cons_self
    refine Join.isReady_iff.mp (ordered.ready before other after split_eq) source keyed isSource ?_
    rw [isLocalSource, primary_eq,
      stillFound _ (anchored other member keyed source isSource)] at sourceLocal
    exact sourceLocal
  · rintro ⟨other, member, keyed, source, isSource, isFree⟩
    have taken : first.registry.get? source.aliasName ≠ none := by
      rw [joins_eq] at member
      rcases List.mem_append.mp member with member | isLast
      · exact anchored other member keyed source isSource
      · exact sourced source (List.mem_singleton.mp isLast ▸ isSource)
    rw [stillFound _ taken] at isFree
    exact taken isFree

/-- What a join does to a block depends neither on the mark nor on what is
kept. -/
theorem join_cases (block : QueryBlock) (spec : JoinSpec) :
    (∃ result events, ∀ mark cache,
      { block with mustReorder := mark, cache := cache }.join spec =
        { state := { block with mustReorder := mark, cache := cache }
          result := result
          events := events }) ∨
      ∃ source target, block.resolveSource spec.source = .ok source ∧
        block.registry.get? target.aliasName = none ∧
        ∀ mark cache, { block with mustReorder := mark, cache := cache }.join spec =
          .ok ({ block with mustReorder := mark, cache := cache }.appendKeyedJoin spec source
            target) target := by
  have source_eq : ∀ mark cache,
      { block with mustReorder := mark, cache := cache }.resolveSource spec.source =
        block.resolveSource spec.source := fun _ _ => rfl
  have target_eq : ∀ mark cache,
      { block with mustReorder := mark, cache := cache }.resolveTarget spec.table spec.aliasName
        spec.group = block.resolveTarget spec.table spec.aliasName spec.group := fun _ _ => rfl
  simp only [join, source_eq, target_eq]
  cases sourced : block.resolveSource spec.source with
  | error error => exact .inl ⟨.error error, [], fun _ _ => rfl⟩
  | ok source =>
      cases targeted : block.resolveTarget spec.table spec.aliasName spec.group with
      | error error => exact .inl ⟨.error error, [], fun _ _ => rfl⟩
      | ok found =>
          cases found with
          | present target => exact .inl ⟨.ok target, _, fun _ _ => rfl⟩
          | added target =>
              dsimp only
              have capabilities_eq : ∀ mark cache,
                  { block with mustReorder := mark, cache := cache }.capabilities =
                    block.capabilities := fun _ _ => rfl
              simp only [capabilities_eq]
              split
              · exact .inl ⟨_, [], fun _ _ => rfl⟩
              · exact .inr ⟨source, target, rfl, get?_eq_none_of_resolveTarget targeted,
                  fun _ _ => rfl⟩

/-- What a cross join does to a block depends neither on the mark nor on what is
kept. -/
theorem crossJoin_cases
    (block : QueryBlock)
    (table : Table)
    (aliasName group : Option String) :
    (∃ result, ∀ mark cache,
      { block with mustReorder := mark, cache := cache }.crossJoin table aliasName group =
        { state := { block with mustReorder := mark, cache := cache }, result := result }) ∨
      ∃ target, block.registry.get? target.aliasName = none ∧
        ∀ mark cache,
          { block with mustReorder := mark, cache := cache }.crossJoin table aliasName group =
            .ok ({ block with mustReorder := mark, cache := cache }.appendCrossJoin target)
              target := by
  have target_eq : ∀ mark cache,
      { block with mustReorder := mark, cache := cache }.resolveTarget table aliasName group =
        block.resolveTarget table aliasName group := fun _ _ => rfl
  simp only [crossJoin, target_eq]
  cases targeted : block.resolveTarget table aliasName group with
  | error error => exact .inl ⟨.error error, fun _ _ => rfl⟩
  | ok found =>
      cases found with
      | present target => exact .inl ⟨.ok target, fun _ _ => rfl⟩
      | added target =>
          exact .inr ⟨target, get?_eq_none_of_resolveTarget targeted, fun _ _ => rfl⟩

/-- Appending a join keeps the mark and ignores what is kept. -/
theorem Consistent.appendKeyedJoin_with
    (consistent : block.Consistent)
    (spec : JoinSpec)
    {source : TableRef}
    (target : TableRef)
    (registered : source ∈ block.registry.tables)
    (mark : Bool)
    (cache : Option Rendering) :
    { block with mustReorder := mark, cache := cache }.appendKeyedJoin spec source target =
      { block.appendKeyedJoin spec source target with mustReorder := mark } := by
  have otherConsistent : { block with mustReorder := mark, cache := cache }.Consistent :=
    ⟨consistent.unique, consistent.tables, consistent.sources⟩
  have mark_eq := otherConsistent.mustReorder_appendKeyedJoin spec target registered
  have condition_eq :
      ({ block with mustReorder := mark, cache := cache }.appendKeyedJoin spec source
        target).condition = (block.appendKeyedJoin spec source target).condition := by
    have capabilities_eq : { block with mustReorder := mark, cache := cache }.capabilities =
        block.capabilities := rfl
    simp only [appendKeyedJoin, capabilities_eq]
    cases block.capabilities.ansiJoins with
    | true => rfl
    | false =>
        simp only [Bool.false_eq_true, ↓reduceIte]
        cases spec.condition? source target with
        | none => rfl
        | some predicate =>
            simp only [Option.elim_some, whereAnd]
            split <;> rfl
  rw [appendKeyedJoin_eq, mark_eq, condition_eq]
  conv_rhs => rw [appendKeyedJoin_eq]
  rfl

/-- A table that a join starts from is found under its alias. -/
theorem Consistent.get?_ne_none
    (consistent : block.Consistent)
    {ref : TableRef}
    (registered : ref ∈ block.registry.tables) :
    block.registry.get? ref.aliasName ≠ none := by
  rw [Registry.get?_eq_some_of_mem consistent.unique registered]
  exact Option.some_ne_none ref

theorem Matches.join
    (matched : Matches first second)
    (consistent : second.Consistent)
    (spec : JoinSpec) :
    (first.join spec).result = (second.join spec).result ∧
      Matches (first.join spec).state (second.join spec).state := by
  cases matched with
  | @intro _ mark cache forgotten idle =>
      rcases second.join_cases spec with
        ⟨result, events, joined⟩ | ⟨source, target, found, free, joined⟩
      · have ofSecond : second.join spec = _ := joined second.mustReorder second.cache
        rw [joined, ofSecond]
        exact ⟨rfl, .intro forgotten idle⟩
      · have ofSecond : second.join spec = _ := joined second.mustReorder second.cache
        have registered := consistent.mem_of_resolveSource found
        have mark_eq := consistent.mustReorder_appendKeyedJoin spec target registered
        rw [joined, ofSecond, consistent.appendKeyedJoin_with spec target registered]
        refine ⟨rfl, ?_⟩
        rw [Outcome.state_ok, Outcome.state_ok]
        refine .intro (cache_appendKeyedJoin ..) ?_
        rw [mark_eq]
        refine idle.imp_right fun ordered => ⟨ordered.1, ?_⟩
        refine ordered.2.of_append (some (.keyed spec.kind)) ?_ (primary_appendKeyedJoin ..)
          (joins_appendKeyedJoin ..) ?_ ?_
        · rw [target_keyedJoin, registry_appendKeyedJoin]
        · exact consistent.isReady_keyedJoin spec target registered
        · intro other isSource
          rw [source_keyedJoin] at isSource
          cases isSource
          exact consistent.get?_ne_none registered

theorem Matches.crossJoin
    (matched : Matches first second)
    (table : Table)
    (aliasName group : Option String) :
    (first.crossJoin table aliasName group).result =
        (second.crossJoin table aliasName group).result ∧
      Matches (first.crossJoin table aliasName group).state
        (second.crossJoin table aliasName group).state := by
  cases matched with
  | @intro _ mark cache forgotten idle =>
      rcases second.crossJoin_cases table aliasName group with
        ⟨result, joined⟩ | ⟨target, free, joined⟩
      · have ofSecond : second.crossJoin table aliasName group = _ :=
          joined second.mustReorder second.cache
        rw [joined, ofSecond]
        exact ⟨rfl, .intro forgotten idle⟩
      · have ofSecond : second.crossJoin table aliasName group = _ :=
          joined second.mustReorder second.cache
        rw [joined, ofSecond]
        refine ⟨rfl, ?_⟩
        refine .of_eq rfl rfl ?_
        refine idle.imp_right fun ordered => ⟨ordered.1, ?_⟩
        exact ordered.2.of_append (some .cross) rfl rfl rfl rfl fun _ isSource => nomatch isSource

theorem Matches.removeCrossJoin (matched : Matches first second) (aliasName : String) :
    Matches (first.removeCrossJoin aliasName) (second.removeCrossJoin aliasName) := by
  cases matched with
  | intro forgotten idle =>
      simp only [QueryBlock.removeCrossJoin]
      split
      · exact .of_eq rfl rfl (.inl rfl)
      · exact .intro forgotten idle

/-- Reordering ends alike, whether or not a mark is missing that has nothing to
say. -/
theorem Matches.reorderJoins (matched : Matches first second) :
    first.reorderJoins.result = second.reorderJoins.result ∧
      Matches first.reorderJoins.state second.reorderJoins.state := by
  cases matched with
  | @intro _ mark cache forgotten idle =>
      rcases idle with rfl | ⟨rfl, ordered⟩
      · have local_eq : isLocalSource { second with cache := cache } = second.isLocalSource := rfl
        simp only [QueryBlock.reorderJoins, local_eq]
        split
        · split
          · exact ⟨rfl, .of_eq forgotten rfl (.inl rfl)⟩
          · exact ⟨rfl, .of_eq forgotten rfl (.inl rfl)⟩
        · exact ⟨rfl, .of_eq forgotten rfl (.inl rfl)⟩
      · have unmarked : { second with mustReorder := false, cache := cache }.reorderJoins =
            .ok { second with mustReorder := false, cache := cache } () :=
          reorderJoins_of_mustReorder_eq_false rfl
        rw [unmarked]
        cases marked : second.mustReorder with
        | false =>
            rw [reorderJoins_of_mustReorder_eq_false marked]
            exact ⟨rfl, .of_eq forgotten rfl (.inl marked.symm)⟩
        | true =>
            simp only [QueryBlock.reorderJoins, marked, ↓reduceIte,
              Join.place_of_allReady ordered.ready, List.isEmpty_nil]
            exact ⟨rfl, .of_eq forgotten rfl (.inl rfl)⟩

/-! ## What does not show traces -/

theorem Matches.primary_eq (matched : Matches first second) :
    first.primary = second.primary := by
  cases matched with
  | intro forgotten idle => rfl

theorem Matches.registry_eq (matched : Matches first second) :
    first.registry = second.registry := by
  cases matched with
  | intro forgotten idle => rfl

theorem Matches.options_eq (matched : Matches first second) :
    first.options = second.options := by
  cases matched with
  | intro forgotten idle => rfl

theorem Matches.capabilities_eq (matched : Matches first second) :
    first.capabilities = second.capabilities := by
  cases matched with
  | intro forgotten idle => rfl

/-- Traces do not show in a query. -/
theorem Matches.query_eq (matched : Matches first second) : first.query = second.query := by
  cases matched with
  | intro forgotten idle => rfl

theorem Matches.orderingItems_eq (matched : Matches first second) :
    first.orderingItems = second.orderingItems := by
  cases matched with
  | intro forgotten idle => rfl

theorem Matches.readied (matched : Matches first second) :
    Matches first.readied second.readied := by
  have reordered := matched.reorderJoins.2
  rw [QueryBlock.readied, QueryBlock.readied, reordered.orderingItems_eq]
  exact reordered.map (sparesJoins_addItems _)

/-- A rendering leaves nothing but traces: no more is selected, no join has moved,
and the mark for reordering is gone only where the joins stay in order. -/
structure LeavesTraces (before after : QueryBlock) : Prop where
  same : after = { before with mustReorder := after.mustReorder, cache := after.cache }
  mark : after.mustReorder = before.mustReorder ∨
    after.mustReorder = false ∧ before.StaysOrdered

/-- Traces do not add up to more. -/
theorem LeavesTraces.matches
    (leaves : LeavesTraces block first)
    (matched : Matches block second) : Matches first second := by
  cases matched with
  | intro forgotten idle =>
      refine .of_eq forgotten leaves.same ?_
      rcases leaves.mark with same | ⟨unmarked, ordered⟩
      · rw [same]
        exact idle
      · exact .inr ⟨unmarked, ordered.of_kept rfl rfl rfl⟩

end QueryBlock
end SqlBuilder
