import SqlBuilder.Proofs.Consistency

/-!
# Joins that are not marked are in order

A join by keys belongs behind the join that brings in its source. The mark for
reordering is meant to be set wherever that may fail. It is not set when a table
comes back from which an earlier join still starts.
-/

namespace SqlBuilder
namespace QueryBlock

variable {block : QueryBlock}

/-- A table is registered beside the primary one. -/
def BringsIn (block : QueryBlock) (source : TableRef) : Prop :=
  (∃ ref ∈ block.registry.tables, ref.same source = true) ∧ source.same block.primary = false

instance (block : QueryBlock) (source : TableRef) : Decidable (block.BringsIn source) :=
  inferInstanceAs (Decidable (_ ∧ _))

/-- Each join by keys from a table that is brought in stands behind a join to
that table. -/
def InOrder (block : QueryBlock) (joins : List Join) : Prop :=
  ∀ before join after source, joins = before ++ join :: after →
    join.kind.isOrderIndependent = false → join.source = some source →
    block.BringsIn source → ∃ other ∈ before, other.target.same source = true

/-- A table comes back from which an earlier join by keys still starts, while the
joins are not marked for reordering. -/
def Revives (before after : QueryBlock) : Prop :=
  before.mustReorder = false ∧
    ∃ join ∈ before.joins, join.kind.isOrderIndependent = false ∧
      ∃ source ∈ join.source, ¬ before.BringsIn source ∧ after.BringsIn source

instance (before after : QueryBlock) : Decidable (Revives before after) :=
  inferInstanceAs (Decidable (_ ∧ _))

/-- What the placement takes for a local source is a table that is brought in. -/
theorem Consistent.isLocalSource_iff
    (consistent : block.Consistent)
    {source : TableRef} : block.isLocalSource source = true ↔ block.BringsIn source := by
  have found_iff : (block.registry.get? source.aliasName).any (·.same source) = true ↔
      ∃ ref ∈ block.registry.tables, ref.same source = true := by
    rw [Option.any_eq_true]
    constructor
    · rintro ⟨ref, found, same⟩
      exact ⟨ref, (Registry.mem_and_alias_of_get? found).1, same⟩
    · rintro ⟨ref, registered, same⟩
      refine ⟨ref, ?_, same⟩
      rw [← ((TableRef.same_iff _ _).mp same).1]
      exact Registry.get?_eq_some_of_mem consistent.unique registered
  rw [isLocalSource, Bool.and_eq_true, found_iff, Bool.not_eq_true', BringsIn, and_comm]

theorem Consistent.inOrder_iff
    (consistent : block.Consistent)
    {joins : List Join} : block.InOrder joins ↔ Join.AllReady block.isLocalSource joins := by
  simp only [InOrder, Join.AllReady, Join.isReady_iff, consistent.isLocalSource_iff]
  constructor
  · intro inOrder before join after split_eq source keyed isSource bringsIn
    exact inOrder before join after source split_eq keyed isSource bringsIn
  · intro ready before join after source split_eq keyed isSource bringsIn
    exact ready before join after split_eq source keyed isSource bringsIn

/-- The joins are in order unless they are marked for reordering. -/
def InPlace (block : QueryBlock) : Prop :=
  block.mustReorder = false → Join.AllReady block.isLocalSource block.joins

/-- A join appended from a registered table never marks the joins. -/
theorem Consistent.canFollow
    (consistent : block.Consistent)
    {source : TableRef}
    (registered : source ∈ block.registry.tables)
    (registry : Registry) :
    { block with registry := registry }.canFollow source = true := by
  unfold QueryBlock.canFollow
  rcases List.mem_cons.mp (consistent.tables.mem_iff.mp registered) with rfl | isTarget
  · simp [isLocalSource]
  · obtain ⟨join, member, rfl⟩ := List.mem_map.mp isTarget
    rw [Bool.or_eq_true]
    exact .inr (List.any_eq_true.mpr ⟨join, member, by simp⟩)

theorem Consistent.mustReorder_appendKeyedJoin
    (consistent : block.Consistent)
    (spec : JoinSpec)
    {source : TableRef}
    (target : TableRef)
    (registered : source ∈ block.registry.tables) :
    (block.appendKeyedJoin spec source target).mustReorder = block.mustReorder := by
  cases ansi : block.capabilities.ansiJoins with
  | true =>
      rw [appendKeyedJoin_of_ansiJoins _ _ _ _ ansi]
      simp [consistent.canFollow registered]
  | false =>
      rw [appendKeyedJoin_of_not_ansiJoins _ _ _ _ ansi]
      cases spec.condition? source target with
      | none => rfl
      | some predicate =>
          simp only [Option.elim_some]
          rw [whereAnd_eq]

/-- What is local depends on the registry and the primary table alone. -/
theorem isLocalSource_congr
    {first second : QueryBlock}
    (registry_eq : second.registry = first.registry)
    (primary_eq : second.primary = first.primary) :
    second.isLocalSource = first.isLocalSource := by
  funext source
  rw [isLocalSource, isLocalSource, registry_eq, primary_eq]

/-- A join appended from a registered table is ready behind the present ones. -/
theorem Consistent.isReady_keyedJoin
    (consistent : block.Consistent)
    (spec : JoinSpec)
    {source : TableRef}
    (target : TableRef)
    (registered : source ∈ block.registry.tables) :
    (block.keyedJoin spec source target).isReady
      (block.appendKeyedJoin spec source target).isLocalSource block.joins = true := by
  rw [Join.isReady_iff]
  intro other _ isSource otherLocal
  rw [source_keyedJoin, Option.some.injEq] at isSource
  subst isSource
  have follows := consistent.canFollow registered
    (block.appendKeyedJoin spec source target).registry
  have local_eq : isLocalSource
      { block with registry := (block.appendKeyedJoin spec source target).registry } =
        (block.appendKeyedJoin spec source target).isLocalSource := by
    refine isLocalSource_congr rfl ?_
    rw [primary_appendKeyedJoin]
  rw [QueryBlock.canFollow, local_eq, otherLocal, Bool.not_true, Bool.false_or] at follows
  exact List.any_eq_true.mp follows

/-! ## What the edits do to the mark -/

/-- Joins stay in order where nothing happens to them. -/
theorem InPlace.of_kept
    {first second : QueryBlock}
    (inPlace : first.InPlace)
    (registry_eq : second.registry = first.registry)
    (primary_eq : second.primary = first.primary)
    (joins_eq : second.joins = first.joins)
    (mustReorder_eq : second.mustReorder = first.mustReorder) : second.InPlace := by
  intro unmarked
  rw [isLocalSource_congr registry_eq primary_eq, joins_eq]
  exact inPlace (mustReorder_eq ▸ unmarked)

/-- Once reordering has succeeded the joins are in order. -/
theorem InPlace.allReady_reorderJoins
    (inPlace : block.InPlace)
    (ordered : block.reorderJoins.state.mustReorder = false) :
    Join.AllReady block.isLocalSource block.reorderJoins.state.joins := by
  cases marked : block.mustReorder with
  | false =>
      rw [reorderJoins_of_mustReorder_eq_false marked]
      exact inPlace marked
  | true =>
      simp only [reorderJoins, marked, ↓reduceIte] at ordered ⊢
      split
      · exact Join.allReady_place Join.allReady_nil block.joins
      · rename_i incomplete
        rw [if_neg incomplete] at ordered
        simp [Outcome.fail] at ordered

/-- Reordering puts joins in order, or leaves them marked. -/
theorem InPlace.of_reordered
    {first second : QueryBlock}
    (inPlace : first.InPlace)
    (registry_eq : second.registry = first.registry)
    (primary_eq : second.primary = first.primary)
    (joins_eq : second.joins = first.reorderJoins.state.joins)
    (mustReorder_eq : second.mustReorder = first.reorderJoins.state.mustReorder) :
    second.InPlace := by
  intro unmarked
  rw [isLocalSource_congr registry_eq primary_eq, joins_eq]
  exact inPlace.allReady_reorderJoins (mustReorder_eq ▸ unmarked)

/-- Joins stay in order when one more is ready behind them, unless its target
comes back from which one of them still starts. -/
theorem InPlace.of_append
    {other : QueryBlock}
    {join : Join}
    (inPlace : block.InPlace)
    (consistent : block.Consistent)
    (otherConsistent : other.Consistent)
    (joins_eq : other.joins = block.joins ++ [join])
    (mustReorder_eq : other.mustReorder = block.mustReorder)
    (ready : join.isReady other.isLocalSource block.joins = true)
    (quiet : ¬ Revives block other) : other.InPlace := by
  intro unmarked
  rw [mustReorder_eq] at unmarked
  rw [joins_eq, Join.allReady_concat]
  refine ⟨?_, ready⟩
  intro before old after split_eq
  rw [Join.isReady_iff]
  intro source keyed isSource sourceLocal
  by_cases wasLocal : block.isLocalSource source = true
  · exact Join.isReady_iff.mp (inPlace unmarked before old after split_eq) source keyed isSource
      wasLocal
  · refine absurd ⟨unmarked, old, ?_, keyed, source, isSource, ?_, ?_⟩ quiet
    · rw [split_eq]
      simp
    · rwa [← consistent.isLocalSource_iff]
    · rwa [← otherConsistent.isLocalSource_iff]

theorem InPlace.join
    (inPlace : block.InPlace)
    (consistent : block.Consistent)
    (spec : JoinSpec)
    (quiet : ¬ Revives block (block.join spec).state) : (block.join spec).state.InPlace := by
  have joinedConsistent := consistent.join spec
  rcases block.join_state_cases spec with unchanged | ⟨source, target, found, free, appended⟩
  · rw [unchanged]
    exact inPlace
  · have registered := consistent.mem_of_resolveSource found
    rw [appended] at quiet joinedConsistent ⊢
    exact inPlace.of_append consistent joinedConsistent (joins_appendKeyedJoin ..)
      (consistent.mustReorder_appendKeyedJoin spec target registered)
      (consistent.isReady_keyedJoin spec target registered) quiet

theorem InPlace.crossJoin
    (inPlace : block.InPlace)
    (consistent : block.Consistent)
    (table : Table)
    (aliasName group : Option String)
    (quiet : ¬ Revives block (block.crossJoin table aliasName group).state) :
    (block.crossJoin table aliasName group).state.InPlace := by
  have joinedConsistent := consistent.crossJoin table aliasName group
  rcases block.crossJoin_state_cases table aliasName group with
    unchanged | ⟨target, free, appended⟩
  · rw [unchanged]
    exact inPlace
  · rw [appended] at quiet joinedConsistent ⊢
    refine inPlace.of_append consistent joinedConsistent rfl rfl ?_ quiet
    rfl

theorem InPlace.removeCrossJoin (inPlace : block.InPlace) (aliasName : String) :
    (block.removeCrossJoin aliasName).InPlace := by
  unfold QueryBlock.removeCrossJoin
  split
  · intro unmarked
    cases unmarked
  · exact inPlace

/-- No edit but a revival puts unmarked joins out of order. -/
theorem InPlace.becomes
    {first second : QueryBlock}
    (becomes : Becomes first second)
    (inPlace : first.InPlace)
    (consistent : first.Consistent)
    (quiet : ¬ Revives first second) : second.InPlace := by
  cases becomes.editsJoins with
  | kept registry_eq primary_eq joins_eq mustReorder_eq =>
      exact inPlace.of_kept registry_eq primary_eq joins_eq mustReorder_eq
  | reordered registry_eq primary_eq joins_eq mustReorder_eq =>
      exact inPlace.of_reordered registry_eq primary_eq joins_eq mustReorder_eq
  | joined spec second_eq =>
      subst second_eq
      exact inPlace.join consistent spec quiet
  | crossJoined table aliasName group second_eq =>
      subst second_eq
      exact inPlace.crossJoin consistent table aliasName group quiet
  | removed aliasName second_eq => exact second_eq ▸ inPlace.removeCrossJoin aliasName

/-- Nothing comes back where the registry stays the same. -/
theorem not_revives_of_registry_eq
    {first second : QueryBlock}
    (registry_eq : second.registry = first.registry)
    (primary_eq : second.primary = first.primary) : ¬ Revives first second := by
  rintro ⟨_, join, _, _, source, _, wasNot, isNow⟩
  rw [BringsIn, registry_eq, primary_eq] at isNow
  exact wasNot isNow

/-- An edit that rendering makes keeps the registry and the primary table. -/
theorem ReadiedTo.registry_and_primary_eq
    {first second : QueryBlock}
    (readied : ReadiedTo first second) :
    second.registry = first.registry ∧ second.primary = first.primary := by
  rw [readied.eq]
  exact ⟨rfl, rfl⟩

/-- No operation but a revival puts unmarked joins out of order. -/
theorem InPlace.editedTo
    {first second : QueryBlock}
    (edited : EditedTo first second)
    (inPlace : first.InPlace)
    (consistent : first.Consistent)
    (quiet : ¬ Revives first second) : second.InPlace := by
  rcases edited with becomes | readied
  · exact inPlace.becomes becomes consistent quiet
  · clear quiet
    induction readied with
    | refl => exact inPlace
    | tail readied readies inductionHypothesis =>
        obtain ⟨registry_eq, primary_eq⟩ :=
          ReadiedTo.registry_and_primary_eq (.single readies)
        have consistentBefore := EditedTo.preserves
          (fun _ _ becomes => Consistent.becomes becomes) (.inr readied) consistent
        exact inductionHypothesis.becomes readies.becomes consistentBefore
          (not_revives_of_registry_eq registry_eq primary_eq)

/-! ## What a revival leaves behind -/

/-- A table that is brought in once some are taken away was brought in before. -/
theorem BringsIn.of_removeCrossJoin
    {source : TableRef}
    {aliasName : String}
    (bringsIn : (block.removeCrossJoin aliasName).BringsIn source) :
    block.BringsIn source := by
  rw [removeCrossJoin] at bringsIn
  split at bringsIn
  · obtain ⟨⟨ref, registered, same⟩, notPrimary⟩ := bringsIn
    exact ⟨⟨ref, List.mem_of_mem_eraseP registered, same⟩, notPrimary⟩
  · exact bringsIn

/-- Only a new join revives, and it leaves the joins unmarked and nothing kept. -/
theorem exists_append_of_revives
    {first second : QueryBlock}
    (edited : EditedTo first second)
    (consistent : first.Consistent)
    (revives : Revives first second) :
    ∃ join, second.joins = first.joins ++ [join] ∧ second.mustReorder = false ∧
      second.cache = none ∧ second.primary = first.primary := by
  rcases edited with becomes | readied
  · cases becomes.editsJoins with
    | kept registry_eq primary_eq _ _ =>
        exact absurd revives (not_revives_of_registry_eq registry_eq primary_eq)
    | reordered registry_eq primary_eq _ _ =>
        exact absurd revives (not_revives_of_registry_eq registry_eq primary_eq)
    | joined spec second_eq =>
        subst second_eq
        rcases first.join_state_cases spec with
          unchanged | ⟨source, target, found, free, appended⟩
        · rw [unchanged] at revives
          exact absurd revives (not_revives_of_registry_eq rfl rfl)
        · have mark_eq := consistent.mustReorder_appendKeyedJoin spec target
            (consistent.mem_of_resolveSource found)
          rw [appended]
          refine ⟨_, joins_appendKeyedJoin .., mark_eq.trans revives.1,
            cache_appendKeyedJoin .., primary_appendKeyedJoin ..⟩
    | crossJoined table aliasName group second_eq =>
        subst second_eq
        rcases first.crossJoin_state_cases table aliasName group with
          unchanged | ⟨target, free, appended⟩
        · rw [unchanged] at revives
          exact absurd revives (not_revives_of_registry_eq rfl rfl)
        · rw [appended]
          exact ⟨_, rfl, revives.1, rfl, rfl⟩
    | removed aliasName second_eq =>
        subst second_eq
        obtain ⟨_, join, _, _, source, _, wasNot, isNow⟩ := revives
        exact absurd isNow.of_removeCrossJoin wasNot
  · obtain ⟨registry_eq, primary_eq⟩ := readied.registry_and_primary_eq
    exact absurd revives (not_revives_of_registry_eq registry_eq primary_eq)

/-- After a revival unmarked joins are out of order. -/
theorem not_inPlace_of_revives
    {first second : QueryBlock}
    (edited : EditedTo first second)
    (consistent : first.Consistent)
    (secondConsistent : second.Consistent)
    (revives : Revives first second) : ¬ second.InPlace := by
  obtain ⟨last, joins_eq, unmarked, _, primary_eq⟩ :=
    exists_append_of_revives edited consistent revives
  obtain ⟨_, join, member, keyed, source, isSource, wasNot, isNow⟩ := revives
  intro inPlace
  have ready := inPlace unmarked
  rw [joins_eq, Join.allReady_concat] at ready
  obtain ⟨before, after, split_eq⟩ := List.mem_iff_append.mp member
  obtain ⟨other, otherMem, leads⟩ := Join.isReady_iff.mp (ready.1 before join after split_eq)
    source keyed isSource (secondConsistent.isLocalSource_iff.mpr isNow)
  refine wasNot ⟨⟨other.target, ?_, leads⟩, primary_eq ▸ isNow.2⟩
  rw [consistent.tables.mem_iff, split_eq]
  refine List.mem_cons_of_mem _ (List.mem_map_of_mem ?_)
  exact List.mem_append_left _ otherMem

end QueryBlock
end SqlBuilder
