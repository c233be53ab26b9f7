import Mathlib.Data.List.Perm.Subperm
import SqlBuilder.Proofs.Join.Emission

/-!
# What reordering comes to

Reordering finds an order in which each join stands behind the join that it waits for,
if there is one, and keeps the present order if that will do. Of joins without such an
order it places as many as can be placed at all, and reports the others. To reorder
again changes nothing more.
-/

namespace SqlBuilder

namespace Join

variable {isLocal : TableRef → Bool}

/-- A pass goes through joins that are all ready as they stand, and then on. -/
theorem placePass_append_of_allReady
    {placed front waiting : List Join}
    (ready : AllReady isLocal (placed ++ front)) :
    placePass isLocal placed (front ++ waiting) =
      placePass isLocal (placed ++ front) waiting := by
  induction front generalizing placed with
  | nil => rw [List.nil_append, List.append_nil]
  | cons join front inductionHypothesis =>
      rw [List.cons_append, placePass, if_pos (ready placed join front rfl)]
      rw [List.append_cons placed join front] at ready ⊢
      exact inductionHypothesis ready

/-- A pass places nothing where nothing is ready. -/
theorem placePass_of_noneReady
    {placed waiting : List Join}
    (noneReady : ∀ join ∈ waiting, join.isReady isLocal placed = false) :
    placePass isLocal placed waiting = (placed, waiting) := by
  induction waiting with
  | nil => rw [placePass]
  | cons join waiting inductionHypothesis =>
      rw [List.forall_mem_cons] at noneReady
      rw [placePass, noneReady.1, inductionHypothesis noneReady.2]
      rfl

/-- Joins behind which none of the others is ready are placed, and no more. -/
theorem place_append
    {placed leftOver : List Join}
    (ready : AllReady isLocal placed)
    (noneReady : ∀ join ∈ leftOver, join.isReady isLocal placed = false) :
    place isLocal [] (placed ++ leftOver) = (placed, leftOver) := by
  have stuck : placePass isLocal placed leftOver = (placed, leftOver) :=
    placePass_of_noneReady noneReady
  have pass : placePass isLocal [] (placed ++ leftOver) = (placed, leftOver) := by
    rw [placePass_append_of_allReady ready]
    exact stuck
  rw [place, pass]
  dsimp only
  split
  · rw [place, stuck, if_neg (Nat.lt_irrefl _)]
  · rfl

/-- Once joins have been placed as far as possible, placing them again comes to the
same. -/
theorem place_place (joins : List Join) :
    place isLocal [] ((place isLocal [] joins).1 ++ (place isLocal [] joins).2) =
      place isLocal [] joins :=
  place_append (allReady_place allReady_nil joins) fun _ => isReady_eq_false_of_mem_place

end Join

namespace QueryBlock

variable {block : QueryBlock}

/-- A table is registered under its alias, and is not the primary table. -/
def IsLocal (block : QueryBlock) (source : TableRef) : Prop :=
  source.same block.primary = false ∧
    ∃ ref, block.registry.get? source.aliasName = some ref ∧ ref.same source = true

/-- Each join by keys from a local table comes after a join to that table. -/
def WellOrdered (block : QueryBlock) (joins : List Join) : Prop :=
  ∀ before join after kind source, joins = before ++ join :: after →
    join.kind = .keyed kind → join.source = some source → block.IsLocal source →
    ∃ other ∈ before, other.target.same source = true

/-- The joins can be put in order. -/
def Orderable (block : QueryBlock) (joins : List Join) : Prop :=
  ∃ order, order.Perm joins ∧ block.WellOrdered order

theorem isLocalSource_iff_isLocal {source : TableRef} :
    block.isLocalSource source = true ↔ block.IsLocal source := by
  rw [isLocalSource, Bool.and_eq_true, Bool.not_eq_true', Option.any_eq_true]
  rfl

theorem wellOrdered_iff {joins : List Join} :
    block.WellOrdered joins ↔ Join.AllReady block.isLocalSource joins := by
  simp only [WellOrdered, Join.AllReady, Join.isReady_iff, isLocalSource_iff_isLocal]
  constructor
  · intro ordered before join after split_eq source waits isSource isLocal
    cases kind_eq : join.kind with
    | keyed kind => exact ordered before join after kind source split_eq kind_eq isSource isLocal
    | cross | listed =>
        rw [kind_eq] at waits
        cases waits
  · intro ready before join after kind source split_eq kind_eq isSource isLocal
    exact ready before join after split_eq source (by rw [kind_eq]; rfl) isSource isLocal

theorem place_eq_nil_iff_orderable :
    (Join.place block.isLocalSource [] block.joins).2 = [] ↔ block.Orderable block.joins := by
  simp only [Join.place_eq_nil_iff, Orderable, wellOrdered_iff]

theorem reorderJoins_of_orderable
    (marked : block.mustReorder = true)
    (orderable : block.Orderable block.joins) :
    block.reorderJoins = .ok
      { block with
        joins := (Join.place block.isLocalSource [] block.joins).1, mustReorder := false } () := by
  have complete := place_eq_nil_iff_orderable.mpr orderable
  simp only [reorderJoins, marked, complete, ↓reduceIte, List.isEmpty_nil]

theorem reorderJoins_of_not_orderable
    (marked : block.mustReorder = true)
    (notOrderable : ¬ block.Orderable block.joins) :
    block.reorderJoins = .fail
      { block with
        joins := (Join.place block.isLocalSource [] block.joins).1 ++
          (Join.place block.isLocalSource [] block.joins).2 }
      (.circularJoins ((Join.place block.isLocalSource [] block.joins).2.map Join.unplaced)) := by
  have incomplete := mt place_eq_nil_iff_orderable.mp notOrderable
  simp only [reorderJoins, marked, ↓reduceIte, List.isEmpty_iff, incomplete]

/-- Reordering again comes to the same, also where it fails. -/
theorem reorderJoins_reorderJoins (block : QueryBlock) :
    block.reorderJoins.state.reorderJoins = block.reorderJoins := by
  cases marked : block.mustReorder with
  | false =>
      rw [reorderJoins_of_mustReorder_eq_false marked]
      exact reorderJoins_of_mustReorder_eq_false marked
  | true =>
      by_cases orderable : block.Orderable block.joins
      · rw [reorderJoins_of_orderable marked orderable]
        exact reorderJoins_of_mustReorder_eq_false rfl
      · have incomplete := mt place_eq_nil_iff_orderable.mp orderable
        let placed := Join.place block.isLocalSource [] block.joins
        let other := { block with joins := placed.1 ++ placed.2 }
        have placedAgain : Join.place other.isLocalSource [] other.joins = placed :=
          Join.place_place block.joins
        have otherNotOrderable : ¬ other.Orderable other.joins := by
          rw [← place_eq_nil_iff_orderable, placedAgain]
          exact incomplete
        have otherMarked : other.mustReorder = true := marked
        rw [reorderJoins_of_not_orderable marked orderable]
        change other.reorderJoins = _
        rw [reorderJoins_of_not_orderable otherMarked otherNotOrderable, placedAgain]

end QueryBlock

namespace Statement

end Statement
end SqlBuilder
