import Mathlib.Data.List.Induction
import Mathlib.Data.List.Perm.Basic
import SqlBuilder.Statement.Joining

/-!
# The placement of joins

Placing joins puts each behind what it waits for and loses none. Whatever is
left over waits for a join that is left over too, so no order of the joins would
have done. Joins that stand in order stay where they are; of joins that do not, some
are overtaken by every join that need not wait.
-/

namespace SqlBuilder
namespace Join

variable {isLocal : TableRef → Bool}

/-- One pass keeps every join. -/
theorem perm_placePass (placed waiting : List Join) :
    ((placePass isLocal placed waiting).1 ++ (placePass isLocal placed waiting).2).Perm
      (placed ++ waiting) := by
  induction waiting generalizing placed with
  | nil => rw [placePass]
  | cons join waiting inductionHypothesis =>
      rw [placePass]
      split
      · have appended := inductionHypothesis (placed ++ [join])
        rw [List.append_assoc, List.singleton_append] at appended
        exact appended
      · have moved := (inductionHypothesis placed).cons join
        exact List.perm_middle.trans (moved.trans List.perm_middle.symm)

/-- Placing keeps every join. -/
theorem perm_place
    (isLocal : TableRef → Bool)
    (placed waiting : List Join) :
    ((place isLocal placed waiting).1 ++ (place isLocal placed waiting).2).Perm
      (placed ++ waiting) := by
  induction placed, waiting using place.induct isLocal with
  | case1 placed waiting pass shorter inductionHypothesis =>
      rw [place, if_pos shorter]
      exact inductionHypothesis.trans (perm_placePass placed waiting)
  | case2 placed waiting pass stuck =>
      rw [place, if_neg stuck]
      exact perm_placePass placed waiting

/-- A join is ready unless it is to be joined by keys from a local source to which
no placed join leads. -/
theorem isReady_iff {placed : List Join} {join : Join} :
    join.isReady isLocal placed = true ↔
      ∀ source, join.kind.isOrderIndependent = false → join.source = some source →
        isLocal source = true → ∃ other ∈ placed, other.target.same source = true := by
  unfold isReady
  cases join.kind.isOrderIndependent with
  | true => simp
  | false =>
      cases join.source with
      | none => simp
      | some source => cases sourceLocal : isLocal source <;> simp [sourceLocal]

/-- Every join is ready where it stands. -/
def AllReady (isLocal : TableRef → Bool) (joins : List Join) : Prop :=
  ∀ before join after, joins = before ++ join :: after → join.isReady isLocal before = true

theorem allReady_nil : AllReady isLocal [] := by
  intro before join after split_eq
  simp at split_eq

theorem allReady_concat {joins : List Join} {last : Join} :
    AllReady isLocal (joins ++ [last]) ↔
      AllReady isLocal joins ∧ last.isReady isLocal joins = true := by
  constructor
  · intro ready
    refine ⟨?_, ready joins last [] rfl⟩
    rintro before join after rfl
    exact ready before join (after ++ [last]) (by simp)
  · rintro ⟨ready, lastReady⟩ before join after split_eq
    rcases List.eq_nil_or_concat after with rfl | ⟨init, final, rfl⟩
    · obtain ⟨rfl, same⟩ := List.append_inj' split_eq rfl
      cases same
      exact lastReady
    · rw [List.concat_eq_append, ← List.cons_append, ← List.append_assoc] at split_eq
      exact ready before join init (List.append_inj' split_eq rfl).1

/-- A pass places joins only where they are ready. -/
theorem allReady_placePass
    {placed : List Join}
    (ready : AllReady isLocal placed)
    (waiting : List Join) : AllReady isLocal (placePass isLocal placed waiting).1 := by
  induction waiting generalizing placed with
  | nil => exact ready
  | cons join waiting inductionHypothesis =>
      rw [placePass]
      split
      · rename_i joinReady
        exact inductionHypothesis (allReady_concat.mpr ⟨ready, joinReady⟩)
      · exact inductionHypothesis ready

/-- Joins are placed only where they are ready. -/
theorem allReady_place
    {placed : List Join}
    (ready : AllReady isLocal placed)
    (waiting : List Join) : AllReady isLocal (place isLocal placed waiting).1 := by
  induction placed, waiting using place.induct isLocal with
  | case1 placed waiting pass shorter inductionHypothesis =>
      rw [place, if_pos shorter]
      exact inductionHypothesis (allReady_placePass ready waiting)
  | case2 placed waiting pass stuck =>
      rw [place, if_neg stuck]
      exact allReady_placePass ready waiting

theorem length_placePass_le
    (isLocal : TableRef → Bool)
    (placed waiting : List Join) :
    (placePass isLocal placed waiting).2.length ≤ waiting.length := by
  induction waiting generalizing placed with
  | nil => exact Nat.le_refl _
  | cons join waiting inductionHypothesis =>
      rw [placePass]
      split
      · exact Nat.le_succ_of_le (inductionHypothesis _)
      · exact Nat.succ_le_succ (inductionHypothesis _)

/-- A pass that places nothing has found nothing ready. -/
theorem placePass_of_stuck
    {placed waiting : List Join}
    (stuck : ¬ (placePass isLocal placed waiting).2.length < waiting.length) :
    placePass isLocal placed waiting = (placed, waiting) ∧
      ∀ join ∈ waiting, join.isReady isLocal placed = false := by
  induction waiting generalizing placed with
  | nil => exact ⟨rfl, fun _ member => nomatch member⟩
  | cons join waiting inductionHypothesis =>
      rw [placePass] at stuck ⊢
      split at stuck
      · have shorter := length_placePass_le isLocal (placed ++ [join]) waiting
        exact absurd (Nat.lt_succ_of_le shorter) stuck
      · rename_i notReady
        have stuckBelow : ¬ (placePass isLocal placed waiting).2.length < waiting.length :=
          fun shorter => stuck (Nat.succ_lt_succ shorter)
        obtain ⟨pass_eq, noneReady⟩ := inductionHypothesis stuckBelow
        rw [if_neg notReady, pass_eq]
        refine ⟨rfl, List.forall_mem_cons.mpr ⟨?_, noneReady⟩⟩
        simpa using notReady

/-- What is left over is not ready behind what is placed. -/
theorem isReady_eq_false_of_mem_place
    {placed waiting : List Join}
    {join : Join}
    (leftOver : join ∈ (place isLocal placed waiting).2) :
    join.isReady isLocal (place isLocal placed waiting).1 = false := by
  induction placed, waiting using place.induct isLocal with
  | case1 placed waiting pass shorter inductionHypothesis =>
      rw [place, if_pos shorter] at leftOver ⊢
      exact inductionHypothesis leftOver
  | case2 placed waiting pass stuck =>
      rw [place, if_neg stuck] at leftOver ⊢
      obtain ⟨pass_eq, noneReady⟩ := placePass_of_stuck stuck
      rw [pass_eq] at leftOver ⊢
      exact noneReady join leftOver

/-- In an order in which every join is ready, every join would be ready behind
those that can be placed. -/
theorem isReady_of_allReady
    {order placed leftOver : List Join}
    (ready : AllReady isLocal order)
    (kept : ∀ join ∈ order, join ∈ placed ∨ join ∈ leftOver)
    (noneReady : ∀ join ∈ leftOver, join.isReady isLocal placed = false) :
    ∀ join ∈ order, join.isReady isLocal placed = true := by
  induction order using List.reverseRecOn with
  | nil => exact fun _ member => nomatch member
  | append_singleton order last inductionHypothesis =>
      obtain ⟨readyBefore, lastReady⟩ := allReady_concat.mp ready
      have behind := inductionHypothesis readyBefore
        fun join member => kept join (List.mem_append_left _ member)
      intro join member
      rcases List.mem_append.mp member with member | member
      · exact behind join member
      · rw [List.mem_singleton.mp member, isReady_iff]
        intro source keyed isSource sourceLocal
        obtain ⟨other, otherMem, leads⟩ :=
          isReady_iff.mp lastReady source keyed isSource sourceLocal
        rcases kept other (List.mem_append_left _ otherMem) with isPlaced | isLeftOver
        · exact ⟨other, isPlaced, leads⟩
        · have otherReady := behind other otherMem
          rw [noneReady other isLeftOver] at otherReady
          cases otherReady

/-- Joins are left over exactly if no order of them has every join ready. -/
theorem place_eq_nil_iff {joins : List Join} :
    (place isLocal [] joins).2 = [] ↔ ∃ order, order.Perm joins ∧ AllReady isLocal order := by
  have all := perm_place isLocal [] joins
  rw [List.nil_append] at all
  constructor
  · intro complete
    rw [complete, List.append_nil] at all
    exact ⟨_, all, allReady_place allReady_nil joins⟩
  · rintro ⟨order, perm, ready⟩
    rw [List.eq_nil_iff_forall_not_mem]
    intro join leftOver
    have inOrder : join ∈ order :=
      perm.mem_iff.mpr (all.mem_iff.mp (List.mem_append_right _ leftOver))
    have joinReady := isReady_of_allReady ready
      (fun other member => List.mem_append.mp (all.mem_iff.mpr (perm.mem_iff.mp member)))
      (fun _ => isReady_eq_false_of_mem_place) join inOrder
    rw [isReady_eq_false_of_mem_place leftOver] at joinReady
    cases joinReady

/-! ## Joins that stand in order, and joins that overtake -/

/-- A pass places joins that are all ready as they stand. -/
theorem placePass_of_allReady
    {placed waiting : List Join}
    (ready : AllReady isLocal (placed ++ waiting)) :
    placePass isLocal placed waiting = (placed ++ waiting, []) := by
  induction waiting generalizing placed with
  | nil => rw [placePass, List.append_nil]
  | cons join waiting inductionHypothesis =>
      rw [placePass, if_pos (ready placed join waiting rfl)]
      rw [List.append_cons] at ready
      rw [inductionHypothesis ready, ← List.append_cons]

/-- Joins that are all ready are placed as they stand. -/
theorem place_of_allReady {joins : List Join} (ready : AllReady isLocal joins) :
    place isLocal [] joins = (joins, []) := by
  have pass : placePass isLocal [] joins = (joins, []) := placePass_of_allReady ready
  rw [place, pass]
  split
  · rw [place, placePass]
    rfl
  · rfl

/-- Where fewer sources are local fewer joins have to wait. -/
theorem AllReady.anti
    {isLocalBefore : TableRef → Bool}
    {joins : List Join}
    (ready : AllReady isLocal joins)
    (stillLocal : ∀ source, isLocalBefore source = true → isLocal source = true) :
    AllReady isLocalBefore joins := by
  intro before join after split_eq
  rw [isReady_iff]
  intro source keyed isSource wasLocal
  exact isReady_iff.mp (ready before join after split_eq) source keyed isSource
    (stillLocal source wasLocal)

/-- A pass places a join that need not wait behind all that it places. -/
theorem placePass_concat
    {last : Join}
    (independent : last.kind.isOrderIndependent = true)
    (placed waiting : List Join) :
    placePass isLocal placed (waiting ++ [last]) =
      ((placePass isLocal placed waiting).1 ++ [last],
        (placePass isLocal placed waiting).2) := by
  induction waiting generalizing placed with
  | nil =>
      have ready : last.isReady isLocal placed = true := by
        rw [isReady, independent, Bool.true_or]
      simp only [List.nil_append, placePass, if_pos ready]
  | cons join waiting inductionHypothesis =>
      rw [List.cons_append, placePass, placePass]
      split
      · exact inductionHypothesis (placed ++ [join])
      · rw [inductionHypothesis placed]

/-- A pass that leaves nothing over has found every join ready where it stood. -/
theorem allReady_of_placePass_eq_nil
    {placed waiting : List Join}
    (ready : AllReady isLocal placed)
    (complete : (placePass isLocal placed waiting).2 = []) :
    AllReady isLocal (placed ++ waiting) := by
  induction waiting generalizing placed with
  | nil => rwa [List.append_nil]
  | cons join waiting inductionHypothesis =>
      rw [placePass] at complete
      split at complete
      · rename_i joinReady
        rw [List.append_cons]
        exact inductionHypothesis (allReady_concat.mpr ⟨ready, joinReady⟩) complete
      · cases complete

theorem prefix_placePass (placed waiting : List Join) :
    placed <+: (placePass isLocal placed waiting).1 := by
  induction waiting generalizing placed with
  | nil => exact List.prefix_refl placed
  | cons join waiting inductionHypothesis =>
      rw [placePass]
      split
      · exact (List.prefix_append placed [join]).trans (inductionHypothesis _)
      · exact inductionHypothesis placed

/-- Joins that are placed stay in front. -/
theorem prefix_place (isLocal : TableRef → Bool) (placed waiting : List Join) :
    placed <+: (place isLocal placed waiting).1 := by
  induction placed, waiting using place.induct isLocal with
  | case1 placed waiting pass shorter inductionHypothesis =>
      rw [place, if_pos shorter]
      exact (prefix_placePass placed waiting).trans inductionHypothesis
  | case2 placed waiting pass stuck =>
      rw [place, if_neg stuck]
      exact prefix_placePass placed waiting

/-- A join that need not wait overtakes joins that are out of order. -/
theorem exists_eq_append_of_place
    {joins : List Join}
    {last : Join}
    (independent : last.kind.isOrderIndependent = true)
    (outOfOrder : ¬ AllReady isLocal joins)
    (complete : (place isLocal [] (joins ++ [last])).2 = []) :
    ∃ before after, (place isLocal [] (joins ++ [last])).1 = before ++ last :: after ∧
      after ≠ [] := by
  have pass : placePass isLocal [] (joins ++ [last]) = _ := placePass_concat independent [] joins
  have leftOver : (placePass isLocal [] joins).2 ≠ [] := fun complete =>
    outOfOrder (allReady_of_placePass_eq_nil allReady_nil complete)
  rw [place, pass] at complete ⊢
  dsimp only at complete ⊢
  split at complete
  · rename_i shorter
    rw [if_pos shorter]
    obtain ⟨after, placed_eq⟩ := prefix_place isLocal ((placePass isLocal [] joins).1 ++ [last])
      (placePass isLocal [] joins).2
    have perm := perm_place isLocal ((placePass isLocal [] joins).1 ++ [last])
      (placePass isLocal [] joins).2
    rw [complete, List.append_nil, ← placed_eq, List.perm_append_left_iff] at perm
    refine ⟨(placePass isLocal [] joins).1, after, ?_, ?_⟩
    · rw [← placed_eq, List.append_assoc, List.singleton_append]
    · rintro rfl
      exact leftOver perm.symm.eq_nil
  · exact absurd complete leftOver

end Join

namespace QueryBlock

/-- Reordering keeps every join. -/
theorem perm_joins_reorderJoins (block : QueryBlock) :
    block.reorderJoins.state.joins.Perm block.joins := by
  have placed := Join.perm_place block.isLocalSource [] block.joins
  simp only [reorderJoins]
  split
  · split
    · rename_i complete
      rw [List.isEmpty_iff.mp complete, List.append_nil] at placed
      exact placed
    · exact placed
  · exact List.Perm.refl _

end QueryBlock
end SqlBuilder
