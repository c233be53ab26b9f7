import SqlBuilder.Proofs.Locking.Reports
import SqlBuilder.Proofs.Ordering.Columns

/-!
# Places of nulls

A key of an ordering that asks for a place of its nulls is written with the directive, or
behind a key that sorts nulls last, or it is reported that the place is lost. The report
depends on the dialect alone: one that can emulate some places of nulls is silent about
those that it cannot, which are nulls first, nulls of a position, and nulls of anything
but a single column.
-/

namespace SqlBuilder

/-- The event says that a place of nulls is lost. -/
def Event.isNullWarning : Event → Bool
  | .nullOrderingUnsupported _ _ => true
  | _ => false

/-- The key is written with a place for its nulls: by the directive, or by a key in front
that sorts nulls last. -/
def OrderItem.Places (item : OrderItem) (nulls : NullOrder) : Prop :=
  item.directive = some nulls ∨ nulls = .last ∧ item.nullKey.isSome = true

namespace Capabilities

/-- The dialect can sort some nulls last by a key in front. -/
def emulatesNulls (capabilities : Capabilities) : Bool :=
  capabilities.nullsByFunction || capabilities.nullsByTest

theorem placesNulls_of_no_directive
    {capabilities : Capabilities}
    (noDirective : capabilities.nullsDirective = false) :
    capabilities.placesNulls = capabilities.emulatesNulls := by
  rw [placesNulls, noDirective, Bool.false_or, emulatesNulls]

/-- The dialect emulates places of nulls, but not the one that the key asks for. -/
structure DropsNulls (capabilities : Capabilities) (key : OrderKey) : Prop where
  noDirective : capabilities.nullsDirective = false
  emulates : capabilities.emulatesNulls = true
  unfit : key.nulls = some .first ∨ key.positional = true ∨
    key.expression.isSingleColumn = false

end Capabilities

namespace Dialect

variable {dialect : Dialect} {key : OrderKey}

/-- In a dialect that emulates places of nulls, a key stands in front of a single column
that is to have its nulls last. -/
theorem isSome_nullKey_iff
    (noDirective : dialect.capabilities.nullsDirective = false)
    (emulates : dialect.capabilities.emulatesNulls = true) :
    (dialect.orderItem key).nullKey.isSome = true ↔
      key.nulls = some .last ∧ key.positional = false ∧
        key.expression.isSingleColumn = true := by
  simp only [orderItem, Capabilities.nullKey?, noDirective, Bool.not_false, Bool.and_true]
  split
  · rename_i fits
    simp only [Bool.and_eq_true, decide_eq_true_eq, Bool.not_eq_true', and_assoc] at fits
    rw [Capabilities.emulatesNulls, Bool.or_eq_true] at emulates
    refine iff_of_true ?_ fits
    split
    · rfl
    · rename_i noFunction
      rw [if_pos (emulates.resolve_left noFunction), Option.isSome_some]
  · rename_i unfit
    simp only [Bool.and_eq_true, decide_eq_true_eq, Bool.not_eq_true', and_assoc] at unfit
    exact iff_of_false Bool.false_ne_true unfit

/-- A place of nulls is written, or its loss is reported, unless the dialect drops it. -/
theorem places_or_mem_orderEvents_iff
    {nulls : NullOrder}
    (asked : key.nulls = some nulls) :
    ((dialect.orderItem key).Places nulls ∨
        .nullOrderingUnsupported dialect.name key.name ∈ dialect.orderEvents key) ↔
      ¬ dialect.capabilities.DropsNulls key := by
  cases directive : dialect.capabilities.nullsDirective with
  | true =>
      have places : (dialect.orderItem key).Places nulls :=
        .inl (by simp only [orderItem, directive, asked, ↓reduceIte])
      exact iff_of_true (.inl places) fun drops =>
        Bool.false_ne_true (drops.noDirective.symm.trans directive)
  | false =>
      have undirected : (dialect.orderItem key).directive ≠ some nulls := by
        simp [orderItem, directive]
      have means := Capabilities.placesNulls_of_no_directive directive
      rw [OrderItem.Places, or_iff_right undirected]
      cases emulates : dialect.capabilities.emulatesNulls with
      | false =>
          have reported : dialect.orderEvents key =
              [.nullOrderingUnsupported dialect.name key.name] := by
            simp [orderEvents, means, emulates, asked]
          rw [reported]
          exact iff_of_true (.inr List.mem_cons_self) fun drops =>
            Bool.false_ne_true (emulates.symm.trans drops.emulates)
      | true =>
          -- Where some places are emulated none is reported, so the key in front decides.
          have silent : dialect.orderEvents key = [] := by simp [orderEvents, means, emulates]
          rw [silent, or_iff_left List.not_mem_nil, isSome_nullKey_iff directive emulates, asked]
          constructor
          · rintro ⟨rfl, _, notPosition, single⟩ ⟨_, _, first | position | several⟩
            · rw [asked] at first
              cases first
            · exact Bool.false_ne_true (notPosition.symm.trans position)
            · exact Bool.false_ne_true (several.symm.trans single)
          · intro kept
            have fits : ¬ (key.nulls = some .first ∨ key.positional = true ∨
                key.expression.isSingleColumn = false) :=
              fun unfit => kept ⟨directive, emulates, unfit⟩
            simp only [not_or, Bool.not_eq_true, Bool.not_eq_false] at fits
            obtain ⟨notFirst, notPosition, single⟩ := fits
            obtain rfl : nulls = .last := by
              cases nulls with
              | first => exact absurd asked notFirst
              | last => rfl
            exact ⟨rfl, rfl, notPosition, single⟩

end Dialect

/-- The keys of the ordering of a query stand in its text, in order. -/
theorem SelectQuery.hasPiece_orderBy
    {query : SelectQuery}
    (ordered : query.ending.orderBy ≠ []) :
    HasPiece query.toSql
      (" ORDER BY " ++ String.intercalate ", " (query.ending.orderBy.map OrderItem.toSql)) := by
  apply hasPiece_of_ending
  rw [SelectEnding.toSql, if_neg (mt List.isEmpty_iff.mp ordered)]
  exact ((HasPiece.refl _).append_right _).append_right _

namespace QueryBlock

/-- What is reported of locks says nothing about nulls. -/
theorem filter_isNullWarning_lockClause (block : QueryBlock) :
    block.lockClause.2.filter Event.isNullWarning = [] := by
  unfold lockClause Capabilities.forUpdate
  split
  · rfl
  split
  · split <;> rfl
  · split <;> rfl

/-- The places of nulls that a block reports as lost are those that its keys ask for, in
a dialect that can neither write nor emulate any. -/
theorem filter_isNullWarning_reports (block : QueryBlock) :
    block.reports.filter Event.isNullWarning =
      if block.capabilities.placesNulls then []
      else (block.orderKeys.filter fun key => key.nulls.isSome).map fun key =>
        .nullOrderingUnsupported block.dialect.name key.name := by
  rw [reports, List.filter_append, filter_isNullWarning_lockClause, List.append_nil]
  induction block.orderKeys with
  | nil => simp
  | cons key keys inductionHypothesis =>
      rw [List.flatMap_cons, List.filter_append, inductionHypothesis, Dialect.orderEvents,
        ← capabilities]
      cases placed : block.capabilities.placesNulls with
      | true => simp
      | false =>
          cases asked : key.nulls with
          | none => simp [asked]
          | some nulls => simp [asked, List.filter_cons, Event.isNullWarning]

/-- The loss of the place that a key of the block asks for is reported by the block if it
is reported for the key. -/
theorem mem_reports_iff_mem_orderEvents
    {block : QueryBlock}
    {key : OrderKey}
    (member : key ∈ block.orderKeys)
    (asked : key.nulls.isSome = true) :
    .nullOrderingUnsupported block.dialect.name key.name ∈ block.reports ↔
      .nullOrderingUnsupported block.dialect.name key.name ∈ block.dialect.orderEvents key := by
  have reported_iff : .nullOrderingUnsupported block.dialect.name key.name ∈ block.reports ↔
      .nullOrderingUnsupported block.dialect.name key.name ∈
        block.reports.filter Event.isNullWarning := by
    rw [List.mem_filter]
    exact (and_iff_left rfl).symm
  rw [reported_iff, filter_isNullWarning_reports, Dialect.orderEvents, asked, Bool.true_and,
    ← capabilities]
  cases block.capabilities.placesNulls with
  | true => exact Iff.rfl
  | false =>
      have asking : key ∈ block.orderKeys.filter fun key => key.nulls.isSome :=
        List.mem_filter.mpr ⟨member, asked⟩
      exact iff_of_true (List.mem_map_of_mem asking) List.mem_cons_self

end QueryBlock

namespace Statement

/-- In a SELECT without branches that is built anew every column of the ordering has a key,
and the keys stand in its text, in order. The events report the places of nulls of all
keys that ask for one, in a dialect without any means, and of no key in any other. Every
key that asks for a place is written with it or reported, exactly if the dialect does not
drop it. -/
theorem places_or_reports_nulls_iff
    {statement : Statement}
    (branchless : statement.branches = [])
    (notKept : statement.block.cachedSelect? = none)
    {query : SelectQuery}
    (built : statement.selectQuery.result = .ok query) :
    let dialect := statement.block.dialect
    let keys := statement.selectQuery.state.block.orderKeys
    List.Forall₂ (fun column key => OrderKey.IsFor key statement.block.orderMode column)
        statement.block.orderingColumns keys ∧
      query.ending.orderBy = keys.map dialect.orderItem ∧
      (keys ≠ [] → HasPiece query.toSql
        (" ORDER BY " ++ String.intercalate ", " (query.ending.orderBy.map OrderItem.toSql))) ∧
      statement.selectQuery.events.filter Event.isNullWarning =
        (if dialect.capabilities.placesNulls then []
        else (keys.filter fun key => key.nulls.isSome).map fun key =>
          .nullOrderingUnsupported dialect.name key.name) ∧
      ∀ key ∈ keys, ∀ nulls, key.nulls = some nulls →
        ((dialect.orderItem key).Places nulls ∨
            .nullOrderingUnsupported dialect.name key.name ∈ statement.selectQuery.events ↔
          ¬ dialect.capabilities.DropsNulls key) := by
  intro dialect keys
  cases statement with
  | node block branches =>
      rw [branches_node] at branchless
      subst branchless
      rw [block_node] at notKept
      obtain ⟨_, query_eq, events_eq⟩ := selectQuery_single_of_ok notKept built
      rw [single] at events_eq
      have keys_eq : keys = block.readied.orderKeys := by
        rcases selectQuery_cases built with ⟨kept, _⟩ | ⟨_, _, _, block_eq⟩
        · rw [QueryBlock.cachedSelect?_eq_some_iff.mpr kept] at notKept
          cases notKept
        · rw [show keys = _ from congrArg QueryBlock.orderKeys block_eq]
          rfl
      have dialect_eq : dialect = block.readied.dialect := by
        rw [block.readiedTo_readied.eq]
        rfl
      have orderBy_eq : query.ending.orderBy = keys.map dialect.orderItem := by
        rw [query_eq, keys_eq, dialect_eq]
        rfl
      refine ⟨?_, orderBy_eq, ?_, ?_, ?_⟩
      · have isFor := block.readied.forall₂_isFor_orderKeys
        rwa [block.readiedTo_readied.orderingColumns_eq, block.readiedTo_readied.orderMode_eq,
          ← keys_eq] at isFor
      · intro someKey
        apply SelectQuery.hasPiece_orderBy
        rw [orderBy_eq]
        exact mt List.map_eq_nil_iff.mp someKey
      · rw [events_eq, keys_eq, dialect_eq]
        exact block.readied.filter_isNullWarning_reports
      · intro key member nulls asked
        have isAsked : key.nulls.isSome = true := by rw [asked, Option.isSome_some]
        rw [keys_eq] at member
        rw [events_eq, dialect_eq, QueryBlock.mem_reports_iff_mem_orderEvents member isAsked]
        exact Dialect.places_or_mem_orderEvents_iff asked

/-- People by their addresses, backwards, in a dialect with the function that tests for
nulls. -/
def peopleByAddress (nulls : NullOrder) : Statement :=
  (people .mysql).runAll
    [.selectColumn none { table := "person", name := "id" } none true,
      .setOrdering [.columns "person" "A0" ["city", "street"]] [true] (some [some nulls])]

theorem places_nulls_peopleByAddress_last :
    (peopleByAddress .last).selectSql.result = .ok
        ("SELECT A0.id FROM person A0 " ++
          "ORDER BY ISNULL(A0.city), A0.city DESC, ISNULL(A0.street), A0.street DESC") ∧
      ∃ query, (peopleByAddress .last).selectQuery.result = .ok query ∧
        query.ending.orderBy.length = 2 ∧
        ∀ item ∈ query.ending.orderBy, item.Places .last := by
  obtain ⟨query, built⟩ : ∃ query, (peopleByAddress .last).selectQuery.result = .ok query :=
    ⟨_, rfl⟩
  obtain ⟨_, orderBy_eq, _, _, places_iff⟩ := places_or_reports_nulls_iff rfl rfl built
  have silent : (peopleByAddress .last).selectQuery.events = [] := by decide +kernel
  refine ⟨by decide +kernel, query, built, by rw [orderBy_eq]; rfl, ?_⟩
  rw [orderBy_eq, List.forall_mem_map]
  intro key member
  have isLast : key.nulls = some .last ∧ key.positional = false ∧
      key.expression.isSingleColumn = true := by
    revert key
    decide +kernel
  obtain ⟨asked, notPosition, single⟩ := isLast
  have kept : ¬ (peopleByAddress .last).block.dialect.capabilities.DropsNulls key := by
    rintro ⟨_, _, unfit⟩
    simp [asked, notPosition, single] at unfit
  have placed := (places_iff key member .last asked).mpr kept
  rw [silent] at placed
  exact placed.resolve_right List.not_mem_nil

/-- Nulls that are to come first are neither placed nor reported. -/
theorem not_places_nulls_peopleByAddress_first :
    (peopleByAddress .first).Reachable ∧ (peopleByAddress .first).branches = [] ∧
      (peopleByAddress .first).block.cachedSelect? = none ∧
      (peopleByAddress .first).selectSql.result = .ok
        "SELECT A0.id FROM person A0 ORDER BY A0.city DESC, A0.street DESC" ∧
      (peopleByAddress .first).selectSql.events = [] ∧
      ∃ key ∈ (peopleByAddress .first).selectQuery.state.block.orderKeys,
        key.nulls = some .first ∧
          ¬ ((peopleByAddress .first).block.dialect.orderItem key).Places .first := by
  refine ⟨Reachable.runAll (by simp) (reachedBy_people _ .mysql), rfl, rfl, by decide +kernel,
    by decide +kernel, _, List.mem_cons_self, rfl, ?_⟩
  rintro (directive | ⟨isLast, _⟩)
  · cases directive
  · cases isLast

end Statement
end SqlBuilder
