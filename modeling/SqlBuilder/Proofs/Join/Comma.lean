import SqlBuilder.Proofs.Operation
import SqlBuilder.Proofs.Joining
import SqlBuilder.Proofs.Predicate.Meaning

/-!
# Joins behind commas

In a dialect without join syntax the condition of a join goes into the WHERE
clause, where later predicates are combined with it. The same calls are followed
here in two dialects that differ in join syntax alone, and what their conditions
say together is compared.
-/

namespace SqlBuilder

namespace QueryBlock

/-- The same block in a dialect with or without join syntax. -/
def withAnsiJoins (block : QueryBlock) (ansiJoins : Bool) : QueryBlock :=
  { block with
    dialect := { block.dialect with
      capabilities := { block.dialect.capabilities with ansiJoins := ansiJoins } } }

/-- Two blocks after the same calls, the first in a dialect with join syntax and
the second in one without. -/
structure Parallel (ansi comma : QueryBlock) : Prop where
  registry : comma.registry = ansi.registry
  primary : comma.primary = ansi.primary
  namer : comma.namer = ansi.namer
  ancestry : comma.ancestry = ansi.ancestry
  ansiJoins : ansi.capabilities.ansiJoins = true
  commaJoins : comma.capabilities.ansiJoins = false
  /-- There is a condition behind the commas if there is one anywhere else. -/
  unconditional : comma.condition = none ↔
    ansi.condition = none ∧ ∀ join ∈ ansi.joins, join.onCondition? = none

variable {ansi comma : QueryBlock}

theorem Parallel.resolveTarget_eq
    (parallel : Parallel ansi comma)
    (table : Table)
    (aliasName group : Option String) :
    comma.resolveTarget table aliasName group = ansi.resolveTarget table aliasName group := by
  simp only [resolveTarget, namingContext, depth, parallel.registry, parallel.namer,
    parallel.ancestry]

theorem Parallel.resolveSource_eq
    (parallel : Parallel ansi comma)
    (source : JoinSource) : comma.resolveSource source = ansi.resolveSource source := by
  cases source with
  | primary => rw [resolveSource, resolveSource, parallel.primary]
  | registered aliasName => rw [resolveSource, resolveSource, parallel.registry]

/-- The conditions of both blocks say the same. -/
def Agree (valuation : Valuation) (ansi comma : QueryBlock) : Prop :=
  ansi.arm.filtersHold valuation = valuation.satisfies comma.arm.condition

/-- A predicate may be admitted as an alternative behind commas: where it holds
all join conditions hold, and where nothing but join conditions is required so
far it holds with them. -/
def HarmlessOr (valuation : Valuation) (ansi : QueryBlock) (predicate : Predicate) : Prop :=
  (predicate.holds valuation = true → ansi.arm.onHold valuation = true) ∧
    (ansi.condition = none → (∃ join ∈ ansi.joins, join.onCondition? ≠ none) →
      ansi.arm.onHold valuation = true → predicate.holds valuation = true)

/-! ## One more join -/

section Append

variable (spec : JoinSpec) (source target : TableRef)

theorem onCondition?_keyedJoin_of_ansiJoins (ansiJoins : ansi.capabilities.ansiJoins = true) :
    (ansi.keyedJoin spec source target).onCondition? = spec.condition? source target := by
  rw [keyedJoin, if_pos ansiJoins]
  rfl

theorem condition_appendKeyedJoin (ansiJoins : ansi.capabilities.ansiJoins = true) :
    (ansi.appendKeyedJoin spec source target).condition = ansi.condition := by
  rw [appendKeyedJoin_of_ansiJoins _ _ _ _ ansiJoins]

theorem satisfies_appendKeyedJoin
    (commaJoins : comma.capabilities.ansiJoins = false)
    (valuation : Valuation) :
    valuation.satisfies (comma.appendKeyedJoin spec source target).condition =
      (valuation.satisfies comma.condition &&
        valuation.satisfies (spec.condition? source target)) := by
  rw [appendKeyedJoin_of_not_ansiJoins _ _ _ _ commaJoins]
  cases spec.condition? source target with
  | none => simp
  | some predicate => exact satisfies_whereAnd _ predicate valuation

theorem condition_appendKeyedJoin_eq_none_iff
    (commaJoins : comma.capabilities.ansiJoins = false) :
    (comma.appendKeyedJoin spec source target).condition = none ↔
      comma.condition = none ∧ spec.condition? source target = none := by
  rw [appendKeyedJoin_of_not_ansiJoins _ _ _ _ commaJoins]
  cases given : spec.condition? source target with
  | none => simp
  | some predicate =>
      simp only [Option.elim_some, condition_whereAnd_eq_none_iff,
        JoinSpec.isAlways_of_condition? given]
      simp

theorem Parallel.append (parallel : Parallel ansi comma) :
    Parallel (ansi.appendKeyedJoin spec source target)
      (comma.appendKeyedJoin spec source target) := by
  constructor
  · rw [registry_appendKeyedJoin, registry_appendKeyedJoin, parallel.registry]
  · rw [primary_appendKeyedJoin, primary_appendKeyedJoin, parallel.primary]
  · rw [namer_appendKeyedJoin, namer_appendKeyedJoin, parallel.namer]
  · rw [ancestry_appendKeyedJoin, ancestry_appendKeyedJoin, parallel.ancestry]
  · rw [capabilities_appendKeyedJoin, parallel.ansiJoins]
  · rw [capabilities_appendKeyedJoin, parallel.commaJoins]
  · rw [condition_appendKeyedJoin_eq_none_iff _ _ _ parallel.commaJoins,
      condition_appendKeyedJoin _ _ _ parallel.ansiJoins, joins_appendKeyedJoin,
      parallel.unconditional, List.forall_mem_append, List.forall_mem_singleton,
      onCondition?_keyedJoin_of_ansiJoins _ _ _ parallel.ansiJoins, and_assoc]

/-- Whichever clause the condition of a join goes into, it is required. -/
theorem Agree.append
    {valuation : Valuation}
    (parallel : Parallel ansi comma)
    (agree : Agree valuation ansi comma) :
    Agree valuation (ansi.appendKeyedJoin spec source target)
      (comma.appendKeyedJoin spec source target) := by
  have onHold_eq : (ansi.appendKeyedJoin spec source target).arm.onHold valuation =
      (ansi.arm.onHold valuation && valuation.satisfies (spec.condition? source target)) := by
    rw [onHold_arm, onHold_arm, joins_appendKeyedJoin, List.all_append, List.all_cons,
      List.all_nil, Bool.and_true, onCondition?_keyedJoin_of_ansiJoins _ _ _ parallel.ansiJoins]
  have comma_eq := satisfies_appendKeyedJoin spec source target parallel.commaJoins valuation
  have ansi_eq := condition_appendKeyedJoin spec source target parallel.ansiJoins
  change _ = valuation.satisfies comma.condition at agree
  change _ = valuation.satisfies (comma.appendKeyedJoin spec source target).condition
  rw [comma_eq, ← agree, SelectArm.filtersHold, onHold_eq]
  change (_ && valuation.satisfies (ansi.appendKeyedJoin spec source target).condition) = _
  rw [ansi_eq, Bool.and_right_comm]
  rfl

end Append

/-- The same join either fails in both blocks, for one reason, or is appended in
both. -/
theorem Parallel.join_cases
    (parallel : Parallel ansi comma)
    {spec : JoinSpec}
    (inner : spec.kind = .inner) :
    (comma.join spec).result = (ansi.join spec).result ∧
      ((ansi.join spec).state = ansi ∧ (comma.join spec).state = comma ∨
        ∃ source target,
          (ansi.join spec).state = ansi.appendKeyedJoin spec source target ∧
          (comma.join spec).state = comma.appendKeyedJoin spec source target) := by
  have noOuter : ∀ block : QueryBlock,
      (spec.kind = .rightOuter && !block.capabilities.rightOuterJoins) = false := by
    intro block
    rw [inner]
    rfl
  simp only [join, parallel.resolveSource_eq, parallel.resolveTarget_eq, noOuter]
  cases ansi.resolveSource spec.source with
  | error error => exact ⟨rfl, .inl ⟨rfl, rfl⟩⟩
  | ok source =>
      cases ansi.resolveTarget spec.table spec.aliasName spec.group with
      | error error => exact ⟨rfl, .inl ⟨rfl, rfl⟩⟩
      | ok resolved =>
          cases resolved with
          | present target => exact ⟨rfl, .inl ⟨rfl, rfl⟩⟩
          | added target => exact ⟨rfl, .inr ⟨source, target, rfl, rfl⟩⟩

/-! ## One more cross join or predicate -/

theorem Parallel.appendCrossJoin
    (parallel : Parallel ansi comma)
    (target : TableRef) :
    Parallel (ansi.appendCrossJoin target) (comma.appendCrossJoin target) := by
  refine ⟨?_, parallel.primary, parallel.namer, parallel.ancestry, parallel.ansiJoins,
    parallel.commaJoins, ?_⟩
  · rw [QueryBlock.appendCrossJoin, QueryBlock.appendCrossJoin, parallel.registry]
  · simp only [QueryBlock.appendCrossJoin, List.forall_mem_append, List.forall_mem_singleton]
    exact parallel.unconditional.trans ⟨fun none => ⟨none.1, none.2, rfl⟩,
      fun none => ⟨none.1, none.2.1⟩⟩

theorem Agree.appendCrossJoin
    {valuation : Valuation}
    (agree : Agree valuation ansi comma)
    (target : TableRef) :
    Agree valuation (ansi.appendCrossJoin target) (comma.appendCrossJoin target) := by
  have onHold_eq : (ansi.appendCrossJoin target).arm.onHold valuation =
      ansi.arm.onHold valuation := by
    simp [onHold_arm, QueryBlock.appendCrossJoin, Join.onCondition?]
  rw [Agree, SelectArm.filtersHold, onHold_eq]
  exact agree

theorem Parallel.crossJoin_cases
    (parallel : Parallel ansi comma)
    (table : Table)
    (aliasName group : Option String) :
    (comma.crossJoin table aliasName group).result =
        (ansi.crossJoin table aliasName group).result ∧
      ((ansi.crossJoin table aliasName group).state = ansi ∧
          (comma.crossJoin table aliasName group).state = comma ∨
        ∃ target,
          (ansi.crossJoin table aliasName group).state = ansi.appendCrossJoin target ∧
          (comma.crossJoin table aliasName group).state = comma.appendCrossJoin target) := by
  simp only [crossJoin, parallel.resolveTarget_eq]
  cases ansi.resolveTarget table aliasName group with
  | error error => exact ⟨rfl, .inl ⟨rfl, rfl⟩⟩
  | ok resolved =>
      cases resolved with
      | present target => exact ⟨rfl, .inl ⟨rfl, rfl⟩⟩
      | added target => exact ⟨rfl, .inr ⟨target, rfl, rfl⟩⟩

/-- Conditions changed alone leave what the joins ask for as it is. -/
theorem onHold_arm_congr
    {first second : QueryBlock}
    (joins_eq : second.joins = first.joins)
    (valuation : Valuation) :
    second.arm.onHold valuation = first.arm.onHold valuation := by
  rw [onHold_arm, onHold_arm, joins_eq]

theorem Parallel.whereAnd
    (parallel : Parallel ansi comma)
    (predicate : Predicate) :
    Parallel (ansi.whereAnd predicate) (comma.whereAnd predicate) := by
  cases always : predicate.isAlways with
  | true =>
      rw [QueryBlock.whereAnd, QueryBlock.whereAnd, if_pos always, if_pos always]
      exact parallel
  | false =>
      rw [QueryBlock.whereAnd, QueryBlock.whereAnd, if_neg (by simp [always]),
        if_neg (by simp [always])]
      exact ⟨parallel.registry, parallel.primary, parallel.namer, parallel.ancestry,
        parallel.ansiJoins, parallel.commaJoins, by simp⟩

theorem Agree.whereAnd
    {valuation : Valuation}
    (agree : Agree valuation ansi comma)
    (predicate : Predicate) :
    Agree valuation (ansi.whereAnd predicate) (comma.whereAnd predicate) := by
  have onHold_eq : (ansi.whereAnd predicate).arm.onHold valuation =
      ansi.arm.onHold valuation := onHold_arm_congr (by rw [whereAnd_eq]) valuation
  change _ = valuation.satisfies (comma.whereAnd predicate).condition
  change (_ && valuation.satisfies (ansi.whereAnd predicate).condition) = _
  rw [onHold_eq, satisfies_whereAnd, satisfies_whereAnd, ← Bool.and_assoc]
  exact congrArg (· && predicate.holds valuation) agree

theorem Parallel.whereOr
    (parallel : Parallel ansi comma)
    (predicate : Predicate) :
    Parallel (ansi.whereOr predicate) (comma.whereOr predicate) where
  registry := parallel.registry
  primary := parallel.primary
  namer := parallel.namer
  ancestry := parallel.ancestry
  ansiJoins := parallel.ansiJoins
  commaJoins := parallel.commaJoins
  unconditional := by simp [QueryBlock.whereOr]

/-- An alternative keeps the conditions in agreement exactly if it is
harmless. -/
theorem agree_whereOr_iff
    {valuation : Valuation}
    (parallel : Parallel ansi comma)
    (agree : Agree valuation ansi comma)
    (predicate : Predicate) :
    Agree valuation (ansi.whereOr predicate) (comma.whereOr predicate) ↔
      HarmlessOr valuation ansi predicate := by
  have agree_iff : Agree valuation (ansi.whereOr predicate) (comma.whereOr predicate) ↔
      (ansi.arm.onHold valuation &&
          ansi.condition.elim (predicate.holds valuation) fun present =>
            present.holds valuation || predicate.holds valuation) =
        comma.condition.elim (predicate.holds valuation) fun present =>
          present.holds valuation || predicate.holds valuation := by
    rw [← satisfies_whereOr, ← satisfies_whereOr]
    rfl
  have agreed : (ansi.arm.onHold valuation && valuation.satisfies ansi.condition) =
      valuation.satisfies comma.condition := agree
  have unconditional := parallel.unconditional
  rw [agree_iff, HarmlessOr]
  cases ansiCondition : ansi.condition with
  | some present =>
      -- Something is required behind the commas too, and it includes the joins.
      cases commaCondition : comma.condition with
      | none => simp [ansiCondition, commaCondition] at unconditional
      | some other =>
          simp only [ansiCondition, commaCondition, Valuation.satisfies_some] at agreed
          simp only [Option.elim_some, ← agreed, reduceCtorEq, false_implies, and_true]
          cases ansi.arm.onHold valuation <;> cases present.holds valuation <;>
            cases predicate.holds valuation <;> decide
  | none =>
      rw [ansiCondition, Valuation.satisfies_none, Bool.and_true] at agreed
      cases commaCondition : comma.condition with
      | none =>
          -- No join has a condition, so the predicate is all that is required.
          have free := (unconditional.mp commaCondition).2
          rw [commaCondition, Valuation.satisfies_none] at agreed
          simp only [Option.elim_none, agreed, Bool.true_and, implies_true, true_and]
          exact ⟨fun _ _ ⟨join, member, given⟩ => absurd (free join member) given,
            fun _ => trivial⟩
      | some other =>
          -- The joins ask for something, and that is all that is required so far.
          have asked : ∃ join ∈ ansi.joins, join.onCondition? ≠ none := by
            by_contra noneAsked
            push Not at noneAsked
            rw [unconditional.mpr ⟨ansiCondition, noneAsked⟩] at commaCondition
            cases commaCondition
          rw [commaCondition, Valuation.satisfies_some] at agreed
          simp only [Option.elim_none, Option.elim_some, ← agreed, asked, true_implies]
          cases ansi.arm.onHold valuation <;> cases predicate.holds valuation <;> decide

end QueryBlock

/-! ## Runs in both dialects -/

/-- An inner join, a cross join, or a predicate for the WHERE clause. -/
def Operation.JoinsOrFilters : Operation → Prop
  | .join spec => spec.kind = .inner
  | .crossJoin .. => True
  | .whereAnd .. => True
  | .whereOr .. => True
  | _ => False

namespace Statement

variable {block : QueryBlock}

theorem modify_single
    (change : QueryBlock → QueryBlock)
    (everywhere : Bool) :
    (single block).modify everywhere change = single (change block) := by
  rw [single, modify]
  split
  · rw [mapBlocks_node]
    rfl
  · rfl

open QueryBlock (Parallel Agree HarmlessOr)

/-- The same call has the same answer in both dialects, and keeps their
conditions in agreement exactly if it admits no harmful alternative. -/
theorem parallel_run
    {valuation : Valuation}
    {ansi comma : QueryBlock}
    (parallel : Parallel ansi comma)
    (agree : Agree valuation ansi comma)
    {operation : Operation}
    (allowed : operation.JoinsOrFilters) :
    Parallel (operation.run (single ansi)).state.block
        (operation.run (single comma)).state.block ∧
      (operation.run (single comma)).result = (operation.run (single ansi)).result ∧
      (Agree valuation (operation.run (single ansi)).state.block
          (operation.run (single comma)).state.block ↔
        ∀ predicate everywhere, operation = .whereOr predicate everywhere →
          HarmlessOr valuation ansi predicate) := by
  cases operation with
  | join spec =>
      have inner : spec.kind = .inner := allowed
      simp only [Operation.run, Outcome.state_map, Outcome.result_map, join]
      cases checked : spec.checkKeys with
      | error error => exact ⟨parallel, rfl, iff_of_true agree nofun⟩
      | ok checked =>
          obtain ⟨result_eq, states⟩ := parallel.join_cases inner
          simp only [(spreadJoin_single ansi spec).1,
            (spreadJoin_single comma spec).1,
            (spreadJoin_single ansi spec).2,
            (spreadJoin_single comma spec).2, result_eq]
          rcases states with ⟨ansi_eq, comma_eq⟩ | ⟨source, target, ansi_eq, comma_eq⟩
          · rw [ansi_eq, comma_eq]
            exact ⟨parallel, trivial, iff_of_true agree nofun⟩
          · rw [ansi_eq, comma_eq]
            exact ⟨parallel.append spec source target, trivial,
              iff_of_true (agree.append spec source target parallel) nofun⟩
  | crossJoin table aliasName group =>
      obtain ⟨result_eq, states⟩ := parallel.crossJoin_cases table aliasName group
      simp only [Operation.run, Outcome.state_map, Outcome.result_map,
        (crossJoin_single ansi table aliasName group).1,
        (crossJoin_single comma table aliasName group).1,
        (crossJoin_single ansi table aliasName group).2,
        (crossJoin_single comma table aliasName group).2, result_eq]
      rcases states with ⟨ansi_eq, comma_eq⟩ | ⟨target, ansi_eq, comma_eq⟩
      · rw [ansi_eq, comma_eq]
        exact ⟨parallel, trivial, iff_of_true agree nofun⟩
      · rw [ansi_eq, comma_eq]
        exact ⟨parallel.appendCrossJoin target, trivial,
          iff_of_true (agree.appendCrossJoin target) nofun⟩
  | whereAnd predicate everywhere =>
      simp only [Operation.run, Outcome.ok, whereAnd, modify_single]
      exact ⟨parallel.whereAnd predicate, trivial, iff_of_true (agree.whereAnd predicate) nofun⟩
  | whereOr predicate everywhere =>
      simp only [Operation.run, Outcome.ok, whereOr, modify_single]
      refine ⟨parallel.whereOr predicate, trivial,
        (QueryBlock.agree_whereOr_iff parallel agree predicate).trans ?_⟩
      constructor
      · intro harmless other _ isIt
        cases isIt
        exact harmless
      · intro harmless
        exact harmless predicate everywhere rfl
  | _ => cases allowed

/-- Two statements without branches after the same calls, in dialects that differ
in join syntax alone. No alternative admitted on the way was harmful. -/
inductive RunTogether (valuation : Valuation) : QueryBlock → QueryBlock → Prop
  | start {block : QueryBlock} :
      (∀ join ∈ block.joins, join.onCondition? = none) →
      RunTogether valuation (block.withAnsiJoins true) (block.withAnsiJoins false)
  | step {ansi comma : QueryBlock} {operation : Operation} :
      RunTogether valuation ansi comma →
      operation.JoinsOrFilters →
      (∀ predicate everywhere, operation = .whereOr predicate everywhere →
        HarmlessOr valuation ansi predicate) →
      RunTogether valuation (operation.run (single ansi)).state.block
        (operation.run (single comma)).state.block

theorem RunTogether.parallel_and_agree
    {valuation : Valuation}
    {ansi comma : QueryBlock}
    (together : RunTogether valuation ansi comma) :
    Parallel ansi comma ∧ Agree valuation ansi comma := by
  induction together with
  | @start block unconditional =>
      have asksNothing : (block.withAnsiJoins true).arm.onHold valuation = true := by
        rw [QueryBlock.onHold_arm, List.all_eq_true]
        intro join member
        rw [unconditional join member, Valuation.satisfies_none]
      refine ⟨⟨rfl, rfl, rfl, rfl, rfl, rfl, ?_⟩, ?_⟩
      · exact ⟨fun noCondition => ⟨noCondition, unconditional⟩, And.left⟩
      · rw [Agree, SelectArm.filtersHold, asksNothing]
        rfl
  | step _ allowed harmless inductionHypothesis =>
      obtain ⟨parallel, agree⟩ := inductionHypothesis
      obtain ⟨parallelAfter, _, agree_iff⟩ := parallel_run parallel agree allowed
      exact ⟨parallelAfter, agree_iff.mpr harmless⟩

/-- As long as no harmful alternative is admitted, the WHERE clause behind commas
says what the join conditions and the WHERE clause say together in a dialect with
join syntax. The next call has the same answer in both dialects, and keeps the
agreement exactly if it admits no harmful alternative. -/
theorem agree_iff_harmlessOr
    {valuation : Valuation}
    {ansi comma : QueryBlock}
    (together : RunTogether valuation ansi comma) :
    Agree valuation ansi comma ∧
      ∀ operation : Operation, operation.JoinsOrFilters →
        (operation.run (single comma)).result = (operation.run (single ansi)).result ∧
        (Agree valuation (operation.run (single ansi)).state.block
            (operation.run (single comma)).state.block ↔
          ∀ predicate everywhere, operation = .whereOr predicate everywhere →
            HarmlessOr valuation ansi predicate) := by
  obtain ⟨parallel, agree⟩ := together.parallel_and_agree
  exact ⟨agree, fun operation allowed => (parallel_run parallel agree allowed).2⟩

/-- People in a dialect with or without join syntax. -/
def peopleIn (ansiJoins : Bool) : Statement :=
  single ((people {}).block.withAnsiJoins ansiJoins)

/-- Join the addresses of people. -/
def joinAddresses : Operation :=
  .join
    { kind := .inner
      table := { name := "address" }
      aliasName := some "B0"
      sourceKey := some { table := "person", columns := ["id"] }
      targetKey := some { table := "address", columns := ["person_id"] } }

/-- Admit people of more than three years. -/
def admitOlder : Operation :=
  .whereOr (.raw "A0.age > 3") true

/-- All people are older than three, and no one has an address. -/
def olderWithoutAddress : Valuation :=
  { raw := fun sql => sql == "A0.age > 3", existence := fun _ => false }

theorem agree_iff_harmlessOr_olderFirst :
    Agree olderWithoutAddress ((peopleIn true).runAll [admitOlder, joinAddresses]).block
      ((peopleIn false).runAll [admitOlder, joinAddresses]).block := by
  have older : RunTogether olderWithoutAddress
      (admitOlder.run (peopleIn true)).state.block
      (admitOlder.run (peopleIn false)).state.block := by
    refine .step (.start fun _ member => nomatch member) trivial fun predicate _ _ => ?_
    exact ⟨fun _ => rfl, fun _ ⟨_, member, _⟩ => nomatch member⟩
  exact ((agree_iff_harmlessOr older).2 joinAddresses rfl).2.mpr nofun

/-- An alternative to a join that has a condition: behind commas it is one to the
join condition too. -/
theorem not_agree_olderLast :
    (((peopleIn true).runAll [joinAddresses, admitOlder]).sql .select ⟨2⟩).result = .ok
        ("SELECT * FROM person A0 INNER JOIN address B0 ON A0.id = B0.person_id " ++
          "WHERE A0.age > 3") ∧
      (((peopleIn false).runAll [joinAddresses, admitOlder]).sql .select ⟨2⟩).result = .ok
        "SELECT * FROM person A0, address B0 WHERE A0.id = B0.person_id OR A0.age > 3" ∧
      ((peopleIn true).runAll [joinAddresses, admitOlder]).block.arm.filtersHold
        olderWithoutAddress = false ∧
      olderWithoutAddress.satisfies
        ((peopleIn false).runAll [joinAddresses, admitOlder]).block.arm.condition = true :=
  ⟨rfl, rfl, rfl, rfl⟩

end Statement
end SqlBuilder
