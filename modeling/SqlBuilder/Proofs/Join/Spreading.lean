import SqlBuilder.Proofs.Consistency
import SqlBuilder.Proofs.Join.Comma

/-!
# A join that spreads

A join that applies everywhere is settled at the root and repeated in every branch. What
it leaves behind is said here block by block: the alias leads to the table in every block
of the tree, and each block that did not have it has one join more, from a table of its
own, with a condition that leaves out no column of the keys.
-/

namespace SqlBuilder

namespace Predicate

/-- All of some predicates are required, if there are any. -/
def allOf? : List Predicate → Option Predicate
  | [] => none
  | operands => some (all operands)

/-- A conjunction of predicates that are none themselves takes one more. -/
theorem and_all
    {operands : List Predicate}
    (nonempty : operands ≠ [])
    (plain : ∀ operand ∈ operands, operand.isConjunction = false)
    (last : Predicate) : (all operands).and last = all (operands ++ [last]) := by
  match operands, nonempty with
  | [only], _ =>
      have onlyPlain := plain only (List.mem_singleton_self only)
      cases only with
      | conj inner => cases onlyPlain
      | _ => rfl
  | first :: second :: rest, _ => rfl

/-- One more predicate is required beside the others. -/
theorem allOf?_append_singleton
    {operands : List Predicate}
    (plain : ∀ operand ∈ operands, operand.isConjunction = false)
    (last : Predicate) :
    allOf? (operands ++ [last]) =
      some ((allOf? operands).elim last fun others => others.and last) := by
  cases operands with
  | nil => rfl
  | cons first rest => exact congrArg some (and_all (List.cons_ne_nil _ _) plain last).symm

theorem allOf?_of_ne_nil {operands : List Predicate} (nonempty : operands ≠ []) :
    allOf? operands = some (all operands) := by
  cases operands with
  | nil => exact absurd rfl nonempty
  | cons first rest => rfl

end Predicate

namespace JoinSpec

variable {spec : JoinSpec}

/-- The comparisons of the two keys between two aliases, column by column, if both keys
are given. -/
def keyConjuncts (spec : JoinSpec) (source target : String) : List Predicate :=
  match spec.sourceKey, spec.targetKey with
  | some sourceKey, some targetKey =>
      (sourceKey.columns.zip targetKey.columns).map fun pair =>
        .raw (source ++ "." ++ pair.1 ++ " = " ++ (target ++ "." ++ pair.2))
  | _, _ => []

/-- The choice among the discriminator values under an alias, in parentheses, if the table
has a discriminator and values are given. -/
def discriminatorConjunct? (spec : JoinSpec) (target : String) : Option Predicate :=
  match spec.table.discriminator, spec.discriminators with
  | some column, first :: rest =>
      some (.paren (.any ((first :: rest).map fun value =>
        .raw (target ++ "." ++ column ++ " = " ++ value.toSql))))
  | _, _ => none

/-- All that a join between two aliases requires. -/
def conjuncts (spec : JoinSpec) (source target : String) : List Predicate :=
  spec.keyConjuncts source target ++ (spec.discriminatorConjunct? target).toList

/-- Keys that pass the check have columns, as many on either side. -/
theorem columns_of_checkKeys
    (checked : spec.checkKeys = .ok ())
    {sourceKey targetKey : Mapping}
    (sourceGiven : spec.sourceKey = some sourceKey)
    (targetGiven : spec.targetKey = some targetKey) :
    sourceKey.columns ≠ [] ∧ targetKey.columns ≠ [] ∧
      sourceKey.columns.length = targetKey.columns.length := by
  simp only [checkKeys, sourceGiven, targetGiven] at checked
  split at checked
  · cases checked
  · rename_i nonempty
    split at checked
    · cases checked
    · rename_i sameArity
      simp only [Mapping.isEmpty, Bool.or_eq_true, List.isEmpty_iff, not_or] at nonempty
      exact ⟨nonempty.1, nonempty.2, not_not.mp sameArity⟩

/-- Every column of either key is compared. -/
theorem length_keyConjuncts
    (checked : spec.checkKeys = .ok ())
    {sourceKey targetKey : Mapping}
    (sourceGiven : spec.sourceKey = some sourceKey)
    (targetGiven : spec.targetKey = some targetKey)
    (source target : String) :
    (spec.keyConjuncts source target).length = sourceKey.arity ∧
      (spec.keyConjuncts source target).length = targetKey.arity := by
  obtain ⟨_, _, sameArity⟩ := columns_of_checkKeys checked sourceGiven targetGiven
  simp only [keyConjuncts, sourceGiven, targetGiven, List.length_map, List.length_zip,
    Mapping.arity, sameArity, Nat.min_self, and_self]

theorem isConjunction_of_mem_keyConjuncts
    {source target : String}
    {operand : Predicate}
    (member : operand ∈ spec.keyConjuncts source target) : operand.isConjunction = false := by
  rw [keyConjuncts] at member
  split at member
  · obtain ⟨_, _, rfl⟩ := List.mem_map.mp member
    rfl
  · cases member

/-- Columns are compared pair by pair. -/
theorem isEqualTo_mapping
    {source target : TableRef}
    {sourceKey targetKey : Mapping}
    (sourceColumns : sourceKey.columns ≠ [])
    (targetColumns : targetKey.columns ≠ []) :
    (Expression.mapping source sourceKey).isEqualTo (.mapping target targetKey) =
      .all ((sourceKey.columns.zip targetKey.columns).map fun pair =>
        .raw (source.aliasName ++ "." ++ pair.1 ++ " = " ++
          (target.aliasName ++ "." ++ pair.2))) := by
  have text_single : ∀ (ref : TableRef) (name : String),
      (Expression.columns ref.table.name ref.aliasName [name]).text =
        ref.aliasName ++ "." ++ name := Expression.text_column
  obtain ⟨first, firsts, sourceColumns⟩ := List.exists_cons_of_ne_nil sourceColumns
  obtain ⟨second, seconds, targetColumns⟩ := List.exists_cons_of_ne_nil targetColumns
  rw [Expression.isEqualTo, Expression.mapping, Expression.mapping, sourceColumns,
    targetColumns, Expression.components_columns_cons, Expression.components_columns_cons,
    List.zip_map, List.map_map]
  simp only [Function.comp_def, Prod.map, text_single]

/-- The comparison of the keys requires the pairs of columns to be equal. -/
theorem keyCondition?_eq_allOf?
    (checked : spec.checkKeys = .ok ())
    (source target : TableRef) :
    spec.keyCondition? source target =
      Predicate.allOf? (spec.keyConjuncts source.aliasName target.aliasName) := by
  cases sourceGiven : spec.sourceKey with
  | none => simp only [keyCondition?, keyConjuncts, sourceGiven, Predicate.allOf?]
  | some sourceKey =>
      cases targetGiven : spec.targetKey with
      | none => simp only [keyCondition?, keyConjuncts, sourceGiven, targetGiven,
          Predicate.allOf?]
      | some targetKey =>
          obtain ⟨sourceColumns, targetColumns, _⟩ :=
            columns_of_checkKeys checked sourceGiven targetGiven
          have compared : spec.keyConjuncts source.aliasName target.aliasName ≠ [] := by
            rw [← List.length_pos_iff,
              (length_keyConjuncts checked sourceGiven targetGiven _ _).1]
            exact List.length_pos_iff.mpr sourceColumns
          rw [Predicate.allOf?_of_ne_nil compared]
          simp only [keyCondition?, keyConjuncts, sourceGiven, targetGiven,
            isEqualTo_mapping sourceColumns targetColumns]

theorem discriminatorCondition?_eq
    {target : TableRef}
    (sameTable : target.table = spec.table) :
    spec.discriminatorCondition? target = spec.discriminatorConjunct? target.aliasName := by
  have equalsLiteral_eq : ∀ (column : String) (value : Literal),
      (Expression.column target column).equalsLiteral value =
        .raw (target.aliasName ++ "." ++ column ++ " = " ++ value.toSql) := by
    intro column value
    have spaced : " " ++ "=" ++ " " = " = " := rfl
    rw [← Expression.text_column, ← spaced, Expression.equalsLiteral, Expression.compare]
    simp only [String.append_assoc]
    rfl
  rw [discriminatorCondition?, discriminatorConjunct?, sameTable]
  cases spec.table.discriminator with
  | none => rfl
  | some column =>
      cases spec.discriminators with
      | nil => rfl
      | cons first rest =>
          exact congrArg (fun equals => some (Predicate.paren (.any ((first :: rest).map equals))))
            (funext (equalsLiteral_eq column))

/-- The condition of a join requires what the keys and the discriminator ask for. -/
theorem condition?_eq_allOf?
    (checked : spec.checkKeys = .ok ())
    {target : TableRef}
    (sameTable : target.table = spec.table)
    (source : TableRef) :
    spec.condition? source target =
      Predicate.allOf? (spec.conjuncts source.aliasName target.aliasName) := by
  rw [condition?, keyCondition?_eq_allOf? checked, discriminatorCondition?_eq sameTable,
    conjuncts]
  cases spec.discriminatorConjunct? target.aliasName with
  | none =>
      rw [Option.toList_none, List.append_nil]
      cases Predicate.allOf? (spec.keyConjuncts source.aliasName target.aliasName) <;> rfl
  | some values =>
      rw [Option.toList_some, Predicate.allOf?_append_singleton fun _ =>
        isConjunction_of_mem_keyConjuncts]
      cases Predicate.allOf? (spec.keyConjuncts source.aliasName target.aliasName) <;> rfl

end JoinSpec

namespace QueryBlock

/-- A join asked of a block starts from a table of this block. -/
def StartsFrom (block : QueryBlock) : JoinSource → TableRef → Prop
  | .primary, source => source = block.primary
  | .registered aliasName, source => block.registry.get? aliasName = some source

theorem startsFrom_of_resolveSource
    {block : QueryBlock}
    {asked : JoinSource}
    {source : TableRef}
    (resolved : block.resolveSource asked = .ok source) : block.StartsFrom asked source := by
  cases asked with
  | primary =>
      cases resolved
      rfl
  | registered aliasName =>
      rw [resolveSource] at resolved
      split at resolved
      · rename_i found
        cases resolved
        exact found
      · cases resolved

/-- A block has one join more, from one table to another, and requires what the join
asks for: on the join where the dialect has join syntax, behind the WHERE otherwise. -/
structure AddsJoin
    (spec : JoinSpec)
    (source target : TableRef)
    (before after : QueryBlock) : Prop where
  registry : after.registry = before.registry.insert target (some (.keyed spec.kind))
  ansi : before.capabilities.ansiJoins = true →
    after.joins = before.joins ++
        [{ kind := .keyed spec.kind
           target := target
           source := some source
           condition := Predicate.allOf? (spec.conjuncts source.aliasName target.aliasName) }] ∧
      after.condition = before.condition
  comma : before.capabilities.ansiJoins = false →
    after.joins = before.joins ++
        [{ kind := .listed, target := target, source := some source, condition := none }] ∧
      after.condition =
        (Predicate.allOf? (spec.conjuncts source.aliasName target.aliasName)).elim
          before.condition fun required =>
            some (before.condition.elim required fun present => present.and required)

/-- A block after a join that was settled on a target: the alias of the target leads to
its table. A block where it did so before is left alone, and one where it was free has
one join more, from a table of its own. -/
structure JoinedTo (spec : JoinSpec) (target : TableRef) (before after : QueryBlock) : Prop where
  resolves : ∃ ref, after.registry.get? target.aliasName = some ref ∧ ref.same target = true
  kept : ∀ ref, before.registry.get? target.aliasName = some ref →
    ref.same target = true ∧ after = before
  added : before.registry.get? target.aliasName = none →
    ∃ source ref, before.StartsFrom spec.source source ∧ ref.table = spec.table ∧
      ref.aliasName = target.aliasName ∧ before.AddsJoin spec source ref after

variable {block : QueryBlock} {spec : JoinSpec}

/-- Of the target only its table and its alias matter. -/
theorem JoinedTo.of_same
    {before after : QueryBlock}
    {target other : TableRef}
    (joinedTo : JoinedTo spec target before after)
    (same : target.same other = true) : JoinedTo spec other before after := by
  have same_of_same : ∀ ref : TableRef, ref.same target = true → ref.same other = true := by
    simp only [TableRef.same_iff] at same ⊢
    rintro ref ⟨alias_eq, table_eq⟩
    exact ⟨alias_eq.trans same.1, table_eq.trans same.2⟩
  have alias_eq := ((TableRef.same_iff _ _).mp same).1
  obtain ⟨⟨ref, found, isTarget⟩, kept, added⟩ := joinedTo
  rw [alias_eq] at found kept added
  exact ⟨⟨ref, found, same_of_same ref isTarget⟩,
    fun ref found => (kept ref found).imp_left (same_of_same ref), added⟩

/-- What a join settles does not depend on the alias and the group that it asked for. -/
theorem JoinedTo.of_resolvedTo
    {before after : QueryBlock}
    {settled target : TableRef}
    (joinedTo : JoinedTo (spec.resolvedTo settled) target before after) :
    JoinedTo spec target before after := by
  obtain ⟨resolves, kept, added⟩ := joinedTo
  refine ⟨resolves, kept, fun free => ?_⟩
  obtain ⟨source, ref, starts, sameTable, alias_eq, registry, ansi, comma⟩ := added free
  exact ⟨source, ref, starts, sameTable, alias_eq, registry, ansi, comma⟩

/-- A join that is appended is one more, and requires what its keys and discriminators
ask for. -/
theorem addsJoin_appendKeyedJoin
    (checked : spec.checkKeys = .ok ())
    {source target : TableRef}
    (sameTable : target.table = spec.table) :
    block.AddsJoin spec source target (block.appendKeyedJoin spec source target) := by
  have required := JoinSpec.condition?_eq_allOf? checked sameTable source
  refine ⟨registry_appendKeyedJoin .., fun ansi => ⟨?_, ?_⟩, fun comma => ⟨?_, ?_⟩⟩
  · rw [joins_appendKeyedJoin, keyedJoin, if_pos ansi, required]
  · exact condition_appendKeyedJoin spec source target ansi
  · rw [joins_appendKeyedJoin, keyedJoin, if_neg (by simp [comma])]
  · rw [appendKeyedJoin_of_not_ansiJoins _ _ _ _ comma, ← required]
    cases given : spec.condition? source target with
    | none => rfl
    | some predicate =>
        simp only [Option.elim_some, whereAnd, JoinSpec.isAlways_of_condition? given,
          Bool.false_eq_true, ↓reduceIte]

/-- A target that is found or made has the table asked for, and the alias if one was
asked for. -/
theorem target_of_resolveTarget
    {table : Table}
    {aliasName group : Option String}
    {resolved : JoinTarget}
    (resolves : block.resolveTarget table aliasName group = .ok resolved) :
    match resolved with
    | .added target => target.table = table ∧ ∀ name, aliasName = some name →
        target.aliasName = name
    | .present target => target.table.name = table.name ∧
        block.registry.get? target.aliasName = some target ∧
        ∀ name, aliasName = some name → target.aliasName = name := by
  have asked : ∀ name other, aliasName = some name → aliasName.getD other = name := by
    rintro name other rfl
    rfl
  simp only [resolveTarget] at resolves
  split at resolves
  · cases resolves
    exact ⟨rfl, fun name isName => asked name _ isName⟩
  · rename_i ref found
    split at resolves
    · rename_i sameName
      cases resolves
      have alias_eq := (Registry.mem_and_alias_of_get? found).2
      exact ⟨sameName, by rw [alias_eq, found],
        fun name isName => alias_eq.trans (asked name _ isName)⟩
    · cases resolves

/-- A join that succeeds settles on a target with the table asked for, and with the alias
if one was asked for. -/
theorem joinedTo_join
    (checked : spec.checkKeys = .ok ())
    {target : TableRef}
    (joined : (block.join spec).result = .ok target) :
    block.JoinedTo spec target (block.join spec).state ∧ target.table.name = spec.table.name ∧
      ∀ name, spec.aliasName = some name → target.aliasName = name := by
  rw [join] at joined ⊢
  split at joined
  · cases joined
  · rename_i source sourceFound
    split at joined
    · cases joined
    · rename_i ref resolved
      cases joined
      obtain ⟨sameName, found, alias_eq⟩ := target_of_resolveTarget resolved
      refine ⟨⟨⟨target, found, by simp⟩, fun other otherFound => ?_, fun free => ?_⟩, sameName,
        alias_eq⟩
      · rw [found, Option.some.injEq] at otherFound
        exact ⟨by simp [otherFound], rfl⟩
      · rw [found] at free
        cases free
    · rename_i ref resolved
      split at joined
      · cases joined
      · rename_i supported
        cases joined
        obtain ⟨sameTable, alias_eq⟩ := target_of_resolveTarget resolved
        have free := get?_eq_none_of_resolveTarget resolved
        rw [if_neg supported]
        refine ⟨⟨⟨target, ?_, by simp⟩, fun other found => ?_, fun _ => ?_⟩,
          congrArg Table.name sameTable, alias_eq⟩
        · rw [Outcome.state_ok, registry_appendKeyedJoin]
          exact Registry.get?_insert_self free _
        · rw [free] at found
          cases found
        · exact ⟨source, target, startsFrom_of_resolveSource sourceFound, sameTable, rfl,
            addsJoin_appendKeyedJoin checked sameTable⟩

end QueryBlock

namespace Statement

open QueryBlock (JoinedTo)

variable {spec : JoinSpec}

/-- Where every branch was joined successfully, all were changed alike. -/
theorem forall₂_spreadJoinToBranches
    {relation : Statement → Statement → Prop}
    {branches : List Statement}
    (joined : (spreadJoinToBranches spec branches).result = .ok ())
    (related : ∀ branch ∈ branches, ∀ target, (branch.spreadJoin spec).result = .ok target →
      relation branch (branch.spreadJoin spec).state) :
    List.Forall₂ relation branches (spreadJoinToBranches spec branches).state := by
  induction branches with
  | nil => exact .nil
  | cons branch rest inductionHypothesis =>
      rw [List.forall_mem_cons] at related
      rw [spreadJoinToBranches] at joined ⊢
      split at joined
      · cases joined
      · rename_i target branchJoined
        exact .cons (related.1 target branchJoined) (inductionHypothesis joined related.2)

/-- A join that spreads successfully settles every block of the tree on the target that
it answers with. -/
theorem related_joinedTo_spreadJoin
    (checked : spec.checkKeys = .ok ())
    (everywhere : spec.everywhere = true)
    {statement : Statement}
    {target : TableRef}
    (joined : (statement.spreadJoin spec).result = .ok target) :
    Related (JoinedTo spec target) statement (statement.spreadJoin spec).state ∧
      target.table.name = spec.table.name ∧
      ∀ name, spec.aliasName = some name → target.aliasName = name := by
  induction statement generalizing spec target with
  | node root branches inductionHypothesis =>
      rw [spreadJoin] at joined ⊢
      split at joined
      · rename_i error rootFailed
        rw [Outcome.mapState, rootFailed] at joined
        cases joined
      · rename_i rootTarget rootJoined
        have checkedBelow : (spec.resolvedTo rootTarget).checkKeys = .ok () := checked
        simp only [everywhere, ↓reduceIte] at joined ⊢
        cases othersJoined :
          (spreadJoinToBranches (spec.resolvedTo rootTarget) branches).result with
        | error error =>
            rw [othersJoined] at joined
            cases joined
        | ok others =>
            rw [othersJoined] at joined
            cases joined
            obtain ⟨atRoot, sameName, alias_eq⟩ := QueryBlock.joinedTo_join checked rootJoined
            refine ⟨.node atRoot ?_, sameName, alias_eq⟩
            refine forall₂_spreadJoinToBranches othersJoined
              fun branch member other branchJoined => ?_
            obtain ⟨below, otherName, otherAlias⟩ :=
              inductionHypothesis branch member checkedBelow everywhere branchJoined
            have same : other.same rootTarget = true := (TableRef.same_iff _ _).mpr
              ⟨otherAlias _ rfl, otherName.trans sameName.symm⟩
            exact below.mono fun _ _ joinedTo => joinedTo.of_resolvedTo.of_same same

/-- A join that applies everywhere and succeeds reaches every block of the tree. The alias
of its target leads to the target's table in every block. A block where it did so before
is left alone, and one where it was free has one join more, from a table of its own, that
compares every column of either key and allows no discriminator values but those given. -/
theorem join_reaches_every_block
    {statement : Statement}
    {target : TableRef}
    (everywhere : spec.everywhere = true)
    (joined : (statement.join spec).result = .ok target) :
    Related (JoinedTo spec target) statement (statement.join spec).state ∧
      ∀ sourceKey targetKey, spec.sourceKey = some sourceKey →
        spec.targetKey = some targetKey → ∀ source aliasName,
          (spec.keyConjuncts source aliasName).length = sourceKey.arity ∧
          (spec.keyConjuncts source aliasName).length = targetKey.arity := by
  rw [join] at joined ⊢
  split at joined
  · cases joined
  · rename_i checked
    refine ⟨(related_joinedTo_spreadJoin checked everywhere joined).1, ?_⟩
    exact fun _ _ sourceGiven targetGiven source aliasName =>
      JoinSpec.length_keyConjuncts checked sourceGiven targetGiven source aliasName

/-- Join the cats and dogs of people, by a key of two columns. -/
def catsAndDogs : JoinSpec where
  kind := .inner
  table := { name := "animal", discriminator := some "kind" }
  sourceKey := some { table := "person", columns := ["zone", "id"] }
  targetKey := some { table := "animal", columns := ["zone", "person_id"] }
  discriminators := [.text "cat", .text "dog"]

/-- People, other people who have the cats and dogs already, and below these more people
in a dialect without join syntax. -/
def levelsOfPeople : Statement :=
  .node (peopleIn true).block
    [.node ((peopleIn true).runAll [.join catsAndDogs]).block [peopleIn false]]

theorem join_reaches_every_block_catsAndDogs :
    ∃ target : TableRef, (levelsOfPeople.join catsAndDogs).result = .ok target ∧
      Related (JoinedTo catsAndDogs target) levelsOfPeople (levelsOfPeople.join catsAndDogs).state ∧
      (catsAndDogs.keyConjuncts "A0" target.aliasName).length = 2 ∧
      (levelsOfPeople.join catsAndDogs).state.blocks.map
          (fun block => block.condition.map Predicate.toSql) =
        [none, none, some ("A0.zone = B0.zone AND A0.id = B0.person_id AND " ++
          "(B0.kind = 'cat' OR B0.kind = 'dog')")] := by
  have joined : (levelsOfPeople.join catsAndDogs).result =
      .ok { table := catsAndDogs.table, aliasName := "B0", group := "Group1" } := by
    decide +kernel
  obtain ⟨reached, compared⟩ := join_reaches_every_block rfl joined
  exact ⟨_, joined, reached, (compared _ _ rfl rfl "A0" "B0").1, by decide +kernel⟩

end Statement
end SqlBuilder
