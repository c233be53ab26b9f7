import SqlBuilder.Proofs.Naming.Scheme

/-!
# Names along a chain of subqueries

An alias that a scheme gives has one underscore for each statement around its own,
so that aliases of different depths differ. A subquery is deeper than the statement
it was started from, and no operation changes how deep a statement is. As an alias
is free when it is given, no alias stands twice along a chain of subqueries, whatever
has been done to its statements since.
-/

namespace SqlBuilder

/-! ## The level of an alias -/

/-- Number of underscores in an alias. -/
def underscores (aliasName : String) : Nat :=
  aliasName.toList.count '_'

theorem underscores_append (first second : String) :
    underscores (first ++ second) = underscores first + underscores second := by
  rw [underscores, String.toList_append, List.count_append]
  rfl

theorem underscores_eq_zero
    {text : String}
    (capitals : ∀ letter ∈ text.toList, letter.isUpper = true) : underscores text = 0 := by
  rw [underscores, List.count_eq_zero]
  intro member
  exact absurd (capitals '_' member) (by decide)

theorem underscores_toString (number : Nat) : underscores (toString number) = 0 := by
  rw [underscores, Nat.toString_eq_repr, Nat.toList_repr, List.count_eq_zero]
  exact Nat.underscore_not_in_toDigits

/-- The suffix of a depth has one underscore for each level. -/
theorem NamingContext.underscores_suffix (context : NamingContext) :
    underscores context.suffix = context.depth := by
  rw [suffix]
  induction context.depth with
  | zero => rfl
  | succ depth inductionHypothesis =>
      rw [List.replicate_succ, String.join_cons, underscores_append, inductionHypothesis]
      exact Nat.add_comm 1 depth

/-- An alias that a scheme gives has one underscore for each level. -/
theorem Namer.IsScheme.underscores_alias
    {namer : Namer}
    (isScheme : namer.IsScheme)
    (context : NamingContext)
    (table : Table)
    (group : String) : underscores (namer context table group) = context.depth := by
  obtain ⟨stem, number, capitals, alias_eq, _⟩ := isScheme.exists_alias context table group
  rw [alias_eq, underscores_append, underscores_append, underscores_eq_zero capitals,
    underscores_toString, context.underscores_suffix, Nat.zero_add]

/-! ## Blocks with generated aliases -/

namespace QueryBlock

/-- The tables of a block have aliases as the schemes give them at its depth, and
the next alias comes from a scheme again. -/
structure NamedByScheme (block : QueryBlock) : Prop where
  scheme : block.namer.IsScheme
  aliases : ∀ ref ∈ block.registry.tables, underscores ref.aliasName = block.depth

variable {block : QueryBlock}

/-- A statement that is built without an alias has a generated one. -/
theorem NamedByScheme.ofPrimary
    {namer : Namer}
    (isScheme : namer.IsScheme)
    (id : StatementId)
    (ancestry : List StatementId)
    (dialect : Dialect)
    (options : StatementOptions)
    (table : Table)
    (group : String) :
    (QueryBlock.ofPrimary id ancestry dialect namer options
      { table := table
        aliasName := namer { registry := .empty, depth := ancestry.length } table group
        group := group }).NamedByScheme := by
  refine ⟨isScheme, fun ref registered => ?_⟩
  obtain rfl := List.mem_singleton.mp registered
  exact isScheme.underscores_alias _ table group

/-- What names depend on is the namer, the registry and the depth. -/
theorem NamedByScheme.of_eq
    {other : QueryBlock}
    (named : block.NamedByScheme)
    (namer_eq : other.namer = block.namer)
    (registry_eq : other.registry = block.registry)
    (ancestry_eq : other.ancestry = block.ancestry) : other.NamedByScheme := by
  constructor
  · rw [namer_eq]
    exact named.scheme
  · rw [registry_eq, depth, ancestry_eq]
    exact named.aliases

/-- The alias of a new target is generated where none is asked for. -/
theorem NamedByScheme.underscores_target
    (named : block.NamedByScheme)
    {table : Table}
    {group : Option String}
    {target : TableRef}
    (added : block.resolveTarget table none group = .ok (.added target)) :
    underscores target.aliasName = block.depth := by
  simp only [resolveTarget, Option.getD_none] at added
  split at added
  · cases added
    exact named.scheme.underscores_alias block.namingContext table _
  · split at added <;> cases added

/-- A block with one more table, under a generated alias. -/
theorem NamedByScheme.of_insert
    {other : QueryBlock}
    (named : block.NamedByScheme)
    {target : TableRef}
    {kind : Option JoinKind}
    (level : underscores target.aliasName = block.depth)
    (namer_eq : other.namer = block.namer)
    (registry_eq : other.registry = block.registry.insert target kind)
    (ancestry_eq : other.ancestry = block.ancestry) : other.NamedByScheme := by
  constructor
  · rw [namer_eq]
    exact named.scheme
  · rw [registry_eq, depth, ancestry_eq, Registry.tables_insert]
    intro ref registered
    rcases List.mem_append.mp registered with registered | registered
    · exact named.aliases ref registered
    · exact List.mem_singleton.mp registered ▸ level

theorem NamedByScheme.join
    (named : block.NamedByScheme)
    {spec : JoinSpec}
    (generated : spec.aliasName = none) : (block.join spec).state.NamedByScheme := by
  rw [QueryBlock.join, generated]
  split
  · exact named
  · rename_i source _
    split
    · exact named
    · exact named
    · rename_i target added
      split
      · exact named
      · exact named.of_insert (named.underscores_target added)
          (block.namer_appendKeyedJoin spec source target)
          (block.registry_appendKeyedJoin spec source target)
          (block.ancestry_appendKeyedJoin spec source target)

theorem NamedByScheme.crossJoin
    (named : block.NamedByScheme)
    (table : Table)
    (group : Option String) : (block.crossJoin table none group).state.NamedByScheme := by
  rw [QueryBlock.crossJoin]
  split
  · exact named
  · exact named
  · rename_i target added
    exact named.of_insert (named.underscores_target added) rfl rfl rfl

theorem NamedByScheme.removeCrossJoin
    (named : block.NamedByScheme)
    (aliasName : String) : (block.removeCrossJoin aliasName).NamedByScheme := by
  rw [QueryBlock.removeCrossJoin]
  split
  · refine ⟨named.scheme, fun ref registered => ?_⟩
    exact named.aliases ref (List.mem_of_mem_eraseP registered)
  · exact named

theorem NamedByScheme.setOptions
    (named : block.NamedByScheme)
    {namer : Namer}
    (isScheme : namer.IsScheme)
    (options : StatementOptions) : (block.setOptions options namer).NamedByScheme :=
  ⟨isScheme, named.aliases⟩

theorem NamedByScheme.readied
    {other : QueryBlock}
    (named : block.NamedByScheme)
    (readied : ReadiedTo block other) : other.NamedByScheme := by
  rw [readied.eq]
  exact named.of_eq rfl rfl rfl

theorem NamedByScheme.select
    (named : block.NamedByScheme)
    (expression : Expression)
    (items : List SelectedItem) : (block.select expression items).NamedByScheme := by
  rw [QueryBlock.select, addItems_eq]
  exact named.of_eq rfl rfl rfl

theorem NamedByScheme.reorderJoins (named : block.NamedByScheme) :
    block.reorderJoins.state.NamedByScheme :=
  named.readied (.single (.reorderJoins block))

theorem NamedByScheme.rowQuery
    (named : block.NamedByScheme)
    (id : StatementId)
    (head : QueryBlock → String)
    (kind : RowQuery → Rendering) :
    (block.rowQuery id head kind).state.NamedByScheme := by
  rw [rowQuery_state_eq]
  exact named.reorderJoins.of_eq rfl rfl rfl

end QueryBlock

/-! ## Operations that generate aliases -/

/-- A key leads to a scheme, if it leads to a namer at all. -/
def NamingStrategies.LeadsToScheme (strategies : NamingStrategies) (key : String) : Prop :=
  ∀ namer, strategies.get? key = some namer → namer.IsScheme

/-- The strategies that are always there are schemes. -/
theorem NamingStrategies.leadsToScheme_standard (key : String) :
    standard.LeadsToScheme key := by
  intro namer found
  rw [standard, get?_settle, get?_settle] at found
  simp only [get?, initial, List.lookup_nil, Option.none_or, List.lookup_cons] at found
  split at found
  · cases found
    exact .inl rfl
  · split at found
    · cases found
      exact .inr rfl
    · cases found

/-- The aliases that an operation needs are generated, now and later on: none is
asked for, and the naming strategy only changes to a scheme. -/
def Operation.NamesByScheme : Operation → Prop
  | .join spec => spec.aliasName = none
  | .crossJoin _ aliasName _ => aliasName = none
  | .setOptions strategies options => strategies.LeadsToScheme options.namingStrategy
  | .setNamingStrategy strategies key => strategies.LeadsToScheme key
  | _ => True

namespace Statement

/-- Joining a table starts with the statement itself. -/
theorem block_spreadJoin (statement : Statement) (spec : JoinSpec) :
    (statement.spreadJoin spec).state.block = (statement.block.join spec).state := by
  cases statement with
  | node root branches =>
      rw [spreadJoin]
      split
      · rfl
      · split <;> rfl

theorem block_crossJoin
    (statement : Statement)
    (table : Table)
    (aliasName group : Option String) :
    (statement.crossJoin table aliasName group).state.block =
      (statement.block.crossJoin table aliasName group).state := by
  cases statement with
  | node root branches =>
      rw [crossJoin]
      split <;> rfl

theorem namedByScheme_selectMapping
    {statement : Statement}
    (named : statement.block.NamedByScheme)
    (ref : Option TableRef)
    (mapping : Mapping)
    (aliasName : Option String)
    (everywhere : Bool) :
    (statement.selectMapping ref mapping aliasName everywhere).state.block.NamedByScheme := by
  simp only [selectMapping]
  split
  · exact named
  · split
    · exact named
    · rw [Outcome.state_ok, block_modify]
      exact named.readied (QueryBlock.readiedTo_addItems _ _)

theorem namedByScheme_sql
    {statement : Statement}
    (named : statement.block.NamedByScheme)
    (framing : Framing)
    (id : StatementId) : (statement.sql framing id).state.block.NamedByScheme := by
  cases framing with
  | select => exact named.readied (related_renderSelect [] statement).block
  | update =>
      change (statement.block.updateQuery id).state.NamedByScheme
      unfold QueryBlock.updateQuery
      split
      · exact named
      · exact named.rowQuery id _ _
  | delete =>
      change (statement.block.deleteQuery id).state.NamedByScheme
      unfold QueryBlock.deleteQuery
      split
      · exact named
      · exact named.rowQuery id _ _

theorem namedByScheme_setOptions
    {statement : Statement}
    (named : statement.block.NamedByScheme)
    {strategies : NamingStrategies}
    {options : StatementOptions}
    (isScheme : strategies.LeadsToScheme options.namingStrategy) :
    (statement.setOptions strategies options).state.block.NamedByScheme := by
  cases statement with
  | node root branches =>
      simp only [setOptions, NamingStrategies.resolve]
      cases found : strategies.get? options.namingStrategy with
      | none => exact named
      | some namer => exact named.setOptions (isScheme namer found) options

/-- An operation that generates its aliases leaves every alias generated. -/
theorem namedByScheme_run
    {operation : Operation}
    (generates : operation.NamesByScheme)
    {statement : Statement}
    (named : statement.block.NamedByScheme) :
    (operation.run statement).state.block.NamedByScheme := by
  have modified : ∀ everywhere (change : QueryBlock → QueryBlock),
      (change statement.block).NamedByScheme →
      (statement.modify everywhere change).block.NamedByScheme := by
    intro everywhere change changed
    rw [block_modify]
    exact changed
  cases operation with
  | select expression aliasName everywhere =>
      simp only [Operation.run, Outcome.state_map, select]
      split
      · exact named
      · exact modified everywhere _ (named.select expression _)
  | selectMapping ref mapping aliasName everywhere =>
      exact namedByScheme_selectMapping named ref mapping aliasName everywhere
  | selectColumn ref column aliasName everywhere =>
      simp only [Operation.run, Outcome.state_map, selectColumn]
      split
      · exact named
      · exact namedByScheme_selectMapping named ref _ aliasName everywhere
  | join spec =>
      simp only [Operation.run, Outcome.state_map, join]
      split
      · exact named
      · rw [block_spreadJoin]
        exact named.join generates
  | crossJoin table aliasName group =>
      obtain rfl : aliasName = none := generates
      rw [Operation.run, Outcome.state_map, block_crossJoin]
      exact named.crossJoin table group
  | removeCrossJoin aliasName => exact modified true _ (named.removeCrossJoin aliasName)
  | reorderJoins => exact named.reorderJoins
  | whereAnd predicate everywhere =>
      refine modified everywhere _ ?_
      rw [QueryBlock.whereAnd_eq]
      exact named.of_eq rfl rfl rfl
  | whereOr predicate everywhere => exact modified everywhere _ (named.of_eq rfl rfl rfl)
  | groupBy expression => exact modified true _ (named.of_eq rfl rfl rfl)
  | setHaving predicate => exact modified true _ (named.of_eq rfl rfl rfl)
  | setDistinct distinct => exact modified false _ (named.of_eq rfl rfl rfl)
  | setRange range => exact modified false _ (named.of_eq rfl rfl rfl)
  | setOrdering expressions directions nulls =>
      simp only [Operation.run, setOrdering]
      split
      · exact named
      · split
        · exact named
        · exact modified false _ (named.of_eq rfl rfl rfl)
  | clearOrdering => exact modified false _ (named.of_eq rfl rfl rfl)
  | setUpdates assignments =>
      simp only [Operation.run, setUpdates]
      split
      · exact named
      · exact modified false _ (named.of_eq rfl rfl rfl)
  | setOptions strategies options => exact namedByScheme_setOptions named generates
  | setNamingStrategy strategies key => exact namedByScheme_setOptions named generates
  | union other =>
      simp only [Operation.run, union]
      split
      · exact named.of_eq rfl rfl rfl
      · exact named
  | render framing id => exact namedByScheme_sql named framing id
  | log id =>
      rw [Operation.run, state_log]
      exact namedByScheme_sql named _ id

/-- No operation changes how deep a statement is. -/
theorem depth_run (operation : Operation) (statement : Statement) :
    (operation.run statement).state.block.depth = statement.block.depth := by
  have ancestry_eq : (operation.run statement).state.block.ancestry =
      statement.block.ancestry :=
    (editedTo_run operation statement).preserves
      (fun _ _ becomes same => becomes.identity_eq.2.trans same) rfl
  rw [QueryBlock.depth, ancestry_eq, QueryBlock.depth]

/-- No operation lets two tables share an alias. -/
theorem consistent_run
    (operation : Operation)
    {statement : Statement}
    (consistent : statement.block.Consistent) :
    (operation.run statement).state.block.Consistent :=
  (editedTo_run operation statement).preserves
    (fun _ _ becomes => .becomes becomes) consistent

/-! ## Chains -/

/-- The aliases registered in a statement. -/
def aliases (statement : Statement) : List String :=
  statement.block.registry.tables.map TableRef.aliasName

/-- Statements each of which was started as a subquery of the one behind it, so
that the innermost stands first. The primary tables have generated aliases, and any
operation that generates its aliases may have changed any of the statements, before
or after subqueries of it were started. -/
inductive SubqueryChain : List Statement → Prop
  | outermost
      {builder : StatementBuilder}
      {strategies : NamingStrategies}
      {id : StatementId}
      {statement : Statement} :
      builder.aliasName = none →
      strategies.LeadsToScheme builder.options.namingStrategy →
      builder.build strategies id = .ok statement →
      SubqueryChain [statement]
  | subquery
      {statement inner : Statement}
      {outer : List Statement}
      {table : Table}
      {group : Option String}
      {options : StatementOptions}
      {strategies : NamingStrategies}
      {id : StatementId} :
      SubqueryChain (statement :: outer) →
      strategies.LeadsToScheme options.namingStrategy →
      { statement.subquery table with group := group, options := options }.build strategies id =
        .ok inner →
      SubqueryChain (inner :: statement :: outer)
  | run
      {inner outer : List Statement}
      {statement : Statement}
      {operation : Operation} :
      SubqueryChain (inner ++ statement :: outer) →
      operation.NamesByScheme →
      SubqueryChain (inner ++ (operation.run statement).state :: outer)

/-- What is kept along a chain of each of its statements. -/
structure NamesApart (statement : Statement) : Prop where
  named : statement.block.NamedByScheme
  consistent : statement.block.Consistent

/-- A statement that is built without an alias, under a scheme. -/
theorem namesApart_of_build
    {builder : StatementBuilder}
    {strategies : NamingStrategies}
    {id : StatementId}
    {statement : Statement}
    (generated : builder.aliasName = none)
    (isScheme : strategies.LeadsToScheme builder.options.namingStrategy)
    (built : builder.build strategies id = .ok statement) :
    statement.NamesApart ∧ statement.block.depth = builder.ancestry.length := by
  rw [StatementBuilder.build, generated, NamingStrategies.resolve] at built
  cases found : strategies.get? builder.options.namingStrategy with
  | none =>
      rw [found] at built
      cases built
  | some namer =>
      rw [found] at built
      cases built
      exact ⟨⟨.ofPrimary (isScheme namer found) _ _ _ _ _ _, .ofPrimary _ _ _ _ _ _⟩, rfl⟩

/-- In every statement of a chain the aliases are apart. -/
theorem SubqueryChain.forall_namesApart
    {chain : List Statement}
    (isChain : SubqueryChain chain) : ∀ statement ∈ chain, statement.NamesApart := by
  induction isChain with
  | outermost generated isScheme built =>
      rw [List.forall_mem_singleton]
      exact (namesApart_of_build generated isScheme built).1
  | subquery _ isScheme built inductionHypothesis =>
      rw [List.forall_mem_cons]
      exact ⟨(namesApart_of_build rfl isScheme built).1, inductionHypothesis⟩
  | run _ generates inductionHypothesis =>
      rw [List.forall_mem_append, List.forall_mem_cons] at inductionHypothesis ⊢
      obtain ⟨ofInner, ofStatement, ofOuter⟩ := inductionHypothesis
      exact ⟨ofInner, ⟨namedByScheme_run generates ofStatement.named,
        consistent_run _ ofStatement.consistent⟩, ofOuter⟩

/-- Every statement of a chain is deeper than those behind it. -/
theorem SubqueryChain.pairwise_depth
    {chain : List Statement}
    (isChain : SubqueryChain chain) :
    (chain.map fun statement => statement.block.depth).Pairwise (· > ·) := by
  induction isChain with
  | outermost => exact List.pairwise_singleton _ _
  | @subquery statement inner outer table group options strategies id chain isScheme built
      inductionHypothesis =>
      have depth_eq : inner.block.depth = statement.block.depth + 1 := by
        rw [(namesApart_of_build rfl isScheme built).2]
        exact List.length_append
      rw [List.map_cons, List.pairwise_cons]
      refine ⟨?_, inductionHypothesis⟩
      rw [List.map_cons, List.pairwise_cons] at inductionHypothesis
      rw [List.map_cons, List.forall_mem_cons, depth_eq]
      refine ⟨Nat.lt_succ_self _, fun depth member => ?_⟩
      exact Nat.lt_succ_of_lt (inductionHypothesis.1 depth member)
  | run _ _ inductionHypothesis =>
      rw [List.map_append, List.map_cons] at inductionHypothesis ⊢
      rw [depth_run]
      exact inductionHypothesis

/-- Where the aliases of each of two statements are at its own level, statements
of different depth share none. -/
theorem NamesApart.disjoint
    {first second : Statement}
    (ofFirst : first.NamesApart)
    (ofSecond : second.NamesApart)
    (deeper : first.block.depth > second.block.depth) :
    List.Disjoint first.aliases second.aliases := by
  intro aliasName inFirst inSecond
  obtain ⟨firstRef, firstRegistered, rfl⟩ := List.mem_map.mp inFirst
  obtain ⟨secondRef, secondRegistered, same⟩ := List.mem_map.mp inSecond
  have depth_eq : first.block.depth = second.block.depth := by
    rw [← ofFirst.named.aliases firstRef firstRegistered, ← same]
    exact ofSecond.named.aliases secondRef secondRegistered
  omega

/-- Along a chain of subqueries no alias is registered twice. -/
theorem SubqueryChain.nodup_flatMap_aliases
    {chain : List Statement}
    (isChain : SubqueryChain chain) : (chain.flatMap aliases).Nodup := by
  have apart := isChain.forall_namesApart
  rw [List.nodup_flatMap]
  refine ⟨fun statement member => (apart statement member).consistent.unique, ?_⟩
  refine (List.pairwise_map.mp isChain.pairwise_depth).imp_of_mem ?_
  exact fun firstMem secondMem deeper =>
    (apart _ firstMem).disjoint (apart _ secondMem) deeper

/-- A subquery changes its scheme and has a subquery of its own, while the outermost
statement goes on to change. -/
theorem nodup_flatMap_aliases_threeLevels :
    ∃ chain : List Statement,
      chain.map aliases =
        [["A0_SUB_SUB"], ["T0_SUB", "A1_SUB", "B0_SUB"], ["A0", "A2", "A3", "T3"]] ∧
      (chain.flatMap aliases).Nodup := by
  have schemes := NamingStrategies.leadsToScheme_standard
  let joinCity : Option String → Operation := .crossJoin { name := "city" } none
  -- The outermost statement loses a table of its group, so that the next number is taken.
  have outermost := @SubqueryChain.outermost
    { dialect := .ofCapabilities {}, table := { name := "person" } } .standard ⟨1⟩ _
    rfl (schemes _) rfl
  have joined := @SubqueryChain.run [] [] _ (joinCity (some primaryGroup)) outermost rfl
  have joinedTwice := @SubqueryChain.run [] [] _ (joinCity (some primaryGroup)) joined rfl
  have removed := @SubqueryChain.run [] [] _ (.removeCrossJoin "A1") joinedTwice trivial
  have rejoined := @SubqueryChain.run [] [] _ (joinCity (some primaryGroup)) removed rfl
  -- A subquery starts under the other scheme and returns to the first.
  have inside := @SubqueryChain.subquery _ _ _ { name := "phone" } none
    { namingStrategy := "t-scheme" } .standard ⟨2⟩ rejoined (schemes _) rfl
  have renamed := @SubqueryChain.run [] _ _
    (.setNamingStrategy .standard defaultNamingStrategy) inside (schemes _)
  have insideJoined := @SubqueryChain.run [] _ _ (joinCity (some primaryGroup)) renamed rfl
  have insideJoinedTwice := @SubqueryChain.run [] _ _ (joinCity none) insideJoined rfl
  -- A subquery of the subquery has its primary table alone.
  have innermost := @SubqueryChain.subquery _ _ _ { name := "visit" } none {} .standard ⟨3⟩
    insideJoinedTwice (schemes _) rfl
  have outermostRenamed := @SubqueryChain.run [_, _] [] _
    (.setNamingStrategy .standard "t-scheme") innermost (schemes _)
  have chain := @SubqueryChain.run [_, _] [] _ (joinCity none) outermostRenamed rfl
  exact ⟨_, by decide +kernel, chain.nodup_flatMap_aliases⟩

end Statement
end SqlBuilder
