import Mathlib.Data.List.TakeWhile
import SqlBuilder.Proofs.Rows.Acceptance

/-!
# Expressions over several columns

An equation or a comparison of several columns is a conjunction with one atom for each of
them, in order. A null test is a single atom however many columns it is about, and an
assignment to several columns is a single item, with the qualifiers left in place. So both
speak of each column only where there is just one.
-/

namespace SqlBuilder

/-! ## Conjunctions of atoms -/

namespace Predicate

/-- The predicate is the conjunction of some atoms: these are what is written, in order
and nothing else, and the predicate holds where all of them do. -/
structure Conjoins (predicate : Predicate) (atoms : List String) : Prop where
  tokens_eq : predicate.tokens = (atoms.map Token.atom).intersperse .conjunction
  holds_eq : ∀ valuation : Valuation, predicate.holds valuation = atoms.all valuation.raw

theorem conjunctionTokens_raw (atoms : List String) :
    conjunctionTokens (atoms.map raw) = (atoms.map Token.atom).intersperse .conjunction := by
  induction atoms with
  | nil => rfl
  | cons first rest inductionHypothesis =>
      cases rest with
      | nil =>
          rw [List.map_singleton, conjunctionTokens, tokens]
          rfl
      | cons second rest =>
          rw [List.map_cons, List.map_cons, conjunctionTokens, ← List.map_cons,
            inductionHypothesis, tokens]
          rfl

/-- One atom for each item of a list. -/
theorem conjoins_all
    {Item : Type}
    {items : List Item}
    (nonempty : items ≠ [])
    (write : Item → String) :
    (Predicate.all (items.map fun item => raw (write item))).Conjoins (items.map write) := by
  match items, nonempty with
  | [only], _ =>
      constructor
      · rw [List.map_singleton, all, tokens]
        rfl
      · simp [all]
  | first :: second :: rest, _ =>
      have all_eq : Predicate.all ((first :: second :: rest).map fun item => raw (write item)) =
          .conj (((first :: second :: rest).map write).map raw) := by
        rw [List.map_map]
        rfl
      constructor
      · rw [all_eq, tokens]
        exact conjunctionTokens_raw _
      · intro valuation
        rw [all_eq, holds_conj, List.all_map]
        exact List.all_congr rfl fun atom => holds_raw valuation atom

/-- One atom is the conjunction of no more than one. -/
theorem Conjoins.length_eq_one
    {sql : String}
    {atoms : List String}
    (nonempty : atoms ≠ [])
    (conjoins : (raw sql).Conjoins atoms) : atoms.length = 1 := by
  have length_eq := congrArg List.length conjoins.tokens_eq
  have positive := List.length_pos_of_ne_nil nonempty
  rw [tokens, List.length_singleton, List.length_intersperse, List.length_map] at length_eq
  omega

end Predicate

/-! ## Predicates over columns -/

namespace Expression

/-- The predicates over the columns of a mapping that are conjunctions with one atom for
each column. -/
structure ComparesEach (ref : TableRef) (mapping : Mapping) : Prop where
  isEqualTo : ∀ other : Expression, other.arity = mapping.arity →
    ((Expression.mapping ref mapping).isEqualTo other).Conjoins
      ((mapping.columns.zip other.components).map fun pair =>
        ref.aliasName ++ "." ++ pair.1 ++ " = " ++ pair.2.text)
  compare : ∀ (operator : String) (value : Literal),
    ((Expression.mapping ref mapping).compare operator value).Conjoins
      (mapping.columns.map fun name =>
        ref.aliasName ++ "." ++ name ++ " " ++ operator ++ " " ++ value.toSql)
  equalsLiteral : ∀ value : Literal,
    ((Expression.mapping ref mapping).equalsLiteral value).Conjoins
      (mapping.columns.map fun name => ref.aliasName ++ "." ++ name ++ " = " ++ value.toSql)

theorem comparesEach
    (ref : TableRef)
    {mapping : Mapping}
    (nonempty : mapping.columns ≠ []) : ComparesEach ref mapping := by
  have components_eq := components_mapping ref nonempty
  have compares : ∀ (operator : String) (value : Literal),
      ((Expression.mapping ref mapping).compare operator value).Conjoins
        (mapping.columns.map fun name =>
          ref.aliasName ++ "." ++ name ++ " " ++ operator ++ " " ++ value.toSql) := by
    intro operator value
    rw [Expression.compare, components_eq, List.map_map]
    simp only [Function.comp_def, text_column]
    exact Predicate.conjoins_all nonempty _
  refine ⟨?_, compares, ?_⟩
  · intro other _
    have pairs : mapping.columns.zip other.components ≠ [] := by
      rw [Ne, List.zip_eq_nil_iff]
      exact fun empty => empty.elim nonempty other.components_ne_nil
    rw [Expression.isEqualTo, components_eq, List.zip_map_left, List.map_map]
    simp only [Function.comp_def, Prod.map_fst, Prod.map_snd, id_eq, text_column]
    exact Predicate.conjoins_all pairs _
  · intro value
    have equals := compares "=" value
    simp only [String.append_assoc] at equals ⊢
    exact equals

/-- A null test speaks of each column exactly if there is just one. -/
theorem conjoins_isNull_iff
    (ref : TableRef)
    {mapping : Mapping}
    (nonempty : mapping.columns ≠ []) :
    (Expression.mapping ref mapping).isNull.Conjoins
        (mapping.columns.map fun name => ref.aliasName ++ "." ++ name ++ " IS NULL") ↔
      mapping.arity = 1 := by
  constructor
  · intro conjoins
    have length_eq := conjoins.length_eq_one (mt List.map_eq_nil_iff.mp nonempty)
    rwa [List.length_map] at length_eq
  · intro single
    obtain ⟨name, columns_eq⟩ := List.length_eq_one_iff.mp single
    have text_eq : (Expression.mapping ref mapping).text = ref.aliasName ++ "." ++ name := by
      rw [Expression.mapping, columns_eq]
      exact text_column ref name
    rw [isNull, text_eq, columns_eq]
    exact Predicate.conjoins_all (List.cons_ne_nil name [])
      fun name => ref.aliasName ++ "." ++ name ++ " IS NULL"

end Expression

/-! ## Assignments to columns -/

theorem Text.length_lt_length_afterDot
    {qualifier : String}
    (dotted : '.' ∈ qualifier.toList)
    (name : String) :
    name.length < (afterDot (qualifier ++ "." ++ name)).length := by
  have stops : qualifier.toList.dropWhile (· != '.') ≠ [] := fun empty =>
    absurd (List.dropWhile_eq_nil_iff.mp empty '.' dotted) (by decide)
  obtain ⟨dot, behind, drop_eq⟩ := List.exists_cons_of_ne_nil stops
  rw [afterDot, splitAtDot, toList_qualified, List.dropWhile_append, drop_eq]
  simp only [List.isEmpty_cons, Bool.false_eq_true, if_false, List.cons_append,
    String.length_ofList, List.length_append, List.length_cons, String.length_toList]
  omega

namespace Text

variable {Item : Type} {first second : Item → String} {items : List Item}

theorem length_intercalate_map_le
    (separator : String)
    (shorter : ∀ item ∈ items, (first item).length ≤ (second item).length) :
    (String.intercalate separator (items.map first)).length ≤
      (String.intercalate separator (items.map second)).length := by
  induction items with
  | nil => exact Nat.le_refl _
  | cons head rest inductionHypothesis =>
      rw [List.forall_mem_cons] at shorter
      cases rest with
      | nil => simpa using shorter.1
      | cons next rest =>
          have others := inductionHypothesis shorter.2
          rw [List.map_cons, List.map_cons] at others
          simp only [List.map_cons, String.intercalate_cons_cons, String.length_append]
          omega

/-- Of two lists that are written alike, one with items no longer than those of the other,
the items are the same. -/
theorem forall_eq_of_intercalate_map_eq
    {separator : String}
    (shorter : ∀ item ∈ items, (first item).length ≤ (second item).length)
    (same : String.intercalate separator (items.map first) =
      String.intercalate separator (items.map second)) :
    ∀ item ∈ items, first item = second item := by
  induction items with
  | nil => exact List.forall_mem_nil _
  | cons head rest inductionHypothesis =>
      have othersShorter := (List.forall_mem_cons.mp shorter).2
      rw [List.forall_mem_cons]
      cases rest with
      | nil =>
          rw [List.map_singleton, List.map_singleton, String.intercalate_singleton,
            String.intercalate_singleton] at same
          exact ⟨same, List.forall_mem_nil _⟩
      | cons next rest =>
          have headShorter := shorter head List.mem_cons_self
          have othersLength := length_intercalate_map_le separator othersShorter
          rw [List.map_cons, List.map_cons, List.map_cons, List.map_cons,
            String.intercalate_cons_cons, String.intercalate_cons_cons, String.append_assoc,
            String.append_assoc] at same
          have lengths := congrArg String.length same
          rw [List.map_cons, List.map_cons] at othersLength
          simp only [String.length_append] at lengths
          have headLength : (first head).toList.length = (second head).toList.length := by
            rw [String.length_toList, String.length_toList]
            omega
          have characters := congrArg String.toList same
          simp only [String.toList_append] at characters
          have head_eq := String.toList_injective (List.append_inj characters headLength).1
          rw [head_eq, String.append_right_inj, String.append_right_inj] at same
          exact ⟨head_eq, inductionHypothesis othersShorter same⟩

end Text

/-- A value for the columns of a mapping, with a component for each of them. -/
structure ColumnAssignment where
  ref : TableRef
  mapping : Mapping
  value : Expression
  nonempty : mapping.columns ≠ []
  sameArity : value.arity = mapping.arity

namespace ColumnAssignment

/-- The assignment as a statement keeps it. -/
def toAssignment (columns : ColumnAssignment) : Assignment :=
  { target := .mapping columns.ref columns.mapping, value := columns.value }

/-- One item for each column: its name, without the qualifier, and its component of the
value. -/
def items (columns : ColumnAssignment) : List String :=
  (columns.mapping.columns.zip columns.value.components).map fun pair =>
    pair.1 ++ " = " ++ pair.2.text

/-- A single column, behind an alias without dots. -/
structure IsPlain (columns : ColumnAssignment) : Prop where
  single : columns.mapping.arity = 1
  dotless : '.' ∉ columns.ref.aliasName.toList

variable {columns : ColumnAssignment}

theorem items_ne_nil (columns : ColumnAssignment) : columns.items ≠ [] := by
  rw [items, Ne, List.map_eq_nil_iff, List.zip_eq_nil_iff]
  exact fun empty => empty.elim columns.nonempty columns.value.components_ne_nil

/-- A value for a single column is its own only component. -/
theorem exists_items_eq
    (single : columns.mapping.arity = 1) :
    ∃ name, columns.mapping.columns = [name] ∧
      columns.items = [name ++ " = " ++ columns.value.text] := by
  obtain ⟨name, columns_eq⟩ := List.length_eq_one_iff.mp single
  obtain ⟨part, components_eq⟩ := List.length_eq_one_iff.mp (columns.sameArity.trans single)
  refine ⟨name, columns_eq, ?_⟩
  rw [items, columns_eq, components_eq, columns.value.text_eq_intercalate, components_eq,
    List.map_singleton, String.intercalate_singleton]
  rfl

theorem toSql_of_arity_eq_one
    {name : String}
    (columns_eq : columns.mapping.columns = [name]) :
    columns.toAssignment.toSql =
      Text.afterDot (columns.ref.aliasName ++ "." ++ name) ++ " = " ++ columns.value.text := by
  have target_eq : columns.toAssignment.target = Expression.column columns.ref name := by
    rw [toAssignment, Expression.mapping, columns_eq]
    rfl
  rw [Assignment.toSql, target_eq, Expression.text_column]
  rfl

/-- An assignment to a plain column is its one item. -/
theorem IsPlain.toSql_eq (plain : columns.IsPlain) :
    columns.toAssignment.toSql = String.intercalate ", " columns.items := by
  obtain ⟨name, columns_eq, items_eq⟩ := exists_items_eq plain.single
  rw [toSql_of_arity_eq_one columns_eq, items_eq, String.intercalate_singleton, Text.afterDot,
    Text.splitAtDot_qualified plain.dotless]

/-- The items take no more room than the qualified columns and the components do, with a
separator between the two. -/
theorem length_intercalate_items_le
    (qualifier : String)
    {names : List String}
    {parts : List Expression}
    (nonempty : names ≠ [])
    (sameLength : parts.length = names.length) :
    (String.intercalate ", " ((names.zip parts).map fun pair =>
        pair.1 ++ " = " ++ pair.2.text)).length ≤
      (String.intercalate ", " (names.map fun name => qualifier ++ "." ++ name)).length +
        (String.intercalate ", " (parts.map Expression.text)).length + 2 := by
  have equals : " = ".length = 3 := rfl
  have dot : ".".length = 1 := rfl
  have separator : ", ".length = 2 := rfl
  induction names generalizing parts with
  | nil => exact absurd rfl nonempty
  | cons name names inductionHypothesis =>
      obtain ⟨part, parts, rfl⟩ := List.exists_cons_of_length_eq_add_one sameLength
      rw [List.length_cons, List.length_cons, Nat.add_right_cancel_iff] at sameLength
      cases names with
      | nil =>
          obtain rfl := List.length_eq_zero_iff.mp sameLength
          simp only [List.map_cons, List.map_nil, List.zip_cons_cons, List.zip_nil_left,
            String.intercalate_singleton, String.length_append]
          omega
      | cons second names =>
          have rest := inductionHypothesis (List.cons_ne_nil second names) sameLength
          obtain ⟨other, parts, rfl⟩ := List.exists_cons_of_length_eq_add_one sameLength
          simp only [List.map_cons, List.zip_cons_cons, String.intercalate_cons_cons,
            String.length_append] at rest ⊢
          omega

/-- Any other assignment is written with something besides its items. -/
theorem length_lt_length_toSql
    (notPlain : ¬ columns.IsPlain) :
    (String.intercalate ", " columns.items).length < columns.toAssignment.toSql.length := by
  have equals : " = ".length = 3 := rfl
  by_cases single : columns.mapping.arity = 1
  · -- The qualifier is cut behind its own first dot, so that a rest of it stays.
    obtain ⟨name, columns_eq, items_eq⟩ := exists_items_eq single
    have dotted : '.' ∈ columns.ref.aliasName.toList :=
      not_not.mp fun dotless => notPlain ⟨single, dotless⟩
    have longer := Text.length_lt_length_afterDot dotted name
    rw [items_eq, String.intercalate_singleton, toSql_of_arity_eq_one columns_eq]
    simp only [String.length_append]
    omega
  · -- The target and the value are each written as a list, with one word between the two.
    have several : ¬ columns.mapping.columns.length ≤ 1 := by
      have positive := List.length_pos_of_ne_nil columns.nonempty
      rw [Mapping.arity] at single
      omega
    have target_eq : columns.toAssignment.target.isSingleColumn = false :=
      decide_eq_false several
    have written : columns.toAssignment.toSql =
        String.intercalate ", " (columns.mapping.columns.map fun name =>
            columns.ref.aliasName ++ "." ++ name) ++ " = " ++
          String.intercalate ", " (columns.value.components.map Expression.text) := by
      rw [← columns.value.text_eq_intercalate, Assignment.toSql, target_eq]
      rfl
    have itemsLength := length_intercalate_items_le columns.ref.aliasName columns.nonempty
      columns.sameArity
    rw [written, items, String.length_append, String.length_append]
    omega

theorem length_le_length_toSql (columns : ColumnAssignment) :
    (String.intercalate ", " columns.items).length ≤ columns.toAssignment.toSql.length := by
  by_cases plain : columns.IsPlain
  · rw [plain.toSql_eq]
  · exact (length_lt_length_toSql plain).le

/-- The items of all assignments are those of each, one assignment after the other. -/
theorem intercalate_flatMap_items (assignments : List ColumnAssignment) :
    String.intercalate ", " (assignments.flatMap items) =
      String.intercalate ", " (assignments.map fun columns =>
        String.intercalate ", " columns.items) := by
  induction assignments with
  | nil => rfl
  | cons first rest inductionHypothesis =>
      cases rest with
      | nil => simp
      | cons second rest =>
          have others : (second :: rest).flatMap items ≠ [] := fun empty =>
            second.items_ne_nil (List.flatMap_eq_nil_iff.mp empty second List.mem_cons_self)
          rw [List.flatMap_cons, String.intercalate_append_of_ne_nil first.items_ne_nil others,
            inductionHypothesis]
          exact String.intercalate_cons_cons.symm

/-- The SET clause consists of one item for each column exactly if every assignment is to a
plain column. -/
theorem setClause_eq_iff
    {block : QueryBlock}
    {assignments : List ColumnAssignment}
    (assigned : block.updates = assignments.map toAssignment) :
    block.setClause = "SET " ++ String.intercalate ", " (assignments.flatMap items) ↔
      ∀ columns ∈ assignments, columns.IsPlain := by
  rw [QueryBlock.setClause, assigned, String.append_right_inj, List.map_map,
    intercalate_flatMap_items]
  constructor
  · intro written columns member
    by_contra notPlain
    have toSql_eq := Text.forall_eq_of_intercalate_map_eq
      (fun other _ => other.length_le_length_toSql) written.symm columns member
    exact absurd (congrArg String.length toSql_eq) (length_lt_length_toSql notPlain).ne
  · intro plain
    exact congrArg (String.intercalate ", ")
      (List.map_congr_left fun columns member => (plain columns member).toSql_eq)

end ColumnAssignment

/-! ## The UPDATE of a statement -/

namespace QueryBlock

variable {block : QueryBlock}

/-- An UPDATE sets what the SET clause of its block says. -/
theorem KeepsCurrent.head_of_result_updateQuery
    (current : block.KeepsCurrent)
    {id : StatementId}
    {query : RowQuery}
    (succeeded : (block.updateQuery id).result = .ok query) :
    query.head = block.dialect.updateText block.primary block.setClause := by
  have notKept : block.invalidate.cachedUpdate? = none := rfl
  rw [← current.result_updateQuery id, QueryBlock.updateQuery, notKept] at succeeded
  dsimp only at succeeded
  rw [result_rowQuery_invalidate fun _ => rfl] at succeeded
  cases ordered : block.reorderJoins.result with
  | error error =>
      simp only [QueryBlock.rowQuery, ordered] at succeeded
      cases succeeded
  | ok _ =>
      rw [result_rowQuery_of_ordered _ _ _ ordered, reorderJoins_state_eq] at succeeded
      revert succeeded
      cases (QueryBlock.rowCondition _ id).result with
      | error error =>
          intro failed
          cases failed
      | ok rows =>
          rintro ⟨⟩
          rfl

/-- Without joins nothing can fail. -/
theorem KeepsCurrent.exists_result_updateQuery
    (current : block.KeepsCurrent)
    (alone : block.joins = [])
    (id : StatementId) :
    ∃ query, (block.updateQuery id).result = .ok query := by
  have ordered : block.reorderJoins.result = .ok () := by
    have placed : Join.place block.isLocalSource [] [] = ([], []) :=
      Join.place_of_allReady Join.allReady_nil
    rw [QueryBlock.reorderJoins, alone]
    split
    · simp only [placed]
      rfl
    · rfl
  have readied : block.readied.joins = [] := by
    have perm := block.perm_joins_reorderJoins
    rw [alone, List.perm_nil] at perm
    rw [QueryBlock.readied, joins_addItems, perm]
  exact ⟨_, current.result_updateQuery_of_ordered ordered
    (result_rowCondition_of_joins_eq_nil readied id)⟩

end QueryBlock

namespace Statement

/-- Equations and comparisons of the columns of a mapping are conjunctions with one atom for
each column, and its null test is one exactly if there is a single column. What an UPDATE
sets is its SET clause, which has one item for each column exactly if every assignment is to
a single column, behind an alias without dots. -/
theorem expands_columns_iff
    (ref : TableRef)
    {mapping : Mapping}
    (nonempty : mapping.columns ≠ [])
    {statement branch : Statement}
    {path : List Nat}
    (reachable : statement.Reachable)
    (found : statement.branchAt? path = some branch)
    {assignments : List ColumnAssignment}
    (assigned : branch.block.updates = assignments.map ColumnAssignment.toAssignment)
    (id : StatementId) :
    Expression.ComparesEach ref mapping ∧
      ((Expression.mapping ref mapping).isNull.Conjoins
          (mapping.columns.map fun name => ref.aliasName ++ "." ++ name ++ " IS NULL") ↔
        mapping.arity = 1) ∧
      (∀ query, (branch.render .update id).result = .ok (.update query) →
        query.head =
          branch.block.dialect.updateText branch.block.primary branch.block.setClause) ∧
      (branch.block.joins = [] →
        ∃ query, (branch.render .update id).result = .ok (.update query)) ∧
      (branch.block.setClause =
          "SET " ++ String.intercalate ", " (assignments.flatMap ColumnAssignment.items) ↔
        ∀ columns ∈ assignments, columns.IsPlain) := by
  have member := blocks_subset_of_branchAt? found branch.block_mem_blocks
  have current := reachable.keepsCurrent _ member
  have result_eq : (branch.render .update id).result =
      (branch.block.updateQuery id).result.map .update := rfl
  refine ⟨Expression.comparesEach ref nonempty, Expression.conjoins_isNull_iff ref nonempty,
    ?_, ?_, ColumnAssignment.setClause_eq_iff assigned⟩
  · intro query succeeded
    rw [result_eq] at succeeded
    cases updated : (branch.block.updateQuery id).result with
    | error error =>
        rw [updated] at succeeded
        cases succeeded
    | ok kept =>
        rw [updated] at succeeded
        cases succeeded
        exact current.head_of_result_updateQuery updated
  · intro alone
    obtain ⟨query, updated⟩ := current.exists_result_updateQuery alone id
    exact ⟨query, by rw [result_eq, updated]; rfl⟩

/-- Columns of people. -/
def personColumns (names : List String) : Mapping :=
  { table := "person", columns := names }

/-- People get some of their columns set to others. -/
def copyColumns (first : String × String) (rest : List (String × String)) :
    ColumnAssignment where
  ref := (people {}).block.primary
  mapping := personColumns ((first :: rest).map Prod.fst)
  value := .mapping (people {}).block.primary (personColumns ((first :: rest).map Prod.snd))
  nonempty := List.cons_ne_nil first.1 (rest.map Prod.fst)
  sameArity := by simp [Expression.arity, Expression.mapping, Mapping.arity, personColumns]

/-- People without values in some columns, with assignments to them. -/
def movedPeople (absent : List String) (assignments : List ColumnAssignment) : Statement :=
  (people {}).runAll
    [.whereAnd (Expression.mapping (people {}).block.primary (personColumns absent)).isNull false,
      .setUpdates (assignments.map ColumnAssignment.toAssignment)]

/-- The town becomes the city of people, and the road their street, one after the other. -/
def townThenRoad : List ColumnAssignment :=
  [copyColumns ("city", "town") [], copyColumns ("street", "road") []]

/-- The town and the road become the city and the street of people at once. -/
def townWithRoad : List ColumnAssignment :=
  [copyColumns ("city", "town") [("street", "road")]]

theorem expands_columns_iff_townThenRoad :
    ((movedPeople ["city"] townThenRoad).sql .update ⟨2⟩).result = .ok
        "UPDATE person A0 SET city = A0.town, street = A0.road WHERE A0.city IS NULL" ∧
      Expression.ComparesEach (people {}).block.primary (personColumns ["city", "street"]) ∧
      (movedPeople ["city"] townThenRoad).block.setClause =
        "SET " ++ String.intercalate ", " (townThenRoad.flatMap ColumnAssignment.items) := by
  have nonempty : (personColumns ["city", "street"]).columns ≠ [] := List.cons_ne_nil _ _
  have reachable : (movedPeople ["city"] townThenRoad).Reachable :=
    Reachable.runAll (by simp) (reachedBy_people _ {})
  have assigned : (movedPeople ["city"] townThenRoad).block.updates =
      townThenRoad.map ColumnAssignment.toAssignment := rfl
  obtain ⟨compares, _, _, _, clause_iff⟩ :=
    expands_columns_iff (people {}).block.primary nonempty reachable (branchAt?_nil _) assigned ⟨2⟩
  refine ⟨rfl, compares, clause_iff.mpr ?_⟩
  have dotless : '.' ∉ (people {}).block.primary.aliasName.toList := by decide
  intro columns member
  rcases List.mem_pair.mp member with rfl | rfl
  · exact ⟨rfl, dotless⟩
  · exact ⟨rfl, dotless⟩

/-- Neither the null test of the city and the street nor the assignment to both speaks of
each of the two. -/
theorem not_expands_columns_townWithRoad :
    ((movedPeople ["city", "street"] townWithRoad).sql .update ⟨2⟩).result = .ok
        ("UPDATE person A0 SET A0.city, A0.street = A0.town, A0.road " ++
          "WHERE A0.city, A0.street IS NULL") ∧
      ¬ (Expression.mapping (people {}).block.primary
          (personColumns ["city", "street"])).isNull.Conjoins
        ["A0.city IS NULL", "A0.street IS NULL"] ∧
      townWithRoad.flatMap ColumnAssignment.items = ["city = A0.town", "street = A0.road"] ∧
      (movedPeople ["city", "street"] townWithRoad).block.setClause ≠
        "SET " ++ String.intercalate ", " (townWithRoad.flatMap ColumnAssignment.items) := by
  refine ⟨rfl, fun conjoins => ?_, rfl, by decide⟩
  exact absurd (conjoins.length_eq_one (List.cons_ne_nil _ _)) (by decide)

end Statement
end SqlBuilder
