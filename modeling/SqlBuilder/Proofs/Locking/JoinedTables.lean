import SqlBuilder.Proofs.Locking.Reports
import SqlBuilder.Proofs.Rows.Acceptance

/-!
# Hints on joined tables

A dialect that locks joined tables has its hint written behind the table of each join by
keys. A cross join and a table behind a comma have no place for a hint, so that their rows
are not locked. The FROM clause is taken apart here into the tables that are joined, each
with the text that follows it.
-/

namespace SqlBuilder

/-! ## The FROM clause -/

namespace JoinClause

/-- What stands before the table of a clause. -/
def lead : JoinClause → String
  | .cross _ => " CROSS JOIN "
  | .crossAsInner _ => " INNER JOIN "
  | .listed _ => ", "
  | .keyed kind _ _ _ => " " ++ kind.keyword ++ " "

/-- What stands behind the table of a clause. -/
def tail : JoinClause → String
  | .cross _ => ""
  | .crossAsInner _ => " ON 1=1"
  | .listed _ => ""
  | .keyed _ _ hint condition =>
      hintText hint ++ (" ON " ++ (condition.getD .always).toSql)

theorem toSql_eq (clause : JoinClause) :
    clause.toSql = clause.lead ++ clause.target.toSql ++ clause.tail := by
  cases clause with
  | cross target | listed target => exact (String.append_empty).symm
  | crossAsInner target => rfl
  | keyed kind target hint condition =>
      rw [tail, ← String.append_assoc, ← String.append_assoc]
      rfl

/-- No table is brought in by words that start like a hint. -/
theorem getElem?_toList_lead (clause : JoinClause) :
    ∃ char, clause.lead.toList[1]? = some char ∧ char ≠ 'W' := by
  cases clause with
  | cross target => exact ⟨'C', by simp [lead], by decide⟩
  | crossAsInner target => exact ⟨'I', by simp [lead], by decide⟩
  | listed target => exact ⟨' ', by simp [lead], by decide⟩
  | keyed kind target hint condition =>
      cases kind with
      | inner => exact ⟨'I', by simp [lead, KeyedJoinKind.keyword], by decide⟩
      | leftOuter => exact ⟨'L', by simp [lead, KeyedJoinKind.keyword], by decide⟩
      | rightOuter => exact ⟨'R', by simp [lead, KeyedJoinKind.keyword], by decide⟩

end JoinClause

/-- A table of a FROM clause, with the text that follows it there. -/
structure TablePlace where
  table : TableRef
  behind : String

namespace TablePlace

/-- The table and what follows it end the text. -/
def Ends (place : TablePlace) (text : String) : Prop :=
  ∃ before, text = before ++ place.table.toSql ++ place.behind

/-- The table is followed by a hint. -/
def IsHinted (place : TablePlace) (hint : String) : Prop :=
  ∃ after, place.behind = " WITH " ++ hint ++ after

end TablePlace

/-- The joined tables of a FROM clause. -/
def JoinClause.places : List JoinClause → List TablePlace
  | [] => []
  | clause :: rest =>
      { table := clause.target
        behind := clause.tail ++ String.join (rest.map JoinClause.toSql) } :: places rest

/-- The joined tables of the FROM clause of an arm. -/
def SelectArm.joinedTables (arm : SelectArm) : List TablePlace :=
  JoinClause.places arm.joins

/-! ## Which tables are followed by a hint -/

/-- A text that starts with a hint has the letter W at its second place. -/
theorem getElem?_toList_of_hint
    {text hint after : String}
    (starts : text = " WITH " ++ hint ++ after) : text.toList[1]? = some 'W' := by
  rw [starts, String.append_assoc, String.toList_append]
  rfl

/-- The clauses of further joins do not start with a hint. -/
theorem JoinClause.join_ne_hint (clauses : List JoinClause) (hint after : String) :
    String.join (clauses.map JoinClause.toSql) ≠ " WITH " ++ hint ++ after := by
  intro starts
  have isHint := getElem?_toList_of_hint starts
  cases clauses with
  | nil => cases isHint
  | cons clause rest =>
      obtain ⟨char, isChar, notHint⟩ := clause.getElem?_toList_lead
      have bound := (List.getElem?_eq_some_iff.mp isChar).1
      rw [List.map_cons, String.join_cons, toSql_eq, String.append_assoc, String.append_assoc,
        String.toList_append, List.getElem?_append_left bound, isChar] at isHint
      exact notHint (Option.some.inj isHint)

/-- A table without a hint is not followed by the words of one. -/
theorem JoinClause.tail_append_join_ne_hint
    {clause : JoinClause}
    (unhinted : clause.hint? = none)
    (clauses : List JoinClause)
    (hint after : String) :
    clause.tail ++ String.join (clauses.map JoinClause.toSql) ≠ " WITH " ++ hint ++ after := by
  intro starts
  cases clause with
  | cross target | listed target =>
      rw [tail, String.empty_append] at starts
      exact join_ne_hint clauses hint after starts
  | crossAsInner target =>
      have isHint := getElem?_toList_of_hint starts
      rw [tail, String.toList_append] at isHint
      cases isHint
  | keyed kind target written condition =>
      obtain rfl : written = none := unhinted
      have isHint := getElem?_toList_of_hint starts
      rw [tail, hintText, optionalText, String.empty_append, String.append_assoc,
        String.toList_append] at isHint
      cases isHint

/-- The table of a join is followed by the hint exactly if it is joined by keys. -/
theorem Join.isHinted_clause_iff
    (capabilities : Capabilities)
    (hint : String)
    (join : Join)
    (rest : List JoinClause) :
    let clause := join.clause capabilities (some hint)
    TablePlace.IsHinted
        { table := clause.target
          behind := clause.tail ++ String.join (rest.map JoinClause.toSql) } hint ↔
      ∃ kind, join.kind = .keyed kind := by
  intro clause
  have unhinted : clause.hint? = none → ¬ TablePlace.IsHinted
      { table := clause.target
        behind := clause.tail ++ String.join (rest.map JoinClause.toSql) } hint :=
    fun noHint ⟨after, starts⟩ => JoinClause.tail_append_join_ne_hint noHint rest hint after starts
  rcases join.clause_cases capabilities (some hint) with
    ⟨kind, isKeyed, written⟩ | ⟨notKeyed, written | written | written⟩
  · refine iff_of_true ⟨" ON " ++ (join.condition.getD .always).toSql ++
      String.join (rest.map JoinClause.toSql), ?_⟩ ⟨kind, isKeyed⟩
    simp only [clause, written, JoinClause.tail, hintText, optionalText, String.append_assoc]
  all_goals
    refine iff_of_false (unhinted (by simp only [clause, written, JoinClause.hint?])) ?_
    rintro ⟨kind, isKeyed⟩
    simp [isKeyed] at notKeyed

/-- A join, and the place of its table in a FROM clause that is written with a hint. -/
structure Join.StandsAt
    (fromClause hint : String)
    (join : Join)
    (place : TablePlace) : Prop where
  table : place.table = join.target
  ends : place.Ends fromClause
  isHinted_iff : place.IsHinted hint ↔ ∃ kind, join.kind = .keyed kind

/-- The joined tables of a FROM clause are those of the joins, each in its place. -/
theorem Join.forall₂_standsAt_places
    (capabilities : Capabilities)
    (hint front : String)
    (joins : List Join) :
    let clauses := joins.map (Join.clause capabilities (some hint))
    List.Forall₂
      (StandsAt (front ++ String.join (clauses.map JoinClause.toSql)) hint) joins
      (JoinClause.places clauses) := by
  induction joins generalizing front with
  | nil => exact .nil
  | cons join rest inductionHypothesis =>
      simp only [List.map_cons, String.join_cons, JoinClause.places]
      refine .cons ⟨join.target_clause _ _, ⟨front ++ (join.clause capabilities (some hint)).lead,
        ?_⟩, join.isHinted_clause_iff _ _ _⟩ ?_
      · simp only [JoinClause.toSql_eq, String.append_assoc]
      · rw [← String.append_assoc]
        exact inductionHypothesis _

namespace Statement

/-- The FROM clause of a SELECT that locks joined tables has the tables of all joins, and
a table is followed by the lock hint exactly if it is joined by keys. So all joined tables
are followed by it exactly if there are joins by keys alone. -/
theorem Reachable.hintsJoinedTables_iff
    {statement : Statement}
    (reachable : statement.Reachable)
    (within : statement.block.capabilities.lock.hintWithinJoin = true)
    (requested : statement.block.options.lockForUpdate = true)
    {query : SelectQuery}
    (selected : statement.selectQuery.result = .ok query) :
    let hint := statement.block.capabilities.lock.hintText
    HasPiece query.toSql query.arm.fromClause ∧
      (∃ joins : List Join, joins.Perm statement.block.joins ∧
        List.Forall₂ (Join.StandsAt query.arm.fromClause hint) joins
          query.arm.joinedTables) ∧
      ((∀ place ∈ query.arm.joinedTables, place.IsHinted hint) ↔
        ∀ join ∈ statement.block.joins, ∃ kind, join.kind = .keyed kind) := by
  intro hint
  have current := reachable.keepsCurrent _ statement.block_mem_blocks
  have arm_eq := arm_of_result_selectQuery current selected
  have perm : statement.block.readied.joins.Perm statement.block.joins := by
    rw [QueryBlock.joins_readied]
    exact statement.block.perm_joins_reorderJoins
  have joins_eq : query.arm.joins = statement.block.readied.joins.map
      (Join.clause statement.block.capabilities (some hint)) := by
    rw [arm_eq, QueryBlock.arm, QueryBlock.capabilities_readied, QueryBlock.options_readied,
      Capabilities.joinHint?, requested, within]
    rfl
  have stands : List.Forall₂ (Join.StandsAt query.arm.fromClause hint)
      statement.block.readied.joins query.arm.joinedTables := by
    rw [SelectArm.joinedTables, SelectArm.fromClause, joins_eq]
    exact Join.forall₂_standsAt_places _ _ _ _
  refine ⟨query.hasPiece_fromClause, ⟨_, perm, stands⟩, ?_⟩
  simp only [← perm.mem_iff]
  constructor
  · intro hinted
    exact forall_mem_of_forall₂ stands.flip fun place member join standsAt =>
      standsAt.isHinted_iff.mp (hinted place member)
  · intro keyed
    exact forall_mem_of_forall₂ stands fun join member place standsAt =>
      standsAt.isHinted_iff.mpr (keyed join member)

/-- People, rows locked by hints, after some operations. -/
def hintedPeople (operations : List Operation) : Statement :=
  (people .sqlserver).runAll
    (operations ++ [.setOptions .standard { lockForUpdate := true }])

/-- Join the phones of people. -/
def joinPhonesOfPeople : Operation :=
  .join
    { kind := .leftOuter
      table := { name := "phone" }
      aliasName := some "Y"
      sourceKey := some { table := "person", columns := ["id"] }
      targetKey := some { table := "phone", columns := ["person_id"] } }

theorem hintsJoinedTables_iff_joinPhonesOfPeople :
    let statement := hintedPeople [joinPhonesOfPeople]
    ∃ query, statement.selectQuery.result = .ok query ∧
      query.toSql = "SELECT * FROM person A0 WITH (UPDLOCK, ROWLOCK) " ++
        "LEFT OUTER JOIN phone Y WITH (UPDLOCK, ROWLOCK) ON A0.id = Y.person_id" ∧
      ∀ place ∈ query.arm.joinedTables, place.IsHinted "(UPDLOCK, ROWLOCK)" := by
  intro statement
  have reachable : statement.Reachable :=
    Reachable.runAll (by simp [joinPhonesOfPeople]) (reachedBy_people _ .sqlserver)
  obtain ⟨query, built⟩ : ∃ query, statement.selectQuery.result = .ok query :=
    exists_result_selectQuery rfl rfl
  obtain ⟨_, _, hinted_iff⟩ := reachable.hintsJoinedTables_iff rfl rfl built
  refine ⟨query, built, ?_, hinted_iff.mpr ?_⟩
  · cases built
    decide +kernel
  · intro join member
    rw [List.mem_singleton.mp member]
    exact ⟨.leftOuter, rfl⟩

/-- The rows of a table that is cross joined are not locked, and nothing is reported. -/
theorem not_hintsJoinedTables_joinCities :
    let statement := hintedPeople [joinCities]
    statement.Reachable ∧ statement.branches = [] ∧
      statement.block.capabilities.lock.hintWithinJoin = true ∧
      statement.block.options.lockForUpdate = true ∧
      statement.selectSql.result = .ok
        "SELECT * FROM person A0 WITH (UPDLOCK, ROWLOCK) CROSS JOIN city X" ∧
      statement.selectSql.events = [] ∧
      ∃ query, statement.selectQuery.result = .ok query ∧
        ¬ ∀ place ∈ query.arm.joinedTables, place.IsHinted "(UPDLOCK, ROWLOCK)" := by
  intro statement
  have reachable : statement.Reachable :=
    Reachable.runAll (by simp [joinCities]) (reachedBy_people _ .sqlserver)
  obtain ⟨query, built⟩ : ∃ query, statement.selectQuery.result = .ok query :=
    exists_result_selectQuery rfl rfl
  refine ⟨reachable, rfl, rfl, rfl, by decide +kernel, by decide +kernel, query, built, ?_⟩
  intro hinted
  cases built
  obtain ⟨after, starts⟩ := hinted _ List.mem_cons_self
  exact JoinClause.join_ne_hint [] _ after starts

end Statement
end SqlBuilder
