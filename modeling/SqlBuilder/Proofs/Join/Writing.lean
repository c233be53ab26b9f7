import Mathlib.Data.List.Forall2
import SqlBuilder.Proofs.Locking.Texts
import SqlBuilder.Statement.Query

/-!
# Joins as they are written

A FROM clause in words: the table that a query is over, then every join in the
words of its kind, its table with its alias, and its condition where it has one.
-/

namespace SqlBuilder

/-- What a lock hint adds to the table before it. -/
def hintWords (hint : Option String) : String :=
  hint.elim "" fun words => " WITH " ++ words

theorem hintText_eq_hintWords (hint : Option String) : hintText hint = hintWords hint := by
  cases hint <;> rfl

namespace Join

/-- A join is written in these words. A condition is written for every join by
keys, and a cross join is written in the manner of the dialect. -/
inductive WrittenAs
    (capabilities : Capabilities)
    (hint : Option String)
    (join : Join) : String → Prop
  | keyed {kind : KeyedJoinKind} {words : String} :
      join.kind = .keyed kind →
      (kind, words) ∈ [(KeyedJoinKind.inner, "INNER JOIN"),
        (.leftOuter, "LEFT OUTER JOIN"), (.rightOuter, "RIGHT OUTER JOIN")] →
      WrittenAs capabilities hint join
        (" " ++ words ++ " " ++ join.target.table.name ++ " " ++ join.target.aliasName ++
          hintWords hint ++ " ON " ++ join.condition.elim "1=1" Predicate.toSql)
  | cross :
      join.kind = .cross →
      capabilities.ansiCrossJoins = true →
      WrittenAs capabilities hint join
        (" CROSS JOIN " ++ join.target.table.name ++ " " ++ join.target.aliasName)
  | crossAsInner :
      join.kind = .cross →
      capabilities.ansiCrossJoins = false →
      capabilities.crossJoinsAsInner = true →
      WrittenAs capabilities hint join
        (" INNER JOIN " ++ join.target.table.name ++ " " ++ join.target.aliasName ++ " ON 1=1")
  | crossListed :
      join.kind = .cross →
      capabilities.ansiCrossJoins = false →
      capabilities.crossJoinsAsInner = false →
      WrittenAs capabilities hint join
        (", " ++ join.target.table.name ++ " " ++ join.target.aliasName)
  | listed :
      join.kind = .listed →
      WrittenAs capabilities hint join
        (", " ++ join.target.table.name ++ " " ++ join.target.aliasName)

variable (capabilities : Capabilities) (hint : Option String)

/-- A join is written in the words of its kind. -/
theorem writtenAs_clause (join : Join) :
    join.WrittenAs capabilities hint (join.clause capabilities hint).toSql := by
  cases kind_eq : join.kind with
  | keyed kind =>
      have member : (kind, kind.keyword) ∈ [(KeyedJoinKind.inner, "INNER JOIN"),
          (.leftOuter, "LEFT OUTER JOIN"), (.rightOuter, "RIGHT OUTER JOIN")] := by
        cases kind <;> simp [KeyedJoinKind.keyword]
      have condition_eq : (join.condition.getD .always).toSql =
          join.condition.elim "1=1" Predicate.toSql := by
        cases join.condition <;> rfl
      have text_eq : (join.clause capabilities hint).toSql =
          " " ++ kind.keyword ++ " " ++ join.target.table.name ++ " " ++
            join.target.aliasName ++ hintWords hint ++ " ON " ++
            join.condition.elim "1=1" Predicate.toSql := by
        rw [clause, kind_eq, JoinClause.toSql, condition_eq, hintText_eq_hintWords,
          TableRef.toSql, ← String.append_assoc, ← String.append_assoc]
      rw [text_eq]
      exact .keyed kind_eq member
  | cross =>
      rw [clause, kind_eq]
      dsimp only
      split
      · rename_i ansi
        rw [JoinClause.toSql, TableRef.toSql, ← String.append_assoc, ← String.append_assoc]
        exact .cross kind_eq ansi
      · rename_i notAnsi
        rw [Bool.not_eq_true] at notAnsi
        split
        · rename_i asInner
          rw [JoinClause.toSql, TableRef.toSql, ← String.append_assoc, ← String.append_assoc]
          exact .crossAsInner kind_eq notAnsi asInner
        · rename_i notAsInner
          rw [Bool.not_eq_true] at notAsInner
          rw [JoinClause.toSql, TableRef.toSql, ← String.append_assoc, ← String.append_assoc]
          exact .crossListed kind_eq notAnsi notAsInner
  | listed =>
      rw [clause, kind_eq, JoinClause.toSql, TableRef.toSql, ← String.append_assoc,
        ← String.append_assoc]
      exact .listed kind_eq

end Join

/-! ## FROM clauses -/

/-- The words of a FROM clause: a table, then joins in their order. -/
def SpellsFrom
    (capabilities : Capabilities)
    (primary : TableRef)
    (hint joinHint : Option String)
    (joins : List Join)
    (text : String) : Prop :=
  ∃ pieces, List.Forall₂ (Join.WrittenAs capabilities joinHint) joins pieces ∧
    text = " FROM " ++ primary.table.name ++ " " ++ primary.aliasName ++ hintWords hint ++
      String.join pieces

/-- The FROM clause of an arm. -/
def SelectArm.fromClause (arm : SelectArm) : String :=
  " FROM " ++ arm.primary.toSql ++ hintText arm.hint ++
    String.join (arm.joins.map JoinClause.toSql)

theorem SelectQuery.hasPiece_fromClause (query : SelectQuery) :
    HasPiece query.toSql query.arm.fromClause := by
  apply hasPiece_of_arm
  refine ⟨"SELECT " ++ (if query.arm.distinct then "DISTINCT " else "") ++
      query.arm.list.toSql query.arm.primary,
    optionalText (" WHERE " ++ ·.toSql) query.arm.condition ++
      ((if query.arm.groupBy.isEmpty then ""
        else " GROUP BY " ++ String.intercalate ", " query.arm.groupBy) ++
        optionalText (" HAVING " ++ ·.toSql) query.arm.having), ?_⟩
  simp only [SelectArm.fromClause, ← String.append_assoc]
  rfl

/-- An arm that has the clauses of some joins has these joins in its FROM clause. -/
theorem SelectArm.spellsFrom_fromClause
    {arm : SelectArm}
    {capabilities : Capabilities}
    {joinHint : Option String}
    {joins : List Join}
    (joins_eq : arm.joins = joins.map (Join.clause capabilities joinHint)) :
    SpellsFrom capabilities arm.primary arm.hint joinHint joins arm.fromClause := by
  refine ⟨arm.joins.map JoinClause.toSql, ?_, ?_⟩
  · rw [joins_eq, List.map_map, List.forall₂_map_right_iff, List.forall₂_same]
    exact fun join _ => join.writtenAs_clause capabilities joinHint
  · rw [fromClause, hintText_eq_hintWords, TableRef.toSql, ← String.append_assoc,
      ← String.append_assoc]

end SqlBuilder
