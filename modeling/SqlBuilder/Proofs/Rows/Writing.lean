import SqlBuilder.Proofs.Join.Writing
import SqlBuilder.Proofs.Rows.Partner

/-!
# The rows of an UPDATE or DELETE as they are written

A block without joins has its condition in the WHERE clause. A block with joins
has an EXISTS there: the table of the first join and the other joins are in its
FROM clause, and what the first join and the block require is in its own WHERE
clause.
-/

namespace SqlBuilder

/-- What a condition adds to the text before it. -/
def whereWords (condition : Option Predicate) : String :=
  condition.elim "" fun predicate => " WHERE " ++ predicate.toSql

/-- What stands behind the table and the assignments of an UPDATE or DELETE of a
block. -/
inductive QueryBlock.SpellsRows (block : QueryBlock) : String → Prop
  | alone : block.joins = [] → SpellsRows block (whereWords block.condition)
  | joined {first : Join} {rest : List Join} {fromClause : String} :
      block.joins = first :: rest →
      SpellsFrom block.capabilities first.target none none rest fromClause →
      SpellsRows block
        (" WHERE EXISTS (SELECT *" ++ fromClause ++
          whereWords (Option.merge Predicate.and
            (first.onCondition?.filter fun predicate => !predicate.isAlways)
            (block.condition.filter fun predicate => !predicate.isAlways)) ++ ")")

theorem RowQuery.toSql_holds (head : String) (condition : Option Predicate) :
    RowQuery.toSql { head := head, condition := condition.map .holds } =
      head ++ whereWords condition := by
  cases condition <;> rfl

theorem RowQuery.toSql_hasPartner (head : String) (query : SelectQuery) :
    RowQuery.toSql { head := head, condition := some (.hasPartner query) } =
      head ++ (" WHERE EXISTS (" ++ query.toSql ++ ")") := by
  have condition_eq : RowCondition.toSql (.hasPartner query) =
      "EXISTS (" ++ query.toSql ++ ")" := by
    simp [RowCondition.toSql, Predicate.toSql, Predicate.tokens, Predicate.Token.toSql]
  have where_eq : (" WHERE " : String) ++ "EXISTS (" = " WHERE EXISTS (" := by decide
  rw [RowQuery.toSql, optionalText, condition_eq, ← where_eq]
  simp only [String.append_assoc]

namespace QueryBlock

variable (block : QueryBlock) (first : Join) (rest : List Join)

theorem toSql_arm_partnerQuery :
    (block.partnerQuery first rest).arm.toSql =
      "SELECT *" ++ (block.partnerQuery first rest).arm.fromClause ++
        whereWords (block.partnerCondition first) := by
  have select_eq : ("SELECT " : String) ++ "" ++ "*" = "SELECT *" := by decide
  have where_eq (condition : Option Predicate) :
      optionalText (" WHERE " ++ ·.toSql) condition = whereWords condition := by
    cases condition <;> rfl
  have arm_eq : (block.partnerQuery first rest).arm.toSql =
      "SELECT " ++ "" ++ "*" ++ " FROM " ++ first.target.toSql ++ hintText none ++
        String.join ((rest.map (Join.clause block.capabilities none)).map JoinClause.toSql) ++
        whereWords (block.partnerCondition first) ++ "" ++ "" := by
    rw [← where_eq]
    rfl
  rw [arm_eq, select_eq, String.append_empty, String.append_empty, SelectArm.fromClause,
    ← String.append_assoc, ← String.append_assoc, ← String.append_assoc]
  rfl

/-- The query for partners selects everything, and nothing stands behind its
condition. -/
theorem toSql_partnerQuery :
    (block.partnerQuery first rest).toSql =
      "SELECT *" ++ (block.partnerQuery first rest).arm.fromClause ++
        whereWords (block.partnerCondition first) := by
  have query_eq : (block.partnerQuery first rest).toSql =
      (block.partnerQuery first rest).arm.toSql ++ "" ++ ("" ++ "" ++ "") := rfl
  rw [query_eq, toSql_arm_partnerQuery]
  simp only [String.append_empty]

end QueryBlock
end SqlBuilder
