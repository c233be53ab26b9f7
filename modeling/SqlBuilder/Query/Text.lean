import SqlBuilder.Query.Basic

/-!
# The text of queries
-/

namespace SqlBuilder

/-- A piece of text that is left out when there is nothing to write. -/
def optionalText {Value : Type} (write : Value → String) : Option Value → String
  | some value => write value
  | none => ""

/-- A column with its alias. -/
def OutputColumn.toSql (column : OutputColumn) : String :=
  column.sql ++ optionalText (" AS " ++ ·) column.aliasName

/-- The row number as a column. -/
def rowNumberColumn (rowNumber : String) : String :=
  rowNumber ++ " rn"

/-- The columns of a SELECT clause over a primary table. -/
def OutputList.toSql (list : OutputList) (primary : TableRef) : String :=
  match list.columns, list.rowNumber with
  | [], none => "*"
  | [], some rowNumber => primary.aliasName ++ ".*, " ++ rowNumberColumn rowNumber
  | columns, rowNumber =>
      String.intercalate ", "
        (columns.map OutputColumn.toSql ++ (rowNumber.map rowNumberColumn).toList)

/-- A lock hint behind a table. -/
def hintText : Option String → String :=
  optionalText (" WITH " ++ ·)

/-- A joined table with what separates it from the table before. -/
def JoinClause.toSql : JoinClause → String
  | .cross target => " CROSS JOIN " ++ target.toSql
  | .crossAsInner target => " INNER JOIN " ++ target.toSql ++ " ON 1=1"
  | .listed target => ", " ++ target.toSql
  | .keyed kind target hint condition =>
      " " ++ kind.keyword ++ " " ++ target.toSql ++ hintText hint ++ " ON " ++
        (condition.getD .always).toSql

/-- The arm of a query. -/
def SelectArm.toSql (arm : SelectArm) : String :=
  "SELECT " ++ (if arm.distinct then "DISTINCT " else "") ++
    arm.list.toSql arm.primary ++
    " FROM " ++ arm.primary.toSql ++ hintText arm.hint ++
    String.join (arm.joins.map JoinClause.toSql) ++
    optionalText (" WHERE " ++ ·.toSql) arm.condition ++
    (if arm.groupBy.isEmpty then ""
      else " GROUP BY " ++ String.intercalate ", " arm.groupBy) ++
    optionalText (" HAVING " ++ ·.toSql) arm.having

/-- The word between the arms of a union. -/
def unionWord (keepsDuplicates : Bool) : String :=
  if keepsDuplicates then " UNION ALL " else " UNION "

/-- What follows the arms, apart from the queries around them. -/
def SelectEnding.toSql (ending : SelectEnding) : String :=
  (if ending.orderBy.isEmpty then ""
    else " ORDER BY " ++ String.intercalate ", " (ending.orderBy.map OrderItem.toSql)) ++
    optionalText (" " ++ ·) ending.range ++
    optionalText (" " ++ ·) ending.lock

/-- Put the outer queries around the text of a query. -/
def Wrapper.around (inner : String) : Wrapper → String
  | .unwrapped => inner
  | .numberedRows rowNumber filter =>
      "SELECT * FROM (SELECT subq.*, " ++ rowNumberColumn rowNumber ++ " FROM (" ++
        inner ++ ") subq) WHERE " ++ filter.toSql "rn"
  | .numberColumn names filter =>
      "SELECT " ++
        (if names.isEmpty then "subq.*"
          else String.intercalate ", " (names.map ("subq." ++ ·))) ++
        " FROM (" ++ inner ++ ") subq WHERE " ++ filter.toSql "subq.rn"

namespace SelectQuery

mutual

/-- The query as SQL text. -/
def toSql : SelectQuery → String
  | .node arm unionAll branches ending =>
      ending.wrapper.around
        (arm.toSql ++ branchesToSql (unionWord unionAll) branches ++ ending.toSql)

/-- The branches of a union, each behind the word that joins it. -/
def branchesToSql (word : String) : List SelectQuery → String
  | [] => ""
  | branch :: rest => word ++ branch.toSql ++ branchesToSql word rest

end

end SelectQuery

/-- The condition on rows as SQL text. -/
def RowCondition.toSql : RowCondition → String
  | .holds predicate => predicate.toSql
  | .hasPartner query => (Predicate.existence query.toSql).toSql

/-- An UPDATE or DELETE as SQL text. -/
def RowQuery.toSql (query : RowQuery) : String :=
  query.head ++ optionalText (" WHERE " ++ ·.toSql) query.condition

/-- A finished statement as SQL text. -/
def Rendering.toSql : Rendering → String
  | .select query => query.toSql
  | .update query => query.toSql
  | .delete query => query.toSql

end SqlBuilder
