import SqlBuilder.Join.Basic
import SqlBuilder.Ordering
import SqlBuilder.Range

/-!
# Queries ready to be written

The shape of a finished SELECT, UPDATE or DELETE. Everything that depends on a
dialect has been decided here; what is left is to put the pieces behind one
another. A SELECT has an arm of its own, then an arm for each union branch, and
an ending that applies to all of them.
-/

namespace SqlBuilder

/-- A column of a SELECT clause. -/
structure OutputColumn where
  sql : String
  aliasName : Option String
  deriving DecidableEq, Repr

/-- The columns of a SELECT clause. No column means every column of the source.
A row number comes last. -/
structure OutputList where
  columns : List OutputColumn
  rowNumber : Option String
  deriving DecidableEq, Repr

/-- Number of columns in a list that names its columns. -/
def OutputList.width (list : OutputList) : Nat :=
  list.columns.length + list.rowNumber.toList.length

/-- A joined table of a FROM clause. -/
inductive JoinClause where
  | cross (target : TableRef)
  /-- A cross join as an inner join that always holds. -/
  | crossAsInner (target : TableRef)
  | listed (target : TableRef)
  | keyed (kind : KeyedJoinKind) (target : TableRef) (hint : Option String)
      (condition : Option Predicate)

/-- The table that a clause brings in. -/
def JoinClause.target : JoinClause → TableRef
  | .cross target => target
  | .crossAsInner target => target
  | .listed target => target
  | .keyed _ target _ _ => target

/-- The lock hint of the joined table. -/
def JoinClause.hint? : JoinClause → Option String
  | .keyed _ _ hint _ => hint
  | _ => none

/-- One arm of a query, from SELECT to HAVING. -/
structure SelectArm where
  distinct : Bool
  list : OutputList
  primary : TableRef
  hint : Option String
  joins : List JoinClause
  condition : Option Predicate
  groupBy : List String
  having : Option Predicate

/-- The queries around a query that cut out a range of rows. -/
inductive Wrapper where
  | unwrapped
  /-- A middle query numbers the rows and an outer one filters them. -/
  | numberedRows (rowNumber : String) (filter : RowFilter)
  /-- The query selects its row number; an outer one filters on it and selects
  the columns with these names, or all of them if there are no names. -/
  | numberColumn (names : List String) (filter : RowFilter)
  deriving DecidableEq, Repr

/-- What follows the arms of a query. -/
structure SelectEnding where
  orderBy : List OrderItem
  range : Option String
  lock : Option String
  wrapper : Wrapper
  deriving DecidableEq, Repr

/-- A SELECT. -/
inductive SelectQuery where
  | node (arm : SelectArm) (unionAll : Bool) (branches : List SelectQuery)
      (ending : SelectEnding)

namespace SelectQuery

/-- The arm of the query itself. -/
def arm : SelectQuery → SelectArm
  | .node arm _ _ _ => arm

/-- The queries of the union branches. -/
def branches : SelectQuery → List SelectQuery
  | .node _ _ branches _ => branches

/-- What follows the arms. -/
def ending : SelectQuery → SelectEnding
  | .node _ _ _ ending => ending

end SelectQuery

/-- The rows that an UPDATE or DELETE touches. -/
inductive RowCondition where
  /-- Rows on which a predicate holds. -/
  | holds (predicate : Predicate)
  /-- Rows for which a query finds partners. -/
  | hasPartner (query : SelectQuery)

/-- An UPDATE or DELETE: everything before the WHERE clause, and the rows. -/
structure RowQuery where
  head : String
  condition : Option RowCondition

/-- A finished statement of one of the three kinds. -/
inductive Rendering where
  | select (query : SelectQuery)
  | update (query : RowQuery)
  | delete (query : RowQuery)

end SqlBuilder
