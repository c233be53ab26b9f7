import SqlBuilder.Locking
import SqlBuilder.Query.Text
import SqlBuilder.Statement.Builder
import SqlBuilder.Statement.Joining
import SqlBuilder.Statement.Ordering

/-!
# The query of a block

How the parts of a block become the parts of a query. Every decision that
depends on the dialect is taken here, and what the dialect cannot express is
reported. Joins are written in the order in which they stand, and the ordering
is read off the select list as it is.
-/

namespace SqlBuilder

/-- How a dialect cuts out a range of rows. -/
inductive Pagination where
  /-- All rows are asked for. -/
  | unrestricted
  /-- A clause at the end. -/
  | trailing
  /-- A query around the query numbers its rows. -/
  | nested (rowNumber : String)
  /-- The query selects the number of each row. -/
  | inline (rowNumber : String)
  deriving DecidableEq, Repr

namespace Pagination

/-- A row number in a surrounding query goes before one among the columns, and
either goes before a clause at the end. -/
def choose (capabilities : Capabilities) (range : Range) : Pagination :=
  if !range.isRestricted then .unrestricted
  else
    match capabilities.nestedRowNumber?, capabilities.inlineRowNumber? with
    | some rowNumber, _ => .nested rowNumber
    | none, some rowNumber => .inline rowNumber
    | none, none => .trailing

/-- The row number among the columns. -/
def inlineRowNumber? : Pagination → Option String
  | .inline rowNumber => some rowNumber
  | _ => none

/-- Every column has to have an alias. -/
def namesColumns : Pagination → Bool
  | .nested _ => true
  | _ => false

/-- The queries around the query. -/
def wrapper (range : Range) (selected : SelectList) : Pagination → Wrapper
  | .unrestricted => .unwrapped
  | .trailing => .unwrapped
  | .nested rowNumber => .numberedRows rowNumber (.ofNumberedRows range)
  | .inline _ =>
      .numberColumn (selected.map SelectedItem.outerName) (.ofNumberColumn range)

end Pagination

namespace SelectList

/-- The columns of a select list as they are selected. -/
def columns (list : SelectList) : List OutputColumn :=
  list.map fun item => { sql := item.sql, aliasName := item.aliasName }

/-- The columns of a select list, those without an alias getting numbered ones
from a number on. -/
def namedColumns : Nat → SelectList → List OutputColumn
  | _, [] => []
  | next, item :: rest =>
      match item.aliasName with
      | some name => { sql := item.sql, aliasName := some name } :: namedColumns next rest
      | none =>
          { sql := item.sql, aliasName := some ("DN_" ++ toString next) } ::
            namedColumns (next + 1) rest

end SelectList

namespace Join

/-- A join as it stands in the FROM clause. -/
def clause (capabilities : Capabilities) (hint : Option String) (join : Join) :
    JoinClause :=
  match join.kind with
  | .cross =>
      if capabilities.ansiCrossJoins then .cross join.target
      else if capabilities.crossJoinsAsInner then .crossAsInner join.target
      else .listed join.target
  | .listed => .listed join.target
  | .keyed kind => .keyed kind join.target hint join.condition

end Join

namespace QueryBlock

/-- How the range of the block is cut out. -/
def pagination (block : QueryBlock) : Pagination :=
  .choose block.capabilities block.range

/-- The SELECT clause. -/
def outputList (block : QueryBlock) : OutputList :=
  { columns :=
      if block.pagination.namesColumns then SelectList.namedColumns 0 block.selected
      else block.selected.columns
    rowNumber := block.pagination.inlineRowNumber? }

/-- The items of the GROUP BY clause: what is grouped by and, where the dialect
asks for it, the selected columns that are missing. -/
def groupByItems (block : QueryBlock) : List String :=
  if block.aggregated && !block.grouping.isEmpty then
    let required :=
      if block.capabilities.groupsBySelectedColumns then
        block.selected.filter SelectedItem.isPrimary
      else
        []
    (block.grouping.map Expression.text ++ required.map SelectedItem.sql).eraseDups
  else
    []

/-- The arm of the block. -/
def arm (block : QueryBlock) : SelectArm :=
  let locked := block.options.lockForUpdate
  { distinct := block.distinct
    list := block.outputList
    primary := block.primary
    hint := block.capabilities.fromHint? locked
    joins := block.joins.map
      (Join.clause block.capabilities (block.capabilities.joinHint? locked))
    condition := block.condition
    groupBy := block.groupByItems
    having := block.having }

/-- The block has a clause that may rule out row locks. -/
def hasClause (block : QueryBlock) : LockBlocker → Bool
  | .distinct => block.distinct
  | .grouping => !block.grouping.isEmpty
  | .having => block.having.isSome
  | .ordering => !block.ordering.isEmpty
  | .multipleTables => !block.joins.isEmpty

/-- The trailing lock clause, and what is reported when there is none. -/
def lockClause (block : QueryBlock) : Option String × List Event :=
  block.capabilities.forUpdate block.hasClause block.options.lockForUpdate
    block.options.nowait

/-- The trailing range clause. -/
def rangeText? (block : QueryBlock) : Option String :=
  if block.pagination = .trailing then
    (block.dialect.rangeText? block.range (!block.orderKeys.isEmpty)).filter (· != "")
  else
    none

/-- The ending of the block's query. -/
def ending (block : QueryBlock) : SelectEnding :=
  { orderBy := block.orderKeys.map block.dialect.orderItem
    range := block.rangeText?
    lock := block.lockClause.1
    wrapper := block.pagination.wrapper block.range block.selected }

/-- What the dialect cannot express of the block: first places of nulls, then
row locks. -/
def reports (block : QueryBlock) : List Event :=
  block.orderKeys.flatMap block.dialect.orderEvents ++ block.lockClause.2

/-- The query of the block, given those of its branches. -/
def query (block : QueryBlock) (branches : List SelectQuery) : SelectQuery :=
  .node block.arm block.capabilities.unionAll branches block.ending

end QueryBlock
end SqlBuilder
