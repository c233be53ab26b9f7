import SqlBuilder.Event
import SqlBuilder.Range

/-!
# Capabilities of a dialect

What a database product can express, as data. Rendering asks only these values
and never for the name of a product. The default of every field is what
standard SQL offers, with `LIMIT` and `OFFSET` for ranges of rows.
-/

namespace SqlBuilder

/-- How a trailing clause for a range of rows is written. -/
inductive RangeStyle where
  /-- There is no such clause. -/
  | absent
  /-- `LIMIT c OFFSET o` -/
  | limitOffset
  /-- `OFFSET o ROWS FETCH NEXT c ROWS ONLY` -/
  | offsetFetch
  /-- The same, but only after an ordering. -/
  | offsetFetchAfterOrdering
  deriving DecidableEq, Repr

/-- What a dialect can express about row locks. -/
structure LockCapabilities where
  /-- A trailing clause locks the selected rows. -/
  selectForUpdate : Bool := true
  /-- A hint after the primary table locks its rows. -/
  hintAfterFrom : Bool := false
  /-- A hint after every joined table locks its rows. -/
  hintWithinJoin : Bool := false
  withDistinct : Bool := false
  withGrouping : Bool := false
  withHaving : Bool := false
  withOrdering : Bool := true
  withMultipleTables : Bool := true
  /-- The trailing clause may refuse to wait. -/
  nowait : Bool := false
  /-- The trailing clause. -/
  forUpdateText : String := "FOR UPDATE"
  /-- The hint. -/
  hintText : String := ""
  deriving DecidableEq, Repr

namespace LockCapabilities

/-- Row locks may stand beside a clause. -/
def allows (lock : LockCapabilities) : LockBlocker → Bool
  | .distinct => lock.withDistinct
  | .grouping => lock.withGrouping
  | .having => lock.withHaving
  | .ordering => lock.withOrdering
  | .multipleTables => lock.withMultipleTables

/-- Some table is locked by a hint. -/
def usesHints (lock : LockCapabilities) : Bool :=
  lock.hintAfterFrom || lock.hintWithinJoin

end LockCapabilities

/-- A trailing clause for a range of rows. -/
inductive RangeClause where
  | limitOffset (count offset : Option UInt64)
  | offsetFetch (offset count : Option UInt64)
  /-- Without an ordering the clause brings one that orders nothing. -/
  | afterOrdering (ordered : Bool) (offset : UInt64) (count : Option UInt64)
  deriving DecidableEq, Repr

namespace RangeClause

/-- The range that the numbers of the clause denote. -/
def range : RangeClause → Range
  | .limitOffset count offset => { offset := offset, count := count }
  | .offsetFetch offset count => { offset := offset, count := count }
  | .afterOrdering _ offset count => { offset := some offset, count := count }

/-- The clause as SQL text. -/
def toSql : RangeClause → String
  | .limitOffset count offset =>
      String.intercalate " "
        ((count.map fun rows => "LIMIT " ++ toString rows.toNat).toList ++
          (offset.map fun rows => "OFFSET " ++ toString rows.toNat).toList)
  | .offsetFetch offset count =>
      let word := if offset.isSome then "NEXT" else "FIRST"
      String.intercalate " "
        ((offset.map fun rows => "OFFSET " ++ toString rows.toNat ++ " ROWS").toList ++
          (count.map fun rows =>
            "FETCH " ++ word ++ " " ++ toString rows.toNat ++ " ROWS ONLY").toList)
  | .afterOrdering ordered offset count =>
      (if ordered then "" else "ORDER BY (SELECT NULL) ") ++
        "OFFSET " ++ toString offset.toNat ++ " ROWS" ++
        (match count with
          | some rows => " FETCH NEXT " ++ toString rows.toNat ++ " ROWS ONLY"
          | none => "")

end RangeClause

/-- What a dialect can express, and the fragments of text that are its own. -/
structure Capabilities where
  name : String := "ansi"
  /-- Joins are written with `JOIN`; otherwise tables are listed and the
  conditions of joins belong to the WHERE clause. -/
  ansiJoins : Bool := true
  /-- `CROSS JOIN` -/
  ansiCrossJoins : Bool := true
  /-- A cross join is written as an inner join that always holds. -/
  crossJoinsAsInner : Bool := false
  rightOuterJoins : Bool := true
  unions : Bool := true
  /-- Unions keep duplicate rows. -/
  unionAll : Bool := true
  /-- Ordering names positions of the select list. -/
  ordersByPosition : Bool := false
  /-- What a statement is ordered by has to be selected. -/
  selectsOrderingColumns : Bool := false
  /-- `NULLS FIRST` and `NULLS LAST` -/
  nullsDirective : Bool := false
  /-- Nulls go last by a key `ISNULL(x)` in front. -/
  nullsByFunction : Bool := false
  /-- Nulls go last by a key `x IS NULL` in front. -/
  nullsByTest : Bool := false
  /-- Selected columns have to be grouped by. -/
  groupsBySelectedColumns : Bool := false
  /-- A row number that can be selected beside other columns; blank means none. -/
  inlineRowNumber : Option String := none
  /-- A row number that a surrounding query can select; blank means none. -/
  nestedRowNumber : Option String := none
  rangeStyle : RangeStyle := .limitOffset
  lock : LockCapabilities := {}
  deriving DecidableEq, Repr

namespace Capabilities

/-- The row number to select beside other columns. -/
def inlineRowNumber? (capabilities : Capabilities) : Option String :=
  capabilities.inlineRowNumber.filter (· != "")

/-- The row number to select in a surrounding query. -/
def nestedRowNumber? (capabilities : Capabilities) : Option String :=
  capabilities.nestedRowNumber.filter (· != "")

/-- The trailing clause for a range, when one is needed and the dialect has
one. -/
def rangeClause? (capabilities : Capabilities) (range : Range) (ordered : Bool) :
    Option RangeClause :=
  if range.isRestricted then
    match capabilities.rangeStyle with
    | .absent => none
    | .limitOffset => some (.limitOffset range.count range.positiveOffset?)
    | .offsetFetch => some (.offsetFetch range.positiveOffset? range.count)
    | .offsetFetchAfterOrdering =>
        some (.afterOrdering ordered range.skipped range.count)
  else
    none

end Capabilities
end SqlBuilder
