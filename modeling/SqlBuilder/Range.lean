/-!
# Ranges of rows

A statement may leave out its first rows and limit how many follow. Offsets,
counts and row numbers are 64-bit words. A dialect without a clause for ranges
numbers the rows and filters on the number; the bounds of such a filter are a
value here, and so is the set of rows that it accepts.
-/

namespace SqlBuilder

/-- Which rows of a result are asked for. An absent bound does not restrict. -/
structure Range where
  offset : Option UInt64 := none
  count : Option UInt64 := none
  deriving DecidableEq, Repr

namespace Range

/-- Some row may be left out. -/
def isRestricted (range : Range) : Bool :=
  range.offset.any (0 < ·) || range.count.isSome

/-- The offset when it leaves out rows. -/
def positiveOffset? (range : Range) : Option UInt64 :=
  range.offset.filter (0 < ·)

/-- Number of rows left out at the start. -/
def skipped (range : Range) : UInt64 :=
  range.offset.getD 0

/-- The row with this number, counted from one, is asked for. -/
def Selects (range : Range) (row : Nat) : Prop :=
  range.skipped.toNat < row ∧
    ∀ count ∈ range.count, row - range.skipped.toNat ≤ count.toNat

end Range

/-- The largest row number. -/
def lastRow : UInt64 :=
  UInt64.ofNat (UInt64.size - 1)

/-- The sum of two row counts, or the largest row number when that is less. -/
def addRows (first second : UInt64) : UInt64 :=
  if first.toNat + second.toNat < UInt64.size then first + second else lastRow

/-- Bounds on a row number. -/
structure RowFilter where
  above : Option UInt64 := none
  upTo : Option UInt64 := none
  deriving DecidableEq, Repr

namespace RowFilter

/-- The filter over rows that a middle query has numbered. It always has a
bound: without an offset the upper bound stays, and is zero without a count. -/
def ofNumberedRows (range : Range) : RowFilter :=
  if 0 < range.skipped then
    { above := some range.skipped, upTo := range.count.map (addRows range.skipped) }
  else
    { upTo := some (range.count.getD 0) }

/-- The filter over rows that number themselves in a column. -/
def ofNumberColumn (range : Range) : RowFilter :=
  { above := range.positiveOffset?,
    upTo := range.count.map (addRows range.skipped) }

/-- The filter lets a row through. -/
def Accepts (filter : RowFilter) (row : Nat) : Prop :=
  (∀ bound ∈ filter.above, bound.toNat < row) ∧
    ∀ bound ∈ filter.upTo, row ≤ bound.toNat

/-- The comparisons of the filter, on a column with the given name. -/
def comparisons (filter : RowFilter) (column : String) : List String :=
  (filter.above.map fun bound => column ++ " > " ++ toString bound.toNat).toList ++
    (filter.upTo.map fun bound => column ++ " <= " ++ toString bound.toNat).toList

/-- The comparisons joined to one condition. -/
def toSql (filter : RowFilter) (column : String) : String :=
  String.intercalate " AND " (filter.comparisons column)

end RowFilter
end SqlBuilder
