import SqlBuilder.Dialect.Capabilities
import SqlBuilder.Expression

/-!
# Dialects

A dialect is a set of capabilities together with the few texts that a product
may want to write in its own way: the skeletons of UPDATE and DELETE, the name
of an ordering key, and the clause for a range of rows.
-/

namespace SqlBuilder

/-- A dialect of SQL. -/
structure Dialect where
  capabilities : Capabilities
  /-- UPDATE of a table with a finished SET clause. -/
  updateText : TableRef → String → String
  /-- DELETE from a table. -/
  deleteText : TableRef → String
  /-- An ordering key, from its name and the expression behind it. -/
  orderText : String → Expression → String
  /-- The trailing clause for a range, given whether an ordering precedes it. -/
  rangeText? : Range → Bool → Option String

namespace Dialect

/-- The name of the product. -/
def name (dialect : Dialect) : String :=
  dialect.capabilities.name

/-- UPDATE in standard SQL. -/
def standardUpdate (table : TableRef) (setClause : String) : String :=
  "UPDATE " ++ table.toSql ++ " " ++ setClause

/-- DELETE in standard SQL. -/
def standardDelete (table : TableRef) : String :=
  "DELETE FROM " ++ table.toSql

/-- The dialect with the given capabilities and standard texts. -/
def ofCapabilities (capabilities : Capabilities) : Dialect :=
  { capabilities := capabilities
    updateText := standardUpdate
    deleteText := standardDelete
    orderText := fun name _ => name
    rangeText? := fun range ordered =>
      (capabilities.rangeClause? range ordered).map RangeClause.toSql }

end Dialect
end SqlBuilder
