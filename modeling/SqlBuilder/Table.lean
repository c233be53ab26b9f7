/-!
# Tables and references to them

A table has a name, columns, the columns of its primary key and, when it stores
several subtypes, a discriminator column. A mapping is an ordered group of
columns of one table. A statement refers to a table under an alias, as a member
of a table group.
-/

namespace SqlBuilder

/-- A column and the name of the table that owns it. -/
structure Column where
  table : String
  name : String
  deriving DecidableEq, Repr

/-- The columns that a field is stored in, and the name of the table that owns
them. -/
structure Mapping where
  table : String
  columns : List String
  deriving DecidableEq, Repr

namespace Mapping

/-- Number of columns. -/
def arity (mapping : Mapping) : Nat :=
  mapping.columns.length

/-- A mapping without columns. -/
def isEmpty (mapping : Mapping) : Bool :=
  mapping.columns.isEmpty

end Mapping

/-- The mapping that consists of one column. -/
def Column.toMapping (column : Column) : Mapping :=
  { table := column.table, columns := [column.name] }

/-- A table of the database. -/
structure Table where
  name : String
  columns : List String := []
  primaryKeyColumns : List String := []
  discriminator : Option String := none
  deriving DecidableEq, Repr

namespace Table

/-- Append columns to the table. -/
def withColumns (table : Table) (columns : List String) : Table :=
  { table with columns := table.columns ++ columns }

/-- Replace the columns of the primary key. -/
def withPrimaryKey (table : Table) (columns : List String) : Table :=
  { table with primaryKeyColumns := columns }

/-- Name the column that tells apart the subtypes stored in the table. -/
def withDiscriminator (table : Table) (column : String) : Table :=
  { table with discriminator := some column }

/-- A column of this table. -/
def column (table : Table) (name : String) : Column :=
  { table := table.name, name := name }

/-- A group of columns of this table, in the given order. -/
def mapping (table : Table) (columns : List String) : Mapping :=
  { table := table.name, columns := columns }

/-- The mapping of the primary key. -/
def primaryKey (table : Table) : Mapping :=
  table.mapping table.primaryKeyColumns

end Table

/-- A table under an alias, inside a table group. -/
structure TableRef where
  table : Table
  aliasName : String
  group : String
  deriving DecidableEq, Repr

namespace TableRef

/-- Two references name the same row source: the alias and the table's name
agree. Columns and group play no part. -/
def same (first second : TableRef) : Bool :=
  first.aliasName == second.aliasName && first.table.name == second.table.name

/-- The reference as it stands in a FROM clause: table name, then alias. -/
def toSql (ref : TableRef) : String :=
  ref.table.name ++ " " ++ ref.aliasName

@[simp] theorem same_iff (first second : TableRef) :
    first.same second = true ↔
      first.aliasName = second.aliasName ∧
        first.table.name = second.table.name := by
  simp [same]

end TableRef
end SqlBuilder
