import SqlBuilder.Dialect.Capabilities
import SqlBuilder.Error

/-!
# Presets

The capabilities of well-known products, and the names they are asked for by.
A preset says only where a product departs from standard SQL.
-/

namespace SqlBuilder
namespace Capabilities

/-- Standard SQL. -/
def ansi : Capabilities := {}

/-- Nulls can be placed, ordering columns have to be selected, and selected columns
have to be grouped by. -/
def postgresql : Capabilities :=
  { name := "postgresql"
    nullsDirective := true
    selectsOrderingColumns := true
    groupsBySelectedColumns := true
    lock := { nowait := true } }

/-- Cross joins are inner joins, and locks stand beside most clauses. -/
def mysql : Capabilities :=
  { name := "mysql"
    ansiCrossJoins := false
    crossJoinsAsInner := true
    nullsByFunction := true
    lock := { withDistinct := true, withGrouping := true, withHaving := true } }

/-- Ranges are cut by numbering rows in a surrounding query. -/
def oracle : Capabilities :=
  { name := "oracle"
    nullsDirective := true
    groupsBySelectedColumns := true
    nestedRowNumber := some "ROWNUM"
    rangeStyle := .absent
    lock := { nowait := true } }

/-- Ranges are cut by a row number selected beside the columns. -/
def db2 : Capabilities :=
  { name := "db2"
    selectsOrderingColumns := true
    nullsByTest := true
    inlineRowNumber := some "ROW_NUMBER() OVER()"
    rangeStyle := .absent }

/-- Row locks are hints on tables, and ranges need an ordering. -/
def sqlserver : Capabilities :=
  { name := "sqlserver"
    selectsOrderingColumns := true
    nullsByTest := true
    rangeStyle := .offsetFetchAfterOrdering
    lock :=
      { selectForUpdate := false
        hintAfterFrom := true
        hintWithinJoin := true
        forUpdateText := ""
        hintText := "(UPDLOCK, ROWLOCK)" } }

/-- Tables are listed with commas, and ordering names positions. -/
def legacy : Capabilities :=
  { name := "legacy"
    ansiJoins := false
    ansiCrossJoins := false
    rightOuterJoins := false
    unionAll := false
    ordersByPosition := true
    rangeStyle := .absent
    lock := { withOrdering := false, withMultipleTables := false } }

/-- Every preset with the names it answers to. -/
def presets : List (List String × Capabilities) :=
  [(["ansi"], ansi),
    (["postgresql", "postgres"], postgresql),
    (["mysql"], mysql),
    (["oracle"], oracle),
    (["db2"], db2),
    (["sqlserver", "mssql"], sqlserver),
    (["legacy"], legacy)]

/-- A name with its ASCII capitals made small. -/
def presetKey (name : String) : String :=
  name.map Char.toLower

/-- The preset of a name. The case of ASCII letters does not matter. -/
def preset (name : String) : Except ConfigError Capabilities :=
  match presets.find? fun entry => entry.1.contains (presetKey name) with
  | some entry => .ok entry.2
  | none => .error (.unknownPreset (presetKey name))

end Capabilities
end SqlBuilder
