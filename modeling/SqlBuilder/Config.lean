import SqlBuilder.Dialect.Basic
import SqlBuilder.Dialect.Preset
import SqlBuilder.Options
import SqlBuilder.Statement.Builder
import SqlBuilder.Toml.Document
import SqlBuilder.Toml.Record

/-!
# Settings from TOML

Capabilities of a dialect, and the settings of a store: its dialect, given by
the name of a preset or by its capabilities, and the options of its statements.
-/

namespace SqlBuilder

/-- Record that a document is at fault. -/
def ConfigError.ofProblem {Value : Type} (read : Except Toml.Problem Value) :
    Except ConfigError Value :=
  read.mapError .document

/-- The styles of range clauses under their names. -/
def RangeStyle.choices : List (String × RangeStyle) :=
  [("none", .absent), ("limit_offset", .limitOffset), ("offset_fetch", .offsetFetch),
    ("offset_fetch_requires_order", .offsetFetchAfterOrdering)]

/-- The settings for row locks, in their order in an array. -/
def LockCapabilities.settings : List (Toml.Setting LockCapabilities) :=
  [.boolean "select_for_update" fun value lock => { lock with selectForUpdate := value },
    .boolean "placed_after_from" fun value lock => { lock with hintAfterFrom := value },
    .boolean "placed_within_join" fun value lock => { lock with hintWithinJoin := value },
    .boolean "with_distinct" fun value lock => { lock with withDistinct := value },
    .boolean "with_grouping" fun value lock => { lock with withGrouping := value },
    .boolean "with_having" fun value lock => { lock with withHaving := value },
    .boolean "with_ordering" fun value lock => { lock with withOrdering := value },
    .boolean "with_multiple_tables" fun value lock =>
      { lock with withMultipleTables := value },
    .boolean "nowait" fun value lock => { lock with nowait := value },
    .text "for_update_text" fun value lock => { lock with forUpdateText := value },
    .text "option_text" fun value lock => { lock with hintText := value }]

namespace Capabilities

/-- The settings of a dialect, in their order in an array. -/
def settings : List (Toml.Setting Capabilities) :=
  [.text "name" fun value record => { record with name := value },
    .boolean "ansi_join_syntax" fun value record => { record with ansiJoins := value },
    .boolean "ansi_cross_join_syntax" fun value record =>
      { record with ansiCrossJoins := value },
    .boolean "cross_join_as_inner" fun value record =>
      { record with crossJoinsAsInner := value },
    .boolean "right_outer_join" fun value record => { record with rightOuterJoins := value },
    .boolean "union_syntax" fun value record => { record with unions := value },
    .boolean "union_all" fun value record => { record with unionAll := value },
    .boolean "order_by_select_index" fun value record =>
      { record with ordersByPosition := value },
    .boolean "include_order_by_columns_in_select" fun value record =>
      { record with selectsOrderingColumns := value },
    .boolean "nulls_directive" fun value record => { record with nullsDirective := value },
    .boolean "nulls_using_isnull" fun value record =>
      { record with nullsByFunction := value },
    .boolean "nulls_using_column_is_null" fun value record =>
      { record with nullsByTest := value },
    .boolean "group_by_requires_all_select_primaries" fun value record =>
      { record with groupsBySelectedColumns := value },
    .text "row_number_column" fun value record =>
      { record with inlineRowNumber := some value },
    .text "nested_row_number_column" fun value record =>
      { record with nestedRowNumber := some value },
    .choice "range" RangeStyle.choices fun value record => { record with rangeStyle := value },
    .record "lock" LockCapabilities.settings {} fun value record =>
      { record with lock := value }]

/-- Capabilities from the text of a document. What is not mentioned is as in
standard SQL. -/
def ofToml (text : String) : Except ConfigError Capabilities :=
  ConfigError.ofProblem do
    Toml.Setting.readRecord settings .direct .ansi (← Toml.Document.read text)

end Capabilities

/-- The settings of a statement, in their order in an array. -/
def StatementOptions.settings : List (Toml.Setting StatementOptions) :=
  [.text "naming_strategy" fun value options => { options with namingStrategy := value },
    .boolean "lock_for_update" fun value options => { options with lockForUpdate := value },
    .boolean "for_update_nowait" fun value options => { options with nowait := value }]

/-- How a store names its dialect. -/
inductive DialectSource where
  | preset (name : String)
  | custom (capabilities : Capabilities)
  deriving DecidableEq, Repr

namespace DialectSource

/-- The capabilities that are named or given. -/
def capabilities : DialectSource → Except ConfigError Capabilities
  | .preset name => Capabilities.preset name
  | .custom capabilities => .ok capabilities

/-- Read a dialect: a text names a preset, and anything else is held back and
read as capabilities. -/
def ofValue (value : Toml.Value) : Except Toml.Problem DialectSource :=
  match value with
  | .string name => .ok (.preset name)
  | value =>
      if value.isRepresentable .heldBack then
        (Toml.Setting.readRecord Capabilities.settings .heldBack .ansi value).map .custom
      else
        .error .numberOverflow

end DialectSource

/-- The settings of a store. -/
structure StoreConfig where
  dialect : DialectSource := .preset "ansi"
  options : StatementOptions := {}
  deriving DecidableEq, Repr

namespace StoreConfig

/-- The settings of a store, in their order in an array. -/
def settings : List (Toml.Setting StoreConfig) :=
  [{ key := "dialect"
     apply := fun _ value config =>
       (DialectSource.ofValue value).map fun source => { config with dialect := source } },
    .record "statement" StatementOptions.settings {} fun value config =>
      { config with options := value }]

/-- The capabilities of the store's dialect. -/
def capabilities (config : StoreConfig) : Except ConfigError Capabilities :=
  config.dialect.capabilities

/-- Settings from the text of a document. The preset that they name has to
exist. -/
def ofToml (text : String) : Except ConfigError StoreConfig := do
  let config ← ConfigError.ofProblem do
    Toml.Setting.readRecord settings .direct {} (← Toml.Document.read text)
  let _ ← config.capabilities
  return config

/-- Settings from the file that a path leads to. Whatever is wrong with its
content is reported together with the path. -/
def ofFile (start : FilePlace) (path : String) : Except ConfigError StoreConfig :=
  match start.readText path with
  | .error failure => .error (.unreadable path failure)
  | .ok text => (ofToml text).mapError (.inFile path)

/-- A builder for a statement over a table, with the dialect and the options of
the store. -/
def statement (config : StoreConfig) (table : Table) :
    Except ConfigError StatementBuilder :=
  config.capabilities.map fun capabilities =>
    { dialect := .ofCapabilities capabilities, table := table, options := config.options }

end StoreConfig
end SqlBuilder
