import SqlBuilder.Dialect.Basic

/-!
# Ordering

An ordering is a list of terms, each an expression with a direction and, if
asked for, a place for nulls. Before it is written a term becomes one key for
each of its columns. A key of a dialect without directives for nulls may be
preceded by a key that sorts nulls last.
-/

namespace SqlBuilder

/-- The place of nulls among the other values. -/
inductive NullOrder where
  | first
  | last
  deriving DecidableEq, Repr

/-- The directive for the place of nulls. -/
def NullOrder.keyword : NullOrder → String
  | .first => "NULLS FIRST"
  | .last => "NULLS LAST"

/-- A term of an ordering. -/
structure OrderTerm where
  expression : Expression
  descending : Bool
  nulls : Option NullOrder
  deriving DecidableEq, Repr

namespace OrderTerm

/-- The terms of parallel lists. Without a list of null places no term has
one. -/
def ofLists
    (expressions : List Expression)
    (directions : List Bool)
    (nulls : Option (List (Option NullOrder))) : List OrderTerm :=
  let places := nulls.getD (expressions.map fun _ => none)
  (expressions.zip (directions.zip places)).map fun entry =>
    { expression := entry.1, descending := entry.2.1, nulls := entry.2.2 }

end OrderTerm

/-- How an ordering refers to its columns. -/
inductive OrderMode where
  /-- By their positions in the select list. -/
  | positional
  /-- By the names under which they are selected. -/
  | selected
  /-- By their own text. -/
  | direct
  deriving DecidableEq, Repr

/-- One key of an ordering, ready to be written. -/
structure OrderKey where
  name : String
  expression : Expression
  descending : Bool
  nulls : Option NullOrder
  /-- The name is a position of the select list. -/
  positional : Bool
  deriving DecidableEq, Repr

/-- A key that sorts nulls last when it stands before another key. -/
inductive NullKey where
  | function
  | test
  deriving DecidableEq, Repr

/-- The key in front, for a column with this name. -/
def NullKey.toSql : NullKey → String → String
  | .function, name => "ISNULL(" ++ name ++ ")"
  | .test, name => name ++ " IS NULL"

/-- A key of an ORDER BY clause. -/
structure OrderItem where
  nullKey : Option NullKey
  name : String
  descending : Bool
  /-- The directive for nulls, where the dialect has one. -/
  directive : Option NullOrder
  deriving DecidableEq, Repr

/-- The key as SQL text. -/
def OrderItem.toSql (item : OrderItem) : String :=
  (match item.nullKey with
    | some key => key.toSql item.name ++ ", "
    | none => "") ++
    item.name ++
    (if item.descending then " DESC" else "") ++
    (match item.directive with
      | some nulls => " " ++ nulls.keyword
      | none => "")

namespace Capabilities

/-- The dialect has some means of placing nulls. -/
def placesNulls (capabilities : Capabilities) : Bool :=
  capabilities.nullsDirective || capabilities.nullsByFunction ||
    capabilities.nullsByTest

/-- The key in front that sorts the nulls of a single column last, in a dialect
without directives. -/
def nullKey? (capabilities : Capabilities) (key : OrderKey) : Option NullKey :=
  if key.nulls = some .last && !capabilities.nullsDirective && !key.positional &&
      key.expression.isSingleColumn then
    if capabilities.nullsByFunction then some .function
    else if capabilities.nullsByTest then some .test
    else none
  else
    none

end Capabilities

namespace Dialect

/-- A key as it stands in the ORDER BY clause. -/
def orderItem (dialect : Dialect) (key : OrderKey) : OrderItem :=
  { nullKey := dialect.capabilities.nullKey? key
    name :=
      if key.positional then key.name else dialect.orderText key.name key.expression
    descending := key.descending
    directive := if dialect.capabilities.nullsDirective then key.nulls else none }

/-- The report that the place of a key's nulls is lost. -/
def orderEvents (dialect : Dialect) (key : OrderKey) : List Event :=
  if key.nulls.isSome && !dialect.capabilities.placesNulls then
    [.nullOrderingUnsupported dialect.name key.name]
  else
    []

end Dialect
end SqlBuilder
