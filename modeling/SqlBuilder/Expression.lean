import SqlBuilder.Literal
import SqlBuilder.Table
import SqlBuilder.Text.Blank
import SqlBuilder.Predicate.Basic

/-!
# Value expressions

An expression is a fragment of SQL that stands for a value: columns of an
aliased table, an aggregate call, the alias of a result column, or any other
text. An expression over several columns is written as the list of its columns;
predicates made from it speak of each column in turn.
-/

namespace SqlBuilder

/-- A value expression. -/
inductive Expression where
  /-- Columns of the table with this name under this alias. -/
  | columns (table aliasName : String) (names : List String)
  /-- The text of an aggregate call. -/
  | aggregate (call : String)
  /-- A result column, named by the alias it was selected under. -/
  | resultAlias (name : String)
  /-- A literal, a computed value or any other fragment. -/
  | derived (sql : String)
  deriving DecidableEq, Repr

/-- Where the value of an expression comes from. -/
inductive Origin where
  | column (table aliasName : String)
  | aggregate
  | resultAlias
  | derived
  deriving DecidableEq, Repr

namespace Expression

/-- One column of a referenced table. -/
def column (ref : TableRef) (name : String) : Expression :=
  .columns ref.table.name ref.aliasName [name]

/-- Every column of a mapping, read from a referenced table. -/
def mapping (ref : TableRef) (mapping : Mapping) : Expression :=
  .columns ref.table.name ref.aliasName mapping.columns

/-- The number of rows. -/
def countAll : Expression :=
  .aggregate "COUNT(*)"

/-- A literal value. -/
def literal (value : Literal) : Expression :=
  .derived value.toSql

/-- The expression as SQL text. -/
def text : Expression → String
  | .columns _ aliasName names =>
      String.intercalate ", " (names.map fun name => aliasName ++ "." ++ name)
  | .aggregate call => call
  | .resultAlias name => name
  | .derived sql => sql

/-- An aggregate function applied to an expression. -/
def aggregateOf (function : String) (argument : Expression) : Expression :=
  .aggregate (function ++ "(" ++ argument.text ++ ")")

/-- Where the value comes from. -/
def origin : Expression → Origin
  | .columns table aliasName _ => .column table aliasName
  | .aggregate _ => .aggregate
  | .resultAlias _ => .resultAlias
  | .derived _ => .derived

/-- The expressions that each stand for one column. An expression that is not
a list of columns is its own only component. -/
def components : Expression → List Expression
  | .columns table aliasName (name :: names) =>
      (name :: names).map fun part => .columns table aliasName [part]
  | expression => [expression]

/-- Number of columns that the expression spans. -/
def arity (expression : Expression) : Nat :=
  expression.components.length

/-- The component at a position. -/
def component? (expression : Expression) (index : Nat) : Option Expression :=
  expression.components[index]?

/-- The text of the expression is blank. -/
def isEmpty (expression : Expression) : Bool :=
  Text.isBlank expression.text

/-- The expression is an aggregate call. -/
def isAggregate : Expression → Bool
  | .aggregate _ => true
  | _ => false

/-- The expression names a result column by its alias. -/
def isResultAlias : Expression → Bool
  | .resultAlias _ => true
  | _ => false

/-- The expression reads columns of a referenced table. -/
def hasSourceTable : Expression → Bool
  | .columns .. => true
  | _ => false

/-- The expression reads a referenced table and is not a list of several
columns. -/
def isSingleColumn : Expression → Bool
  | .columns _ _ names => names.length ≤ 1
  | _ => false

/-- Alias of the table that the expression reads. -/
def sourceAlias? : Expression → Option String
  | .columns _ aliasName _ => some aliasName
  | _ => none

/-- Equality with another expression, column by column. Columns that have no
partner on the other side are left out, so callers compare arities first. -/
def isEqualTo (left right : Expression) : Predicate :=
  Predicate.all <|
    (left.components.zip right.components).map fun pair =>
      .raw (pair.1.text ++ " = " ++ pair.2.text)

/-- Comparison of every column with a literal. -/
def compare (expression : Expression) (operator : String) (value : Literal) :
    Predicate :=
  Predicate.all <|
    expression.components.map fun part =>
      .raw (part.text ++ " " ++ operator ++ " " ++ value.toSql)

/-- Equality of every column with a literal. -/
def equalsLiteral (expression : Expression) (value : Literal) : Predicate :=
  expression.compare "=" value

/-- The null test of the whole expression. -/
def isNull (expression : Expression) : Predicate :=
  .raw (expression.text ++ " IS NULL")

@[simp] theorem components_columns_cons
    (table aliasName name : String)
    (names : List String) :
    (columns table aliasName (name :: names)).components =
      (name :: names).map fun part => columns table aliasName [part] := rfl

@[simp] theorem text_column (ref : TableRef) (name : String) :
    (column ref name).text = ref.aliasName ++ "." ++ name := by
  simp [column, text]

@[simp] theorem mapping_singleton (ref : TableRef) (table name : String) :
    mapping ref { table := table, columns := [name] } = column ref name := rfl

/-- The components of a mapping are its columns. -/
theorem components_mapping
    (ref : TableRef)
    {mapping : Mapping}
    (nonempty : mapping.columns ≠ []) :
    (Expression.mapping ref mapping).components = mapping.columns.map (column ref) := by
  obtain ⟨name, names, columns_eq⟩ := List.exists_cons_of_ne_nil nonempty
  rw [Expression.mapping, columns_eq]
  rfl

/-- An expression is written as the list of its components. -/
theorem text_eq_intercalate (expression : Expression) :
    expression.text = String.intercalate ", " (expression.components.map text) := by
  cases expression with
  | aggregate | resultAlias | derived => simp [components, text]
  | columns table aliasName names =>
      cases names <;> simp [components, text, Function.comp_def]

/-- Every expression has at least one component. -/
theorem components_ne_nil (expression : Expression) :
    expression.components ≠ [] := by
  cases expression with
  | columns table aliasName names => cases names <;> simp [components]
  | aggregate call => simp [components]
  | resultAlias name => simp [components]
  | derived sql => simp [components]

end Expression
end SqlBuilder
