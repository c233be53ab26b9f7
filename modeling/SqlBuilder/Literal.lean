/-!
# Literals

Values written into SQL text. A text literal stands between single quotes, and
a single quote inside it is written twice.
-/

namespace SqlBuilder

/-- A literal value. -/
inductive Literal where
  | null
  | boolean (value : Bool)
  | integer (value : Int)
  | text (value : String)
  deriving DecidableEq, Repr

namespace Literal

/-- Write every single quote twice. -/
def doubleQuotes : List Char → List Char
  | [] => []
  | '\'' :: rest => '\'' :: '\'' :: doubleQuotes rest
  | character :: rest => character :: doubleQuotes rest

/-- The literal as SQL text. -/
def toSql : Literal → String
  | .null => "NULL"
  | .boolean true => "TRUE"
  | .boolean false => "FALSE"
  | .integer value => toString value
  | .text value =>
      String.ofList ('\'' :: doubleQuotes value.toList ++ ['\''])

end Literal
end SqlBuilder
