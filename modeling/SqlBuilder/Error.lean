import SqlBuilder.FileTree
import SqlBuilder.Toml.Problem

/-!
# Errors

Every error names its cause, and one function per type of cause gives the
wording. An error ends the operation that meets it. What a dialect merely
cannot express, such as a row lock beside an aggregate, is no error but an
event.
-/

namespace SqlBuilder

/-- An argument that must not be empty. -/
inductive Argument where
  | expression
  | mapping
  | column
  | joinKeyMapping
  | orderingExpression
  | updateAssignment
  deriving DecidableEq, Repr

/-- The argument in words. -/
def Argument.text : Argument → String
  | .expression => "expression"
  | .mapping => "mapping"
  | .column => "column"
  | .joinKeyMapping => "join key mapping"
  | .orderingExpression => "ordering expression"
  | .updateAssignment => "update assignment"

/-- A construct that a dialect may lack. -/
inductive Feature where
  | union
  | rightOuterJoin (table : String)
  deriving DecidableEq, Repr

/-- The construct in words. -/
def Feature.text : Feature → String
  | .union => "UNION"
  | .rightOuterJoin table => "RIGHT OUTER JOIN to " ++ table

/-- Why settings could not be loaded. -/
inductive ConfigError where
  | unknownPreset (name : String)
  | unreadable (path : String) (failure : ReadFailure)
  | document (problem : Toml.Problem)
  | inFile (path : String) (cause : ConfigError)
  deriving DecidableEq, Repr

/-- The cause in words. -/
def ConfigError.message : ConfigError → String
  | .unknownPreset name => "unknown dialect preset '" ++ name ++ "'"
  | .unreadable path failure =>
      "failed to read config file " ++ path ++ ": " ++ failure.text
  | .document problem => problem.message
  | .inFile path cause =>
      "failed to parse config file " ++ path ++ ": Config error: " ++ cause.message

/-- A join that could not be placed: the alias it starts from, if any, and the
alias it leads to. -/
structure UnplacedJoin where
  source : Option String
  target : String
  deriving DecidableEq, Repr

/-- The join as an arrow. A join without a source shows a question mark. -/
def UnplacedJoin.text (unplaced : UnplacedJoin) : String :=
  unplaced.source.getD "?" ++ " -> " ++ unplaced.target

/-- An error met while a statement is built, changed or rendered. -/
inductive StatementError where
  /-- An expression, mapping or column was empty. -/
  | missingArgument (argument : Argument)
  /-- A mapping belongs to another table than the one given with it. -/
  | tableMismatch (given owner : String)
  /-- The keys of a join have different numbers of columns. -/
  | joinArityMismatch (source target : Nat)
  /-- No table is registered under the alias. -/
  | unknownAlias (aliasName : String)
  /-- The alias belongs to another table already. -/
  | duplicateAlias (aliasName table : String)
  /-- The parallel lists of an ordering differ in length. -/
  | orderingLengthMismatch (expressions directions nulls : Nat)
  /-- The dialect lacks a construct. -/
  | unsupported (feature : Feature) (dialect : String)
  /-- Some joins wait for each other. -/
  | circularJoins (unplaced : List UnplacedJoin)
  /-- No naming strategy is published under the key. -/
  | unknownNamingStrategy (key : String)
  /-- Settings could not be loaded. -/
  | config (cause : ConfigError)
  deriving DecidableEq, Repr

/-- The error in words. -/
def StatementError.message : StatementError → String
  | .missingArgument argument => "Missing argument: " ++ argument.text
  | .tableMismatch given owner =>
      "Table mismatch: '" ++ given ++ "' was given but the mapping belongs to '" ++
        owner ++ "'"
  | .joinArityMismatch source target =>
      "Join key arity mismatch: source has " ++ toString source ++
        " columns, target has " ++ toString target
  | .unknownAlias aliasName => "Unknown table alias: " ++ aliasName
  | .duplicateAlias aliasName table =>
      "Alias '" ++ aliasName ++ "' is already bound to table '" ++ table ++ "'"
  | .orderingLengthMismatch expressions directions nulls =>
      "Ordering length mismatch: " ++ toString expressions ++ " expressions, " ++
        toString directions ++ " directions, " ++ toString nulls ++ " null directives"
  | .unsupported feature dialect =>
      "Unsupported by dialect: " ++ feature.text ++ " (" ++ dialect ++ ")"
  | .circularJoins unplaced =>
      "Circular joins cannot be ordered: " ++
        String.intercalate ", " (unplaced.map UnplacedJoin.text)
  | .unknownNamingStrategy key => "Unknown naming strategy: " ++ key
  | .config cause => "Config error: " ++ cause.message

end SqlBuilder
