/-!
# What can be wrong with a TOML document

The causes for which a document is refused: by the grammar, by the rules for
defining keys, or by the shape that a reader of settings asks for.
-/

namespace SqlBuilder
namespace Toml

/-- A cause for refusing a document. -/
inductive Problem where
  /-- The text is not of the expected form. -/
  | malformed (expected : String)
  /-- A key or table is defined a second time. -/
  | duplicateKey (key : String)
  /-- A key path runs through a value that cannot be extended. -/
  | notExtendable (key : String)
  /-- Values are nested too deeply, or a key has too many parts. -/
  | tooDeep
  /-- A number does not fit its type. -/
  | numberOverflow
  /-- A value has another type than the setting. -/
  | wrongType (expected : String)
  /-- A text is not among the choices of the setting. -/
  | unknownChoice (text : String)
  /-- An array holds more elements than the setting has parts. -/
  | tooManyElements
  deriving DecidableEq, Repr

/-- The problem in words. -/
def Problem.message : Problem → String
  | .malformed expected => "malformed document, expected " ++ expected
  | .duplicateKey key => "duplicate key: " ++ key
  | .notExtendable key => "cannot extend the value of key: " ++ key
  | .tooDeep => "values are nested too deeply, or a key has too many parts"
  | .numberOverflow => "number out of range"
  | .wrongType expected => "wrong type, expected " ++ expected
  | .unknownChoice text => "unknown choice: " ++ text
  | .tooManyElements => "too many elements"

end Toml
end SqlBuilder
