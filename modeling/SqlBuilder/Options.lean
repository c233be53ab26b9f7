/-!
# Statement options
-/

namespace SqlBuilder

/-- The key of the naming strategy that is used unless another is asked for. -/
def defaultNamingStrategy : String := "alpha-scheme"

/-- Options of one statement. -/
structure StatementOptions where
  /-- Key of the naming strategy for aliases. -/
  namingStrategy : String := defaultNamingStrategy
  /-- Lock the selected rows. -/
  lockForUpdate : Bool := false
  /-- Fail rather than wait for rows that are locked already. -/
  nowait : Bool := false
  deriving DecidableEq, Repr

end SqlBuilder
