import SqlBuilder.Toml.Problem

/-!
# Values of a TOML document
-/

namespace SqlBuilder
namespace Toml

/-- A floating-point number as it is written. A finite one is a whole number
times a power of ten. -/
inductive FloatValue where
  | finite (negative : Bool) (digits : Nat) (exponent : Int)
  | infinite (negative : Bool)
  | notANumber
  deriving DecidableEq, Repr

namespace FloatValue

/-- The least magnitude that rounds to infinity in binary64: half a unit in the
last place above the largest finite number. -/
def overflowBound : Nat :=
  Nat.pow 2 1024 - Nat.pow 2 970

/-- A finite number too large for binary64. Its decimal magnitude settles all
but the borderline cases, so no large power is computed in vain. -/
def overflows : FloatValue → Bool
  | .finite _ digits exponent =>
      let magnitude := ((toString digits).length : Int) + exponent
      if digits = 0 || magnitude < 308 then false
      else if 310 < magnitude then true
      else overflowBound * Nat.pow 10 (-exponent).toNat ≤ digits * Nat.pow 10 exponent.toNat
  | _ => false

end FloatValue

/-- A value. -/
inductive Value where
  | string (text : String)
  /-- A whole number. It has no value if its digits are missing or are no digits
  of its base; such a number may stand only where nothing reads it. -/
  | integer (value : Option Int)
  | float (value : FloatValue)
  | boolean (value : Bool)
  | datetime (text : String)
  | array (elements : List Value)
  | table (entries : List (String × Value))

end Toml
end SqlBuilder
