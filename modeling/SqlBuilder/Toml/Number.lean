import SqlBuilder.Toml.Value

/-!
# Numbers

A run of characters is recognised as a number before it is read as one.
Recognising looks at the sign, the mark of a base, the first digits, and at
whether every underscore separates two digits. A fraction or an exponent is
looked at in full. A whole number may therefore be recognised and still have no
value, because nothing follows the mark of its base, or because other characters
stand among the digits of a later group.
-/

namespace SqlBuilder
namespace Toml
namespace Number

/-- The value of a digit in a base of at most sixteen. -/
def digitValue? (base : Nat) (character : Char) : Option Nat :=
  let value :=
    if character.isDigit then character.toNat - '0'.toNat
    else if 'a' ≤ character && character ≤ 'f' then character.toNat - 'a'.toNat + 10
    else if 'A' ≤ character && character ≤ 'F' then character.toNat - 'A'.toNat + 10
    else base
  if value < base then some value else none

/-- A digit of some base. -/
def isAnyDigit (character : Char) : Bool :=
  (digitValue? 16 character).isSome

/-- Digits after the first one, with what they amount to together with the
digits before. -/
def moreDigits? (base total : Nat) : List Char → Option Nat
  | [] => some total
  | '_' :: digit :: rest =>
      match digitValue? base digit with
      | some value => moreDigits? base (total * base + value) rest
      | none => none
  | digit :: rest =>
      match digitValue? base digit with
      | some value => moreDigits? base (total * base + value) rest
      | none => none

/-- At least one digit, in groups set apart by single underscores. -/
def digits? (base : Nat) : List Char → Option Nat
  | [] => none
  | digit :: rest => (digitValue? base digit).bind fun value => moreDigits? base value rest

/-- Number of digits in a run, underscores left out. -/
def digitCount (text : List Char) : Nat :=
  (text.filter (· != '_')).length

/-- A sign: true for a minus. -/
def sign : List Char → Option Bool × List Char
  | '-' :: rest => (some true, rest)
  | '+' :: rest => (some false, rest)
  | text => (none, text)

/-- A whole number of a sign and a magnitude. -/
def withSign (sign : Option Bool) (magnitude : Nat) : Int :=
  if sign = some true then -(Int.ofNat magnitude) else Int.ofNat magnitude

/-- Every underscore stands between two digits, the character before the text
being known. -/
def underscoresSeparate (before : Char) : List Char → Bool
  | [] => true
  | ['_'] => false
  | '_' :: next :: rest =>
      isAnyDigit before && isAnyDigit next && underscoresSeparate next rest
  | character :: rest => underscoresSeparate character rest

/-- A character that a whole number does not contain, whatever its groups hold. -/
def breaksWhole (character : Char) : Bool :=
  [' ', '.', 'e', 'E'].contains character

/-- The first digits of a number in decimal. There is no leading zero unless the
number is zero itself. -/
def startsDecimal : List Char → Bool
  | [] => false
  | ['0'] => true
  | first :: _ => first.isDigit && first != '0'

/-- A whole number in decimal. What stands within a group of digits behind the
first one is looked at only for its value. -/
def decimal? (text : List Char) : Option Value :=
  let signed := sign text
  let groups := signed.2.dropWhile Char.isDigit
  if startsDecimal signed.2 && (groups.isEmpty || groups.head? == some '_') &&
      !groups.any breaksWhole && underscoresSeparate '0' signed.2 then
    let magnitude := digits? 10 (signed.2.filter (· != '_'))
    some (.integer (magnitude.map (withSign signed.1)))
  else
    none

/-- A whole number behind the mark of its base. It may lack its digits. -/
def based? (base : Nat) : List Char → Option Value
  | [] => some (.integer none)
  | text => (digits? base text).map fun magnitude => .integer (some (Int.ofNat magnitude))

/-- A whole number, decimal or with a marked base. -/
def integer? : List Char → Option Value
  | '0' :: 'x' :: rest => based? 16 rest
  | '0' :: 'o' :: rest => based? 8 rest
  | '0' :: 'b' :: rest => based? 2 rest
  | text => decimal? text

/-- The digits of a number before its fraction. -/
def wholePart? (text : List Char) : Option Nat :=
  if startsDecimal text then digits? 10 text else none

/-- A number with a fraction, an exponent or both, or one of the special
numbers. -/
def float? (text : List Char) : Option FloatValue :=
  let signed := sign text
  let negative := signed.1 = some true
  let isMark := fun character : Char => character == 'e' || character == 'E'
  let mantissa := signed.2.takeWhile fun character => !isMark character
  let exponentPart := signed.2.dropWhile fun character => !isMark character
  let whole := mantissa.takeWhile (· != '.')
  let fractionPart := mantissa.dropWhile (· != '.')
  if signed.2 = ['i', 'n', 'f'] then some (.infinite negative)
  else if signed.2 = ['n', 'a', 'n'] then some .notANumber
  else if fractionPart.isEmpty && exponentPart.isEmpty then none
  else do
    let wholeValue ← wholePart? whole
    let fraction ←
      match fractionPart with
      | [] => some (0, 0)
      | _ :: rest => (digits? 10 rest).map fun value => (value, digitCount rest)
    let exponent ←
      match exponentPart with
      | [] => some (0 : Int)
      | _ :: rest =>
          let signedExponent := sign rest
          (digits? 10 signedExponent.2).map (withSign signedExponent.1)
    return .finite negative (wholeValue * Nat.pow 10 fraction.2 + fraction.1)
      (exponent - Int.ofNat fraction.2)

end Number
end Toml
end SqlBuilder
