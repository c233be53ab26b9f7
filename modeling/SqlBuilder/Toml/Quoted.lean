import SqlBuilder.Toml.Problem

/-!
# Quoted text

Text between double quotes may hold escapes; text between single quotes holds
none. Either kind may span lines between three quotes. Control characters are
refused, apart from the tab, and from line ends where lines may be spanned.
Each reader starts behind the opening quotes and answers with the text and with
what follows the closing quotes.
-/

namespace SqlBuilder
namespace Toml
namespace Quoted

/-- A character that may stand for itself within one line. -/
def isPlain (character : Char) : Bool :=
  character == '\t' || (0x20 ≤ character.toNat && character.toNat != 0x7F)

/-- The value of a hexadecimal digit. -/
def hexValue? (character : Char) : Option Nat :=
  if character.isDigit then some (character.toNat - 48)
  else if 'a' ≤ character && character ≤ 'f' then some (character.toNat - 87)
  else if 'A' ≤ character && character ≤ 'F' then some (character.toNat - 55)
  else none

/-- The number that hexadecimal digits stand for. -/
def hexNumber? (digits : List Char) : Option Nat :=
  digits.foldl
    (fun total digit => do return (← total) * 16 + (← hexValue? digit))
    (some 0)

/-- The character with a code point. A surrogate is no character. -/
def scalar? (code : Nat) : Option Char :=
  if code < 0xD800 || (0xDFFF < code && code < 0x110000) then some (Char.ofNat code)
  else none

/-- The character that hexadecimal digits stand for. -/
def hexChar? (digits : List Char) : Option Char :=
  (hexNumber? digits).bind scalar?

/-- The character that a letter behind a backslash stands for. -/
def simpleEscape? : Char → Option Char
  | 'b' => some '\x08'
  | 't' => some '\t'
  | 'n' => some '\n'
  | 'f' => some '\x0c'
  | 'r' => some '\r'
  | 'e' => some '\x1b'
  | '"' => some '"'
  | '\\' => some '\\'
  | _ => none

/-- An escape behind its backslash: how many characters it has, and the
character it stands for. -/
def escape? : List Char → Option (Nat × Char)
  | 'x' :: rest => (hexChar? (rest.take 2)).bind fun character =>
      if 2 ≤ rest.length then some (3, character) else none
  | 'u' :: rest => (hexChar? (rest.take 4)).bind fun character =>
      if 4 ≤ rest.length then some (5, character) else none
  | 'U' :: rest => (hexChar? (rest.take 8)).bind fun character =>
      if 8 ≤ rest.length then some (9, character) else none
  | letter :: _ => (simpleEscape? letter).map fun character => (1, character)
  | [] => none

/-- A text read so far, in reverse, put into order. -/
def finish (collected : List Char) : String :=
  String.ofList collected.reverse

/-- Text between single quotes within one line. -/
def literal (collected : List Char) : List Char → Except Problem (String × List Char)
  | [] => .error (.malformed "a closing quote")
  | '\'' :: rest => .ok (finish collected, rest)
  | character :: rest =>
      if isPlain character then literal (character :: collected) rest
      else .error (.malformed "a printable character")

/-- Text between double quotes within one line. The count tells how many
characters belong to an escape that has been read already. -/
def basic (collected : List Char) : Nat → List Char → Except Problem (String × List Char)
  | _, [] => .error (.malformed "a closing quote")
  | skip + 1, _ :: rest => basic collected skip rest
  | 0, '"' :: rest => .ok (finish collected, rest)
  | 0, '\\' :: rest =>
      match escape? rest with
      | some (size, character) => basic (character :: collected) size rest
      | none => .error (.malformed "an escape")
  | 0, character :: rest =>
      if isPlain character then basic (character :: collected) 0 rest
      else .error (.malformed "a printable character")

/-- The quotes that end a text over several lines. Up to two further quotes
belong to the text. -/
def closing? (quote : Char) (text : List Char) : Option (Nat × List Char) :=
  let quotes := (text.takeWhile (· == quote)).length
  if 3 ≤ quotes then
    let extra := min (quotes - 3) 2
    some (extra, text.drop (extra + 3))
  else
    none

/-- Leave out the line end right behind the opening quotes. -/
def withoutFirstLineEnd : List Char → List Char
  | '\n' :: rest => rest
  | '\r' :: '\n' :: rest => rest
  | text => text

/-- A character may stand for itself in a text over several lines. A carriage
return has to be followed by a line feed. -/
def isPlainInLines (character : Char) (rest : List Char) : Bool :=
  isPlain character || character == '\n' ||
    (character == '\r' && rest.head? == some '\n')

/-- Text between three single quotes. -/
def literalLines (collected : List Char) :
    List Char → Except Problem (String × List Char)
  | [] => .error (.malformed "closing quotes")
  | character :: rest =>
      match closing? '\'' (character :: rest) with
      | some (extra, after) => .ok (finish (List.replicate extra '\'' ++ collected), after)
      | none =>
          if isPlainInLines character rest then literalLines (character :: collected) rest
          else .error (.malformed "a printable character")

/-- A blank of one line. -/
def isSpace (character : Char) : Bool :=
  character == ' ' || character == '\t'

/-- Number of characters of the blanks and line ends at the start of a text. -/
def blankLength : List Char → Nat
  | '\r' :: '\n' :: rest => blankLength rest + 2
  | '\n' :: rest => blankLength rest + 1
  | character :: rest => if isSpace character then blankLength rest + 1 else 0
  | [] => 0

/-- The characters behind a backslash that ends its line: blanks up to the line
end, and the blanks and line ends after that. -/
def lineContinuation? (text : List Char) : Option Nat :=
  match text.dropWhile isSpace with
  | '\n' :: _ => some (blankLength text)
  | '\r' :: '\n' :: _ => some (blankLength text)
  | _ => none

/-- Text between three double quotes. The count tells how many characters belong
to an escape that has been read already. -/
def basicLines (collected : List Char) :
    Nat → List Char → Except Problem (String × List Char)
  | _, [] => .error (.malformed "closing quotes")
  | skip + 1, _ :: rest => basicLines collected skip rest
  | 0, '\\' :: rest =>
      match lineContinuation? rest with
      | some size => basicLines collected size rest
      | none =>
          match escape? rest with
          | some (size, character) => basicLines (character :: collected) size rest
          | none => .error (.malformed "an escape")
  | 0, character :: rest =>
      match closing? '"' (character :: rest) with
      | some (extra, after) => .ok (finish (List.replicate extra '"' ++ collected), after)
      | none =>
          if isPlainInLines character rest then basicLines (character :: collected) 0 rest
          else .error (.malformed "a printable character")

/-- Quoted text within one line at the start of a text, if there is any. -/
def readLine? : List Char → Option (Except Problem (String × List Char))
  | '"' :: rest => some (basic [] 0 rest)
  | '\'' :: rest => some (literal [] rest)
  | _ => none

/-- Quoted text at the start of a text, if there is any. -/
def read? : List Char → Option (Except Problem (String × List Char))
  | '"' :: '"' :: '"' :: rest => some (basicLines [] 0 (withoutFirstLineEnd rest))
  | '\'' :: '\'' :: '\'' :: rest => some (literalLines [] (withoutFirstLineEnd rest))
  | text => readLine? text

end Quoted
end Toml
end SqlBuilder
