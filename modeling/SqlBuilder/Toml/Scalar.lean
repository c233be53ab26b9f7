import SqlBuilder.Toml.Datetime
import SqlBuilder.Toml.Number
import SqlBuilder.Toml.Quoted

/-!
# Bare values: booleans, numbers, dates and times

A bare value is a run of characters without quotes around it. It ends before a
character that has a meaning of its own between values. Blanks belong to it if
more of the value follows them, as between a date and a time, so that the whole
run has to be of one of the forms.
-/

namespace SqlBuilder
namespace Toml
namespace Scalar

/-- A character that has a meaning of its own between values. -/
def isEnd (character : Char) : Bool :=
  ['=', ',', '[', ']', '{', '}', '#', '\n', '\r'].contains character

/-- A bare value that has been followed by blanks goes on with this text. -/
def goesOn : List Char → Bool
  | [] => false
  | character :: _ => !isEnd character && !(['.', '"', '\''].contains character)

/-- The run of a bare value at the start of a text, and what follows it. -/
def splitRun : List Char → List Char × List Char
  | [] => ([], [])
  | character :: rest =>
      if isEnd character ||
          (Quoted.isSpace character && !goesOn (rest.dropWhile Quoted.isSpace)) then
        ([], character :: rest)
      else
        let split := splitRun rest
        (character :: split.1, split.2)

/-- The value of a run of characters. -/
def value? (text : List Char) : Option Value :=
  if text = ['t', 'r', 'u', 'e'] then some (.boolean true)
  else if text = ['f', 'a', 'l', 's', 'e'] then some (.boolean false)
  else if Datetime.isDatetime text then some (.datetime (String.ofList text))
  else
    match Number.integer? text with
    | some value => some value
    | none => (Number.float? text).map .float

/-- A bare value at the start of a text, and what follows it. -/
def read (text : List Char) : Except Problem (Value × List Char) :=
  let split := splitRun text
  match value? split.1 with
  | some value => .ok (value, split.2)
  | none => .error (.malformed "a value")

end Scalar
end Toml
end SqlBuilder
