import SqlBuilder.Toml.Number

/-!
# Dates and times

A date, a time of day, or a date with a time and, perhaps, its distance from
universal time. Dates have to exist in the calendar. Seconds may be left out,
and they count up to 60, which is a leap second.
-/

namespace SqlBuilder
namespace Toml
namespace Datetime

/-- Exactly two digits, within bounds. -/
def twoDigits? (least most : Nat) (first second : Char) : Option Nat :=
  match Number.digitValue? 10 first, Number.digitValue? 10 second with
  | some tens, some ones =>
      let value := tens * 10 + ones
      if least ≤ value && value ≤ most then some value else none
  | _, _ => none

/-- Number of days of a month. -/
def daysOfMonth (year month : Nat) : Nat :=
  if month = 2 then
    if year % 4 = 0 && (year % 100 != 0 || year % 400 = 0) then 29 else 28
  else if [4, 6, 9, 11].contains month then 30
  else 31

/-- A calendar date at the start of a text, and what follows it. -/
def afterDate? : List Char → Option (List Char)
  | y1 :: y2 :: y3 :: y4 :: '-' :: m1 :: m2 :: '-' :: d1 :: d2 :: rest => do
      let century ← twoDigits? 0 99 y1 y2
      let yearOfCentury ← twoDigits? 0 99 y3 y4
      let month ← twoDigits? 1 12 m1 m2
      let _ ← twoDigits? 1 (daysOfMonth (century * 100 + yearOfCentury) month) d1 d2
      return rest
  | _ => none

/-- The fraction of a second, when there is one: a point and digits. -/
def afterFraction? : List Char → Option (List Char)
  | '.' :: rest =>
      if (rest.takeWhile Char.isDigit).isEmpty then none
      else some (rest.dropWhile Char.isDigit)
  | rest => some rest

/-- A time of day at the start of a text, and what follows it. Seconds may be
left out. -/
def afterTime? : List Char → Option (List Char)
  | h1 :: h2 :: ':' :: m1 :: m2 :: rest => do
      let _ ← twoDigits? 0 23 h1 h2
      let _ ← twoDigits? 0 59 m1 m2
      match rest with
      | ':' :: s1 :: s2 :: fraction =>
          let _ ← twoDigits? 0 60 s1 s2
          afterFraction? fraction
      | _ => some rest
  | _ => none

/-- A distance from universal time, or nothing. -/
def isOffset : List Char → Bool
  | [] => true
  | ['Z'] => true
  | ['z'] => true
  | [mark, h1, h2, ':', m1, m2] =>
      (mark == '+' || mark == '-') &&
        (twoDigits? 0 23 h1 h2).isSome && (twoDigits? 0 59 m1 m2).isSome
  | _ => false

/-- The character between a date and a time. -/
def isMark (character : Char) : Bool :=
  character == 'T' || character == 't' || character == ' '

/-- A date, a time of day, or both together with a distance from universal
time. -/
def isDatetime (text : List Char) : Bool :=
  match afterDate? text with
  | some [] => true
  | some (mark :: rest) => isMark mark && ((afterTime? rest).any isOffset)
  | none => (afterTime? text).any (·.isEmpty)

end Datetime
end Toml
end SqlBuilder
