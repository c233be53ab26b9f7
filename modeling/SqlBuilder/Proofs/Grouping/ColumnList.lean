import Mathlib.Data.List.Basic
import Mathlib.Tactic.MkIffOfInductiveProp
import SqlBuilder.Expression

/-!
# Lists of columns

The columns of a list are separated by commas. A comma in a quoted text or between
parentheses separates nothing, so that a call with several arguments is one column. Read in
this way, texts that are joined by commas are the columns of each of them, in order.
-/

namespace SqlBuilder
namespace Text

/-- The characters that open and close a quoted text. -/
def quoteMarks : List Char :=
  "'\"".toList

/-- Where in a text a character stands. -/
structure Place where
  /-- The mark that has opened the quoted text around it. -/
  quote : Option Char := none
  /-- Number of parentheses around it. -/
  depth : Nat := 0
  deriving DecidableEq, Repr

namespace Place

/-- Within neither a quoted text nor parentheses. -/
def outside : Place := {}

/-- The place behind a character. -/
def next (place : Place) (character : Char) : Place :=
  match place.quote with
  | some mark => if character = mark then { place with quote := none } else place
  | none =>
      if character ∈ quoteMarks then { place with quote := some character }
      else if character = '(' then { place with depth := place.depth + 1 }
      else if character = ')' then { place with depth := place.depth - 1 }
      else place

theorem next_outside_comma : outside.next ',' = outside := by decide

theorem next_outside_blank : outside.next ' ' = outside := by decide

end Place

/-- The texts between the commas that separate columns, from a place on. -/
def splitCommas : Place → List Char → List (List Char)
  | _, [] => [[]]
  | place, character :: rest =>
      if place = .outside ∧ character = ',' then [] :: splitCommas .outside rest
      else (splitCommas (place.next character) rest).modifyHead (character :: ·)

/-- The columns of a list, without the blanks in front of them. -/
def columnList (text : String) : List String :=
  (splitCommas .outside text.toList).map fun column =>
    String.ofList (column.dropWhile isBlankChar)

/-- What the text opens it also closes. -/
def IsClosed (text : String) : Prop :=
  text.toList.foldl Place.next .outside = .outside

/-- The text reads as a single column. -/
@[mk_iff]
structure IsColumn (text : String) : Prop where
  closed : IsClosed text
  single : columnList text = [text]

instance (text : String) : Decidable (IsClosed text) :=
  inferInstanceAs (Decidable (_ = _))

instance (text : String) : Decidable (IsColumn text) :=
  decidable_of_iff _ (isColumn_iff text).symm

theorem splitCommas_ne_nil (place : Place) (characters : List Char) :
    splitCommas place characters ≠ [] := by
  induction characters generalizing place with
  | nil => exact List.cons_ne_nil _ _
  | cons character rest inductionHypothesis =>
      rw [splitCommas]
      split
      · exact List.cons_ne_nil _ _
      · rw [Ne, List.modifyHead_eq_nil_iff]
        exact inductionHypothesis _

/-- A comma behind closed text separates what is read before it from what is read
behind it. -/
theorem splitCommas_append_comma
    {place : Place}
    {first : List Char}
    (closes : first.foldl Place.next place = .outside)
    (rest : List Char) :
    splitCommas place (first ++ ',' :: rest) =
      splitCommas place first ++ splitCommas .outside rest := by
  induction first generalizing place with
  | nil =>
      obtain rfl : place = .outside := closes
      rw [List.nil_append, splitCommas]
      rfl
  | cons character first inductionHypothesis =>
      rw [List.foldl_cons] at closes
      rw [List.cons_append, splitCommas, splitCommas]
      -- A comma that separates is read outside, and leaves the reader there.
      by_cases separates : place = .outside ∧ character = ','
      · obtain ⟨rfl, rfl⟩ := separates
        rw [Place.next_outside_comma] at closes
        rw [if_pos ⟨rfl, rfl⟩, if_pos ⟨rfl, rfl⟩, inductionHypothesis closes, List.cons_append]
      · obtain ⟨column, columns, split_eq⟩ :=
          List.exists_cons_of_ne_nil (splitCommas_ne_nil (place.next character) first)
        rw [if_neg separates, if_neg separates, inductionHypothesis closes, split_eq]
        rfl

/-- A blank in front of a list is not read. -/
theorem columnList_append_blank (text : String) : columnList (" " ++ text) = columnList text := by
  obtain ⟨column, columns, split_eq⟩ :=
    List.exists_cons_of_ne_nil (splitCommas_ne_nil .outside text.toList)
  have blank : isBlankChar ' ' = true := by decide
  have toList_eq : (" " ++ text).toList = ' ' :: text.toList := by
    rw [String.toList_append]
    rfl
  have unseparated : ¬ (Place.outside = .outside ∧ ' ' = ',') := by decide
  rw [columnList, columnList, toList_eq, splitCommas, if_neg unseparated,
    Place.next_outside_blank, split_eq, List.modifyHead_cons, List.map_cons, List.map_cons,
    List.dropWhile_cons_of_pos blank]

/-- The columns of a closed text and a list behind it. -/
theorem columnList_append
    {first : String}
    (closed : IsClosed first)
    (rest : String) :
    columnList (first ++ ", " ++ rest) = columnList first ++ columnList rest := by
  have toList_eq : (first ++ ", " ++ rest).toList =
      first.toList ++ ',' :: (" " ++ rest).toList := by
    simp only [String.toList_append, List.append_assoc]
    rfl
  rw [← columnList_append_blank rest, columnList, toList_eq, splitCommas_append_comma closed,
    List.map_append]
  rfl

/-- Closed texts that are joined by commas are read one after the other. -/
theorem columnList_intercalate
    {texts : List String}
    (nonempty : texts ≠ [])
    (closed : ∀ text ∈ texts, IsClosed text) :
    columnList (String.intercalate ", " texts) = texts.flatMap columnList := by
  induction texts with
  | nil => exact absurd rfl nonempty
  | cons first rest inductionHypothesis =>
      rw [List.forall_mem_cons] at closed
      cases rest with
      | nil => simp
      | cons second rest =>
          rw [String.intercalate_cons_cons, columnList_append closed.1,
            inductionHypothesis (List.cons_ne_nil second rest) closed.2]
          rfl

end Text

/-- The columns that the text of an expression is read as. -/
def Expression.columnTexts (expression : Expression) : List String :=
  Text.columnList expression.text

/-- An expression whose components read as single columns is read as these. -/
theorem Expression.columnTexts_eq
    {expression : Expression}
    (single : ∀ part ∈ expression.components, Text.IsColumn part.text) :
    expression.columnTexts = expression.components.map Expression.text := by
  have nonempty : expression.components.map Expression.text ≠ [] :=
    mt List.map_eq_nil_iff.mp expression.components_ne_nil
  have closed : ∀ part ∈ expression.components.map Expression.text, Text.IsClosed part :=
    List.forall_mem_map.mpr fun part member => (single part member).closed
  calc
    expression.columnTexts = (expression.components.map Expression.text).flatMap
        Text.columnList := by
      rw [columnTexts, text_eq_intercalate, Text.columnList_intercalate nonempty closed]
    _ = expression.components.flatMap fun part => [part.text] := by
      rw [List.flatMap_map]
      exact List.flatMap_congr fun part member => (single part member).single
    _ = expression.components.map Expression.text := List.map_eq_flatMap.symm

end SqlBuilder
