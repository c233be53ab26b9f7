import SqlBuilder.Text.Qualified

/-!
# Select lists

A select list grows only at its end and holds every SQL text at most once.
Adding a text that is there already leaves the list as it is, whatever alias
comes with it. Positions count from one.

An entry may be looked up by its text and alias first, and by its text alone if
that finds nothing. Since no text occurs twice, the second look-up finds whatever
the first does, so that only the second is made here. The look-up in two stages
is `SelectList.findPosition?`, with `QueryBlock.place` to select through it, in
`SqlBuilder.Proofs.Bounds.Access`; `SelectList.Distinct.findPosition?_eq` and
`QueryBlock.place_eq` say that it comes to the same.
-/

namespace SqlBuilder

/-- An entry of a select list. -/
structure SelectedItem where
  sql : String
  aliasName : Option String
  /-- The entry is a column of a table rather than a computed value. -/
  isPrimary : Bool
  deriving DecidableEq, Repr

/-- The name of an entry for a query around it: its alias, or else its text
without a table qualifier. -/
def SelectedItem.outerName (item : SelectedItem) : String :=
  item.aliasName.getD (Text.withoutQualifier item.sql)

/-- The entries of a SELECT clause, in order. -/
abbrev SelectList := List SelectedItem

namespace SelectList

/-- The entry with a SQL text. -/
def find? (list : SelectList) (sql : String) : Option SelectedItem :=
  List.find? (fun item => item.sql == sql) list

/-- A SQL text is selected. -/
def hasSql (list : SelectList) (sql : String) : Bool :=
  list.any fun item => item.sql == sql

/-- Position of the entry with a SQL text, counted from one. Where the text is
not selected this is the position behind the end. -/
def position (list : SelectList) (sql : String) : Nat :=
  list.findIdx (fun item => item.sql == sql) + 1

/-- The list with one more entry, unless its text is selected already, be it
with this alias or another. -/
def add (list : SelectList) (item : SelectedItem) : SelectList :=
  if list.hasSql item.sql then list else list ++ [item]

@[simp] theorem add_of_hasSql
    {list : SelectList}
    {item : SelectedItem}
    (present : list.hasSql item.sql = true) :
    list.add item = list := by
  simp [add, present]

/-- After an addition the text is selected. -/
@[simp] theorem hasSql_add_self (list : SelectList) (item : SelectedItem) :
    (list.add item).hasSql item.sql = true := by
  cases present : list.hasSql item.sql with
  | true => simp [present]
  | false =>
      simp only [add, present, Bool.false_eq_true, ↓reduceIte]
      simp [hasSql]

end SelectList
end SqlBuilder
