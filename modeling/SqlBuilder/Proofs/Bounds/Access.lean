import Mathlib.Data.List.TakeWhile
import Mathlib.Data.Nat.PSub
import SqlBuilder.Proofs.Ordering.Position

/-!
# Checked accesses

The four accesses that rendering relies on, each with a check in front: an entry of a
select list by its position, the number of a column without an alias, which is one less
than a counter, and a cut behind the first dot of a text, at an offset in bytes. Where a
check fails there is no result. On the lists and texts that they are made for none of them
fails, and each comes to what it stands for.
-/

namespace SqlBuilder

/-! ## Cuts behind a dot -/

namespace Text

/-- Offset of the first dot, in bytes. -/
def dotOffset? : List Char → Option Nat
  | [] => none
  | character :: rest =>
      if character = '.' then some 0 else (dotOffset? rest).map (character.utf8Size + ·)

/-- What stands behind an offset in bytes. An offset within a character or behind the end
cuts nothing. -/
def cutAt? : Nat → List Char → Option (List Char)
  | 0, characters => some characters
  | _ + 1, [] => none
  | offset + 1, character :: rest =>
      if character.utf8Size ≤ offset + 1 then cutAt? (offset + 1 - character.utf8Size) rest
      else none

/-- The text behind the first dot, unless that dot comes first. -/
def withoutQualifier? (text : String) : Option String :=
  match dotOffset? text.toList with
  | some offset =>
      if 0 < offset then (cutAt? (offset + 1) text.toList).map String.ofList else some text
  | none => some text

end Text

/-- The name of an entry for a query around it, with the cut checked. -/
def SelectedItem.outerName? (item : SelectedItem) : Option String :=
  match item.aliasName with
  | some aliasName => some aliasName
  | none => Text.withoutQualifier? item.sql

/-- The queries around a query, with every cut checked. -/
def Pagination.wrapper? (range : Range) (selected : SelectList) : Pagination → Option Wrapper
  | .inline _ =>
      (selected.mapM SelectedItem.outerName?).map fun names =>
        .numberColumn names (.ofNumberColumn range)
  | pagination => some (pagination.wrapper range selected)

namespace SelectList

/-! ## Numbers of columns -/

/-- The columns of a select list, those without an alias getting numbered ones. A counter
is raised for each of these, and the number is one less than the counter says then. -/
def namedColumns? : Nat → SelectList → Option (List OutputColumn)
  | _, [] => some []
  | counter, item :: rest =>
      match item.aliasName with
      | some name =>
          (namedColumns? counter rest).map fun columns =>
            { sql := item.sql, aliasName := some name } :: columns
      | none => do
          let number ← (counter + 1).ppred
          let columns ← namedColumns? (counter + 1) rest
          return { sql := item.sql, aliasName := some ("DN_" ++ toString number) } :: columns

/-- The entry at a position, which counts from one. -/
def entryAt? (list : SelectList) (position : Nat) : Option SelectedItem := do
  let index ← position.ppred
  list[index]?

/-- The position at which an entry is found: that of an entry with the same text and alias,
or else of one with the same text. -/
def findPosition? (list : SelectList) (item : SelectedItem) : Option Nat :=
  match list.findIdx? fun entry => entry.sql == item.sql && entry.aliasName == item.aliasName with
  | some index => some (index + 1)
  | none => (list.findIdx? fun entry => entry.sql == item.sql).map (· + 1)

/-- The positions of entries start at one and end with the list. -/
theorem entryAt?_eq_some_iff
    {list : SelectList}
    {position : Nat}
    {entry : SelectedItem} :
    list.entryAt? position = some entry ↔
      ∃ before after, list = before ++ entry :: after ∧ position = before.length + 1 := by
  constructor
  · intro found
    cases position with
    | zero => cases found
    | succ index =>
        rw [entryAt?, Nat.ppred_succ, Option.bind_eq_bind, Option.bind_some] at found
        obtain ⟨bound, rfl⟩ := List.getElem?_eq_some_iff.mp found
        refine ⟨list.take index, list.drop (index + 1), ?_, ?_⟩
        · rw [List.getElem_cons_drop, List.take_append_drop]
        · rw [List.length_take_of_le (Nat.le_of_lt bound)]
  · rintro ⟨before, after, rfl, rfl⟩
    rw [entryAt?, Nat.ppred_succ]
    simp

/-- An entry that is selected is found at its position. -/
theorem entryAt?_position
    {list : SelectList}
    {sql : String}
    (present : list.hasSql sql = true) :
    ∃ entry, list.entryAt? (list.position sql) = some entry ∧ list.find? sql = some entry := by
  obtain ⟨before, entry, after, list_eq, isIt, isFirst, position_eq⟩ := standsAt_position present
  refine ⟨entry, entryAt?_eq_some_iff.mpr ⟨before, after, list_eq, position_eq⟩, ?_⟩
  have notBefore : ∀ other ∈ before, ¬ (other.sql == sql) = true :=
    fun other member => mt beq_iff_eq.mp (isFirst other member)
  rw [find?, list_eq, List.find?_append, List.find?_eq_none.mpr notBefore, Option.none_or]
  exact List.find?_cons_of_pos (beq_iff_eq.mpr isIt)

/-- What is found in a list is found in every list that starts with it, at the same
position. -/
theorem position_eq_and_find?_eq_of_isPrefix
    {list longer : SelectList}
    (grown : list <+: longer)
    {sql : String}
    (present : list.hasSql sql = true) :
    longer.position sql = list.position sql ∧ longer.find? sql = list.find? sql := by
  obtain ⟨added, rfl⟩ := grown
  obtain ⟨entry, member, isIt⟩ := List.any_eq_true.mp present
  constructor
  · have bound : List.findIdx (fun entry => entry.sql == sql) list < list.length :=
      List.findIdx_lt_length_of_exists ⟨entry, member, isIt⟩
    rw [position, position, List.findIdx_append, if_pos bound]
  · rw [find?, List.find?_append, ← find?, Option.or_of_isSome]
    rw [isSome_find?, present]

/-- Whichever way an entry is found, it is found at the position of its text. -/
theorem Distinct.findPosition?_eq
    {list : SelectList}
    (distinct : list.Distinct)
    (item : SelectedItem) :
    list.findPosition? item =
      if list.hasSql item.sql then some (list.position item.sql) else none := by
  have isPosition : ∀ (check : SelectedItem → Bool) index, list.findIdx? check = some index →
      (∀ entry, check entry = true → entry.sql = item.sql) →
      list.hasSql item.sql = true ∧ list.position item.sql = index + 1 := by
    intro check index found checks
    obtain ⟨bound, checked, _⟩ := List.findIdx?_eq_some_iff_getElem.mp found
    have isIt := checks _ checked
    have present : list.hasSql item.sql = true :=
      List.any_eq_true.mpr ⟨_, List.getElem_mem bound, beq_iff_eq.mpr isIt⟩
    exact ⟨present,
      (distinct.position_eq_iff (List.getElem?_eq_getElem bound) present).mpr isIt⟩
  rw [findPosition?]
  split
  · rename_i index found
    obtain ⟨present, position_eq⟩ := isPosition _ index found fun entry checked =>
      beq_iff_eq.mp (Bool.and_eq_true_iff.mp checked).1
    rw [if_pos present, position_eq]
  · cases found : list.findIdx? fun entry => entry.sql == item.sql with
    | some index =>
        obtain ⟨present, position_eq⟩ := isPosition _ index found fun _ => beq_iff_eq.mp
        rw [if_pos present, position_eq]
        rfl
    | none =>
        have absent : ¬ list.hasSql item.sql = true := by
          rw [hasSql, List.any_eq_true]
          rintro ⟨entry, member, isIt⟩
          rw [List.findIdx?_eq_none_iff.mp found entry member] at isIt
          cases isIt
        rw [if_neg absent]
        rfl

end SelectList

namespace QueryBlock

/-- Select an entry, and answer with its position: the one at which it is found, or else
the last. -/
def place (block : QueryBlock) (item : SelectedItem) : QueryBlock × Nat :=
  match block.selected.findPosition? item with
  | some position => (block, position)
  | none =>
      let selected := block.selected ++ [item]
      ({ block with selected := selected, cache := none }, selected.length)

/-- A selection through the look-up in two stages is the addition of an entry. -/
theorem place_eq
    {block : QueryBlock}
    (distinct : block.selected.Distinct)
    (item : SelectedItem) :
    block.place item =
      (block.addItem item, (block.addItem item).selected.position item.sql) := by
  rw [place, distinct.findPosition?_eq]
  cases known : block.selected.hasSql item.sql with
  | true => simp [addItem, known]
  | false =>
      have add_eq : block.selected.add item = block.selected ++ [item] := by
        simp [SelectList.add, known]
      have atEnd : (block.selected.add item)[block.selected.length]? = some item := by
        rw [add_eq, List.getElem?_concat_length]
      have position_eq := ((distinct.add item).position_eq_iff atEnd
        (SelectList.hasSql_add_self _ _)).mpr rfl
      rw [add_eq] at position_eq
      simp [addItem, known, add_eq, position_eq]

/-- Select an entry, and look it up at the position that this answers with. -/
def put? (block : QueryBlock) (item : SelectedItem) :
    Option (QueryBlock × Nat × SelectedItem) := do
  let (grown, position) := block.place item
  let entry ← grown.selected.entryAt? position
  return (grown, position, entry)

/-- The position that a selection answers with is that of the text, within the list. -/
theorem exists_put?_eq
    {block : QueryBlock}
    (distinct : block.selected.Distinct)
    (item : SelectedItem) :
    ∃ entry, block.put? item =
        some (block.addItem item, (block.addItem item).selected.position item.sql, entry) ∧
      (block.addItem item).selected.find? item.sql = some entry := by
  have present : (block.addItem item).selected.hasSql item.sql = true := by
    rw [addItem_eq]
    exact SelectList.hasSql_add_self _ _
  obtain ⟨entry, found, find_eq⟩ := SelectList.entryAt?_position present
  refine ⟨entry, ?_, find_eq⟩
  rw [put?, place_eq distinct]
  simp only [found]
  rfl

end QueryBlock
end SqlBuilder
