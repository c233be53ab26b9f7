import SqlBuilder.Statement.Query

/-!
# Every way to cut out a range keeps the same rows

A range is cut out by a filter on numbered rows, by a filter on a column of row
numbers, or by a clause at the end in one of three styles. The texts are read back
here, word by word, and denote the same rows: those that the range asks for. The
upper bound of a filter is no less than the largest row number when the sum of offset
and count does not fit in a word, and so it still admits every row behind the offset.
-/

namespace SqlBuilder

/-! ## Words -/

/-- The words of a text. -/
def words (text : String) : List String :=
  (text.toList.splitOn ' ').map String.ofList

theorem words_append (first rest : String) :
    words (first ++ " " ++ rest) = words first ++ words rest := by
  have space : " ".toList = [' '] := rfl
  rw [words, String.toList_append, String.toList_append, space, List.append_assoc,
    List.singleton_append, List.splitOn_append_cons_self, List.map_append]
  rfl

/-- The words of a text that is put together from words. -/
theorem words_intercalate
    {list : List String}
    (nonempty : list ≠ [])
    (spaceless : ∀ word ∈ list, ' ' ∉ word.toList) :
    words (String.intercalate " " list) = list := by
  have space : " ".toList = [' '] := rfl
  have split := List.splitOn_intercalate ' ' (List.forall_mem_map.mpr spaceless)
    (mt List.map_eq_nil_iff.mp nonempty)
  rw [words, String.toList_intercalate, space, split, List.map_map]
  simp

theorem words_of_spaceless {word : String} (spaceless : ' ' ∉ word.toList) :
    words word = [word] := by
  have single := words_intercalate (List.cons_ne_nil word [])
    (List.forall_mem_singleton.mpr spaceless)
  rwa [String.intercalate_singleton] at single

theorem words_append_and (first rest : String) :
    words (first ++ " AND " ++ rest) = words first ++ "AND" :: words rest := by
  have written : first ++ " AND " ++ rest = first ++ " " ++ ("AND" ++ " " ++ rest) := by
    rw [← String.toList_inj]
    simp
  have spaceless : ' ' ∉ "AND".toList := by decide
  rw [written, words_append, words_append, words_of_spaceless spaceless]
  rfl

theorem space_not_mem_toDigits (number : Nat) : ' ' ∉ Nat.toDigits 10 number :=
  fun member => absurd (Nat.isDigit_of_mem_toDigits (by decide) (by decide) member) (by decide)

theorem spaceless_repr (number : Nat) : ' ' ∉ number.repr.toList := by
  rw [Nat.toList_repr]
  exact space_not_mem_toDigits number

/-- The number that a word of decimal digits stands for. -/
def readNumber? (word : String) : Option Nat :=
  if word ≠ "" ∧ word.toList.all Char.isDigit = true then
    some (Nat.ofDigitChars 10 word.toList 0)
  else
    none

@[simp] theorem readNumber?_repr (number : Nat) : readNumber? number.repr = some number := by
  rw [readNumber?, Nat.toList_repr, if_pos, Nat.ofDigitChars_ten_toDigits]
  refine ⟨Nat.repr_ne_empty, List.all_eq_true.mpr fun _ => ?_⟩
  exact Nat.isDigit_of_mem_toDigits (by decide) (by decide)

/-! ## Reading a filter -/

/-- A comparison with a row number. -/
inductive RowBound where
  | above (bound : Nat)
  | upTo (bound : Nat)
  deriving DecidableEq, Repr

namespace RowBound

/-- The comparison holds of a row. -/
def Admits : RowBound → Nat → Prop
  | .above bound, row => bound < row
  | .upTo bound, row => row ≤ bound

/-- The sign of the comparison. -/
def sign : RowBound → String
  | .above _ => ">"
  | .upTo _ => "<="

/-- What the row number is compared with. -/
def number : RowBound → Nat
  | .above bound => bound
  | .upTo bound => bound

/-- The comparison as text, on a column with the given name. -/
def toSql (column : String) (bound : RowBound) : String :=
  column ++ " " ++ bound.sign ++ " " ++ bound.number.repr

/-- A comparison read from three words. -/
def read? (column name sign number : String) : Option RowBound :=
  if name ≠ column then none
  else if sign = ">" then (readNumber? number).map .above
  else if sign = "<=" then (readNumber? number).map .upTo
  else none

/-- Comparisons read from the words of a conjunction. -/
def readAll? (column : String) : List String → Option (List RowBound)
  | [name, sign, number] => (read? column name sign number).map fun bound => [bound]
  | name :: sign :: number :: conjunction :: rest =>
      if conjunction = "AND" then do
        let bound ← read? column name sign number
        let bounds ← readAll? column rest
        some (bound :: bounds)
      else
        none
  | _ => none

section Written

variable {column : String} (spaceless : ' ' ∉ column.toList)

include spaceless in
theorem words_toSql (bound : RowBound) :
    words (bound.toSql column) = [column, bound.sign, bound.number.repr] := by
  have sign : ' ' ∉ bound.sign.toList := by
    cases bound <;> simp [RowBound.sign]
  rw [toSql, words_append, words_append, words_of_spaceless spaceless,
    words_of_spaceless sign, words_of_spaceless (spaceless_repr _)]
  rfl

theorem read?_written (bound : RowBound) :
    read? column column bound.sign bound.number.repr = some bound := by
  rw [read?, if_neg (not_not_intro rfl), readNumber?_repr]
  cases bound with
  | above bound => rfl
  | upTo bound => rfl

include spaceless in
/-- A conjunction starts with the words of its first comparison. -/
theorem words_conjunction_cons (bound next : RowBound) (rest : List RowBound) :
    words (String.intercalate " AND " ((bound :: next :: rest).map (toSql column))) =
      column :: bound.sign :: bound.number.repr :: "AND" ::
        words (String.intercalate " AND " ((next :: rest).map (toSql column))) := by
  rw [List.map_cons, List.map_cons, String.intercalate_cons_cons, words_append_and,
    words_toSql spaceless]
  rfl

include spaceless in
/-- What is written of some comparisons is read back. -/
theorem readAll?_words (bound : RowBound) (rest : List RowBound) :
    readAll? column (words (String.intercalate " AND "
      ((bound :: rest).map (toSql column)))) = some (bound :: rest) := by
  induction rest generalizing bound with
  | nil =>
      rw [List.map_singleton, String.intercalate_singleton, words_toSql spaceless, readAll?,
        read?_written]
      rfl
  | cons next rest inductionHypothesis =>
      rw [words_conjunction_cons spaceless, readAll?, if_pos rfl, read?_written,
        inductionHypothesis]
      rfl

include spaceless in
/-- No comparison has the word by which a clause starts. -/
theorem where_not_mem_words
    (otherwise : column ≠ "WHERE")
    (bound : RowBound)
    (rest : List RowBound) :
    "WHERE" ∉ words (String.intercalate " AND " ((bound :: rest).map (toSql column))) := by
  have ofColumn : "WHERE" ≠ column := Ne.symm otherwise
  have ofSign : ∀ bound : RowBound, "WHERE" ≠ bound.sign := by
    intro bound
    cases bound <;> simp [RowBound.sign]
  have ofNumber : ∀ number : Nat, "WHERE" ≠ number.repr := by
    intro number same
    have letter : 'W' ∈ Nat.toDigits 10 number := by
      rw [← Nat.toList_repr, ← same]
      decide
    exact absurd (Nat.isDigit_of_mem_toDigits (by decide) (by decide) letter) (by decide)
  induction rest generalizing bound with
  | nil =>
      rw [List.map_singleton, String.intercalate_singleton, words_toSql spaceless]
      simp only [List.mem_cons, List.not_mem_nil, ofColumn, ofSign, ofNumber, or_self,
        not_false_eq_true]
  | cons next rest inductionHypothesis =>
      have isOther : "WHERE" ≠ "AND" := by decide
      rw [words_conjunction_cons spaceless]
      simp only [List.mem_cons, ofColumn, ofSign, ofNumber, isOther, false_or]
      exact inductionHypothesis next

end Written
end RowBound

/-- The words behind the last one of a kind. -/
def behindLast (word : String) (list : List String) : List String :=
  (list.reverse.takeWhile (· ≠ word)).reverse

theorem behindLast_append_cons
    {word : String}
    (before : List String)
    {behind : List String}
    (last : word ∉ behind) :
    behindLast word (before ++ word :: behind) = behind := by
  have passed : ∀ other ∈ behind.reverse, (decide (other ≠ word)) = true := by
    intro other member
    rw [decide_eq_true_iff]
    rintro rfl
    exact last (List.mem_reverse.mp member)
  rw [behindLast, List.reverse_append, List.reverse_cons, List.append_assoc,
    List.takeWhile_append_of_pos passed]
  simp

/-- The comparisons of a column in the outermost WHERE clause, which is the last. -/
def readFilter? (column text : String) : Option (List RowBound) :=
  RowBound.readAll? column (behindLast "WHERE" (words text))

namespace RowFilter

/-- The comparisons of a filter. -/
def bounds (filter : RowFilter) : List RowBound :=
  (filter.above.map fun bound => .above bound.toNat).toList ++
    (filter.upTo.map fun bound => .upTo bound.toNat).toList

theorem accepts_iff_forall_bounds (filter : RowFilter) (row : Nat) :
    filter.Accepts row ↔ ∀ bound ∈ filter.bounds, bound.Admits row := by
  obtain ⟨above, upTo⟩ := filter
  cases above <;> cases upTo <;> simp [Accepts, bounds, RowBound.Admits]

theorem toSql_eq_intercalate (filter : RowFilter) (column : String) :
    filter.toSql column =
      String.intercalate " AND " (filter.bounds.map (RowBound.toSql column)) := by
  rw [← String.toList_inj]
  obtain ⟨above, upTo⟩ := filter
  cases above <;> cases upTo <;>
    simp [toSql, comparisons, bounds, RowBound.toSql, RowBound.sign, RowBound.number]

/-- The filter of a query is read off its text, whatever is filtered. -/
theorem readFilter?_of_bounds_ne_nil
    {filter : RowFilter}
    {column closing closed : String}
    (bounded : filter.bounds ≠ [])
    (spaceless : ' ' ∉ column.toList)
    (otherwise : column ≠ "WHERE")
    (closing_eq : closing = closed ++ " WHERE ")
    (before : String) :
    readFilter? column (before ++ closing ++ filter.toSql column) = some filter.bounds := by
  have written : before ++ closing ++ filter.toSql column =
      before ++ closed ++ " " ++ ("WHERE" ++ " " ++ filter.toSql column) := by
    rw [closing_eq, ← String.toList_inj]
    simp
  have isWord : ' ' ∉ "WHERE".toList := by decide
  rw [readFilter?, written, words_append, words_append, words_of_spaceless isWord,
    List.singleton_append, toSql_eq_intercalate]
  obtain ⟨bound, rest, bounds_eq⟩ := List.exists_cons_of_ne_nil bounded
  rw [bounds_eq, behindLast_append_cons _ (RowBound.where_not_mem_words spaceless otherwise _ _),
    RowBound.readAll?_words spaceless]

end RowFilter

/-! ## The bounds of the filters -/

namespace Range

/-- The offset that leaves out rows, if there is one. -/
theorem positiveOffset?_eq (range : Range) :
    range.positiveOffset? = if 0 < range.skipped then some range.skipped else none := by
  obtain ⟨offset, count⟩ := range
  cases offset with
  | none => rfl
  | some offset =>
      rw [positiveOffset?, skipped, Option.filter_some, Option.getD_some]
      simp only [decide_eq_true_eq]

/-- Without an offset that leaves out rows none is left out. -/
theorem skipped_eq (range : Range) : range.skipped = range.positiveOffset?.getD 0 := by
  rw [positiveOffset?_eq]
  split
  · rfl
  · rename_i notPositive
    simpa using notPositive

/-- A range is restricted by an offset that leaves out rows or by a count. -/
theorem isRestricted_eq (range : Range) :
    range.isRestricted = (range.positiveOffset?.isSome || range.count.isSome) := by
  obtain ⟨offset, count⟩ := range
  cases offset with
  | none => rfl
  | some offset =>
      rw [isRestricted, positiveOffset?, Option.any_some, Option.filter_some]
      by_cases positive : 0 < offset <;> simp [positive]

end Range

namespace RowFilter

/-- A sum of row counts is exact as long as it is a row number. -/
theorem toNat_addRows (first second : UInt64) :
    (addRows first second).toNat = min (first.toNat + second.toNat) lastRow.toNat := by
  have size : UInt64.size = lastRow.toNat + 1 := rfl
  rw [addRows]
  split
  · rename_i fits
    rw [UInt64.toNat_add, Nat.mod_eq_of_lt fits]
    omega
  · omega

theorem zero_addRows (count : UInt64) : addRows 0 count = count := by
  have fits : (0 : UInt64).toNat + count.toNat < UInt64.size := by
    rw [UInt64.toNat_zero, Nat.zero_add]
    exact count.toNat_lt_size
  rw [addRows, if_pos fits, UInt64.zero_add]

section Selects

variable {range : Range}

/-- Where some row may be left out, both filters are the same: the one over numbered
rows only differs where nothing is restricted. -/
theorem ofNumberedRows_eq_ofNumberColumn (restricted : range.isRestricted = true) :
    ofNumberedRows range = ofNumberColumn range := by
  rw [Range.isRestricted_eq] at restricted
  rw [ofNumberedRows, ofNumberColumn]
  cases found : range.positiveOffset? with
  | some offset =>
      rw [Range.positiveOffset?_eq] at found
      split at found
      · rename_i positive
        rw [if_pos positive, found]
      · cases found
  | none =>
      have skipped_eq : range.skipped = 0 := by
        rw [range.skipped_eq, found]
        rfl
      rw [found, Option.isSome_none, Bool.false_or] at restricted
      obtain ⟨count, count_eq⟩ := Option.isSome_iff_exists.mp restricted
      rw [skipped_eq, if_neg (UInt64.lt_irrefl 0), count_eq, Option.getD_some, Option.map_some,
        zero_addRows]

/-- A restricted range gives the filter a bound. -/
theorem bounds_ofNumberColumn_ne_nil (restricted : range.isRestricted = true) :
    (ofNumberColumn range).bounds ≠ [] := by
  rw [Range.isRestricted_eq] at restricted
  rw [ofNumberColumn, bounds]
  cases offset_eq : range.positiveOffset? with
  | some offset => simp
  | none =>
      rw [offset_eq, Option.isSome_none, Bool.false_or] at restricted
      obtain ⟨count, count_eq⟩ := Option.isSome_iff_exists.mp restricted
      simp [count_eq]

variable {row : Nat}

/-- The filter keeps the rows that the range asks for, as far as rows are
numbered. -/
theorem accepts_ofNumberColumn_iff
    (first : 1 ≤ row)
    (last : row ≤ lastRow.toNat) :
    (ofNumberColumn range).Accepts row ↔ range.Selects row := by
  have lower : (∀ bound ∈ range.positiveOffset?, bound.toNat < row) ↔
      range.skipped.toNat < row := by
    rw [range.skipped_eq]
    cases range.positiveOffset? with
    | some offset => simp
    | none => simpa using Nat.pos_of_ne_zero (Nat.one_le_iff_ne_zero.mp first)
  have upper : ∀ count : UInt64,
      row ≤ (addRows range.skipped count).toNat ↔
        row - range.skipped.toNat ≤ count.toNat := by
    intro count
    rw [toNat_addRows]
    omega
  refine and_congr lower ?_
  rw [ofNumberColumn]
  cases range.count with
  | none => simp
  | some count => simpa using upper count

end Selects
end RowFilter

/-! ## Reading a clause -/

/-- How many rows are left out, and how many follow at most. -/
structure Window where
  skipped : Nat := 0
  limit : Option Nat := none
  deriving DecidableEq, Repr

namespace Window

/-- A row is in the window. -/
def Contains (window : Window) (row : Nat) : Prop :=
  window.skipped < row ∧ ∀ limit ∈ window.limit, row - window.skipped ≤ limit

/-- The window with the offset and the count of two words. -/
def ofWords? (offset count : String) : Option Window := do
  let skipped ← readNumber? offset
  let limit ← readNumber? count
  some { skipped := skipped, limit := some limit }

/-- The window with the offset of a word and no end. -/
def ofOffset? (offset : String) : Option Window :=
  (readNumber? offset).map fun skipped => { skipped := skipped }

/-- The window from the first row with the count of a word. -/
def ofCount? (count : String) : Option Window :=
  (readNumber? count).map fun limit => { limit := some limit }

/-- The window of a clause, in the forms that products know. -/
def readClause? : List String → Option Window
  | ["LIMIT", count] => ofCount? count
  | ["OFFSET", offset] => ofOffset? offset
  | ["LIMIT", count, "OFFSET", offset] => ofWords? offset count
  | ["FETCH", "FIRST", count, "ROWS", "ONLY"] => ofCount? count
  | ["OFFSET", offset, "ROWS"] => ofOffset? offset
  | ["OFFSET", offset, "ROWS", "FETCH", "NEXT", count, "ROWS", "ONLY"] =>
      ofWords? offset count
  | _ => none

/-- The window of a text. An ordering by nothing may stand before the clause. -/
def read? (text : String) : Option Window :=
  match words text with
  | "ORDER" :: "BY" :: "(SELECT" :: "NULL)" :: clause => readClause? clause
  | clause => readClause? clause

end Window

namespace RangeClause

/-- The words of a clause. -/
def wordList : RangeClause → List String
  | .limitOffset count offset =>
      (count.map fun rows => ["LIMIT", toString rows.toNat]).getD [] ++
        (offset.map fun rows => ["OFFSET", toString rows.toNat]).getD []
  | .offsetFetch offset count =>
      (offset.map fun rows => ["OFFSET", toString rows.toNat, "ROWS"]).getD [] ++
        (count.map fun rows =>
          ["FETCH", if offset.isSome then "NEXT" else "FIRST", toString rows.toNat, "ROWS",
            "ONLY"]).getD []
  | .afterOrdering ordered offset count =>
      (if ordered then [] else ["ORDER", "BY", "(SELECT", "NULL)"]) ++
        ["OFFSET", toString offset.toNat, "ROWS"] ++
        (count.map fun rows =>
          ["FETCH", "NEXT", toString rows.toNat, "ROWS", "ONLY"]).getD []

theorem toSql_eq_intercalate (clause : RangeClause) :
    clause.toSql = String.intercalate " " clause.wordList := by
  rw [← String.toList_inj]
  cases clause with
  | limitOffset count offset =>
      cases count <;> cases offset <;> simp [toSql, wordList]
  | offsetFetch offset count =>
      cases count <;> cases offset <;> simp [toSql, wordList]
  | afterOrdering ordered offset count =>
      cases ordered <;> cases count <;> simp [toSql, wordList]

theorem spaceless_wordList (clause : RangeClause) :
    ∀ word ∈ clause.wordList, ' ' ∉ word.toList := by
  cases clause with
  | limitOffset count offset =>
      cases count <;> cases offset <;> simp [wordList, space_not_mem_toDigits]
  | offsetFetch offset count =>
      cases count <;> cases offset <;> simp [wordList, space_not_mem_toDigits]
  | afterOrdering ordered offset count =>
      cases ordered <;> cases count <;> simp [wordList, space_not_mem_toDigits]

/-- The window that the numbers of a clause denote. -/
def window (clause : RangeClause) : Window :=
  { skipped := clause.range.skipped.toNat
    limit := clause.range.count.map UInt64.toNat }

/-- The window of a clause is read off its text. -/
theorem read?_toSql
    {clause : RangeClause}
    (nonempty : clause.wordList ≠ []) : Window.read? clause.toSql = some clause.window := by
  rw [Window.read?, toSql_eq_intercalate, words_intercalate nonempty clause.spaceless_wordList]
  cases clause with
  | limitOffset count offset =>
      cases count <;> cases offset <;>
        simp_all [wordList, Window.readClause?, Window.ofWords?, Window.ofOffset?,
          Window.ofCount?, window, range, Range.skipped]
  | offsetFetch offset count =>
      cases count <;> cases offset <;>
        simp_all [wordList, Window.readClause?, Window.ofWords?, Window.ofOffset?,
          Window.ofCount?, window, range, Range.skipped]
  | afterOrdering ordered offset count =>
      cases ordered <;> cases count <;>
        simp [wordList, Window.readClause?, Window.ofWords?, Window.ofOffset?, window, range,
          Range.skipped]

end RangeClause

/-- A dialect that has a clause for ranges writes one exactly for the ranges that leave
out rows, and it has the offset and the count of the range. -/
theorem Capabilities.exists_rangeClause?_eq
    {capabilities : Capabilities}
    (present : capabilities.rangeStyle ≠ .absent)
    {range : Range}
    (restricted : range.isRestricted = true)
    (ordered : Bool) :
    ∃ clause, capabilities.rangeClause? range ordered = some clause ∧
      clause.wordList ≠ [] ∧ clause.range.skipped = range.skipped ∧
      clause.range.count = range.count := by
  have skipped_eq := range.skipped_eq
  rw [rangeClause?, if_pos restricted]
  rw [range.isRestricted_eq] at restricted
  cases style : capabilities.rangeStyle with
  | absent => exact absurd style present
  | limitOffset =>
      refine ⟨_, rfl, ?_, skipped_eq.symm, rfl⟩
      cases offset_eq : range.positiveOffset? <;> cases count_eq : range.count <;>
        simp_all [RangeClause.wordList]
  | offsetFetch =>
      refine ⟨_, rfl, ?_, skipped_eq.symm, rfl⟩
      cases offset_eq : range.positiveOffset? <;> cases count_eq : range.count <;>
        simp_all [RangeClause.wordList]
  | offsetFetchAfterOrdering =>
      refine ⟨_, rfl, ?_, rfl, rfl⟩
      simp [RangeClause.wordList]

/-! ## All ways agree -/

namespace Range

/-- The filter of a text keeps, of the rows that have a number, those that the range
asks for. -/
def FilteredBy (range : Range) (column text : String) : Prop :=
  ∃ bounds, readFilter? column text = some bounds ∧
    ∀ row, 1 ≤ row → row ≤ lastRow.toNat →
      ((∀ bound ∈ bounds, bound.Admits row) ↔ range.Selects row)

/-- The numbers of a clause denote the rows that the range asks for. -/
def DenotedBy (range : Range) (text : String) : Prop :=
  ∃ window, Window.read? text = some window ∧
    ∀ row, window.Contains row ↔ range.Selects row

variable {range : Range}

theorem filteredBy_of_behind_where
    (restricted : range.isRestricted = true)
    {column closing closed : String}
    (spaceless : ' ' ∉ column.toList)
    (otherwise : column ≠ "WHERE")
    (closing_eq : closing = closed ++ " WHERE ")
    (before : String) :
    range.FilteredBy column
      (before ++ closing ++ (RowFilter.ofNumberColumn range).toSql column) := by
  refine ⟨_, RowFilter.readFilter?_of_bounds_ne_nil
    (RowFilter.bounds_ofNumberColumn_ne_nil restricted) spaceless otherwise closing_eq before, ?_⟩
  intro row first last
  rw [← RowFilter.accepts_iff_forall_bounds]
  exact RowFilter.accepts_ofNumberColumn_iff first last

theorem denotedBy_toSql
    {clause : RangeClause}
    (nonempty : clause.wordList ≠ [])
    (skipped_eq : clause.range.skipped = range.skipped)
    (count_eq : clause.range.count = range.count) : range.DenotedBy clause.toSql := by
  refine ⟨clause.window, RangeClause.read?_toSql nonempty, fun row => ?_⟩
  rw [RangeClause.window, Window.Contains, Selects, skipped_eq, count_eq]
  simp

/-- A dialect that has a clause for ranges writes one exactly if some row may be left
out. -/
theorem isSome_rangeText?_iff
    {capabilities : Capabilities}
    (present : capabilities.rangeStyle ≠ .absent)
    (range : Range)
    (ordered : Bool) :
    ((Dialect.ofCapabilities capabilities).rangeText? range ordered).isSome ↔
      range.isRestricted = true := by
  rw [Dialect.ofCapabilities, Option.isSome_map]
  cases restricted : range.isRestricted with
  | false => simp [Capabilities.rangeClause?, restricted]
  | true =>
      obtain ⟨clause, found, _⟩ :=
        Capabilities.exists_rangeClause?_eq present restricted ordered
      simp [found]

theorem filteredBy_around_nested
    (restricted : range.isRestricted = true)
    (rowNumber : String)
    (selected : SelectList)
    (inner : String) :
    range.FilteredBy "rn"
      (((Pagination.nested rowNumber).wrapper range selected).around inner) := by
  have closing_eq : ") subq) WHERE " = ") subq)" ++ " WHERE " := rfl
  have written : ((Pagination.nested rowNumber).wrapper range selected).around inner =
      "SELECT * FROM (SELECT subq.*, " ++ rowNumberColumn rowNumber ++ " FROM (" ++ inner ++
        ") subq) WHERE " ++ (RowFilter.ofNumberedRows range).toSql "rn" := rfl
  rw [written, RowFilter.ofNumberedRows_eq_ofNumberColumn restricted]
  exact filteredBy_of_behind_where restricted (by decide) (by decide) closing_eq _

theorem filteredBy_around_inline
    (restricted : range.isRestricted = true)
    (rowNumber : String)
    (selected : SelectList)
    (inner : String) :
    range.FilteredBy "subq.rn"
      (((Pagination.inline rowNumber).wrapper range selected).around inner) := by
  have closing_eq : ") subq WHERE " = ") subq" ++ " WHERE " := rfl
  exact filteredBy_of_behind_where restricted (by decide) (by decide) closing_eq _

theorem denotedBy_of_rangeText?
    (restricted : range.isRestricted = true)
    {capabilities : Capabilities}
    (present : capabilities.rangeStyle ≠ .absent)
    (ordered : Bool) :
    ∃ text, (Dialect.ofCapabilities capabilities).rangeText? range ordered = some text ∧
      range.DenotedBy text := by
  obtain ⟨clause, found, nonempty, skipped_eq, count_eq⟩ :=
    Capabilities.exists_rangeClause?_eq present restricted ordered
  refine ⟨clause.toSql, ?_, denotedBy_toSql nonempty skipped_eq count_eq⟩
  exact congrArg (Option.map RangeClause.toSql) found

/-- Every way to cut out a range keeps the rows that it asks for: the filter over
numbered rows, the filter on a column of row numbers, and the clause in every style,
which a dialect writes exactly if some row may be left out. -/
theorem filters_and_clauses_agree (range : Range) :
    (∀ capabilities : Capabilities, capabilities.rangeStyle ≠ .absent → ∀ ordered,
      (((Dialect.ofCapabilities capabilities).rangeText? range ordered).isSome ↔
        range.isRestricted = true)) ∧
    (range.isRestricted = true →
      (∀ rowNumber selected inner, range.FilteredBy "rn"
        (((Pagination.nested rowNumber).wrapper range selected).around inner)) ∧
      (∀ rowNumber selected inner, range.FilteredBy "subq.rn"
        (((Pagination.inline rowNumber).wrapper range selected).around inner)) ∧
      ∀ capabilities : Capabilities, capabilities.rangeStyle ≠ .absent → ∀ ordered,
        ∃ text, (Dialect.ofCapabilities capabilities).rangeText? range ordered = some text ∧
          range.DenotedBy text) := by
  refine ⟨fun _ present => isSome_rangeText?_iff present range, fun restricted => ?_⟩
  exact ⟨filteredBy_around_nested restricted, filteredBy_around_inline restricted,
    fun _ present => denotedBy_of_rangeText? restricted present⟩

/-- All rows but the first five, by a count that makes a sum beyond the last row. -/
def behindFive : Range :=
  { offset := some 5, count := some lastRow }

theorem filters_and_clauses_agree_behindFive :
    behindFive.isRestricted = true ∧
      behindFive.FilteredBy "rn"
        ("SELECT * FROM (SELECT subq.*, ROWNUM rn FROM (SELECT 1) subq) " ++
          "WHERE rn > 5 AND rn <= 18446744073709551615") ∧
      behindFive.FilteredBy "subq.rn"
        ("SELECT subq.* FROM (SELECT 1) subq " ++
          "WHERE subq.rn > 5 AND subq.rn <= 18446744073709551615") ∧
      behindFive.DenotedBy "LIMIT 18446744073709551615 OFFSET 5" := by
  have restricted : behindFive.isRestricted = true := rfl
  obtain ⟨numbered, column, clause⟩ := (filters_and_clauses_agree behindFive).2 restricted
  have numbered_eq : ((Pagination.nested "ROWNUM").wrapper behindFive []).around "SELECT 1" =
      "SELECT * FROM (SELECT subq.*, ROWNUM rn FROM (SELECT 1) subq) " ++
        "WHERE rn > 5 AND rn <= 18446744073709551615" := by decide +kernel
  have column_eq : ((Pagination.inline "").wrapper behindFive []).around "SELECT 1" =
      "SELECT subq.* FROM (SELECT 1) subq " ++
        "WHERE subq.rn > 5 AND subq.rn <= 18446744073709551615" := by decide +kernel
  obtain ⟨text, text_eq, denoted⟩ := clause {} (by decide) true
  have clause_eq : some text = some "LIMIT 18446744073709551615 OFFSET 5" := by
    rw [← text_eq]
    decide +kernel
  refine ⟨restricted, ?_, ?_, Option.some.inj clause_eq ▸ denoted⟩
  · exact numbered_eq ▸ numbered "ROWNUM" [] "SELECT 1"
  · exact column_eq ▸ column "" [] "SELECT 1"

end Range
end SqlBuilder
