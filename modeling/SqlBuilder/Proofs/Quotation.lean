import SqlBuilder.Proofs.Range.Window

/-!
# Literals read back

The grammar of literals: words for the null value and the truth values, decimal integers with
a sign, and texts between single quotes, in which two quotes in a row stand for one. A reader
of this grammar gets back the literal that was written. Within a longer text it ends a text
literal where the literal ends, so that nothing of its value is ever read as anything else.
-/

namespace SqlBuilder
namespace Literal

/-! ## The grammar -/

/-- Read on behind an opening quote: the value up to the quote that closes it, and what
stands behind that. -/
def readQuoted? : List Char → Option (List Char × List Char)
  | [] => none
  | '\'' :: '\'' :: rest => (readQuoted? rest).map fun read => ('\'' :: read.1, read.2)
  | '\'' :: rest => some ([], rest)
  | character :: rest => (readQuoted? rest).map fun read => (character :: read.1, read.2)

/-- Read a text literal off the front of a text: its value, and what stands behind it. -/
def lexText? : List Char → Option (String × List Char)
  | '\'' :: rest => (readQuoted? rest).map fun read => (String.ofList read.1, read.2)
  | _ => none

/-- The integer that a text of decimal digits stands for, with or without a sign. -/
def readInteger? (text : String) : Option Int :=
  match text.toList with
  | '-' :: digits => (readNumber? (String.ofList digits)).map fun number => -(number : Int)
  | '+' :: digits => (readNumber? (String.ofList digits)).map fun number => (number : Int)
  | _ => (readNumber? text).map fun number => (number : Int)

/-- The literal that a text is. -/
def read? (text : String) : Option Literal :=
  match lexText? text.toList, readInteger? text with
  | some (value, rest), _ => if rest.isEmpty then some (.text value) else none
  | none, some value => some (.integer value)
  | none, none =>
      List.lookup text [("NULL", .null), ("TRUE", .boolean true), ("FALSE", .boolean false)]

/-! ## Texts -/

theorem readQuoted?_closing
    {rest : List Char}
    (single : rest.head? ≠ some '\'') : readQuoted? ('\'' :: rest) = some ([], rest) := by
  apply readQuoted?.eq_3
  rintro others rfl
  exact single rfl

theorem readQuoted?_cons
    {character : Char}
    (unquoted : character ≠ '\'')
    (rest : List Char) :
    readQuoted? (character :: rest) =
      (readQuoted? rest).map fun read => (character :: read.1, read.2) :=
  readQuoted?.eq_4 character rest (fun _ isQuote _ => unquoted isQuote) unquoted

/-- A value whose quotes are doubled is read up to the first quote that stands alone. -/
theorem readQuoted?_doubleQuotes
    (value : List Char)
    {rest : List Char}
    (single : rest.head? ≠ some '\'') :
    readQuoted? (doubleQuotes value ++ '\'' :: rest) = some (value, rest) := by
  induction value using doubleQuotes.induct with
  | case1 => exact readQuoted?_closing single
  | case2 value inductionHypothesis =>
      rw [doubleQuotes, List.cons_append, List.cons_append, readQuoted?, inductionHypothesis,
        Option.map_some]
  | case3 character value unquoted inductionHypothesis =>
      rw [doubleQuotes.eq_3 _ _ unquoted, List.cons_append, readQuoted?_cons unquoted,
        inductionHypothesis, Option.map_some]

/-- Whatever is read has been written with its quotes doubled. -/
theorem eq_doubleQuotes_of_readQuoted?_eq_some
    {input value rest : List Char}
    (read : readQuoted? input = some (value, rest)) :
    input = doubleQuotes value ++ '\'' :: rest ∧ rest.head? ≠ some '\'' := by
  induction input using readQuoted?.induct generalizing value with
  | case1 => cases read
  | case2 input inductionHypothesis =>
      rw [readQuoted?, Option.map_eq_some_iff] at read
      obtain ⟨⟨inner, behind⟩, readInner, pair_eq⟩ := read
      cases pair_eq
      obtain ⟨input_eq, single⟩ := inductionHypothesis readInner
      exact ⟨by rw [input_eq, doubleQuotes, List.cons_append, List.cons_append], single⟩
  | case3 input lone =>
      rw [readQuoted?.eq_3 _ lone] at read
      cases read
      refine ⟨rfl, fun doubled => ?_⟩
      obtain ⟨others, input_eq⟩ := List.head?_eq_some_iff.mp doubled
      exact lone others input_eq
  | case4 character input _ unquoted inductionHypothesis =>
      rw [readQuoted?_cons unquoted, Option.map_eq_some_iff] at read
      obtain ⟨⟨inner, behind⟩, readInner, pair_eq⟩ := read
      cases pair_eq
      obtain ⟨input_eq, single⟩ := inductionHypothesis readInner
      exact ⟨by rw [input_eq, doubleQuotes.eq_3 _ _ unquoted, List.cons_append], single⟩

theorem toList_toSql_text (value : String) :
    (text value).toSql.toList = '\'' :: (doubleQuotes value.toList ++ ['\'']) := by
  rw [toSql, String.toList_ofList, List.cons_append]

/-- A text literal is read off the front of a text exactly if the text starts with it as it is
written, and no further quote follows. -/
theorem lexText?_eq_some_iff {input rest : List Char} {value : String} :
    lexText? input = some (value, rest) ↔
      input = (text value).toSql.toList ++ rest ∧ rest.head? ≠ some '\'' := by
  rw [toList_toSql_text, List.cons_append, List.append_assoc, List.singleton_append]
  constructor
  · intro read
    unfold lexText? at read
    split at read
    · rename_i quoted
      obtain ⟨⟨inner, behind⟩, readInner, pair_eq⟩ := Option.map_eq_some_iff.mp read
      cases pair_eq
      obtain ⟨quoted_eq, single⟩ := eq_doubleQuotes_of_readQuoted?_eq_some readInner
      exact ⟨by rw [quoted_eq, String.toList_ofList], single⟩
    · cases read
  · rintro ⟨rfl, single⟩
    rw [lexText?, readQuoted?_doubleQuotes _ single, Option.map_some, String.ofList_toList]

/-! ## Integers -/

theorem readInteger?_repr (number : Nat) : readInteger? number.repr = some (number : Int) := by
  have nonempty : Nat.toDigits 10 number ≠ [] := Nat.toDigits_ne_nil
  obtain ⟨digit, digits, digits_eq⟩ := List.exists_cons_of_ne_nil nonempty
  have isDigit : digit.isDigit = true :=
    Nat.isDigit_of_mem_toDigits (by decide) (by decide) (digits_eq ▸ List.mem_cons_self)
  unfold readInteger?
  rw [readNumber?_repr, Nat.toList_repr, digits_eq]
  -- No digit is a sign.
  split
  · rename_i signed
    cases signed
    cases isDigit
  · rename_i signed
    cases signed
    cases isDigit
  · rfl

theorem readInteger?_toString (value : Int) : readInteger? (toString value) = some value := by
  cases value with
  | ofNat number => exact readInteger?_repr number
  | negSucc number =>
      have toList_eq : (toString (Int.negSucc number)).toList =
          '-' :: (number + 1).repr.toList := by
        change ("-" ++ (number + 1).repr).toList = _
        rw [String.toList_append]
        rfl
      rw [readInteger?, toList_eq]
      simp only [String.ofList_toList, readNumber?_repr]
      rfl

/-- What reads as an integer does not start with a quote. -/
theorem lexText?_eq_none_of_readInteger?
    {text : String}
    {value : Int}
    (read : readInteger? text = some value) : lexText? text.toList = none := by
  unfold lexText?
  split
  · rename_i quoted
    have notNumber : readNumber? text = none := by
      rw [readNumber?, if_neg]
      rintro ⟨_, digits⟩
      rw [quoted, List.all_cons] at digits
      cases digits
    rw [readInteger?, quoted] at read
    simp [notNumber] at read
  · rfl

/-! ## Literals -/

/-- A literal is read back from what it is written as. -/
theorem read?_toSql (literal : Literal) : read? literal.toSql = some literal := by
  cases literal with
  | null => rfl
  | boolean value => cases value <;> rfl
  | integer value =>
      have read := readInteger?_toString value
      rw [toSql, read?, lexText?_eq_none_of_readInteger? read, read]
  | text value =>
      have lexed : lexText? (text value).toSql.toList = some (value, []) :=
        lexText?_eq_some_iff.mpr ⟨(List.append_nil _).symm, nofun⟩
      rw [read?, lexed]
      rfl

/-- Reading gets back every literal, so that no two are written alike, and from a longer text
it takes a text literal with a value and leaves a rest exactly if the text is that literal as
it is written, followed by the rest, and the rest does not start with a quote. -/
theorem literals_read_back :
    (∀ literal : Literal, read? literal.toSql = some literal) ∧
      Function.Injective toSql ∧
      ∀ (input rest : List Char) (value : String),
        lexText? input = some (value, rest) ↔
          input = (text value).toSql.toList ++ rest ∧ rest.head? ≠ some '\'' := by
  refine ⟨read?_toSql, fun first second same => ?_, fun _ _ _ => lexText?_eq_some_iff⟩
  have read := read?_toSql first
  rw [same, read?_toSql second, Option.some.injEq] at read
  exact read.symm

/-- A value that tries to close its literal, in front of more text. -/
example :
    lexText? ((text "' OR 1=1 --").toSql.toList ++ " AND A0.age = 3".toList) =
      some ("' OR 1=1 --", " AND A0.age = 3".toList) := by
  decide

end Literal
end SqlBuilder
