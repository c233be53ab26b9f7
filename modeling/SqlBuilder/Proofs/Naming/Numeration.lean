import Mathlib.Data.List.Induction
import Mathlib.Data.Nat.PSub
import SqlBuilder.Proofs.Naming.Scheme

/-!
# Numbers in letters

Bijective base 26 has the letters A to Z for the digits one to twenty-six and none for zero.
Without a zero there is nothing that could be put in front of a numeral and leave its value as it
is, so that every number has one numeral and every text of letters is one. The numbers are
counted from zero, and a numeral therefore stands for one less than the value of its digits.
For the same reason a round of the spelling, which finds the letters from the last to the
first, goes on with one less than the quotient.
-/

namespace SqlBuilder
namespace Namer

/-! ## The value of letters -/

/-- The value of letters in bijective base 26, counting from A as one. -/
def lettersValue (letters : List Char) : Nat :=
  letters.foldl (fun value letter => value * 26 + (letter.toNat - 64)) 0

theorem lettersValue_append_singleton (letters : List Char) (last : Char) :
    lettersValue (letters ++ [last]) = lettersValue letters * 26 + (last.toNat - 64) := by
  rw [lettersValue, List.foldl_append]
  rfl

/-- The letters of a number have its value, but for the start of the count. -/
theorem lettersValue_lettersOf (index : Nat) : lettersValue (lettersOf index) = index + 1 := by
  induction index using lettersOf.induct with
  | case1 index small =>
      rw [lettersOf, if_pos small, lettersValue, List.foldl_cons, List.foldl_nil,
        toNat_ofNat_letter small]
      omega
  | case2 index large inductionHypothesis =>
      rw [lettersOf, if_neg large, lettersValue_append_singleton, inductionHypothesis,
        toNat_ofNat_letter (Nat.mod_lt index (by decide))]
      omega

/-- Different numbers have different letters. -/
theorem lettersOf_injective : Function.Injective lettersOf := by
  intro first second same
  have value_eq := congrArg lettersValue same
  rw [lettersValue_lettersOf, lettersValue_lettersOf] at value_eq
  exact Nat.succ.inj value_eq

/-- No capital has the value zero, so letters have a value above zero. -/
theorem lettersValue_pos
    {letters : List Char}
    (nonempty : letters ≠ [])
    (capitals : ∀ letter ∈ letters, letter.isUpper = true) : 0 < lettersValue letters := by
  obtain ⟨front, last, rfl⟩ := (List.eq_nil_or_concat' letters).resolve_left nonempty
  have bounds := isUpper_iff_toNat.mp (capitals last (List.mem_append_right _ List.mem_cons_self))
  rw [lettersValue_append_singleton]
  omega

/-- Capitals with the value of a number are its letters. -/
theorem lettersOf_eq_of_lettersValue_eq
    {letters : List Char}
    {index : Nat}
    (nonempty : letters ≠ [])
    (capitals : ∀ letter ∈ letters, letter.isUpper = true)
    (value_eq : lettersValue letters = index + 1) : lettersOf index = letters := by
  induction letters using List.reverseRecOn generalizing index with
  | nil => exact absurd rfl nonempty
  | append_singleton front last inductionHypothesis =>
      rw [List.forall_mem_append, List.forall_mem_singleton] at capitals
      obtain ⟨frontCapitals, lastCapital⟩ := capitals
      have bounds := isUpper_iff_toNat.mp lastCapital
      rw [lettersValue_append_singleton] at value_eq
      have last_eq : Char.ofNat (65 + index % 26) = last := by
        have digit_eq : 65 + index % 26 = last.toNat := by omega
        rw [digit_eq, Char.ofNat_toNat]
      by_cases alone : front = []
      · -- A single letter is the numeral of a number below 26.
        subst alone
        have value_nil : lettersValue [] = 0 := rfl
        have small : index < 26 := by omega
        rw [lettersOf, if_pos small, ← last_eq, Nat.mod_eq_of_lt small, List.nil_append]
      · -- The letters in front have a value of at least one, the one that the round takes away.
        have positive := lettersValue_pos alone frontCapitals
        have front_eq : lettersValue front = index / 26 - 1 + 1 := by omega
        have large : ¬index < 26 := by omega
        rw [lettersOf, if_neg large, inductionHypothesis alone frontCapitals front_eq, last_eq]

/-! ## Spelling by rounds -/

/-- Spelling a number, from the letters that are found already to all of them, the last letter
of the numeral first. A round takes one from the quotient, and there is none that takes it
from zero. -/
inductive Spells : Nat → List Char → List Char → Prop
  | last {index : Nat} {found : List Char} :
      index < 26 →
      Spells index found (found ++ [Char.ofNat (65 + index % 26)])
  | round {index next : Nat} {found all : List Char} :
      26 ≤ index →
      (index / 26).ppred = some next →
      Spells next (found ++ [Char.ofNat (65 + index % 26)]) all →
      Spells index found all

/-- A round that does not find the last letter has something to take one from. -/
theorem ppred_div {index : Nat} (large : 26 ≤ index) :
    (index / 26).ppred = some (index / 26 - 1) := by
  have positive : 0 < index / 26 := Nat.div_pos large (by decide)
  exact Nat.ppred_eq_some.mpr (Nat.succ_pred_eq_of_pos positive)

/-- A round finds the last of the letters that are still to be found. -/
theorem reverse_lettersOf_eq_cons {index : Nat} (large : 26 ≤ index) :
    (lettersOf index).reverse =
      Char.ofNat (65 + index % 26) :: (lettersOf (index / 26 - 1)).reverse := by
  rw [lettersOf, if_neg (Nat.not_lt.mpr large), List.reverse_append, List.reverse_singleton,
    List.singleton_append]

theorem reverse_lettersOf_eq_singleton {index : Nat} (small : index < 26) :
    (lettersOf index).reverse = [Char.ofNat (65 + index % 26)] := by
  rw [lettersOf, if_pos small, Nat.mod_eq_of_lt small, List.reverse_singleton]

/-- The spelling of a number ends, and adds its letters, read backwards. -/
theorem spells_reverse_lettersOf (index : Nat) (found : List Char) :
    Spells index found (found ++ (lettersOf index).reverse) := by
  induction index using lettersOf.induct generalizing found with
  | case1 index small =>
      rw [reverse_lettersOf_eq_singleton small]
      exact .last small
  | case2 index large inductionHypothesis =>
      have large := Nat.le_of_not_lt large
      rw [reverse_lettersOf_eq_cons large, List.append_cons]
      exact .round large (ppred_div large) (inductionHypothesis _)

/-- The spelling of a number ends in no other way. -/
theorem Spells.eq_append
    {index : Nat}
    {found all : List Char}
    (spells : Spells index found all) : all = found ++ (lettersOf index).reverse := by
  induction spells with
  | last small => rw [reverse_lettersOf_eq_singleton small]
  | round large taken _ inductionHypothesis =>
      rw [ppred_div large] at taken
      obtain rfl := Option.some.inj taken
      rw [reverse_lettersOf_eq_cons large, List.append_cons]
      exact inductionHypothesis

/-! ## Numerals -/

/-- A text of capital letters from A to Z, at least one. -/
structure IsNumeral (text : String) : Prop where
  nonempty : text ≠ ""
  capitals : ∀ letter ∈ text.toList, letter.isUpper = true

/-- The number that a numeral stands for, counting from A as zero. -/
def numberOf (text : String) : Nat :=
  lettersValue text.toList - 1

theorem lettersOf_ne_nil (index : Nat) : lettersOf index ≠ [] := by
  intro nothing
  have value_eq := lettersValue_lettersOf index
  rw [nothing] at value_eq
  exact absurd value_eq (Nat.succ_ne_zero index).symm

theorem isNumeral_letters (index : Nat) : IsNumeral (letters index) where
  nonempty := by
    intro nothing
    have toList_eq := congrArg String.toList nothing
    rw [letters, String.toList_ofList] at toList_eq
    exact lettersOf_ne_nil index toList_eq
  capitals := by
    rw [letters, String.toList_ofList]
    exact fun _ => isUpper_of_mem_lettersOf

theorem numberOf_letters (index : Nat) : numberOf (letters index) = index := by
  rw [numberOf, letters, String.toList_ofList, lettersValue_lettersOf, Nat.add_sub_cancel]

theorem IsNumeral.letters_numberOf {text : String} (numeral : IsNumeral text) :
    letters (numberOf text) = text := by
  have nonempty : text.toList ≠ [] := fun nothing =>
    numeral.nonempty (String.toList_eq_nil_iff.mp nothing)
  have value_eq : lettersValue text.toList = numberOf text + 1 :=
    (Nat.sub_add_cancel (lettersValue_pos nonempty numeral.capitals)).symm
  rw [letters, lettersOf_eq_of_lettersValue_eq nonempty numeral.capitals value_eq,
    String.ofList_toList]

/-- The numerals at the places where they grow longer. -/
example :
    numberOf "A" = 0 ∧ numberOf "Z" = 25 ∧ numberOf "AA" = 26 ∧
      numberOf "ZZ" = 701 ∧ numberOf "AAA" = 702 := by
  decide +kernel

end Namer

/-! ## Letters in front of a number -/

/-- The capital letters that an alias starts with. -/
def leadingLetters (aliasName : String) : List Char :=
  aliasName.toList.takeWhile Char.isUpper

theorem isUpper_eq_false_of_isDigit {char : Char} (isDigit : char.isDigit = true) :
    char.isUpper = false := by
  rw [Bool.eq_false_iff]
  intro isUpper
  have letter : 65 ≤ char.toNat := (Namer.isUpper_iff_toNat.mp isUpper).1
  have digit : char.toNat ≤ 57 := (Char.isDigit_iff_toNat.mp isDigit).2
  omega

/-- The letters of a number end where another number follows. -/
theorem leadingLetters_letters (position number : Nat) (suffix : String) :
    leadingLetters (Namer.letters position ++ toString number ++ suffix) =
      Namer.lettersOf position := by
  have nonempty : Nat.toDigits 10 number ≠ [] := Nat.toDigits_ne_nil
  obtain ⟨digit, digits, digits_eq⟩ := List.exists_cons_of_ne_nil nonempty
  have isDigit : digit.isDigit = true :=
    Nat.isDigit_of_mem_toDigits (by decide) (by decide) (digits_eq ▸ List.mem_cons_self)
  rw [leadingLetters, String.append_assoc, String.toList_append, String.toList_append,
    Namer.letters, String.toList_ofList, Nat.toString_eq_repr, Nat.toList_repr, digits_eq,
    List.takeWhile_append_of_pos fun letter => Namer.isUpper_of_mem_lettersOf,
    List.cons_append, List.takeWhile_cons, isUpper_eq_false_of_isDigit isDigit]
  exact List.append_nil _

/-! ## Letters of groups -/

namespace NamingContext

/-- A group that exists has a position of its own, which no other group has or, being new,
would get. -/
theorem eq_of_position_eq
    {context : NamingContext}
    {first second : String}
    (present : context.registry.hasGroup first = true)
    (same : (context.groupPosition? first).getD context.groupCount =
      (context.groupPosition? second).getD context.groupCount) : first = second := by
  have isFound : (context.groupPosition? first).isSome = true := by
    rw [groupPosition?, List.findIdx?_isSome]
    exact present
  obtain ⟨position, found⟩ := Option.isSome_iff_exists.mp isFound
  obtain ⟨bound, named, _⟩ := List.findIdx?_eq_some_iff_getElem.mp found
  rw [found, Option.getD_some] at same
  cases foundToo : context.groupPosition? second with
  | none =>
      rw [foundToo, Option.getD_none] at same
      exact absurd same (Nat.ne_of_lt bound)
  | some other =>
      rw [foundToo, Option.getD_some] at same
      subst same
      obtain ⟨_, namedToo, _⟩ := List.findIdx?_eq_some_iff_getElem.mp foundToo
      exact (beq_iff_eq.mp named).symm.trans (beq_iff_eq.mp namedToo)

end NamingContext

namespace Namer

/-- An alias by the scheme of letters starts with those of the position of the group. -/
theorem leadingLetters_alpha (context : NamingContext) (table : Table) (group : String) :
    leadingLetters (alpha context table group) =
      lettersOf ((context.groupPosition? group).getD context.groupCount) := by
  obtain ⟨number, alias_eq, _⟩ := context.exists_firstFree_eq
    (letters ((context.groupPosition? group).getD context.groupCount))
    (context.tablesInGroup group)
  rw [alpha, alias_eq, leadingLetters_letters]

/-- The spelling of every number ends without taking one from zero, and gives one numeral,
its letters. Numbers and numerals correspond to each other one to one, A to zero. Groups of
different names, one of which exists, therefore have different letters, and so have the
aliases of their tables. -/
theorem letters_bijective :
    (∀ index, (∃ found, Spells index [] found) ∧
      ∀ found, Spells index [] found → String.ofList found.reverse = letters index) ∧
    (∀ index, IsNumeral (letters index) ∧ numberOf (letters index) = index) ∧
    (∀ text, IsNumeral text → letters (numberOf text) = text) ∧
    ∀ (context : NamingContext) (first second : String),
      let position := fun group => (context.groupPosition? group).getD context.groupCount
      context.registry.hasGroup first = true → first ≠ second →
        letters (position first) ≠ letters (position second) ∧
          ∀ table other, leadingLetters (alpha context table first) ≠
            leadingLetters (alpha context other second) := by
  refine ⟨fun index => ⟨⟨_, spells_reverse_lettersOf index []⟩, ?_⟩,
    fun index => ⟨isNumeral_letters index, numberOf_letters index⟩,
    fun text numeral => numeral.letters_numberOf, ?_⟩
  · intro found spells
    rw [spells.eq_append, List.nil_append, List.reverse_reverse, letters]
  · intro context first second position present different
    have apart : position first ≠ position second := fun same =>
      different (NamingContext.eq_of_position_eq present same)
    have lettersApart : lettersOf (position first) ≠ lettersOf (position second) :=
      lettersOf_injective.ne apart
    refine ⟨fun same => lettersApart (String.ofList_injective same), fun table other => ?_⟩
    rw [leadingLetters_alpha, leadingLetters_alpha]
    exact lettersApart

/-- A statement with as many groups as there are letters: the last has Z, and the next one to
come gets AA. -/
theorem letters_bijective_alphabet :
    let context : NamingContext :=
      { registry :=
          { groups := (List.range 26).map fun number =>
              { name := Registry.numberedGroup number, joinKind := some .cross } }
        depth := 0 }
    alpha context { name := "city" } "Group25" = "Z0" ∧
      alpha context { name := "phone" } "Group26" = "AA0" ∧
      leadingLetters (alpha context { name := "city" } "Group25") ≠
        leadingLetters (alpha context { name := "phone" } "Group26") ∧
      Spells 26 [] ['A', 'A'] ∧ letters 26 = "AA" ∧
      IsNumeral "ZZ" ∧ letters (numberOf "ZZ") = "ZZ" := by
  intro context
  obtain ⟨rounds, _, inverse, groups⟩ := letters_bijective
  have spells : Spells 26 [] ['A', 'A'] := .round (Nat.le_refl 26) rfl (.last (by decide))
  have numeral : IsNumeral "ZZ" := ⟨by decide, List.all_eq_true.mp (by decide)⟩
  refine ⟨by decide +kernel, by decide +kernel, ?_, spells, ?_, numeral, inverse _ numeral⟩
  · exact (groups context "Group25" "Group26" (by decide +kernel) (by decide)).2 _ _
  · exact ((rounds 26).2 _ spells).symm

end Namer
end SqlBuilder
