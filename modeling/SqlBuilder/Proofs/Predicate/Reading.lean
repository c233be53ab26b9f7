import Mathlib.Data.List.Basic
import SqlBuilder.Proofs.Predicate.Grammar

/-!
# Predicates read back

The text of a predicate has a reading in the grammar of search conditions and
only one, and the reading comes to what the predicate means. So whatever
combination a predicate was built for, that combination is what its text says.
-/

namespace SqlBuilder
namespace Predicate

variable {valuation : Valuation}

/-! ## The written form -/

/-- Every conjunction and every disjunction within a predicate has operands. -/
inductive HasOperands : Predicate → Prop
  | conj {operands : List Predicate} :
      operands ≠ [] →
      (∀ operand ∈ operands, HasOperands operand) →
      HasOperands (.conj operands)
  | disj {operands : List Predicate} :
      operands ≠ [] →
      (∀ operand ∈ operands, HasOperands operand) →
      HasOperands (.disj operands)
  | paren {inner : Predicate} : HasOperands inner → HasOperands (.paren inner)
  | existence (query : String) : HasOperands (.existence query)
  | raw (sql : String) : HasOperands (.raw sql)
  | always : HasOperands .always
  | never : HasOperands .never

/-- The phrase that a predicate is written as. -/
def phrase : Predicate → Phrase
  | .conj _ => .conjunction
  | .disj _ => .disjunction
  | _ => .operand

/-- The signs of the grammar that a predicate is written with. -/
def signs (predicate : Predicate) : List Sign :=
  predicate.tokens.flatMap Token.signs

/-- The grammar spells its words as a predicate is written. -/
theorem characters_signs (predicate : Predicate) :
    predicate.signs.flatMap Sign.characters = predicate.toSql.toList := by
  rw [signs, List.flatMap_assoc, toSql, String.toList_join, List.flatMap_map]
  exact List.flatMap_congr fun token _ => token.characters_signs

theorem Token.flatMap_signs_parenthesized (tokens : List Token) :
    (leftParen :: tokens ++ [rightParen]).flatMap Token.signs =
      spell "(" ++ tokens.flatMap Token.signs ++ spell ")" := by
  simp [Token.signs]

/-- An operand of a conjunction continues the row, in parentheses where it is a
disjunction. -/
theorem reads_group_isDisjunction
    {predicate : Predicate}
    {value : Bool}
    (reads : Reads valuation predicate.phrase predicate.signs value) :
    Reads valuation .conjunction
      ((Token.group predicate.isDisjunction predicate.tokens).flatMap Token.signs) value := by
  cases predicate with
  | conj operands => exact reads
  | disj operands =>
      rw [isDisjunction, Token.group, if_pos rfl, Token.flatMap_signs_parenthesized]
      exact .operand (.group reads)
  | paren | existence | raw | always | never => exact .operand reads

/-- An operand of a disjunction continues the row, in parentheses where it is a
conjunction. -/
theorem reads_group_isConjunction
    {predicate : Predicate}
    {value : Bool}
    (reads : Reads valuation predicate.phrase predicate.signs value) :
    Reads valuation .disjunction
      ((Token.group predicate.isConjunction predicate.tokens).flatMap Token.signs) value := by
  cases predicate with
  | conj operands =>
      rw [isConjunction, Token.group, if_pos rfl, Token.flatMap_signs_parenthesized]
      exact .conjunction (.operand (.group (.conjunction reads)))
  | disj operands => exact reads
  | paren | existence | raw | always | never => exact .conjunction (.operand reads)

theorem reads_conjunctionTokens
    {operands : List Predicate}
    (nonempty : operands ≠ [])
    (reads : ∀ operand ∈ operands,
      Reads valuation operand.phrase operand.signs (operand.holds valuation)) :
    Reads valuation .conjunction ((conjunctionTokens operands).flatMap Token.signs)
      (operands.all (holds valuation)) := by
  induction operands with
  | nil => exact absurd rfl nonempty
  | cons first rest inductionHypothesis =>
      rw [List.forall_mem_cons] at reads
      have firstReads := reads_group_isDisjunction reads.1
      cases rest with
      | nil =>
          rw [conjunctionTokens, List.all_cons, List.all_nil, Bool.and_true]
          exact firstReads
      | cons second rest =>
          rw [conjunctionTokens, List.all_cons, List.flatMap_append, List.flatMap_cons,
            ← List.append_assoc]
          exact firstReads.and_conjunction
            (inductionHypothesis (List.cons_ne_nil second rest) reads.2)

theorem reads_disjunctionTokens
    {operands : List Predicate}
    (nonempty : operands ≠ [])
    (reads : ∀ operand ∈ operands,
      Reads valuation operand.phrase operand.signs (operand.holds valuation)) :
    Reads valuation .disjunction ((disjunctionTokens operands).flatMap Token.signs)
      (operands.any (holds valuation)) := by
  induction operands with
  | nil => exact absurd rfl nonempty
  | cons first rest inductionHypothesis =>
      rw [List.forall_mem_cons] at reads
      have firstReads := reads_group_isConjunction reads.1
      cases rest with
      | nil =>
          rw [disjunctionTokens, List.any_cons, List.any_nil, Bool.or_false]
          exact firstReads
      | cons second rest =>
          rw [disjunctionTokens, List.any_cons, List.flatMap_append, List.flatMap_cons,
            ← List.append_assoc]
          exact firstReads.or_disjunction
            (inductionHypothesis (List.cons_ne_nil second rest) reads.2)

/-- The text of a predicate reads as what the predicate means. -/
theorem HasOperands.reads_signs
    {predicate : Predicate}
    (hasOperands : predicate.HasOperands)
    (valuation : Valuation) :
    Reads valuation predicate.phrase predicate.signs (predicate.holds valuation) := by
  induction hasOperands with
  | conj nonempty _ inductionHypothesis =>
      rw [signs, tokens, holds_conj]
      exact reads_conjunctionTokens nonempty inductionHypothesis
  | disj nonempty _ inductionHypothesis =>
      rw [signs, tokens, holds_disj]
      exact reads_disjunctionTokens nonempty inductionHypothesis
  | paren _ inductionHypothesis =>
      rw [signs, tokens, holds_paren, Token.flatMap_signs_parenthesized]
      exact .group inductionHypothesis.loosen
  | existence query =>
      rw [signs, tokens, holds, List.flatMap_singleton]
      exact .existence query
  | raw sql =>
      rw [signs, tokens, holds, List.flatMap_singleton]
      exact .raw sql
  | always =>
      rw [signs, tokens, holds, List.flatMap_singleton]
      exact .truth
  | never =>
      rw [signs, tokens, holds, List.flatMap_singleton]
      exact .falsity

/-! ## Stretches of the text -/

/-- The stretches of a predicate, in the order of its text. -/
def atoms (predicate : Predicate) : List Atom :=
  predicate.tokens.flatMap Token.atoms

theorem filterMap_atom?_signs (predicate : Predicate) :
    predicate.signs.filterMap Sign.atom? = predicate.atoms := by
  rw [signs, List.filterMap_flatMap]
  exact List.flatMap_congr fun token _ => token.filterMap_atom?_signs

theorem Token.flatMap_atoms_group (needed : Bool) (tokens : List Token) :
    (group needed tokens).flatMap Token.atoms = tokens.flatMap Token.atoms := by
  cases needed with
  | false => rfl
  | true => simp [group, Token.atoms]

theorem flatMap_atoms_conjunctionTokens (operands : List Predicate) :
    (conjunctionTokens operands).flatMap Token.atoms = operands.flatMap atoms := by
  induction operands with
  | nil => rfl
  | cons first rest inductionHypothesis =>
      cases rest with
      | nil => rw [conjunctionTokens, Token.flatMap_atoms_group, List.flatMap_singleton, atoms]
      | cons second rest =>
          rw [conjunctionTokens, List.flatMap_append, Token.flatMap_atoms_group, List.flatMap_cons,
            inductionHypothesis, List.flatMap_cons]
          rfl

theorem flatMap_atoms_disjunctionTokens (operands : List Predicate) :
    (disjunctionTokens operands).flatMap Token.atoms = operands.flatMap atoms := by
  induction operands with
  | nil => rfl
  | cons first rest inductionHypothesis =>
      cases rest with
      | nil => rw [disjunctionTokens, Token.flatMap_atoms_group, List.flatMap_singleton, atoms]
      | cons second rest =>
          rw [disjunctionTokens, List.flatMap_append, Token.flatMap_atoms_group, List.flatMap_cons,
            inductionHypothesis, List.flatMap_cons]
          rfl

@[simp] theorem atoms_conj (operands : List Predicate) :
    (conj operands).atoms = operands.flatMap atoms := by
  rw [atoms, tokens, flatMap_atoms_conjunctionTokens]

@[simp] theorem atoms_disj (operands : List Predicate) :
    (disj operands).atoms = operands.flatMap atoms := by
  rw [atoms, tokens, flatMap_atoms_disjunctionTokens]

@[simp] theorem atoms_paren (inner : Predicate) : (paren inner).atoms = inner.atoms := by
  rw [atoms, tokens]
  exact Token.flatMap_atoms_group true inner.tokens

/-! ## Building predicates -/

theorem HasOperands.all
    {operands : List Predicate}
    (hasOperands : ∀ operand ∈ operands, operand.HasOperands) :
    (Predicate.all operands).HasOperands := by
  match operands, hasOperands with
  | [], _ => exact .always
  | [only], hasOperands => exact hasOperands only (List.mem_singleton_self only)
  | first :: second :: rest, hasOperands => exact .conj (List.cons_ne_nil _ _) hasOperands

theorem HasOperands.any
    {operands : List Predicate}
    (hasOperands : ∀ operand ∈ operands, operand.HasOperands) :
    (Predicate.any operands).HasOperands := by
  match operands, hasOperands with
  | [], _ => exact .never
  | [only], hasOperands => exact hasOperands only (List.mem_singleton_self only)
  | first :: second :: rest, hasOperands => exact .disj (List.cons_ne_nil _ _) hasOperands

/-- A conjunction on the left takes in the predicate on the right; any other
predicate becomes an operand beside it. -/
theorem HasOperands.and
    {left right : Predicate}
    (leftHas : left.HasOperands)
    (rightHas : right.HasOperands) : (left.and right).HasOperands := by
  have pair : (Predicate.conj [left, right]).HasOperands :=
    .conj (List.cons_ne_nil _ _) (by simp [leftHas, rightHas])
  cases leftHas with
  | conj nonempty operandsHave =>
      refine .conj (List.append_ne_nil_of_left_ne_nil nonempty _) ?_
      rw [List.forall_mem_append, List.forall_mem_singleton]
      exact ⟨operandsHave, rightHas⟩
  | disj | paren | existence | raw | always | never => exact pair

theorem HasOperands.or
    {left right : Predicate}
    (leftHas : left.HasOperands)
    (rightHas : right.HasOperands) : (left.or right).HasOperands := by
  have pair : (Predicate.disj [left, right]).HasOperands :=
    .disj (List.cons_ne_nil _ _) (by simp [leftHas, rightHas])
  cases leftHas with
  | disj nonempty operandsHave =>
      refine .disj (List.append_ne_nil_of_left_ne_nil nonempty _) ?_
      rw [List.forall_mem_append, List.forall_mem_singleton]
      exact ⟨operandsHave, rightHas⟩
  | conj | paren | existence | raw | always | never => exact pair

@[simp] theorem holds_all (valuation : Valuation) (operands : List Predicate) :
    (Predicate.all operands).holds valuation = operands.all (holds valuation) := by
  match operands with
  | [] => rw [Predicate.all, holds_always, List.all_nil]
  | [only] => rw [Predicate.all, List.all_cons, List.all_nil, Bool.and_true]
  | first :: second :: rest => exact holds_conj valuation (first :: second :: rest)

@[simp] theorem holds_any (valuation : Valuation) (operands : List Predicate) :
    (Predicate.any operands).holds valuation = operands.any (holds valuation) := by
  match operands with
  | [] => rw [Predicate.any, holds, List.any_nil]
  | [only] => rw [Predicate.any, List.any_cons, List.any_nil, Bool.or_false]
  | first :: second :: rest => exact holds_disj valuation (first :: second :: rest)

@[simp] theorem atoms_all (operands : List Predicate) :
    (Predicate.all operands).atoms = operands.flatMap atoms := by
  match operands with
  | [] => rfl
  | [only] => rw [Predicate.all, List.flatMap_singleton]
  | first :: second :: rest => exact atoms_conj (first :: second :: rest)

@[simp] theorem atoms_any (operands : List Predicate) :
    (Predicate.any operands).atoms = operands.flatMap atoms := by
  match operands with
  | [] => rfl
  | [only] => rw [Predicate.any, List.flatMap_singleton]
  | first :: second :: rest => exact atoms_disj (first :: second :: rest)

@[simp] theorem atoms_and (left right : Predicate) :
    (left.and right).atoms = left.atoms ++ right.atoms := by
  cases left <;> simp [Predicate.and]

@[simp] theorem atoms_or (left right : Predicate) :
    (left.or right).atoms = left.atoms ++ right.atoms := by
  cases left <;> simp [Predicate.or]

/-! ## The text with its stretches -/

theorem marks_signs (predicate : Predicate) :
    Marks predicate.signs predicate.toSql predicate.atoms :=
  ⟨predicate.characters_signs, predicate.filterMap_atom?_signs⟩

/-- Where the raw fragments stand apart, the text can be read with no other signs. -/
theorem eq_signs_of_reads
    {predicate : Predicate}
    {signs : List Sign}
    {value : Bool}
    (apart : ∀ atom ∈ predicate.atoms, atom.standsApart)
    (marks : Marks signs predicate.toSql predicate.atoms)
    (reads : Reads valuation .disjunction signs value) : signs = predicate.signs := by
  obtain ⟨tokens, rfl, -⟩ := reads.exists_tokens
  have text_eq := marks.characters_eq
  have atoms_eq := marks.stretches_eq
  rw [List.flatMap_assoc, toSql, String.toList_join, List.flatMap_map] at text_eq
  rw [List.filterMap_flatMap] at atoms_eq
  simp only [Token.characters_signs] at text_eq
  simp only [Token.filterMap_atom?_signs] at atoms_eq
  rw [Predicate.signs, Token.eq_of_flatMap_eq apart text_eq.symm atoms_eq.symm]

end Predicate

/-- A boolean combination that a caller asks for, operation by operation. -/
inductive Combination where
  | raw (sql : String)
  | existence (query : String)
  | always
  | never
  | all (parts : List Combination)
  | any (parts : List Combination)
  | and (left right : Combination)
  | or (left right : Combination)
  | paren (inner : Combination)

namespace Combination

/-- Induction over a combination and the parts of its lists. -/
@[elab_as_elim, induction_eliminator]
theorem induction
    {motive : Combination → Prop}
    (raw : ∀ sql, motive (.raw sql))
    (existence : ∀ query, motive (.existence query))
    (always : motive .always)
    (never : motive .never)
    (all : ∀ parts, (∀ part ∈ parts, motive part) → motive (.all parts))
    (any : ∀ parts, (∀ part ∈ parts, motive part) → motive (.any parts))
    (and : ∀ left right, motive left → motive right → motive (.and left right))
    (or : ∀ left right, motive left → motive right → motive (.or left right))
    (paren : ∀ inner, motive inner → motive (.paren inner)) :
    ∀ combination, motive combination
  | .raw sql => raw sql
  | .existence query => existence query
  | .always => always
  | .never => never
  | .all parts => all parts fun part _ =>
      induction raw existence always never all any and or paren part
  | .any parts => any parts fun part _ =>
      induction raw existence always never all any and or paren part
  | .and left right => and left right
      (induction raw existence always never all any and or paren left)
      (induction raw existence always never all any and or paren right)
  | .or left right => or left right
      (induction raw existence always never all any and or paren left)
      (induction raw existence always never all any and or paren right)
  | .paren inner => paren inner
      (induction raw existence always never all any and or paren inner)

mutual

/-- The predicate that the operations build. -/
def predicate : Combination → Predicate
  | .raw sql => .raw sql
  | .existence query => .existence query
  | .always => .always
  | .never => .never
  | .all parts => .all (predicates parts)
  | .any parts => .any (predicates parts)
  | .and left right => left.predicate.and right.predicate
  | .or left right => left.predicate.or right.predicate
  | .paren inner => .paren inner.predicate

/-- The predicates of a list of parts. -/
def predicates : List Combination → List Predicate
  | [] => []
  | part :: rest => part.predicate :: predicates rest

end

mutual

/-- The combination holds under a valuation. -/
def holds (valuation : Valuation) : Combination → Bool
  | .raw sql => valuation.raw sql
  | .existence query => valuation.existence query
  | .always => true
  | .never => false
  | .all parts => allHold valuation parts
  | .any parts => anyHold valuation parts
  | .and left right => left.holds valuation && right.holds valuation
  | .or left right => left.holds valuation || right.holds valuation
  | .paren inner => inner.holds valuation

/-- All parts of a list hold; of no parts, all do. -/
def allHold (valuation : Valuation) : List Combination → Bool
  | [] => true
  | part :: rest => part.holds valuation && allHold valuation rest

/-- Some part of a list holds; of no parts, none does. -/
def anyHold (valuation : Valuation) : List Combination → Bool
  | [] => false
  | part :: rest => part.holds valuation || anyHold valuation rest

end

mutual

/-- The raw fragments and the queries that the caller gives, in order. -/
def atoms : Combination → List Predicate.Atom
  | .raw sql => [.raw sql]
  | .existence query => [.existence query]
  | .always => []
  | .never => []
  | .all parts => atomsOfParts parts
  | .any parts => atomsOfParts parts
  | .and left right => left.atoms ++ right.atoms
  | .or left right => left.atoms ++ right.atoms
  | .paren inner => inner.atoms

/-- The raw fragments and the queries of a list of parts. -/
def atomsOfParts : List Combination → List Predicate.Atom
  | [] => []
  | part :: rest => part.atoms ++ atomsOfParts rest

end

theorem predicates_eq_map (parts : List Combination) :
    predicates parts = parts.map predicate := by
  induction parts with
  | nil => rfl
  | cons part rest inductionHypothesis =>
      rw [predicates, inductionHypothesis, List.map_cons]

theorem allHold_eq_all (valuation : Valuation) (parts : List Combination) :
    allHold valuation parts = parts.all (holds valuation) := by
  induction parts with
  | nil => rfl
  | cons part rest inductionHypothesis =>
      rw [allHold, inductionHypothesis, List.all_cons]

theorem anyHold_eq_any (valuation : Valuation) (parts : List Combination) :
    anyHold valuation parts = parts.any (holds valuation) := by
  induction parts with
  | nil => rfl
  | cons part rest inductionHypothesis =>
      rw [anyHold, inductionHypothesis, List.any_cons]

theorem atomsOfParts_eq_flatMap (parts : List Combination) :
    atomsOfParts parts = parts.flatMap atoms := by
  induction parts with
  | nil => rfl
  | cons part rest inductionHypothesis =>
      rw [atomsOfParts, inductionHypothesis, List.flatMap_cons]

/-- No operation builds a conjunction or disjunction without operands. -/
theorem hasOperands_predicate (combination : Combination) :
    combination.predicate.HasOperands := by
  induction combination with
  | raw sql =>
      rw [predicate]
      exact .raw sql
  | existence query =>
      rw [predicate]
      exact .existence query
  | always =>
      rw [predicate]
      exact .always
  | never =>
      rw [predicate]
      exact .never
  | all parts inductionHypothesis =>
      rw [predicate, predicates_eq_map]
      exact .all (List.forall_mem_map.mpr inductionHypothesis)
  | any parts inductionHypothesis =>
      rw [predicate, predicates_eq_map]
      exact .any (List.forall_mem_map.mpr inductionHypothesis)
  | and left right leftHas rightHas =>
      rw [predicate]
      exact leftHas.and rightHas
  | or left right leftHas rightHas =>
      rw [predicate]
      exact leftHas.or rightHas
  | paren inner innerHas =>
      rw [predicate]
      exact .paren innerHas

/-- The predicate that is built means the combination that was asked for. -/
theorem holds_predicate (combination : Combination) (valuation : Valuation) :
    combination.predicate.holds valuation = combination.holds valuation := by
  induction combination with
  | raw | existence | always | never => rw [predicate, holds, Predicate.holds]
  | all parts inductionHypothesis =>
      rw [predicate, predicates_eq_map, Predicate.holds_all, List.all_map, holds,
        allHold_eq_all, Bool.eq_iff_iff, List.all_eq_true, List.all_eq_true]
      exact forall₂_congr fun part member => by
        rw [Function.comp_apply, inductionHypothesis part member]
  | any parts inductionHypothesis =>
      rw [predicate, predicates_eq_map, Predicate.holds_any, List.any_map, holds,
        anyHold_eq_any, Bool.eq_iff_iff, List.any_eq_true, List.any_eq_true]
      exact exists_congr fun part => and_congr_right fun member => by
        rw [Function.comp_apply, inductionHypothesis part member]
  | and left right leftHolds rightHolds =>
      rw [predicate, Predicate.holds_and, leftHolds, rightHolds, holds]
  | or left right leftHolds rightHolds =>
      rw [predicate, Predicate.holds_or, leftHolds, rightHolds, holds]
  | paren inner innerHolds =>
      rw [predicate, Predicate.holds_paren, innerHolds, holds]

/-- The predicate that is built is made of what the caller gave, in order. -/
theorem atoms_predicate (combination : Combination) :
    combination.predicate.atoms = combination.atoms := by
  have of_parts : ∀ parts : List Combination,
      (∀ part ∈ parts, part.predicate.atoms = part.atoms) →
      (predicates parts).flatMap Predicate.atoms = atomsOfParts parts := by
    intro parts inductionHypothesis
    rw [predicates_eq_map, List.flatMap_map, atomsOfParts_eq_flatMap]
    exact List.flatMap_congr inductionHypothesis
  induction combination with
  | raw | existence | always | never =>
      rw [predicate, atoms]
      rfl
  | all parts inductionHypothesis =>
      rw [predicate, atoms, Predicate.atoms_all, of_parts parts inductionHypothesis]
  | any parts inductionHypothesis =>
      rw [predicate, atoms, Predicate.atoms_any, of_parts parts inductionHypothesis]
  | and left right leftAtoms rightAtoms =>
      rw [predicate, atoms, Predicate.atoms_and, leftAtoms, rightAtoms]
  | or left right leftAtoms rightAtoms =>
      rw [predicate, atoms, Predicate.atoms_or, leftAtoms, rightAtoms]
  | paren inner innerAtoms =>
      rw [predicate, atoms, Predicate.atoms_paren, innerAtoms]

/-- The text that is written for a combination, with what the caller gave taken
as it stands, has one reading, and the reading has the truth value that was asked
for. Where the raw fragments begin unlike the words of the grammar, there is no
other way to find them in the text so that it can be read at all. -/
theorem reads_iff_eq_holds (combination : Combination) :
    ∃ signs,
      Predicate.Marks signs combination.predicate.toSql combination.atoms ∧
      (∀ valuation value, Predicate.Reads valuation .disjunction signs value ↔
        value = combination.holds valuation) ∧
      ((∀ atom ∈ combination.atoms, atom.standsApart) →
        ∀ others, Predicate.Marks others combination.predicate.toSql combination.atoms →
          ∀ valuation value, Predicate.Reads valuation .disjunction others value →
            others = signs) := by
  rw [← combination.atoms_predicate]
  refine ⟨combination.predicate.signs, combination.predicate.marks_signs,
    fun valuation value => ?_, fun apart others marks valuation value reads => ?_⟩
  · have reads := (combination.hasOperands_predicate.reads_signs valuation).loosen
    rw [combination.holds_predicate valuation] at reads
    constructor
    · intro otherReads
      exact otherReads.unique reads
    · rintro rfl
      exact reads
  · exact Predicate.eq_signs_of_reads apart marks reads

/-- Disjunctions inside a conjunction, one of them around a conjunction. -/
def nestedSample : Combination :=
  (any [.and (.raw "a") (.raw "b"), .or (.raw "c") (.existence "SELECT 1")]).and
    (.or (.raw "d") .never)

/-- A disjunction keeps its parentheses inside a conjunction that it is added to,
and a conjunction inside a disjunction. So `a` and `b` alone do not make the text
true. -/
theorem reads_iff_eq_holds_nestedSample :
    nestedSample.predicate.toSql = "((a AND b) OR c OR EXISTS (SELECT 1)) AND (d OR 1=0)" ∧
      ∃ signs,
        Predicate.Marks signs "((a AND b) OR c OR EXISTS (SELECT 1)) AND (d OR 1=0)"
          nestedSample.atoms ∧
        Predicate.Reads ⟨fun sql => sql == "a" || sql == "b", fun _ => false⟩
          .disjunction signs false ∧
        ∀ others,
          Predicate.Marks others "((a AND b) OR c OR EXISTS (SELECT 1)) AND (d OR 1=0)"
            nestedSample.atoms →
          ∀ valuation value, Predicate.Reads valuation .disjunction others value →
            others = signs := by
  have text : nestedSample.predicate.toSql =
      "((a AND b) OR c OR EXISTS (SELECT 1)) AND (d OR 1=0)" := by
    decide +kernel
  obtain ⟨signs, marks, reads, only⟩ := reads_iff_eq_holds nestedSample
  rw [text] at marks only
  exact ⟨text, signs, marks, (reads _ false).mpr rfl, only (by decide)⟩

end Combination
end SqlBuilder
