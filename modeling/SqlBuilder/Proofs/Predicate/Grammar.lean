import SqlBuilder.Proofs.Predicate.Meaning

/-!
# The grammar of search conditions

An AND binds tighter than an OR, and parentheses group. The grammar is over
text, character by character and with its own words; only raw fragments and the
queries of EXISTS are stretches that it does not look into. A text with such
stretches has one truth value at most, and the stretches can be found again
wherever the raw fragments begin unlike the words.
-/

namespace SqlBuilder
namespace Predicate

/-- A stretch of a search condition that is not looked into. -/
inductive Atom where
  | raw (sql : String)
  | existence (query : String)
  deriving DecidableEq, Repr

/-- A character of a search condition, or a stretch that is not looked into. -/
inductive Sign where
  | letter (char : Char)
  | atom (content : Atom)
  deriving DecidableEq, Repr

/-- The text that a stretch covers. -/
def Atom.text : Atom → String
  | .raw sql => sql
  | .existence query => query

/-- The characters of a sign. -/
def Sign.characters : Sign → List Char
  | .letter char => [char]
  | .atom content => content.text.toList

/-- The stretch of a sign. -/
def Sign.atom? : Sign → Option Atom
  | .letter _ => none
  | .atom content => some content

/-- Signs that stand for a text within which some stretches are not looked into. -/
structure Marks (signs : List Sign) (text : String) (stretches : List Atom) : Prop where
  characters_eq : signs.flatMap Sign.characters = text.toList
  stretches_eq : signs.filterMap Sign.atom? = stretches

/-- A word, letter by letter. -/
def spell (word : String) : List Sign :=
  word.toList.map Sign.letter

/-- The phrases of a search condition, from the tightest to the loosest. -/
inductive Phrase where
  | operand
  | conjunction
  | disjunction
  deriving DecidableEq, Repr

/-- Signs read as a phrase that has a truth value. A disjunction is a row of
conjunctions, a conjunction is a row of operands, and an operand is an atom, an
EXISTS with a query, a comparison of two digits, or a disjunction in parentheses. -/
inductive Reads (valuation : Valuation) : Phrase → List Sign → Bool → Prop
  | raw (sql : String) : Reads valuation .operand [.atom (.raw sql)] (valuation.raw sql)
  | existence (query : String) :
      Reads valuation .operand
        (spell "EXISTS (" ++ [.atom (.existence query)] ++ spell ")")
        (valuation.existence query)
  | truth : Reads valuation .operand (spell "1=1") true
  | falsity : Reads valuation .operand (spell "1=0") false
  | group {signs : List Sign} {value : Bool} :
      Reads valuation .disjunction signs value →
      Reads valuation .operand (spell "(" ++ signs ++ spell ")") value
  | operand {signs : List Sign} {value : Bool} :
      Reads valuation .operand signs value →
      Reads valuation .conjunction signs value
  | and {left right : List Sign} {first second : Bool} :
      Reads valuation .conjunction left first →
      Reads valuation .operand right second →
      Reads valuation .conjunction (left ++ spell " AND " ++ right) (first && second)
  | conjunction {signs : List Sign} {value : Bool} :
      Reads valuation .conjunction signs value →
      Reads valuation .disjunction signs value
  | or {left right : List Sign} {first second : Bool} :
      Reads valuation .disjunction left first →
      Reads valuation .conjunction right second →
      Reads valuation .disjunction (left ++ spell " OR " ++ right) (first || second)

variable {valuation : Valuation}

/-- A row of operands may be continued by a row of operands. -/
theorem Reads.and_conjunction
    {left right : List Sign}
    {first second : Bool}
    (leftReads : Reads valuation .conjunction left first)
    (rightReads : Reads valuation .conjunction right second) :
    Reads valuation .conjunction (left ++ spell " AND " ++ right) (first && second) := by
  generalize isConjunction : Phrase.conjunction = phrase at rightReads
  induction rightReads with
  | operand operandReads => exact .and leftReads operandReads
  | and _ lastReads inductionHypothesis _ =>
      have joined := (inductionHypothesis isConjunction).and lastReads
      rwa [List.append_assoc _ _ (spell " AND "), List.append_assoc (left ++ spell " AND "),
        Bool.and_assoc] at joined
  | raw | existence | truth | falsity | group | conjunction | or => cases isConjunction

/-- A row of conjunctions may be continued by a row of conjunctions. -/
theorem Reads.or_disjunction
    {left right : List Sign}
    {first second : Bool}
    (leftReads : Reads valuation .disjunction left first)
    (rightReads : Reads valuation .disjunction right second) :
    Reads valuation .disjunction (left ++ spell " OR " ++ right) (first || second) := by
  generalize isDisjunction : Phrase.disjunction = phrase at rightReads
  induction rightReads with
  | conjunction conjunctionReads => exact .or leftReads conjunctionReads
  | or _ lastReads inductionHypothesis _ =>
      have joined := (inductionHypothesis isDisjunction).or lastReads
      rwa [List.append_assoc _ _ (spell " OR "), List.append_assoc (left ++ spell " OR "),
        Bool.or_assoc] at joined
  | raw | existence | truth | falsity | group | operand | and => cases isDisjunction

/-- Every phrase is a disjunction, if only of itself. -/
theorem Reads.loosen
    {phrase : Phrase}
    {signs : List Sign}
    {value : Bool}
    (reads : Reads valuation phrase signs value) :
    Reads valuation .disjunction signs value := by
  cases phrase with
  | operand => exact .conjunction (.operand reads)
  | conjunction => exact .conjunction reads
  | disjunction => exact reads

/-! ## Tokens in a text -/

namespace Token

/-- The signs that a token stands for in the grammar. -/
def signs : Token → List Sign
  | .atom sql => [.atom (.raw sql)]
  | .existence query => spell "EXISTS (" ++ [.atom (.existence query)] ++ spell ")"
  | .truth => spell "1=1"
  | .falsity => spell "1=0"
  | .conjunction => spell " AND "
  | .disjunction => spell " OR "
  | .leftParen => spell "("
  | .rightParen => spell ")"

theorem characters_signs (token : Token) :
    token.signs.flatMap Sign.characters = token.toSql.toList := by
  cases token <;> simp [signs, spell, Sign.characters, Atom.text, toSql]

theorem signs_ne_nil (token : Token) : token.signs ≠ [] := by
  cases token <;> simp [signs, spell]

/-- No token stands at the beginning of another. -/
theorem eq_of_signs_append_eq
    {first second : Token}
    {firstRest secondRest : List Sign}
    (signs_eq : first.signs ++ firstRest = second.signs ++ secondRest) : first = second := by
  cases first <;> cases second <;> simp_all [signs, spell]

/-- Signs are cut into tokens in one way at most. -/
theorem flatMap_signs_injective : Function.Injective (List.flatMap signs) := by
  intro first
  induction first with
  | nil =>
      rintro (_ | ⟨token, rest⟩) signs_eq
      · rfl
      · exact absurd (List.append_eq_nil_iff.mp signs_eq.symm).1 token.signs_ne_nil
  | cons token rest inductionHypothesis =>
      rintro (_ | ⟨other, otherRest⟩) signs_eq
      · exact absurd (List.append_eq_nil_iff.mp signs_eq).1 token.signs_ne_nil
      · obtain rfl := eq_of_signs_append_eq signs_eq
        rw [inductionHypothesis (List.append_cancel_left signs_eq)]

end Token

/-! ## One value at most -/

/-- How far the reading between two parentheses has come: whether some finished
conjunction holds, and whether all operands of the unfinished one do so far. -/
structure Tally where
  settled : Bool := false
  pending : Bool := true

namespace Tally

/-- The value if nothing else followed. -/
def value (tally : Tally) : Bool :=
  tally.settled || tally.pending

/-- One more operand of the unfinished conjunction. -/
def require (tally : Tally) (operand : Bool) : Tally :=
  { tally with pending := tally.pending && operand }

/-- Take in one token, with a tally for each parenthesis that is open and one for
the whole. -/
def read (valuation : Valuation) : List Tally → Token → List Tally
  | tally :: outer, .atom sql => tally.require (valuation.raw sql) :: outer
  | tally :: outer, .existence query => tally.require (valuation.existence query) :: outer
  | tally :: outer, .truth => tally.require true :: outer
  | tally :: outer, .falsity => tally.require false :: outer
  | tally :: outer, .disjunction => { settled := tally.value } :: outer
  | tallies, .leftParen => {} :: tallies
  | inner :: tally :: outer, .rightParen => tally.require inner.value :: outer
  | tallies, _ => tallies

theorem require_require (tally : Tally) (first second : Bool) :
    (tally.require first).require second = tally.require (first && second) := by
  rw [require, require, require, Bool.and_assoc]

/-- What reading a phrase adds to the tallies. A disjunction may begin only where
no conjunction is unfinished. -/
def Adds (valuation : Valuation) (tokens : List Token) (value : Bool) : Phrase → Prop
  | .disjunction => ∀ settled outer, ∃ tally : Tally,
      tokens.foldl (read valuation) ({ settled := settled } :: outer) = tally :: outer ∧
        tally.value = (settled || value)
  | _ => ∀ tally outer,
      tokens.foldl (read valuation) (tally :: outer) = tally.require value :: outer

theorem Adds.group
    {tokens : List Token}
    {value : Bool}
    (adds : Adds valuation tokens value .disjunction) :
    Adds valuation (.leftParen :: tokens ++ [.rightParen]) value .operand := by
  intro tally outer
  obtain ⟨inside, read_eq, value_eq⟩ := adds false (tally :: outer)
  rw [List.cons_append, List.foldl_cons, List.foldl_append, read, read_eq,
    List.foldl_cons, List.foldl_nil, read, value_eq, Bool.false_or]

theorem Adds.and
    {left right : List Token}
    {first second : Bool}
    (leftAdds : Adds valuation left first .conjunction)
    (rightAdds : Adds valuation right second .operand) :
    Adds valuation (left ++ .conjunction :: right) (first && second) .conjunction := by
  intro tally outer
  rw [List.foldl_append, leftAdds, List.foldl_cons, read, rightAdds, require_require]
  all_goals simp

theorem Adds.disjunction
    {tokens : List Token}
    {value : Bool}
    (adds : Adds valuation tokens value .conjunction) :
    Adds valuation tokens value .disjunction := by
  intro settled outer
  refine ⟨_, adds _ outer, ?_⟩
  rw [Tally.value, require, Bool.true_and]

theorem Adds.or
    {left right : List Token}
    {first second : Bool}
    (leftAdds : Adds valuation left first .disjunction)
    (rightAdds : Adds valuation right second .conjunction) :
    Adds valuation (left ++ .disjunction :: right) (first || second) .disjunction := by
  intro settled outer
  obtain ⟨tally, read_eq, value_eq⟩ := leftAdds settled outer
  rw [List.foldl_append, read_eq, List.foldl_cons, read]
  refine ⟨_, rightAdds _ outer, ?_⟩
  rw [Tally.value, require, Bool.true_and, value_eq, Bool.or_assoc]

end Tally

/-- What can be read consists of tokens, and taking them in from left to right
adds the value of the phrase. -/
theorem Reads.exists_tokens
    {phrase : Phrase}
    {signs : List Sign}
    {value : Bool}
    (reads : Reads valuation phrase signs value) :
    ∃ tokens : List Token,
      tokens.flatMap Token.signs = signs ∧ Tally.Adds valuation tokens value phrase := by
  induction reads with
  | raw sql => exact ⟨[.atom sql], rfl, fun _ _ => rfl⟩
  | existence query => exact ⟨[.existence query], rfl, fun _ _ => rfl⟩
  | truth => exact ⟨[.truth], rfl, fun _ _ => rfl⟩
  | falsity => exact ⟨[.falsity], rfl, fun _ _ => rfl⟩
  | group _ inductionHypothesis =>
      obtain ⟨tokens, rfl, adds⟩ := inductionHypothesis
      exact ⟨.leftParen :: tokens ++ [.rightParen], by simp [Token.signs], adds.group⟩
  | operand _ inductionHypothesis => exact inductionHypothesis
  | and _ _ leftHypothesis rightHypothesis =>
      obtain ⟨left, rfl, leftAdds⟩ := leftHypothesis
      obtain ⟨right, rfl, rightAdds⟩ := rightHypothesis
      exact ⟨left ++ .conjunction :: right, by simp [Token.signs], leftAdds.and rightAdds⟩
  | conjunction _ inductionHypothesis =>
      obtain ⟨tokens, signs_eq, adds⟩ := inductionHypothesis
      exact ⟨tokens, signs_eq, adds.disjunction⟩
  | or _ _ leftHypothesis rightHypothesis =>
      obtain ⟨left, rfl, leftAdds⟩ := leftHypothesis
      obtain ⟨right, rfl, rightAdds⟩ := rightHypothesis
      exact ⟨left ++ .disjunction :: right, by simp [Token.signs], leftAdds.or rightAdds⟩

/-- No two readings of the same signs differ. -/
theorem Reads.unique
    {signs : List Sign}
    {first second : Bool}
    (firstReads : Reads valuation .disjunction signs first)
    (secondReads : Reads valuation .disjunction signs second) : first = second := by
  obtain ⟨tokens, tokens_eq, firstAdds⟩ := firstReads.exists_tokens
  obtain ⟨others, rfl, secondAdds⟩ := secondReads.exists_tokens
  -- Both readings are of the same tokens, so they leave the same tally behind.
  obtain rfl := Token.flatMap_signs_injective tokens_eq
  obtain ⟨tally, read_eq, value_eq⟩ := firstAdds false []
  obtain ⟨other, other_eq, otherValue_eq⟩ := secondAdds false []
  rw [read_eq, List.cons.injEq] at other_eq
  rw [← Bool.false_or first, ← value_eq, other_eq.1, otherValue_eq, Bool.false_or]

/-! ## Stretches found again -/

/-- A raw fragment stands apart if it begins unlike the words around it. Behind
EXISTS and a parenthesis anything may stand. -/
def Atom.standsApart : Atom → Bool
  | .raw sql => sql.toList.head?.any fun first => first ∉ [' ', '(', ')', '1']
  | .existence _ => true

theorem Atom.exists_cons_of_standsApart {sql : String} (apart : (raw sql).standsApart = true) :
    ∃ first rest, sql.toList = first :: rest ∧ first ∉ [' ', '(', ')', '1'] := by
  rw [standsApart] at apart
  cases letters : sql.toList with
  | nil =>
      rw [letters] at apart
      cases apart
  | cons first rest =>
      rw [letters, List.head?_cons, Option.any_some] at apart
      exact ⟨first, rest, rfl, of_decide_eq_true apart⟩

namespace Token

/-- The stretches within a token. -/
def atoms : Token → List Atom
  | .atom sql => [.raw sql]
  | .existence query => [.existence query]
  | _ => []

theorem filterMap_atom?_signs (token : Token) :
    token.signs.filterMap Sign.atom? = token.atoms := by
  cases token <;> simp [signs, spell, atoms, List.filterMap_cons, Sign.atom?]

theorem toList_toSql_ne_nil
    {token : Token}
    (apart : ∀ atom ∈ token.atoms, atom.standsApart) : token.toSql.toList ≠ [] := by
  cases token with
  | atom sql =>
      obtain ⟨first, rest, sql_eq, -⟩ :=
        Atom.exists_cons_of_standsApart (apart _ (List.mem_singleton_self _))
      rw [toSql, sql_eq]
      exact List.cons_ne_nil first rest
  | _ => simp [toSql]

/-- A raw fragment that stands apart is not taken for a word. -/
theorem eq_atom_of_append_eq
    {sql : String}
    {token : Token}
    {text rest : List Char}
    {atoms others : List Atom}
    (apart : (Atom.raw sql).standsApart = true)
    (text_eq : sql.toList ++ text = token.toSql.toList ++ rest)
    (atoms_eq : .raw sql :: atoms = token.atoms ++ others) : token = .atom sql := by
  obtain ⟨first, tail, sql_eq, first_not_mem⟩ := Atom.exists_cons_of_standsApart apart
  rw [sql_eq, List.cons_append] at text_eq
  cases token <;> simp_all [toSql, Token.atoms]

/-- Between the same texts and the same stretches, tokens cannot differ. -/
theorem eq_of_append_eq
    {first second : Token}
    {firstText secondText : List Char}
    {firstAtoms secondAtoms : List Atom}
    (firstApart : ∀ atom ∈ first.atoms, atom.standsApart)
    (secondApart : ∀ atom ∈ second.atoms, atom.standsApart)
    (text_eq : first.toSql.toList ++ firstText = second.toSql.toList ++ secondText)
    (atoms_eq : first.atoms ++ firstAtoms = second.atoms ++ secondAtoms) :
    first = second := by
  by_cases firstRaw : ∃ sql, first = .atom sql
  · obtain ⟨sql, rfl⟩ := firstRaw
    exact (eq_atom_of_append_eq (firstApart _ (List.mem_singleton_self _))
      text_eq atoms_eq).symm
  by_cases secondRaw : ∃ sql, second = .atom sql
  · obtain ⟨sql, rfl⟩ := secondRaw
    exact eq_atom_of_append_eq (secondApart _ (List.mem_singleton_self _))
      text_eq.symm atoms_eq.symm
  cases first <;> cases second <;> simp_all [toSql, atoms]

/-- Tokens whose raw fragments stand apart are determined by their text and their
stretches. -/
theorem eq_of_flatMap_eq
    {first second : List Token}
    (apart : ∀ atom ∈ first.flatMap atoms, atom.standsApart)
    (text_eq : first.flatMap (fun token => token.toSql.toList) =
      second.flatMap fun token => token.toSql.toList)
    (atoms_eq : first.flatMap atoms = second.flatMap atoms) : first = second := by
  -- Both lists have these stretches, and the induction needs the condition on each.
  have otherApart := apart
  rw [atoms_eq] at otherApart
  induction first generalizing second with
  | nil =>
      cases second with
      | nil => rfl
      | cons token rest =>
          rw [List.flatMap_cons, List.forall_mem_append] at otherApart
          exact absurd (List.append_eq_nil_iff.mp text_eq.symm).1
            (toList_toSql_ne_nil otherApart.1)
  | cons token rest inductionHypothesis =>
      rw [List.flatMap_cons, List.forall_mem_append] at apart
      cases second with
      | nil =>
          exact absurd (List.append_eq_nil_iff.mp text_eq).1 (toList_toSql_ne_nil apart.1)
      | cons other otherRest =>
          rw [List.flatMap_cons, List.forall_mem_append] at otherApart
          rw [List.flatMap_cons, List.flatMap_cons] at text_eq atoms_eq
          obtain rfl := eq_of_append_eq apart.1 otherApart.1 text_eq atoms_eq
          rw [inductionHypothesis apart.2 (List.append_cancel_left text_eq)
            (List.append_cancel_left atoms_eq) otherApart.2]

end Token
end Predicate
end SqlBuilder
