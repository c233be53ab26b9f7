/-!
# Predicates

Truth-valued expressions of WHERE, HAVING and join conditions. The text of a
predicate is the text of its tokens, and the tokens decide where parentheses
stand: a disjunction directly inside a conjunction gets them, and so does a
conjunction directly inside a disjunction.
-/

namespace SqlBuilder

/-- A predicate. -/
inductive Predicate where
  /-- All operands hold. -/
  | conj (operands : List Predicate)
  /-- Some operand holds. -/
  | disj (operands : List Predicate)
  /-- A predicate in parentheses of its own. -/
  | paren (inner : Predicate)
  /-- The query with this text returns a row. -/
  | existence (query : String)
  /-- A fragment that is taken as it stands. -/
  | raw (sql : String)
  /-- Holds always. -/
  | always
  /-- Holds never. -/
  | never
  deriving Inhabited

namespace Predicate

/-- The conjunction of a list; a single predicate stays as it is. -/
def all : List Predicate → Predicate
  | [] => .always
  | [only] => only
  | operands => .conj operands

/-- The disjunction of a list; a single predicate stays as it is. -/
def any : List Predicate → Predicate
  | [] => .never
  | [only] => only
  | operands => .disj operands

/-- Conjunction of two predicates. A conjunction on the left takes the second
predicate as one more operand. -/
def and (left right : Predicate) : Predicate :=
  match left with
  | .conj operands => .conj (operands ++ [right])
  | other => .conj [other, right]

/-- Disjunction of two predicates. A disjunction on the left takes the second
predicate as one more operand. -/
def or (left right : Predicate) : Predicate :=
  match left with
  | .disj operands => .disj (operands ++ [right])
  | other => .disj [other, right]

/-- The predicate that holds always. -/
def isAlways : Predicate → Bool
  | .always => true
  | _ => false

/-- A disjunction, with no parentheses of its own. -/
def isDisjunction : Predicate → Bool
  | .disj _ => true
  | _ => false

/-- A conjunction, with no parentheses of its own. -/
def isConjunction : Predicate → Bool
  | .conj _ => true
  | _ => false

/-- A piece of the written form of a predicate. -/
inductive Token where
  | atom (sql : String)
  | existence (query : String)
  | truth
  | falsity
  | conjunction
  | disjunction
  | leftParen
  | rightParen
  deriving DecidableEq, Repr

/-- The text of a token, spaces around it included. -/
def Token.toSql : Token → String
  | .atom sql => sql
  | .existence query => "EXISTS (" ++ query ++ ")"
  | .truth => "1=1"
  | .falsity => "1=0"
  | .conjunction => " AND "
  | .disjunction => " OR "
  | .leftParen => "("
  | .rightParen => ")"

/-- Put tokens in parentheses when they need it. -/
def Token.group (needed : Bool) (tokens : List Token) : List Token :=
  if needed then .leftParen :: tokens ++ [.rightParen] else tokens

mutual

/-- The written form of a predicate. -/
def tokens : Predicate → List Token
  | .conj operands => conjunctionTokens operands
  | .disj operands => disjunctionTokens operands
  | .paren inner => .leftParen :: inner.tokens ++ [.rightParen]
  | .existence query => [.existence query]
  | .raw sql => [.atom sql]
  | .always => [.truth]
  | .never => [.falsity]

/-- The written form of the operands of a conjunction. -/
def conjunctionTokens : List Predicate → List Token
  | [] => []
  | [only] => Token.group only.isDisjunction only.tokens
  | first :: second :: rest =>
      Token.group first.isDisjunction first.tokens ++
        .conjunction :: conjunctionTokens (second :: rest)

/-- The written form of the operands of a disjunction. -/
def disjunctionTokens : List Predicate → List Token
  | [] => []
  | [only] => Token.group only.isConjunction only.tokens
  | first :: second :: rest =>
      Token.group first.isConjunction first.tokens ++
        .disjunction :: disjunctionTokens (second :: rest)

end

/-- The predicate as SQL text. -/
def toSql (predicate : Predicate) : String :=
  String.join (predicate.tokens.map Token.toSql)

end Predicate
end SqlBuilder
