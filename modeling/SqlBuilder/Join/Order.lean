import SqlBuilder.Join.Basic

/-!
# The order of joins

A join by keys has to stand behind the join that brings in its source. The
placement here goes through the waiting joins again and again, and places each
join whose source is in scope. It stops when a whole pass places nothing; joins
that are left over wait for each other.
-/

namespace SqlBuilder
namespace Join

/-- The join can stand behind the joins that are placed already. A source that
is not brought in by a join of the same statement is always in scope. -/
def isReady (isLocal : TableRef → Bool) (placed : List Join) (join : Join) : Bool :=
  join.kind.isOrderIndependent ||
    match join.source with
    | none => true
    | some source => !isLocal source || placed.any fun other => other.target.same source

/-- One pass: the joins placed in all, and those that still wait. -/
def placePass (isLocal : TableRef → Bool) (placed : List Join) :
    List Join → List Join × List Join
  | [] => (placed, [])
  | join :: waiting =>
      if join.isReady isLocal placed then
        placePass isLocal (placed ++ [join]) waiting
      else
        let rest := placePass isLocal placed waiting
        (rest.1, join :: rest.2)

/-- Passes until one places nothing: the joins placed, and those left over. -/
def place (isLocal : TableRef → Bool) (placed waiting : List Join) :
    List Join × List Join :=
  let pass := placePass isLocal placed waiting
  if pass.2.length < waiting.length then
    place isLocal pass.1 pass.2
  else
    pass
termination_by waiting.length

/-- A join left over, as it is reported. -/
def unplaced (join : Join) : UnplacedJoin :=
  { source := join.source.map (·.aliasName), target := join.target.aliasName }

end Join
end SqlBuilder
