import SqlBuilder.Statement.Basic

/-!
# Union branches
-/

namespace SqlBuilder
namespace Statement

/-- Unite another statement with this one, where the dialect has unions. -/
def union (statement other : Statement) : Outcome Statement Unit :=
  let capabilities := statement.block.capabilities
  if capabilities.unions then
    .ok (.node statement.block.invalidate (statement.branches ++ [other])) ()
  else
    .fail statement (.unsupported .union capabilities.name)

/-- The branch reached by a path of positions. -/
def branchAt? (statement : Statement) : List Nat → Option Statement
  | [] => some statement
  | position :: path =>
      statement.branches[position]?.bind fun branch => branch.branchAt? path

/-- Operate on the branch reached by a path. Every statement passed on the way
forgets its last rendering, since that holds the text of the branch. There is
no outcome when the path leads nowhere. -/
def onBranch
    {Value : Type}
    (operate : Statement → Outcome Statement Value)
    (statement : Statement) : List Nat → Option (Outcome Statement Value)
  | [] => some (operate statement)
  | position :: path =>
      statement.branches[position]?.bind fun branch =>
        (branch.onBranch operate path).map <|
          Outcome.mapState fun changed =>
            .node statement.block.invalidate (statement.branches.set position changed)

end Statement
end SqlBuilder
