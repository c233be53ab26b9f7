import SqlBuilder.Dialect.Basic

/-!
# Row locks

A request for row locks is met by a trailing clause or by hints on tables,
whichever the dialect has. It never fails: a lock that cannot be had is left
out and reported, together with every clause that rules it out.
-/

namespace SqlBuilder
namespace Capabilities

/-- The hint after the primary table, when row locks are asked for. -/
def fromHint? (capabilities : Capabilities) (requested : Bool) : Option String :=
  if requested && capabilities.lock.hintAfterFrom then
    some capabilities.lock.hintText
  else
    none

/-- The hint after every joined table, when row locks are asked for. -/
def joinHint? (capabilities : Capabilities) (requested : Bool) : Option String :=
  if requested && capabilities.lock.hintWithinJoin then
    some capabilities.lock.hintText
  else
    none

/-- The clauses, out of those present, that rule out a trailing lock. -/
def blockers (capabilities : Capabilities) (isPresent : LockBlocker → Bool) :
    List LockBlocker :=
  LockBlocker.all.filter fun clause => isPresent clause && !capabilities.lock.allows clause

/-- The trailing clause, and what is reported when there is none. -/
def forUpdate
    (capabilities : Capabilities)
    (isPresent : LockBlocker → Bool)
    (requested nowait : Bool) : Option String × List Event :=
  if !requested then
    (none, [])
  else if !capabilities.lock.selectForUpdate then
    (none,
      if capabilities.lock.usesHints then [] else [.lockUnavailable capabilities.name])
  else
    match capabilities.blockers isPresent with
    | [] =>
        (some (capabilities.lock.forUpdateText ++
          (if nowait && capabilities.lock.nowait then " NOWAIT" else "")), [])
    | blocking => (none, [.lockBlocked capabilities.name blocking])

end Capabilities
end SqlBuilder
