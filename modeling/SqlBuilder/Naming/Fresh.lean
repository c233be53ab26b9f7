/-!
# Fresh names

A fresh name is the first numbered name that is not in use. The search tries a
bounded number of candidates; one candidate more than there are names in use is
always enough when different numbers give different names.
-/

namespace SqlBuilder

/-- The first name not taken among so many candidates, numbered from a start. -/
def freshName? (taken : String → Bool) (name : Nat → String) (start : Nat) :
    Nat → Option String
  | 0 => none
  | attempts + 1 =>
      if taken (name start) then
        freshName? taken name (start + 1) attempts
      else
        some (name start)

end SqlBuilder
