import SqlBuilder.Error
import SqlBuilder.Options
import SqlBuilder.Registry

/-!
# Naming of tables

A namer chooses the alias of a table that is about to be registered. It sees
the registered tables, the nesting depth of the statement, the table and its
group. Namers are published under keys, and a key keeps the namer that was
published first. The schemes defined here wait to be asked for: the first use of
such a key publishes its scheme, unless another namer has come before.
-/

namespace SqlBuilder

/-- What a namer sees of the statement. -/
structure NamingContext where
  registry : Registry
  /-- Zero for a statement at the top, one for a subquery of it, and so on. -/
  depth : Nat

namespace NamingContext

/-- Number of table groups. -/
def groupCount (context : NamingContext) : Nat :=
  context.registry.groups.length

/-- Position of a group in order of creation. -/
def groupPosition? (context : NamingContext) (group : String) : Option Nat :=
  context.registry.groups.findIdx? fun found => found.name == group

/-- Number of tables in a group. -/
def tablesInGroup (context : NamingContext) (group : String) : Nat :=
  ((context.registry.group? group).map fun found => found.tables.length).getD 0

/-- Number of registered tables. -/
def tableCount (context : NamingContext) : Nat :=
  context.registry.size

/-- An alias is in use. -/
def isTaken (context : NamingContext) (aliasName : String) : Bool :=
  context.registry.isTaken aliasName

/-- The ending of aliases at this depth, one piece for each level. -/
def suffix (context : NamingContext) : String :=
  String.join (List.replicate context.depth "_SUB")

/-- The first free alias of the form stem, number, suffix, counting from a
number. -/
def firstFree (context : NamingContext) (stem : String) (start : Nat) : String :=
  (freshName? context.isTaken
    (fun number => stem ++ toString number ++ context.suffix)
    start (context.tableCount + 1)).getD ""

end NamingContext

/-- A rule for the alias of a table in a group. -/
abbrev Namer := NamingContext → Table → String → String

namespace Namer

/-- The letters of a number in bijective base 26: A to Z, AA, AB and so on. -/
def lettersOf (index : Nat) : List Char :=
  if index < 26 then
    [Char.ofNat (65 + index)]
  else
    lettersOf (index / 26 - 1) ++ [Char.ofNat (65 + index % 26)]
termination_by index

/-- The letters of a number, as text. -/
def letters (index : Nat) : String :=
  String.ofList (lettersOf index)

/-- Letters for the group, then a number for the table within it. A group that
does not exist yet takes the letters of the next position. -/
def alpha : Namer := fun context _ group =>
  context.firstFree
    (letters ((context.groupPosition? group).getD context.groupCount))
    (context.tablesInGroup group)

/-- The letter T, then a number for the table within the statement. -/
def numbered : Namer := fun context _ _ =>
  context.firstFree "T" context.tableCount

end Namer

/-- The namers that statements can ask for. -/
structure NamingStrategies where
  /-- Namers under their keys, in order of publication. -/
  published : List (String × Namer)
  /-- Namers that are published when their keys are first asked for. -/
  waiting : List (String × Namer)

namespace NamingStrategies

/-- Nothing has been published, and the two schemes wait. -/
def initial : NamingStrategies :=
  { published := []
    waiting := [(defaultNamingStrategy, Namer.alpha), ("t-scheme", Namer.numbered)] }

/-- The namer that a key leads to. -/
def get? (strategies : NamingStrategies) (key : String) : Option Namer :=
  (strategies.published.lookup key).or (strategies.waiting.lookup key)

/-- The namer that a key leads to, or the error that there is none. -/
def resolve (strategies : NamingStrategies) (key : String) :
    Except StatementError Namer :=
  match strategies.get? key with
  | some namer => .ok namer
  | none => .error (.unknownNamingStrategy key)

/-- A namer has been published under a key. -/
def isPublished (strategies : NamingStrategies) (key : String) : Bool :=
  (strategies.published.lookup key).isSome

/-- Publish a namer under a key, unless one has been. -/
def publish (strategies : NamingStrategies) (key : String) (namer : Namer) :
    NamingStrategies :=
  if strategies.isPublished key then strategies
  else { strategies with published := strategies.published ++ [(key, namer)] }

/-- The namers after a key has been asked for: what it leads to is published. -/
def settle (strategies : NamingStrategies) (key : String) : NamingStrategies :=
  match strategies.get? key with
  | some namer => strategies.publish key namer
  | none => strategies

/-- Both schemes have been asked for. -/
def standard : NamingStrategies :=
  (initial.settle defaultNamingStrategy).settle "t-scheme"

/-- Publishing what a key leads to changes nothing about where the keys lead. -/
theorem get?_publish_of_get?
    {strategies : NamingStrategies}
    {key : String}
    {namer : Namer}
    (found : strategies.get? key = some namer)
    (other : String) :
    (strategies.publish key namer).get? other = strategies.get? other := by
  rw [publish, isPublished]
  cases present : strategies.published.lookup key with
  | some first => rfl
  | none =>
      rw [Option.isSome_none, if_neg Bool.false_ne_true, get?, List.lookup_append]
      by_cases same : other = key
      · rw [same, found, present, List.lookup_cons_self]
        rfl
      · have absent : List.lookup other [(key, namer)] = none := by
          rw [List.lookup_cons, beq_false_of_ne same]
          rfl
        rw [absent, Option.or_none, get?]

/-- Asking for a key changes the answer for no key. -/
theorem get?_settle (strategies : NamingStrategies) (key other : String) :
    (strategies.settle key).get? other = strategies.get? other := by
  rw [settle]
  cases found : strategies.get? key with
  | none => rfl
  | some namer => exact get?_publish_of_get? found other

end NamingStrategies
end SqlBuilder
