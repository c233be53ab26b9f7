import SqlBuilder.Join.Basic
import SqlBuilder.Naming.Fresh

/-!
# Registered tables and table groups

A statement registers its tables in order. Each table names the group it
belongs to, and a group keeps its members together with the kind of join that
created it. So the tables are kept twice, in one list and group by group. A
group stays when its last member is removed.
-/

namespace SqlBuilder

/-- A table group with its members, in order of registration, and the kind of
join that created it. The group of the primary table was created by none. -/
structure TableGroup where
  name : String
  joinKind : Option JoinKind
  tables : List TableRef := []
  deriving DecidableEq, Repr

namespace TableGroup

/-- The first member of a group. -/
def anchor? (group : TableGroup) : Option TableRef :=
  group.tables.head?

/-- The group in words: its name, its members, and the kind of its join. -/
def description (group : TableGroup) : String :=
  let members := String.intercalate ", " (group.tables.map TableRef.toSql)
  let base := group.name ++ " [" ++ members ++ "]"
  match group.joinKind with
  | some kind => base ++ " (" ++ kind.label ++ ")"
  | none => base

/-- The group with one more member. -/
def addMember (group : TableGroup) (ref : TableRef) : TableGroup :=
  { group with tables := group.tables ++ [ref] }

/-- The group without the members under an alias. -/
def dropAlias (group : TableGroup) (aliasName : String) : TableGroup :=
  { group with tables := group.tables.filter fun ref => ref.aliasName != aliasName }

/-- Change the first group of a name. -/
def changeFirst (name : String) (change : TableGroup → TableGroup) :
    List TableGroup → List TableGroup
  | [] => []
  | group :: rest =>
      if group.name == name then change group :: rest
      else group :: changeFirst name change rest

end TableGroup

/-- The tables of a statement, in order of registration, and their groups, in
order of creation. -/
structure Registry where
  tables : List TableRef := []
  groups : List TableGroup := []
  deriving DecidableEq, Repr

namespace Registry

/-- The registry without tables. -/
def empty : Registry := {}

/-- Number of registered tables. -/
def size (registry : Registry) : Nat :=
  registry.tables.length

/-- The table registered under an alias. -/
def get? (registry : Registry) (aliasName : String) : Option TableRef :=
  registry.tables.find? fun ref => ref.aliasName == aliasName

/-- An alias is in use. -/
def isTaken (registry : Registry) (aliasName : String) : Bool :=
  (registry.get? aliasName).isSome

/-- A group has this name. -/
def hasGroup (registry : Registry) (name : String) : Bool :=
  registry.groups.any fun group => group.name == name

/-- The group with a name. -/
def group? (registry : Registry) (name : String) : Option TableGroup :=
  registry.groups.find? fun group => group.name == name

/-- The table with the given table name inside a group. -/
def findInGroup? (registry : Registry) (table group : String) : Option TableRef :=
  (registry.group? group).bind fun found =>
    found.tables.find? fun ref => ref.table.name == table

/-- The first table with the given table name, group by group. -/
def findTable? (registry : Registry) (table : String) : Option TableRef :=
  (registry.groups.flatMap TableGroup.tables).find? fun ref => ref.table.name == table

/-- The name that is generated for a group from a number. -/
def numberedGroup (number : Nat) : String :=
  "Group" ++ toString number

/-- A name for a new group: the first numbered name that is free, counting from
the number of groups. -/
def nextGroupName (registry : Registry) : String :=
  let count := registry.groups.length
  (freshName? registry.hasGroup numberedGroup count (count + 1)).getD ""

/-- Register a table into its group, which is created if there is none of that
name. -/
def insert (registry : Registry) (ref : TableRef) (kind : Option JoinKind) :
    Registry :=
  { tables := registry.tables ++ [ref]
    groups :=
      if registry.hasGroup ref.group then
        TableGroup.changeFirst ref.group (·.addMember ref) registry.groups
      else
        registry.groups ++ [{ name := ref.group, joinKind := kind, tables := [ref] }] }

/-- Unregister the table under an alias, also in its group. The group stays,
even when empty. -/
def erase (registry : Registry) (aliasName : String) : Registry :=
  { tables := registry.tables.eraseP fun ref => ref.aliasName == aliasName
    groups :=
      match registry.get? aliasName with
      | some ref => TableGroup.changeFirst ref.group (·.dropAlias aliasName) registry.groups
      | none => registry.groups }

@[simp] theorem tables_insert
    (registry : Registry)
    (ref : TableRef)
    (kind : Option JoinKind) :
    (registry.insert ref kind).tables = registry.tables ++ [ref] := rfl

@[simp] theorem tables_erase (registry : Registry) (aliasName : String) :
    (registry.erase aliasName).tables =
      registry.tables.eraseP fun ref => ref.aliasName == aliasName := rfl

end Registry
end SqlBuilder
