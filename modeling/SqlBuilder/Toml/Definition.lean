import SqlBuilder.Toml.Value

/-!
# Defining keys

A document builds up nested tables line by line. A key may be defined once. A
table may be opened by one header, but only if so far it was merely passed
through by the headers of other tables; a table made by dotted keys can be
extended by dotted keys in the same place and by headers of tables below it; a
value written in one piece cannot be extended at all.
-/

namespace SqlBuilder
namespace Toml

/-- How a table came about. -/
inductive TableKind where
  /-- A header passed through it. -/
  | passed
  /-- Dotted keys made it. -/
  | dotted
  /-- A header opened it. -/
  | opened
  deriving DecidableEq, Repr

/-- A part of a document under construction. -/
inductive Node where
  /-- A value written in one piece. -/
  | value (value : Value)
  | table (kind : TableKind) (entries : List (String × Node))
  /-- The tables that headers in double brackets opened one after the other,
  the last one first. -/
  | tables (last : List (String × Node)) (earlier : List (List (String × Node)))

/-- The keys of a table under construction, in order of definition. -/
abbrev Entries := List (String × Node)

namespace Entries

/-- The part under a key. -/
def find? (entries : Entries) (key : String) : Option Node :=
  entries.lookup key

/-- Define a key, or give a defined key another part. -/
def put (entries : Entries) (key : String) (node : Node) : Entries :=
  if entries.any (fun entry => entry.1 == key) then
    entries.map fun entry => if entry.1 == key then (key, node) else entry
  else
    entries ++ [(key, node)]

/-- Change the table at the end of a path. Missing tables on the way are made
in the given kind, and a dotted path must not run through an opened table. The
change learns how the table came about. -/
def descend
    (dotted : Bool)
    (change : TableKind → Entries → Except Problem Entries)
    (kind : TableKind)
    (entries : Entries) : List String → Except Problem Entries
  | [] => change kind entries
  | key :: path =>
      match entries.find? key with
      | none => do
          let made : TableKind := if dotted then .dotted else .passed
          let inner ← descend dotted change made [] path
          return entries.put key (.table made inner)
      | some (.table found inner) =>
          if dotted && found = .opened then .error (.duplicateKey key)
          else do
            let changed ← descend dotted change found inner path
            return entries.put key (.table found changed)
      | some (.tables last earlier) => do
          let changed ← descend dotted change .opened last path
          return entries.put key (.tables changed earlier)
      | some (.value _) => .error (.notExtendable key)

/-- Define a key of a table, which must not be defined yet. Dotted keys must end
in a table that dotted keys made. -/
def define (path : List String) (key : String) (node : Node)
    (entries : Entries) : Except Problem Entries :=
  descend true
    (fun kind inner =>
      if !path.isEmpty && kind ≠ .dotted then .error (.duplicateKey key)
      else if (inner.find? key).isSome then .error (.duplicateKey key)
      else .ok (inner.put key node))
    .opened entries path

/-- Open a table by a header. -/
def openTable (path : List String) (key : String) (entries : Entries) :
    Except Problem Entries :=
  descend false
    (fun _ inner =>
      match inner.find? key with
      | none => .ok (inner.put key (.table .opened []))
      | some (.table .passed present) => .ok (inner.put key (.table .opened present))
      | some _ => .error (.duplicateKey key))
    .opened entries path

/-- Open one more table of a list by a header in double brackets. -/
def openNextTable (path : List String) (key : String) (entries : Entries) :
    Except Problem Entries :=
  descend false
    (fun _ inner =>
      match inner.find? key with
      | none => .ok (inner.put key (.tables [] []))
      | some (.tables last earlier) => .ok (inner.put key (.tables [] (last :: earlier)))
      | some _ => .error (.duplicateKey key))
    .opened entries path

/-- Change the table that the last header opened. -/
def within (change : Entries → Except Problem Entries) (header : List String)
    (entries : Entries) : Except Problem Entries :=
  descend false (fun _ inner => change inner) .opened entries header

end Entries

mutual

/-- The value of a finished part. -/
def Node.toValue : Node → Value
  | .value value => value
  | .table _ entries => .table (entriesToValues entries)
  | .tables last earlier =>
      .array ((.table (entriesToValues last) :: tablesToValues earlier).reverse)

/-- The values of the keys of a finished table. -/
def entriesToValues : List (String × Node) → List (String × Value)
  | [] => []
  | (key, node) :: rest => (key, node.toValue) :: entriesToValues rest

/-- The values of finished tables. -/
def tablesToValues : List (List (String × Node)) → List Value
  | [] => []
  | entries :: rest => .table (entriesToValues entries) :: tablesToValues rest

end

end Toml
end SqlBuilder
