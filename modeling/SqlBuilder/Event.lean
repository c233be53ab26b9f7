/-!
# Events

Events report what a statement could not express in its dialect, and the text
of a statement on request. They are values: an operation returns the events it
gives rise to, in order.
-/

namespace SqlBuilder

/-- A clause that a dialect may be unable to combine with row locks. -/
inductive LockBlocker where
  | distinct
  | grouping
  | having
  | ordering
  | multipleTables
  deriving DecidableEq, Repr

namespace LockBlocker

/-- Every such clause, in the order in which they are reported. -/
def all : List LockBlocker :=
  [.distinct, .grouping, .having, .ordering, .multipleTables]

/-- The clause in words. -/
def text : LockBlocker → String
  | .distinct => "DISTINCT"
  | .grouping => "GROUP BY"
  | .having => "HAVING"
  | .ordering => "ORDER BY"
  | .multipleTables => "multiple tables"

/-- The list of clauses leaves none out. -/
theorem mem_all (blocker : LockBlocker) : blocker ∈ all := by
  cases blocker <;> decide

end LockBlocker

/-- Something worth reporting. -/
inductive Event where
  /-- A join was asked for whose target is registered already. -/
  | joinIgnored (aliasName table : String)
  /-- An ordering key asked for a place of its nulls, which the dialect can
  neither write nor emulate. -/
  | nullOrderingUnsupported (dialect key : String)
  /-- Row locks were asked for in a dialect without any. -/
  | lockUnavailable (dialect : String)
  /-- Row locks were asked for beside clauses that rule them out. -/
  | lockBlocked (dialect : String) (blockers : List LockBlocker)
  /-- The text of a statement. -/
  | statementText (sql : String)
  /-- A table group of a statement, in words. -/
  | tableGroup (group : String)
  deriving DecidableEq, Repr

/-- How much attention an event deserves. -/
inductive Level where
  | warning
  | debug
  deriving DecidableEq, Repr

/-- The level as it is written. -/
def Level.text : Level → String
  | .warning => "WARN"
  | .debug => "DEBUG"

namespace Event

/-- Texts of statements are for debugging; all else is a warning. -/
def level : Event → Level
  | .statementText _ | .tableGroup _ => .debug
  | _ => .warning

/-- The channel that the event goes to. -/
def channel (event : Event) : String :=
  match event.level with
  | .warning => "sqlstmt"
  | .debug => "sqlstmt.sql"

/-- The event in words, without its particulars. -/
def message : Event → String
  | .joinIgnored .. => "join to already registered table ignored"
  | .nullOrderingUnsupported .. =>
      "null ordering requested but not supported by dialect, ignoring"
  | .lockUnavailable _ =>
      "row locking requested but the dialect has no locking mechanism"
  | .lockBlocked .. =>
      "row locking skipped: dialect cannot lock with these clauses"
  | .statementText _ => "statement"
  | .tableGroup _ => "table group"

/-- The particulars of the event, each with its name. -/
def fields : Event → List (String × String)
  | .joinIgnored aliasName table => [("alias", aliasName), ("table", table)]
  | .nullOrderingUnsupported dialect key => [("dialect", dialect), ("key", key)]
  | .lockUnavailable dialect => [("dialect", dialect)]
  | .lockBlocked dialect blockers =>
      [("dialect", dialect),
        ("blocked_by", String.intercalate ", " (blockers.map LockBlocker.text))]
  | .statementText sql => [("sql", sql)]
  | .tableGroup group => [("group", group)]

end Event
end SqlBuilder
