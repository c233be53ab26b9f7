import SqlBuilder.Dialect.Preset
import SqlBuilder.Proofs.TreeHistory

/-!
# Operations that fail

Apart from renderings, an operation does all that it is asked to, or it fails and leaves
the tree as it was. Joins are an exception in a tree with branches, where the walk may
come to a branch that refuses the table.

A selection that spreads over the branches is all or nothing even when it goes from
statement to statement: every statement checks the arguments for itself, after others
have been changed, but the checks do not depend on the statement, so that no branch can
refuse what the root has accepted.
-/

namespace SqlBuilder

namespace Outcome

variable {State Value Other : Type} {before : State}

/-- If the operation failed, the state is what it was before. -/
def KeepsOnError (outcome : Outcome State Value) (before : State) : Prop :=
  ∀ error, outcome.result = .error error → outcome.state = before

theorem keepsOnError_ok (state : State) (value : Value) :
    (ok state value).KeepsOnError before :=
  fun _ failed => nomatch failed

theorem keepsOnError_fail (error : StatementError) :
    (fail before error : Outcome State Value).KeepsOnError before :=
  fun _ _ => rfl

theorem KeepsOnError.map
    {outcome : Outcome State Value}
    (keeps : outcome.KeepsOnError before)
    (change : Value → Other) : (outcome.map change).KeepsOnError before := by
  intro error failed
  rw [result_map] at failed
  cases answered : outcome.result with
  | error error => exact keeps error answered
  | ok value =>
      rw [answered] at failed
      cases failed

end Outcome

open Outcome (keepsOnError_ok keepsOnError_fail)

namespace QueryBlock

/-- A join that fails leaves the block alone: all its checks come before the first
change. -/
theorem keepsOnError_join (block : QueryBlock) (spec : JoinSpec) :
    (block.join spec).KeepsOnError block := by
  rw [join]
  split
  · exact keepsOnError_fail _
  · split
    · exact keepsOnError_fail _
    · intro error failed
      cases failed
    · split
      · exact keepsOnError_fail _
      · exact keepsOnError_ok _ _

theorem keepsOnError_crossJoin
    (block : QueryBlock)
    (table : Table)
    (aliasName group : Option String) :
    (block.crossJoin table aliasName group).KeepsOnError block := by
  rw [crossJoin]
  split
  · exact keepsOnError_fail _
  · exact keepsOnError_ok _ _
  · exact keepsOnError_ok _ _

/-- What a selection of a mapping is checked for. -/
def checkMapping (block : QueryBlock) (ref : Option TableRef) (mapping : Mapping) :
    Except StatementError Unit :=
  let table := ref.getD block.primary
  if mapping.isEmpty then
    .error (.missingArgument .mapping)
  else if mapping.table ≠ table.table.name then
    .error (.tableMismatch table.table.name mapping.table)
  else
    .ok ()

end QueryBlock

/-- What a selection of an expression is checked for. -/
def Expression.checkSelected (expression : Expression) : Except StatementError Unit :=
  if expression.isEmpty then .error (.missingArgument .expression) else .ok ()

namespace Statement

/-! ## Edits in turn -/

section InTurn

variable (check : QueryBlock → Except StatementError Unit) (change : QueryBlock → QueryBlock)

mutual

/-- Edit one statement after the other. A statement is checked first, then come its
branches, and its own block is changed last. The first check that fails ends the walk,
and what has been changed until then stays changed. -/
def editInTurn : Statement → Outcome Statement Unit
  | .node block branches =>
      match check block with
      | .error error => .fail (.node block branches) error
      | .ok _ =>
          let edited := editBranchesInTurn branches
          match edited.result with
          | .error error => .fail (.node block edited.state) error
          | .ok _ => .ok (.node (change block) edited.state) ()

/-- Edit the statements of one branch after the other. -/
def editBranchesInTurn : List Statement → Outcome (List Statement) Unit
  | [] => .ok [] ()
  | branch :: rest =>
      let edited := branch.editInTurn
      match edited.result with
      | .error error => .fail (edited.state :: rest) error
      | .ok _ =>
          let others := editBranchesInTurn rest
          { state := edited.state :: others.state, result := others.result }

end

variable {check change}

/-- What the root refuses goes no further. -/
theorem editInTurn_of_error
    {statement : Statement}
    {error : StatementError}
    (refused : check statement.block = .error error) :
    statement.editInTurn check change = .fail statement error := by
  cases statement with
  | node root branches =>
      rw [block_node] at refused
      rw [editInTurn, refused]

theorem editBranchesInTurn_of_ok
    {branches : List Statement}
    (edited : ∀ branch ∈ branches,
      branch.editInTurn check change = .ok (branch.mapBlocks change) ()) :
    editBranchesInTurn check change branches =
      .ok (branches.map (mapBlocks change)) () := by
  induction branches with
  | nil => rfl
  | cons branch rest inductionHypothesis =>
      rw [List.forall_mem_cons] at edited
      rw [editBranchesInTurn, edited.1, inductionHypothesis edited.2]
      rfl

/-- When all blocks pass, an edit in turn changes all of them. -/
theorem editInTurn_of_ok
    {statement : Statement}
    (passes : ∀ block ∈ statement.blocks, check block = .ok ()) :
    statement.editInTurn check change = .ok (statement.mapBlocks change) () := by
  induction statement with
  | node root branches inductionHypothesis =>
      obtain ⟨rootPasses, branchesPass⟩ := forall_mem_blocks_node.mp passes
      have edited := editBranchesInTurn_of_ok fun branch member =>
        inductionHypothesis branch member (branchesPass branch member)
      rw [editInTurn, rootPasses, edited, mapBlocks_node]
      rfl

end InTurn

/-! ## Selections in turn -/

variable (statement : Statement)

/-- Select an expression in one statement after the other. -/
def selectInTurn (expression : Expression) (aliasName : Option String) :
    Outcome Statement Unit :=
  statement.editInTurn (fun _ => expression.checkSelected)
    fun block => block.select expression (expression.selectedItems aliasName)

/-- Select the columns of a mapping in one statement after the other. The table is
settled at the root, and each branch is given it as the table to select from. -/
def selectMappingInTurn
    (ref : Option TableRef)
    (mapping : Mapping)
    (aliasName : Option String) : Outcome Statement Unit :=
  let settled := some (ref.getD statement.block.primary)
  statement.editInTurn (fun block => block.checkMapping settled mapping)
    fun block => block.addItems (mapping.selectedItems (settled.getD block.primary) aliasName)

/-- Select one column in one statement after the other. -/
def selectColumnInTurn
    (ref : Option TableRef)
    (column : Column)
    (aliasName : Option String) : Outcome Statement Unit :=
  if column.name = "" then
    .fail statement (.missingArgument .column)
  else
    statement.selectMappingInTurn ref column.toMapping aliasName

theorem selectInTurn_eq (expression : Expression) (aliasName : Option String) :
    statement.selectInTurn expression aliasName =
      (statement.select expression aliasName true).map fun _ => () := by
  rw [selectInTurn, select]
  split
  · rename_i empty
    exact editInTurn_of_error (if_pos empty)
  · rename_i nonempty
    exact editInTurn_of_ok fun _ _ => if_neg nonempty

theorem selectMappingInTurn_eq
    (ref : Option TableRef)
    (mapping : Mapping)
    (aliasName : Option String) :
    statement.selectMappingInTurn ref mapping aliasName =
      (statement.selectMapping ref mapping aliasName true).map fun _ => () := by
  simp only [selectMappingInTurn, selectMapping]
  split
  · rename_i empty
    exact editInTurn_of_error (if_pos empty)
  · rename_i nonempty
    split
    · rename_i mismatch
      apply editInTurn_of_error
      exact (if_neg nonempty).trans (if_pos mismatch)
    · rename_i owns
      apply editInTurn_of_ok
      exact fun _ _ => (if_neg nonempty).trans (if_neg owns)

theorem selectColumnInTurn_eq
    (ref : Option TableRef)
    (column : Column)
    (aliasName : Option String) :
    statement.selectColumnInTurn ref column aliasName =
      (statement.selectColumn ref column aliasName true).map fun _ => () := by
  rw [selectColumnInTurn, selectColumn]
  split
  · rfl
  · rw [selectMappingInTurn_eq]
    cases statement.selectMapping ref column.toMapping aliasName true with
    | mk state result events => cases result <;> rfl

end Statement

/-! ## All or nothing -/

namespace Operation

/-- Carry out an operation. A selection that is to reach the branches goes from
statement to statement. -/
def runInTurn : Operation → Statement → Outcome Statement Unit
  | .select expression aliasName true, statement =>
      statement.selectInTurn expression aliasName
  | .selectMapping ref mapping aliasName true, statement =>
      statement.selectMappingInTurn ref mapping aliasName
  | .selectColumn ref column aliasName true, statement =>
      statement.selectColumnInTurn ref column aliasName
  | operation, statement => operation.run statement

/-- It makes no difference whether a selection goes from statement to statement. -/
theorem runInTurn_eq_run (operation : Operation) (statement : Statement) :
    operation.runInTurn statement = operation.run statement := by
  unfold runInTurn
  split
  · exact statement.selectInTurn_eq _ _
  · exact statement.selectMappingInTurn_eq _ _ _
  · exact statement.selectColumnInTurn_eq _ _ _
  · rfl

/-- The operation does not stop half way. A rendering may have put joins in order or
selected columns when it fails, and a join may have reached some of the branches. -/
def IsAllOrNothing : Operation → Statement → Prop
  | .join _, statement => statement.branches = []
  | .crossJoin _ _ _, statement => statement.branches = []
  | .reorderJoins, _ => False
  | .render _ _, _ => False
  | .log _, _ => False
  | _, _ => True

end Operation

namespace Statement

variable (statement : Statement)

theorem keepsOnError_selectMapping
    (ref : Option TableRef)
    (mapping : Mapping)
    (aliasName : Option String)
    (everywhere : Bool) :
    (statement.selectMapping ref mapping aliasName everywhere).KeepsOnError statement := by
  simp only [selectMapping]
  split
  · exact keepsOnError_fail _
  · split
    · exact keepsOnError_fail _
    · exact keepsOnError_ok _ _

theorem keepsOnError_setOptions
    (strategies : NamingStrategies)
    (options : StatementOptions) :
    (statement.setOptions strategies options).KeepsOnError statement := by
  rw [setOptions]
  split
  · exact keepsOnError_fail _
  · exact keepsOnError_ok _ _

theorem keepsOnError_join
    {statement : Statement}
    (alone : statement.branches = [])
    (spec : JoinSpec) : (statement.join spec).KeepsOnError statement := by
  cases statement with
  | node root branches =>
      cases alone
      rw [join]
      split
      · exact keepsOnError_fail _
      · intro error failed
        obtain ⟨state_eq, result_eq⟩ := spreadJoin_single root spec
        rw [single] at state_eq result_eq
        rw [state_eq, root.keepsOnError_join spec error (result_eq ▸ failed)]
        rfl

theorem keepsOnError_crossJoin
    {statement : Statement}
    (alone : statement.branches = [])
    (table : Table)
    (aliasName group : Option String) :
    (statement.crossJoin table aliasName group).KeepsOnError statement := by
  cases statement with
  | node root branches =>
      cases alone
      intro error failed
      obtain ⟨state_eq, result_eq⟩ := crossJoin_single root table aliasName group
      rw [single] at state_eq result_eq
      rw [state_eq, root.keepsOnError_crossJoin table aliasName group error (result_eq ▸ failed)]
      rfl

end Statement

namespace Operation

theorem keepsOnError_run
    {operation : Operation}
    {statement : Statement}
    (allOrNothing : operation.IsAllOrNothing statement) :
    (operation.run statement).KeepsOnError statement := by
  cases operation with
  | select expression aliasName everywhere =>
      apply Outcome.KeepsOnError.map
      simp only [Statement.select]
      split
      · exact keepsOnError_fail _
      · exact keepsOnError_ok _ _
  | selectMapping ref mapping aliasName everywhere =>
      exact (statement.keepsOnError_selectMapping ref mapping aliasName everywhere).map _
  | selectColumn ref column aliasName everywhere =>
      apply Outcome.KeepsOnError.map
      rw [Statement.selectColumn]
      split
      · exact keepsOnError_fail _
      · exact (statement.keepsOnError_selectMapping ref _ aliasName everywhere).map _
  | join spec => exact (Statement.keepsOnError_join allOrNothing spec).map _
  | crossJoin table aliasName group =>
      exact (Statement.keepsOnError_crossJoin allOrNothing table aliasName group).map _
  | setOrdering expressions directions nulls =>
      simp only [Operation.run, Statement.setOrdering]
      split
      · exact keepsOnError_fail _
      · split
        · exact keepsOnError_fail _
        · exact keepsOnError_ok _ _
  | setUpdates assignments =>
      rw [Operation.run, Statement.setUpdates]
      split
      · exact keepsOnError_fail _
      · exact keepsOnError_ok _ _
  | setOptions strategies options => exact statement.keepsOnError_setOptions strategies options
  | setNamingStrategy strategies key => exact statement.keepsOnError_setOptions strategies _
  | union other =>
      simp only [Operation.run, Statement.union]
      split
      · exact keepsOnError_ok _ _
      · exact keepsOnError_fail _
  | removeCrossJoin | whereAnd | whereOr | groupBy | setHaving | setDistinct | setRange |
      clearOrdering => exact keepsOnError_ok _ _
  | reorderJoins | render | log => exact allOrNothing.elim

/-- An operation that is all or nothing and fails leaves the whole tree as it was, also
when a selection goes from statement to statement and each of them checks for itself. -/
theorem runInTurn_state_of_error
    {operation : Operation}
    {statement : Statement}
    {error : StatementError}
    (allOrNothing : operation.IsAllOrNothing statement)
    (failed : (operation.runInTurn statement).result = .error error) :
    (operation.runInTurn statement).state = statement ∧
      operation.run statement = operation.runInTurn statement := by
  rw [runInTurn_eq_run] at failed ⊢
  exact ⟨keepsOnError_run allOrNothing error failed, rfl⟩

/-- A mapping of another table is refused by a tree as a whole, and so is an alias that
belongs to another table already. -/
theorem runInTurn_state_of_error_people :
    let tree := ((Statement.people .ansi).union (Statement.people .ansi)).state
    let cityNames : Operation :=
      .selectMapping none { table := "city", columns := ["id", "name"] } (some "city") true
    let joinCity : Operation := .crossJoin { name := "city" } (some "A0") none
    (cityNames.runInTurn tree).result = .error (.tableMismatch "person" "city") ∧
      (cityNames.runInTurn tree).state = tree ∧
      (joinCity.runInTurn (Statement.people .ansi)).result =
        .error (.duplicateAlias "A0" "person") ∧
      (joinCity.runInTurn (Statement.people .ansi)).state = Statement.people .ansi := by
  intro tree cityNames joinCity
  have refused : (cityNames.runInTurn tree).result =
      .error (.tableMismatch "person" "city") := rfl
  have taken : (joinCity.runInTurn (Statement.people .ansi)).result =
      .error (.duplicateAlias "A0" "person") := rfl
  have whole : cityNames.IsAllOrNothing tree := trivial
  have alone : joinCity.IsAllOrNothing (Statement.people .ansi) := rfl
  exact ⟨refused, (runInTurn_state_of_error whole refused).1, taken,
    (runInTurn_state_of_error alone taken).1⟩

end Operation
end SqlBuilder
