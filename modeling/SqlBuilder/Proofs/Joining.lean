import SqlBuilder.Statement.Joining

/-!
# What joining does to a block

A join leaves a block alone or appends one join whose target is new to the
registry. What it appends is the same in every dialect but for the place of the
condition. On a statement without branches nothing else happens.
-/

namespace SqlBuilder
namespace QueryBlock

variable {block : QueryBlock}

/-- Requiring a predicate changes the condition and what is kept, and nothing
else. -/
theorem whereAnd_eq (block : QueryBlock) (predicate : Predicate) :
    block.whereAnd predicate =
      { block with
        condition := (block.whereAnd predicate).condition
        cache := (block.whereAnd predicate).cache } := by
  unfold whereAnd
  split <;> rfl

/-- A target that is added has an alias that was free. -/
theorem get?_eq_none_of_resolveTarget
    {table : Table}
    {aliasName group : Option String}
    {target : TableRef}
    (added : block.resolveTarget table aliasName group = .ok (.added target)) :
    block.registry.get? target.aliasName = none := by
  simp only [resolveTarget] at added
  split at added
  · rename_i free
    cases added
    exact free
  · split at added <;> cases added

/-- A join leaves a block alone or appends a join to a new target. -/
theorem join_state_cases (block : QueryBlock) (spec : JoinSpec) :
    (block.join spec).state = block ∨
      ∃ source target, block.resolveSource spec.source = .ok source ∧
        block.registry.get? target.aliasName = none ∧
        (block.join spec).state = block.appendKeyedJoin spec source target := by
  rw [join]
  split
  · exact .inl rfl
  · rename_i source sourceFound
    split
    · exact .inl rfl
    · exact .inl rfl
    · rename_i target targetAdded
      split
      · exact .inl rfl
      · exact .inr ⟨source, target, sourceFound,
          get?_eq_none_of_resolveTarget targetAdded, rfl⟩

/-- A cross join leaves a block alone or appends a cross join to a new target. -/
theorem crossJoin_state_cases
    (block : QueryBlock)
    (table : Table)
    (aliasName group : Option String) :
    (block.crossJoin table aliasName group).state = block ∨
      ∃ target, block.registry.get? target.aliasName = none ∧
        (block.crossJoin table aliasName group).state = block.appendCrossJoin target := by
  rw [crossJoin]
  split
  · exact .inl rfl
  · exact .inl rfl
  · rename_i target targetAdded
    exact .inr ⟨target, get?_eq_none_of_resolveTarget targetAdded, rfl⟩

/-- A cross join to a free alias is appended. -/
theorem crossJoin_of_free
    {target : TableRef}
    (free : block.registry.get? target.aliasName = none) :
    block.crossJoin target.table (some target.aliasName) (some target.group) =
      .ok (block.appendCrossJoin target) target := by
  simp only [crossJoin, resolveTarget, Option.getD_some, free]

/-- The join that is appended, as the dialect can write it. -/
def keyedJoin (block : QueryBlock) (spec : JoinSpec) (source target : TableRef) : Join :=
  if block.capabilities.ansiJoins then
    { kind := .keyed spec.kind
      target := target
      source := some source
      condition := spec.condition? source target }
  else
    { kind := .listed, target := target, source := some source, condition := none }

section AppendKeyedJoin

variable (block : QueryBlock) (spec : JoinSpec) (source target : TableRef)

theorem appendKeyedJoin_of_ansiJoins
    (ansi : block.capabilities.ansiJoins = true) :
    block.appendKeyedJoin spec source target =
      { block with
        registry := block.registry.insert target (some (.keyed spec.kind))
        mustReorder := block.mustReorder ||
          !{ block with
              registry := block.registry.insert target
                (some (.keyed spec.kind)) }.canFollow source
        joins := block.joins ++ [block.keyedJoin spec source target]
        cache := none } := by
  simp only [appendKeyedJoin, keyedJoin, ansi, ↓reduceIte]

theorem appendKeyedJoin_of_not_ansiJoins
    (listed : block.capabilities.ansiJoins = false) :
    block.appendKeyedJoin spec source target =
      let joined :=
        { block with
          registry := block.registry.insert target (some (.keyed spec.kind))
          joins := block.joins ++ [block.keyedJoin spec source target]
          cache := none }
      (spec.condition? source target).elim joined joined.whereAnd := by
  simp only [appendKeyedJoin, keyedJoin, listed, Bool.false_eq_true, ↓reduceIte]

/-- A new join registers its target, comes last, may move its condition and may
mark the joins for reordering; nothing else changes. -/
theorem appendKeyedJoin_eq :
    block.appendKeyedJoin spec source target =
      { block with
        registry := block.registry.insert target (some (.keyed spec.kind))
        joins := block.joins ++ [block.keyedJoin spec source target]
        mustReorder := (block.appendKeyedJoin spec source target).mustReorder
        condition := (block.appendKeyedJoin spec source target).condition
        cache := none } := by
  cases ansi : block.capabilities.ansiJoins with
  | true => rw [appendKeyedJoin_of_ansiJoins _ _ _ _ ansi]
  | false =>
      rw [appendKeyedJoin_of_not_ansiJoins _ _ _ _ ansi]
      cases spec.condition? source target with
      | none => rfl
      | some predicate =>
          simp only [Option.elim_some, whereAnd]
          split <;> rfl

@[simp] theorem joins_appendKeyedJoin :
    (block.appendKeyedJoin spec source target).joins =
      block.joins ++ [block.keyedJoin spec source target] := by
  rw [appendKeyedJoin_eq]

@[simp] theorem registry_appendKeyedJoin :
    (block.appendKeyedJoin spec source target).registry =
      block.registry.insert target (some (.keyed spec.kind)) := by
  rw [appendKeyedJoin_eq]

@[simp] theorem primary_appendKeyedJoin :
    (block.appendKeyedJoin spec source target).primary = block.primary := by
  rw [appendKeyedJoin_eq]

@[simp] theorem namer_appendKeyedJoin :
    (block.appendKeyedJoin spec source target).namer = block.namer := by
  rw [appendKeyedJoin_eq]

@[simp] theorem ancestry_appendKeyedJoin :
    (block.appendKeyedJoin spec source target).ancestry = block.ancestry := by
  rw [appendKeyedJoin_eq]

@[simp] theorem capabilities_appendKeyedJoin :
    (block.appendKeyedJoin spec source target).capabilities = block.capabilities := by
  rw [appendKeyedJoin_eq]
  rfl

/-- A new join makes the block forget its last rendering. -/
@[simp] theorem cache_appendKeyedJoin :
    (block.appendKeyedJoin spec source target).cache = none := by
  rw [appendKeyedJoin_eq]

end AppendKeyedJoin

end QueryBlock

namespace Statement

/-- Without branches a join goes no further than the root. -/
theorem spreadJoin_single (block : QueryBlock) (spec : JoinSpec) :
    ((single block).spreadJoin spec).state = single (block.join spec).state ∧
      ((single block).spreadJoin spec).result = (block.join spec).result := by
  rw [single, spreadJoin]
  split
  · rename_i error failed
    exact ⟨rfl, rfl⟩
  · rename_i target joined
    split
    · exact ⟨rfl, joined.symm⟩
    · exact ⟨rfl, rfl⟩

/-- Without branches a cross join goes no further than the root. -/
theorem crossJoin_single
    (block : QueryBlock)
    (table : Table)
    (aliasName group : Option String) :
    ((single block).crossJoin table aliasName group).state =
        single (block.crossJoin table aliasName group).state ∧
      ((single block).crossJoin table aliasName group).result =
        (block.crossJoin table aliasName group).result := by
  rw [single, crossJoin]
  split
  · exact ⟨rfl, rfl⟩
  · rename_i target joined
    exact ⟨rfl, joined.symm⟩

end Statement
end SqlBuilder
