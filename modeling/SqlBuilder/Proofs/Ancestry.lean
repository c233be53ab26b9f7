import SqlBuilder.Proofs.Rows.Partner
import SqlBuilder.Proofs.Selection.Stability

/-!
# The statements around a statement

A subquery is given, when it is started, the statements around the statement it belongs
to, and that statement itself. Identities are handed out when statements are built. As
none is handed out twice and no operation changes either, a statement is a child of
another exactly if a chain of subqueries leads from it to the other, and its depth is
the number of statements that it is a child of.
-/

namespace SqlBuilder

open Relation (TransGen)

/-! ## Statements built in a session -/

/-- A statement as it was built, and the number of the statement, in the order of
building, that it was built as a subquery of. -/
structure Birth where
  statement : Statement
  parent : Option Nat

namespace Birth

/-- The identity that the statement was given. -/
def id (birth : Birth) : StatementId :=
  birth.statement.block.id

/-- The statements around the statement. -/
def ancestry (birth : Birth) : List StatementId :=
  birth.statement.block.ancestry

end Birth

/-- A session, with all statements that have been built in it. -/
structure Chronicle where
  session : Session
  births : List Birth

namespace Chronicle

variable {chronicle : Chronicle}

/-- The statement that was built under a number, at some time: whatever has been done to
it, and wherever it has been brought as a union branch. -/
def Holds (chronicle : Chronicle) (number : Nat) (statement : Statement) : Prop :=
  ∃ birth later place, chronicle.births[number]? = some birth ∧
    birth.statement.Continues [] later place ∧ later.branchAt? place = some statement

/-- One statement was built as a subquery of another. -/
def IsSubqueryOf (chronicle : Chronicle) (inner outer : Nat) : Prop :=
  ∃ birth, chronicle.births[inner]? = some birth ∧ birth.parent = some outer

/-- A statement is built. -/
def add (chronicle : Chronicle) (session : Session) (birth : Birth) : Chronicle :=
  { session := session, births := chronicle.births ++ [birth] }

/-- Build a statement, if its naming strategy exists. -/
def build (chronicle : Chronicle) (builder : StatementBuilder) (parent : Option Nat) :
    Chronicle :=
  match chronicle.session.build builder with
  | .ok (statement, session) =>
      chronicle.add session { statement := statement, parent := parent }
  | .error _ => chronicle

/-- The subquery that an UPDATE or DELETE of a block looks for partners with. -/
def buildPartner
    (chronicle : Chronicle)
    (block : QueryBlock)
    (first : Join)
    (rest : List Join)
    (parent : Nat) : Chronicle :=
  let fresh := chronicle.session.freshId
  chronicle.add fresh.2
    { statement := .single (block.partnerBlock fresh.1 first rest), parent := some parent }

/-- What can happen in a session. A builder may be built any number of times, at any time
after it was started, and may fail to be built. -/
inductive Runs : Chronicle → Prop
  | start (session : Session) : Runs { session := session, births := [] }
  | publish {chronicle : Chronicle} (key : String) (namer : Namer) :
      Runs chronicle →
      Runs { chronicle with session := (chronicle.session.publish key namer).2 }
  | outermost {chronicle : Chronicle} {builder : StatementBuilder} :
      Runs chronicle →
      builder.ancestry = [] →
      Runs (chronicle.build builder none)
  | subquery
      {chronicle : Chronicle}
      {number : Nat}
      {statement : Statement}
      (table : Table)
      (aliasName group : Option String)
      (options : StatementOptions) :
      Runs chronicle →
      chronicle.Holds number statement →
      Runs (chronicle.build
        { statement.subquery table with
          aliasName := aliasName
          group := group
          options := options }
        (some number))
  | partner
      {chronicle : Chronicle}
      {number : Nat}
      {statement : Statement}
      {first : Join}
      {rest : List Join} :
      Runs chronicle →
      chronicle.Holds number statement →
      statement.block.reorderJoins.state.joins = first :: rest →
      Runs (chronicle.buildPartner statement.block.reorderJoins.state first rest number)

end Chronicle

/-! ## Identities last -/

/-- What no edit breaks holds of a statement wherever a run brings it. -/
theorem Statement.Continues.exists_branchAt?
    {property : QueryBlock → Prop}
    (closed : ∀ first second, QueryBlock.Becomes first second → property first → property second)
    {statement followed later : Statement}
    {place laterPlace : List Nat}
    (continues : Continues statement place later laterPlace)
    (found : statement.branchAt? place = some followed)
    (holds : property followed.block) :
    ∃ node, later.branchAt? laterPlace = some node ∧ property node.block := by
  induction continues with
  | refl => exact ⟨followed, found, holds⟩
  | step _ _ operated inductionHypothesis =>
      obtain ⟨node, foundNode, holds⟩ := inductionHypothesis
      obtain ⟨next, foundNext, edited⟩ := exists_branchAt?_onBranch_run foundNode operated
      exact ⟨next, foundNext, edited.preserves closed holds⟩
  | @brought later upper above laterPlace path outcome _ _ foundAbove operated united
      inductionHypothesis =>
      obtain ⟨node, foundNode, holds⟩ := inductionHypothesis
      refine ⟨node, ?_, holds⟩
      rw [branchAt?_onBranch foundAbove operated]
      rw [result_onBranch foundAbove operated] at united
      simp only [union] at united ⊢
      split at united
      · rename_i supported
        rw [if_pos supported, Outcome.state_ok, branchAt?_cons, branches_node,
          List.getElem?_append_right (Nat.le_refl _), Nat.sub_self]
        exact foundNode
      · cases united

namespace Chronicle

variable {chronicle : Chronicle}

/-- A statement stands as it was built. -/
theorem holds_of_born
    {number : Nat}
    {birth : Birth}
    (born : chronicle.births[number]? = some birth) : chronicle.Holds number birth.statement :=
  ⟨birth, birth.statement, [], born, .refl, Statement.branchAt?_nil _⟩

/-- A statement keeps the identity and the ancestry that it was built with. -/
theorem Holds.identity_eq
    {number : Nat}
    {statement : Statement}
    (holds : chronicle.Holds number statement) :
    ∃ birth, chronicle.births[number]? = some birth ∧
      statement.block.id = birth.id ∧ statement.block.ancestry = birth.ancestry := by
  obtain ⟨birth, later, place, born, continues, found⟩ := holds
  obtain ⟨node, foundNode, kept⟩ := continues.exists_branchAt?
    (fun _ second becomes same =>
      show second.id = birth.id ∧ second.ancestry = birth.ancestry from
        ⟨becomes.identity_eq.1.trans same.1, becomes.identity_eq.2.trans same.2⟩)
    (Statement.branchAt?_nil _) ⟨rfl, rfl⟩
  rw [found, Option.some.injEq] at foundNode
  exact ⟨birth, born, foundNode ▸ kept⟩

/-! ## Identities are handed out once -/

/-- How a birth fits to those before it. An outermost statement has no statement around
it, and a subquery has those of its parent, and the parent, around it. -/
def Descends (births : List Birth) (number : Nat) (birth : Birth) : Prop :=
  match birth.parent with
  | none => birth.ancestry = []
  | some parent => parent < number ∧
      ∃ outer, births[parent]? = some outer ∧ birth.ancestry = outer.ancestry ++ [outer.id]

/-- The identities of a chronicle are in order, and each statement descends from those
before it. -/
structure Numbered (chronicle : Chronicle) : Prop where
  increasing : chronicle.births.Pairwise fun first second => first.id.number < second.id.number
  issued : ∀ birth ∈ chronicle.births, birth.id.number ≤ chronicle.session.issued
  descends : ∀ number birth, chronicle.births[number]? = some birth →
    Descends chronicle.births number birth

theorem Descends.append
    {births : List Birth}
    {number : Nat}
    {birth : Birth}
    (descends : Descends births number birth)
    (more : List Birth) : Descends (births ++ more) number birth := by
  unfold Descends at descends ⊢
  cases isParent : birth.parent with
  | none =>
      rw [isParent] at descends
      exact descends
  | some parent =>
      rw [isParent] at descends
      obtain ⟨earlier, outer, found, ancestry_eq⟩ := descends
      refine ⟨earlier, outer, ?_, ancestry_eq⟩
      exact (List.getElem?_append_left (List.getElem?_eq_some_iff.mp found).1).trans found

/-- A birth under the next identity keeps the numbering. -/
theorem Numbered.add
    (numbered : chronicle.Numbered)
    {session : Session}
    {birth : Birth}
    (next : birth.id.number = chronicle.session.issued + 1)
    (counted : session.issued = chronicle.session.issued + 1)
    (descends : Descends chronicle.births chronicle.births.length birth) :
    (chronicle.add session birth).Numbered where
  increasing := by
    rw [Chronicle.add, List.pairwise_append]
    refine ⟨numbered.increasing, List.pairwise_singleton _ _, fun earlier member other isNew => ?_⟩
    rw [List.mem_singleton.mp isNew, next]
    exact Nat.lt_succ_of_le (numbered.issued earlier member)
  issued := by
    rw [Chronicle.add, List.forall_mem_append, List.forall_mem_singleton, next, counted]
    exact ⟨fun earlier member => Nat.le_succ_of_le (numbered.issued earlier member), Nat.le_refl _⟩
  descends := by
    intro number found isFound
    rw [Chronicle.add] at isFound ⊢
    rcases Nat.lt_or_ge number chronicle.births.length with inside | beyond
    · rw [List.getElem?_append_left inside] at isFound
      exact (numbered.descends number found isFound).append _
    · rw [List.getElem?_append_right beyond, List.getElem?_singleton] at isFound
      split at isFound
      · rename_i isLast
        obtain rfl : number = chronicle.births.length := by omega
        cases isFound
        exact descends.append _
      · cases isFound

/-- A subquery of a statement of the chronicle descends from it. -/
theorem Holds.descends
    {number : Nat}
    {statement : Statement}
    (holds : chronicle.Holds number statement)
    {birth : Birth}
    (isParent : birth.parent = some number)
    (ancestry_eq : birth.ancestry = statement.block.subqueryAncestry) :
    Descends chronicle.births chronicle.births.length birth := by
  obtain ⟨outer, born, id_eq, outer_ancestry_eq⟩ := holds.identity_eq
  rw [Descends, isParent]
  refine ⟨(List.getElem?_eq_some_iff.mp born).1, outer, born, ?_⟩
  rw [ancestry_eq, QueryBlock.subqueryAncestry, id_eq, outer_ancestry_eq]

/-- A statement that is built has the next identity and the ancestry of its builder. -/
theorem Numbered.build
    (numbered : chronicle.Numbered)
    {builder : StatementBuilder}
    {parent : Option Nat}
    (descends : ∀ birth : Birth, birth.parent = parent → birth.ancestry = builder.ancestry →
      Descends chronicle.births chronicle.births.length birth) :
    (chronicle.build builder parent).Numbered := by
  rw [Chronicle.build]
  split
  · rename_i statement session built
    rw [Session.build] at built
    split at built
    · rename_i isBuilt
      cases built
      obtain ⟨namer, primary, rfl⟩ := Statement.exists_ofPrimary_of_build isBuilt
      exact numbered.add rfl rfl (descends _ rfl rfl)
    · cases built
  · exact numbered

/-- Whatever happens in a session, the chronicle is numbered. -/
theorem Runs.numbered (runs : chronicle.Runs) : chronicle.Numbered := by
  induction runs with
  | start session =>
      exact ⟨.nil, (fun _ member => nomatch member), fun _ _ found => nomatch found⟩
  | publish key namer _ numbered =>
      exact ⟨numbered.increasing, numbered.issued, numbered.descends⟩
  | outermost _ outermost numbered =>
      refine numbered.build fun birth isParent ancestry_eq => ?_
      rw [Descends, isParent]
      exact ancestry_eq.trans outermost
  | subquery table aliasName group options _ holds numbered =>
      exact numbered.build fun birth isParent ancestry_eq => holds.descends isParent ancestry_eq
  | @partner chronicle number statement first rest _ holds _ numbered =>
      have block_eq := statement.block.reorderJoins.state.partnerBlock_eq
        chronicle.session.freshId.1 first rest
      refine numbered.add ?_ rfl (holds.descends rfl ?_)
      · rw [Birth.id, Statement.single, Statement.block_node, block_eq]
        rfl
      · rw [Birth.ancestry, Statement.single, Statement.block_node, block_eq,
          QueryBlock.reorderJoins_state_eq]
        rfl

/-! ## Ancestry is the subquery relation -/

/-- No two statements have one identity. -/
theorem Numbered.nodup_ids (numbered : chronicle.Numbered) :
    (chronicle.births.map Birth.id).Nodup := by
  rw [List.Nodup, List.pairwise_map]
  refine numbered.increasing.imp fun less same => ?_
  rw [same] at less
  exact Nat.lt_irrefl _ less

theorem Numbered.number_eq
    (numbered : chronicle.Numbered)
    {first second : Nat}
    {firstBirth secondBirth : Birth}
    (isFirst : chronicle.births[first]? = some firstBirth)
    (isSecond : chronicle.births[second]? = some secondBirth)
    (same : firstBirth.id = secondBirth.id) : first = second := by
  have bound : first < (chronicle.births.map Birth.id).length := by
    rw [List.length_map]
    exact (List.getElem?_eq_some_iff.mp isFirst).1
  rw [← List.getElem?_inj bound numbered.nodup_ids, List.getElem?_map, List.getElem?_map, isFirst,
    isSecond, Option.map_some, Option.map_some, same]

/-- A subquery is built after the statement that it is a subquery of. -/
theorem Numbered.lt_of_transGen
    (numbered : chronicle.Numbered)
    {inner outer : Nat}
    (chain : TransGen chronicle.IsSubqueryOf inner outer) : outer < inner := by
  have lt_of_step : ∀ inner outer, chronicle.IsSubqueryOf inner outer → outer < inner := by
    rintro inner outer ⟨birth, born, isParent⟩
    have descends := numbered.descends inner birth born
    rw [Descends, isParent] at descends
    exact descends.1
  induction chain with
  | single step => exact lt_of_step _ _ step
  | tail _ step inductionHypothesis =>
      exact Nat.lt_trans (lt_of_step _ _ step) inductionHypothesis

/-- The statements around a statement are those that a chain of subqueries leads to. -/
theorem Numbered.mem_ancestry_iff
    (numbered : chronicle.Numbered)
    {number : Nat}
    {birth : Birth}
    (born : chronicle.births[number]? = some birth)
    {id : StatementId} :
    id ∈ birth.ancestry ↔ ∃ outer outerBirth, TransGen chronicle.IsSubqueryOf number outer ∧
      chronicle.births[outer]? = some outerBirth ∧ outerBirth.id = id := by
  -- The parent of a statement has a smaller number, so that the induction is on the number.
  induction number using Nat.strongRecOn generalizing birth with
  | ind number inductionHypothesis =>
      have descends := numbered.descends number birth born
      have step_iff : ∀ outer,
          chronicle.IsSubqueryOf number outer ↔ birth.parent = some outer := by
        intro outer
        simp only [IsSubqueryOf, born, Option.some.injEq, exists_eq_left']
      cases isParent : birth.parent with
      | none =>
          rw [Descends, isParent] at descends
          simp [TransGen.head'_iff, step_iff, isParent, show birth.ancestry = [] from descends]
      | some parent =>
          rw [Descends, isParent] at descends
          obtain ⟨earlier, parentBirth, bornParent, ancestry_eq⟩ := descends
          have chain_iff : ∀ outer, TransGen chronicle.IsSubqueryOf number outer ↔
              TransGen chronicle.IsSubqueryOf parent outer ∨ outer = parent := by
            intro outer
            rw [TransGen.head'_iff]
            simp only [step_iff, isParent, Option.some.injEq, exists_eq_left']
            rw [Relation.reflTransGen_iff_eq_or_transGen, or_comm]
          rw [ancestry_eq, List.mem_append, List.mem_singleton,
            inductionHypothesis parent earlier bornParent]
          constructor
          · rintro (⟨outer, outerBirth, chain, bornOuter, id_eq⟩ | rfl)
            · exact ⟨outer, outerBirth, (chain_iff outer).mpr (.inl chain), bornOuter, id_eq⟩
            · exact ⟨parent, parentBirth, (chain_iff parent).mpr (.inr rfl), bornParent, rfl⟩
          · rintro ⟨outer, outerBirth, chain, bornOuter, id_eq⟩
            rcases (chain_iff outer).mp chain with chain | rfl
            · exact .inl ⟨outer, outerBirth, chain, bornOuter, id_eq⟩
            · rw [bornParent, Option.some.injEq] at bornOuter
              exact .inr (bornOuter ▸ id_eq.symm)

/-- No statement stands twice around another. -/
theorem Numbered.nodup_ancestry
    (numbered : chronicle.Numbered)
    {number : Nat}
    {birth : Birth}
    (born : chronicle.births[number]? = some birth) : birth.ancestry.Nodup := by
  induction number using Nat.strongRecOn generalizing birth with
  | ind number inductionHypothesis =>
      have descends := numbered.descends number birth born
      unfold Descends at descends
      split at descends
      · rw [descends]
        exact List.nodup_nil
      · obtain ⟨earlier, parentBirth, bornParent, ancestry_eq⟩ := descends
        rw [ancestry_eq, List.nodup_append]
        refine ⟨inductionHypothesis _ earlier bornParent, List.nodup_singleton _, ?_⟩
        rintro id member other isParent rfl
        obtain ⟨outer, outerBirth, chain, bornOuter, id_eq⟩ :=
          (numbered.mem_ancestry_iff bornParent).mp member
        have same := numbered.number_eq bornOuter bornParent
          (id_eq.trans (List.mem_singleton.mp isParent))
        exact Nat.lt_irrefl _ (same ▸ numbered.lt_of_transGen chain)

/-- A statement is a child of another if a chain of subqueries leads to the other. -/
theorem Numbered.isChildOf_iff
    (numbered : chronicle.Numbered)
    {inner outer : Nat}
    {statement other : Statement}
    (isInner : chronicle.Holds inner statement)
    (isOuter : chronicle.Holds outer other) :
    statement.isChildOf other = true ↔ TransGen chronicle.IsSubqueryOf inner outer := by
  obtain ⟨birth, born, _, ancestry_eq⟩ := isInner.identity_eq
  obtain ⟨otherBirth, bornOther, id_eq, _⟩ := isOuter.identity_eq
  rw [Statement.isChildOf, List.contains_iff_mem, ancestry_eq, id_eq,
    numbered.mem_ancestry_iff born]
  constructor
  · rintro ⟨found, foundBirth, chain, bornFound, same⟩
    rw [← numbered.number_eq bornFound bornOther same]
    exact chain
  · intro chain
    exact ⟨outer, otherBirth, chain, bornOther, rfl⟩

/-- A statement is as deep as there are statements that it is a child of. -/
theorem Numbered.depth_eq
    (numbered : chronicle.Numbered)
    {number : Nat}
    {statement : Statement}
    (holds : chronicle.Holds number statement) :
    statement.block.depth =
      chronicle.births.countP fun birth => statement.isChildOf birth.statement := by
  obtain ⟨birth, born, _, ancestry_eq⟩ := holds.identity_eq
  have perm : ((chronicle.births.map Birth.id).filter birth.ancestry.contains).Perm
      birth.ancestry := by
    rw [List.perm_ext_iff_of_nodup (numbered.nodup_ids.filter _) (numbered.nodup_ancestry born)]
    intro id
    rw [List.mem_filter, List.contains_iff_mem, and_iff_right_iff_imp,
      numbered.mem_ancestry_iff born]
    rintro ⟨outer, outerBirth, _, bornOuter, rfl⟩
    exact List.mem_map_of_mem (List.mem_of_getElem? bornOuter)
  calc
    statement.block.depth = birth.ancestry.length := by rw [QueryBlock.depth, ancestry_eq]
    _ = (chronicle.births.map Birth.id).countP birth.ancestry.contains := by
      rw [List.countP_eq_length_filter, perm.length_eq]
    _ = chronicle.births.countP fun birth => statement.isChildOf birth.statement := by
      rw [List.countP_map, ← ancestry_eq]
      rfl

/-- A statement is a child of another exactly if it was built as a subquery of the other,
or of a subquery of it, and so on. No statement is a child of itself or of one of its
children, and the children of a child are children. The depth of a statement is the
number of statements that it is a child of. -/
theorem Runs.isChildOf_iff_transGen (runs : chronicle.Runs) :
    (∀ inner outer statement other, chronicle.Holds inner statement →
      chronicle.Holds outer other →
      (statement.isChildOf other = true ↔ TransGen chronicle.IsSubqueryOf inner outer)) ∧
    (∀ number statement later, chronicle.Holds number statement →
      chronicle.Holds number later → statement.isChildOf later = false) ∧
    (∀ inner outer statement other, chronicle.Holds inner statement →
      chronicle.Holds outer other → statement.isChildOf other = true →
      other.isChildOf statement = false) ∧
    (∀ inner middle outer statement between other, chronicle.Holds inner statement →
      chronicle.Holds middle between → chronicle.Holds outer other →
      statement.isChildOf between = true → between.isChildOf other = true →
      statement.isChildOf other = true) ∧
    ∀ number statement, chronicle.Holds number statement →
      statement.block.depth =
        chronicle.births.countP fun birth => statement.isChildOf birth.statement := by
  have numbered := runs.numbered
  refine ⟨fun _ _ _ _ => numbered.isChildOf_iff, ?_, ?_, ?_, fun _ _ => numbered.depth_eq⟩
  · intro number statement later holds holdsLater
    rw [Bool.eq_false_iff, Ne, numbered.isChildOf_iff holds holdsLater]
    exact fun chain => Nat.lt_irrefl _ (numbered.lt_of_transGen chain)
  · intro inner outer statement other isInner isOuter isChild
    rw [numbered.isChildOf_iff isInner isOuter] at isChild
    rw [Bool.eq_false_iff, Ne, numbered.isChildOf_iff isOuter isInner]
    exact fun chain => Nat.lt_irrefl _ (numbered.lt_of_transGen (isChild.trans chain))
  · intro inner middle outer statement between other isInner isMiddle isOuter first second
    rw [numbered.isChildOf_iff isInner isMiddle] at first
    rw [numbered.isChildOf_iff isMiddle isOuter] at second
    exact (numbered.isChildOf_iff isInner isOuter).mpr (first.trans second)

/-- A statement over a table, as it is built under a number inside of others. -/
def builtAs (number : Nat) (around : List Nat) (table : String) : Statement :=
  .single (.ofPrimary ⟨number⟩ (around.map StatementId.mk) (.ofCapabilities {}) Namer.alpha {}
    { table := { name := table }, aliasName := table, group := primaryGroup })

/-- People, twice their phones, and visits to the first of the phones. -/
def visitsOfPhones : Chronicle :=
  { session := { strategies := .standard, issued := 4 }
    births :=
      [⟨builtAs 1 [] "person", none⟩, ⟨builtAs 2 [1] "phone", some 0⟩,
        ⟨builtAs 3 [1] "phone", some 0⟩, ⟨builtAs 4 [1, 2] "visit", some 1⟩] }

/-- One builder is built twice, and one cannot be built at first. -/
theorem runs_visitsOfPhones : visitsOfPhones.Runs := by
  have people : Runs ⟨{ strategies := .standard, issued := 1 }, [⟨builtAs 1 [] "person", none⟩]⟩ :=
    @Runs.outermost _
      { dialect := .ofCapabilities {}, table := { name := "person" }, aliasName := some "person" }
      (.start { strategies := .standard }) rfl
  have phones : Runs ⟨{ strategies := .standard, issued := 2 }, [⟨builtAs 1 [] "person", none⟩,
      ⟨builtAs 2 [1] "phone", some 0⟩]⟩ :=
    people.subquery { name := "phone" } (some "phone") none {} (@holds_of_born _ 0 _ rfl)
  have phonesAgain : Runs ⟨{ strategies := .standard, issued := 3 }, [⟨builtAs 1 [] "person", none⟩,
      ⟨builtAs 2 [1] "phone", some 0⟩, ⟨builtAs 3 [1] "phone", some 0⟩]⟩ :=
    phones.subquery { name := "phone" } (some "phone") none {} (@holds_of_born _ 0 _ rfl)
  have refused : Runs ⟨{ strategies := .standard, issued := 3 }, [⟨builtAs 1 [] "person", none⟩,
      ⟨builtAs 2 [1] "phone", some 0⟩, ⟨builtAs 3 [1] "phone", some 0⟩]⟩ :=
    phonesAgain.subquery { name := "visit" } (some "visit") none { namingStrategy := "unknown" }
      (@holds_of_born _ 1 _ rfl)
  exact refused.subquery { name := "visit" } (some "visit") none {} (@holds_of_born _ 1 _ rfl)

/-- Join all cities. -/
def joinEveryCity : Operation :=
  .crossJoin { name := "city" } (some "city") none

/-- A DELETE of the visits, with every city joined to them, looks for partners in a
subquery that is a child of people, but not of the phones that were built again. -/
theorem isChildOf_iff_transGen_visitsOfPhones :
    ∃ chronicle : Chronicle, chronicle.Runs ∧
      chronicle.births.map (fun birth => birth.ancestry.map StatementId.number) =
        [[], [1], [1], [1, 2], [1, 2, 4]] ∧
      TransGen chronicle.IsSubqueryOf 4 0 ∧ ¬ TransGen chronicle.IsSubqueryOf 4 2 := by
  have held : visitsOfPhones.Holds 3 (joinEveryCity.run (builtAs 4 [1, 2] "visit")).state :=
    ⟨_, _, [], rfl, Statement.Continues.refl.run joinEveryCity (fun _ isUnion => nomatch isUnion),
      Statement.branchAt?_nil _⟩
  have partners := runs_visitsOfPhones.partner held rfl
  obtain ⟨isChildOf_iff, _⟩ := partners.isChildOf_iff_transGen
  refine ⟨_, partners, by decide +kernel, ?_, ?_⟩
  · exact (isChildOf_iff _ _ _ _ (@holds_of_born _ 4 _ rfl) (@holds_of_born _ 0 _ rfl)).mp
      (by decide +kernel)
  · rw [← isChildOf_iff _ _ _ _ (@holds_of_born _ 4 _ rfl) (@holds_of_born _ 2 _ rfl)]
    decide +kernel

end Chronicle
end SqlBuilder
