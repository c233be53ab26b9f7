import SqlBuilder.Query.Text

/-!
# The lock texts of a query

The lock texts of a query, hints behind tables and a clause at the end, are pieces of its
text. The rest of the text is what the query would be without them, so that there are
none exactly if the text does not change when they are left out.
-/

namespace SqlBuilder

/-! ## Pieces of a text -/

/-- The piece stands somewhere in the text. -/
def HasPiece (text piece : String) : Prop :=
  ∃ before after, text = before ++ piece ++ after

theorem HasPiece.refl (text : String) : HasPiece text text :=
  ⟨"", "", by rw [String.empty_append, String.append_empty]⟩

theorem HasPiece.append_right
    {text piece : String}
    (has : HasPiece text piece)
    (back : String) : HasPiece (text ++ back) piece := by
  obtain ⟨before, after, rfl⟩ := has
  exact ⟨before, after ++ back, String.append_assoc⟩

theorem HasPiece.append_left
    {text piece : String}
    (has : HasPiece text piece)
    (front : String) : HasPiece (front ++ text) piece := by
  obtain ⟨before, after, rfl⟩ := has
  exact ⟨front ++ before, after, by rw [String.append_assoc, String.append_assoc,
    String.append_assoc]⟩

theorem HasPiece.join
    {texts : List String}
    {text piece : String}
    (has : HasPiece text piece)
    (member : text ∈ texts) : HasPiece (String.join texts) piece := by
  obtain ⟨front, back, rfl⟩ := List.append_of_mem member
  rw [String.join_append, String.join_cons]
  exact (has.append_right _).append_left _

/-! ## The lock texts of a query -/

/-- The clause without its lock hint. -/
def JoinClause.withoutHint : JoinClause → JoinClause
  | .keyed kind target _ condition => .keyed kind target none condition
  | clause => clause

theorem JoinClause.length_toSql (clause : JoinClause) :
    clause.toSql.length = clause.withoutHint.toSql.length + (hintText clause.hint?).length := by
  cases clause with
  | keyed kind target hint condition =>
      let before := " " ++ kind.keyword ++ " " ++ target.toSql
      change (before ++ hintText hint ++ " ON " ++ (condition.getD .always).toSql).length =
        (before ++ "" ++ " ON " ++ (condition.getD .always).toSql).length +
          (hintText hint).length
      simp only [String.length_append, String.length_empty]
      omega
  | cross target | crossAsInner target | listed target => rfl

theorem JoinClause.hasPiece_hint
    {clause : JoinClause}
    {hint : String}
    (hinted : clause.hint? = some hint) : HasPiece clause.toSql (" WITH " ++ hint) := by
  cases clause with
  | keyed kind target written condition =>
      obtain rfl : written = some hint := hinted
      exact (((HasPiece.refl _).append_left _).append_right _).append_right _
  | cross target | crossAsInner target | listed target => cases hinted

/-- The hint of an arm stands before its joins. -/
theorem SelectArm.exists_toSql_eq (arm : SelectArm) :
    ∃ before after, ∀ hint joins,
      ({ arm with hint := hint, joins := joins } : SelectArm).toSql =
        before ++ hintText hint ++ String.join (joins.map JoinClause.toSql) ++ after := by
  refine ⟨"SELECT " ++ (if arm.distinct then "DISTINCT " else "") ++
      arm.list.toSql arm.primary ++ " FROM " ++ arm.primary.toSql,
    optionalText (" WHERE " ++ ·.toSql) arm.condition ++
      ((if arm.groupBy.isEmpty then ""
        else " GROUP BY " ++ String.intercalate ", " arm.groupBy) ++
        optionalText (" HAVING " ++ ·.toSql) arm.having), fun hint joins => ?_⟩
  rw [← String.append_assoc, ← String.append_assoc]
  rfl

/-- The lock clause stands at the end. -/
theorem SelectEnding.exists_toSql_eq (ending : SelectEnding) :
    ∃ before, ∀ lock, ({ ending with lock := lock } : SelectEnding).toSql =
      before ++ optionalText (" " ++ ·) lock :=
  ⟨(if ending.orderBy.isEmpty then ""
      else " ORDER BY " ++ String.intercalate ", " (ending.orderBy.map OrderItem.toSql)) ++
      optionalText (" " ++ ·) ending.range, fun _ => rfl⟩

/-- The outer queries stand before and behind the text of a query. -/
theorem Wrapper.exists_around_eq (wrapper : Wrapper) :
    ∃ before after, ∀ inner, wrapper.around inner = before ++ inner ++ after := by
  cases wrapper with
  | unwrapped => exact ⟨"", "", fun inner => by rw [String.empty_append, String.append_empty]; rfl⟩
  | numberedRows rowNumber filter =>
      exact ⟨"SELECT * FROM (SELECT subq.*, " ++ rowNumberColumn rowNumber ++ " FROM (",
        ") subq) WHERE " ++ filter.toSql "rn", fun inner => String.append_assoc⟩
  | numberColumn names filter =>
      exact ⟨"SELECT " ++
          (if names.isEmpty then "subq.*"
            else String.intercalate ", " (names.map ("subq." ++ ·))) ++ " FROM (",
        ") subq WHERE " ++ filter.toSql "subq.rn", fun inner => String.append_assoc⟩

namespace SelectQuery

/-- The lock texts as they are written in the query of a single arm: the hints behind
tables, and the clause at the end. -/
def lockTexts (query : SelectQuery) : List String :=
  (query.arm.hint.toList ++ query.arm.joins.filterMap JoinClause.hint?).map (" WITH " ++ ·) ++
    query.ending.lock.toList.map (" " ++ ·)

/-- The query without these texts. -/
def withoutLocks : SelectQuery → SelectQuery
  | .node arm unionAll branches ending =>
      .node { arm with hint := none, joins := arm.joins.map JoinClause.withoutHint } unionAll
        branches { ending with lock := none }

theorem length_join_clauses (clauses : List JoinClause) :
    (String.join (clauses.map JoinClause.toSql)).length =
      (String.join ((clauses.map JoinClause.withoutHint).map JoinClause.toSql)).length +
        (String.join ((clauses.filterMap JoinClause.hint?).map (" WITH " ++ ·))).length := by
  induction clauses with
  | nil => rfl
  | cons clause clauses inductionHypothesis =>
      have ofClause := clause.length_toSql
      simp only [List.map_cons, String.join_cons, String.length_append, inductionHypothesis]
      cases hint : clause.hint? with
      | none =>
          rw [hint, hintText, optionalText, String.length_empty] at ofClause
          rw [List.filterMap_cons_none hint]
          omega
      | some text =>
          rw [hint, hintText, optionalText] at ofClause
          rw [List.filterMap_cons_some hint, List.map_cons, String.join_cons,
            String.length_append]
          omega

/-- The lock texts are what the text is longer by. -/
theorem length_toSql (query : SelectQuery) :
    query.toSql.length =
      query.withoutLocks.toSql.length + (String.join query.lockTexts).length := by
  cases query with
  | node arm unionAll branches ending =>
      have ofJoins := length_join_clauses arm.joins
      have ofHint : hintText arm.hint = String.join (arm.hint.toList.map (" WITH " ++ ·)) := by
        cases arm.hint <;> simp [hintText, optionalText]
      have ofLock : optionalText (" " ++ ·) ending.lock =
          String.join (ending.lock.toList.map (" " ++ ·)) := by
        cases ending.lock <;> simp [optionalText]
      obtain ⟨outerBefore, outerAfter, around_eq⟩ := ending.wrapper.exists_around_eq
      obtain ⟨armBefore, armAfter, arm_eq⟩ := arm.exists_toSql_eq
      obtain ⟨endingBefore, ending_eq⟩ := ending.exists_toSql_eq
      simp only [toSql, withoutLocks, lockTexts, SelectQuery.arm, SelectQuery.ending, around_eq,
        arm_eq, ending_eq, String.length_append, List.map_append, String.join_append, ofHint,
        ofJoins, ofLock]
      simp only [hintText, optionalText, String.length_empty]
      omega

/-- Without lock texts there is nothing to leave out. -/
theorem withoutLocks_of_lockTexts_eq_nil
    {query : SelectQuery}
    (unlocked : query.lockTexts = []) : query.withoutLocks = query := by
  cases query with
  | node arm unionAll branches ending =>
      simp only [lockTexts, SelectQuery.arm, SelectQuery.ending, List.append_eq_nil_iff,
        List.map_eq_nil_iff, Option.toList_eq_nil_iff, List.filterMap_eq_nil_iff] at unlocked
      obtain ⟨⟨noHint, noHints⟩, noClause⟩ := unlocked
      have joins_eq : arm.joins.map JoinClause.withoutHint = arm.joins := by
        refine (List.map_congr_left fun clause member => ?_).trans (List.map_id _)
        cases clause with
        | keyed kind target hint condition =>
            obtain rfl : hint = none := noHints _ member
            rfl
        | cross target | crossAsInner target | listed target => rfl
      have arm_eq : { arm with hint := none } = arm := by rw [← noHint]
      have ending_eq : { ending with lock := none } = ending := by rw [← noClause]
      simp only [withoutLocks, joins_eq, arm_eq, ending_eq]

/-- What stands in the arm of a query stands in the query. -/
theorem hasPiece_of_arm
    {query : SelectQuery}
    {piece : String}
    (has : HasPiece query.arm.toSql piece) : HasPiece query.toSql piece := by
  cases query with
  | node arm unionAll branches ending =>
      obtain ⟨before, after, around_eq⟩ := ending.wrapper.exists_around_eq
      rw [toSql, around_eq]
      exact (((has.append_right _).append_right _).append_left _).append_right _

/-- What stands in the ending of a query stands in the query. -/
theorem hasPiece_of_ending
    {query : SelectQuery}
    {piece : String}
    (has : HasPiece query.ending.toSql piece) : HasPiece query.toSql piece := by
  cases query with
  | node arm unionAll branches ending =>
      obtain ⟨before, after, around_eq⟩ := ending.wrapper.exists_around_eq
      rw [toSql, around_eq]
      exact ((has.append_left _).append_left _).append_right _

/-- The lock texts stand in the text of the query. -/
theorem hasPiece_of_mem_lockTexts
    {query : SelectQuery}
    {text : String}
    (member : text ∈ query.lockTexts) : HasPiece query.toSql text := by
  rw [lockTexts, List.mem_append, List.mem_map, List.mem_map] at member
  rcases member with ⟨hint, isHint, rfl⟩ | ⟨clause, isLock, rfl⟩
  · obtain ⟨before, after, arm_eq⟩ := query.arm.exists_toSql_eq
    apply hasPiece_of_arm
    rw [show query.arm.toSql = _ from arm_eq query.arm.hint query.arm.joins]
    apply HasPiece.append_right
    rw [List.mem_append, Option.mem_toList, List.mem_filterMap] at isHint
    rcases isHint with ofPrimary | ⟨clause, isJoined, hinted⟩
    · rw [show query.arm.hint = some hint from ofPrimary]
      exact ((HasPiece.refl _).append_left _).append_right _
    · exact (HasPiece.join (JoinClause.hasPiece_hint hinted)
        (List.mem_map_of_mem isJoined)).append_left _
  · obtain ⟨before, ending_eq⟩ := query.ending.exists_toSql_eq
    apply hasPiece_of_ending
    rw [Option.mem_toList] at isLock
    rw [show query.ending.toSql = _ from ending_eq query.ending.lock,
      show query.ending.lock = some clause from isLock]
    exact (HasPiece.refl _).append_left _

theorem length_pos_of_mem_lockTexts
    {query : SelectQuery}
    {text : String}
    (member : text ∈ query.lockTexts) : 0 < text.length := by
  rw [lockTexts, List.mem_append, List.mem_map, List.mem_map] at member
  rcases member with ⟨hint, _, rfl⟩ | ⟨clause, _, rfl⟩
  · rw [String.length_append]
    exact Nat.add_pos_left (by decide) _
  · rw [String.length_append]
    exact Nat.add_pos_left (by decide) _

/-- A query says nothing about locks exactly if its text is the same without them. -/
theorem lockTexts_eq_nil_iff (query : SelectQuery) :
    query.lockTexts = [] ↔ query.toSql = query.withoutLocks.toSql := by
  constructor
  · intro unlocked
    rw [withoutLocks_of_lockTexts_eq_nil unlocked]
  · intro same
    have length_eq := query.length_toSql
    cases written : query.lockTexts with
    | nil => rfl
    | cons text rest =>
        have nonempty : 0 < text.length := by
          apply length_pos_of_mem_lockTexts
          rw [written]
          exact List.mem_cons_self
        rw [same, written, String.join_cons, String.length_append] at length_eq
        omega

end SelectQuery
end SqlBuilder
