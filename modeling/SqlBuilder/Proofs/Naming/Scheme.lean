import SqlBuilder.Proofs.Registration

/-!
# Names that are generated

A generated name is a number between a stem and a suffix, and the search for one goes on to
the next number as long as the name is taken. Nothing but the names in use holds it up. They
are finitely many and different numbers give different names, so the search fails no more
often than there are names in use, whatever these look like. Trying one candidate more than
that is therefore as good as searching without a bound. The alias that a naming scheme finds
has the form of capital letters, a number, and a suffix for each level of nesting.
-/

namespace SqlBuilder

/-! ## Searching without a bound -/

/-- From a number on, the search fails so many times and then finds a name. -/
inductive Seeks (taken : String → Bool) (name : Nat → String) : Nat → Nat → String → Prop
  | found {start : Nat} :
      taken (name start) = false →
      Seeks taken name start 0 (name start)
  | failed {start failures : Nat} {found : String} :
      taken (name start) = true →
      Seeks taken name (start + 1) failures found →
      Seeks taken name start (failures + 1) found

section Search

variable {taken : String → Bool} {name : Nat → String} {start failures : Nat} {found : String}

theorem Seeks.eq_name (seeks : Seeks taken name start failures found) :
    found = name (start + failures) := by
  induction seeks with
  | found _ => rfl
  | @failed start failures found _ _ inductionHypothesis =>
      rw [inductionHypothesis, Nat.add_assoc, Nat.add_comm 1 failures]

theorem Seeks.not_taken (seeks : Seeks taken name start failures found) :
    taken found = false := by
  induction seeks with
  | found free => exact free
  | failed _ _ inductionHypothesis => exact inductionHypothesis

/-- A bounded search finds what the search without a bound finds, as long as that fails less
often than there are attempts. -/
theorem freshName?_eq_some_iff {attempts : Nat} :
    freshName? taken name start attempts = some found ↔
      ∃ failures < attempts, Seeks taken name start failures found := by
  induction attempts generalizing start with
  | zero => simp [freshName?]
  | succ attempts inductionHypothesis =>
      rw [freshName?]
      cases isTaken : taken (name start) with
      | false =>
          simp only [Bool.false_eq_true, ↓reduceIte, Option.some.injEq]
          constructor
          · rintro rfl
            exact ⟨0, Nat.succ_pos _, .found isTaken⟩
          · rintro ⟨_, _, seeks⟩
            cases seeks with
            | found _ => rfl
            | failed takenToo _ => simp [isTaken] at takenToo
      | true =>
          rw [if_pos rfl, inductionHypothesis]
          constructor
          · rintro ⟨failures, fewer, seeks⟩
            exact ⟨failures + 1, Nat.succ_lt_succ fewer, .failed isTaken seeks⟩
          · rintro ⟨_, fewer, seeks⟩
            cases seeks with
            | found free => simp [isTaken] at free
            | failed _ seeks => exact ⟨_, Nat.lt_of_succ_lt_succ fewer, seeks⟩

/-- Where numbers give names of their own, the search fails no more often than there are
names in use. -/
theorem exists_seeks
    (injective : Function.Injective name)
    {inUse : List String}
    (listed : ∀ number, start ≤ number → taken (name number) = true → name number ∈ inUse) :
    ∃ failures ≤ inUse.length, ∃ found, Seeks taken name start failures found := by
  induction count : inUse.length generalizing start inUse with
  | zero =>
      have free : taken (name start) = false := by
        rw [List.length_eq_zero_iff.mp count] at listed
        exact Bool.eq_false_iff.mpr fun isTaken => nomatch listed start (Nat.le_refl _) isTaken
      exact ⟨0, Nat.le_refl _, _, .found free⟩
  | succ count inductionHypothesis =>
      cases isTaken : taken (name start) with
      | false => exact ⟨0, Nat.zero_le _, _, .found isTaken⟩
      | true =>
          -- The candidates that are left are other names, so this one is not counted again.
          have member := listed start (Nat.le_refl _) isTaken
          have length_eq := List.length_erase_of_mem member
          have stillListed : ∀ number, start + 1 ≤ number → taken (name number) = true →
              name number ∈ inUse.erase (name start) := by
            intro number reached takenToo
            have different : name number ≠ name start := fun same => by
              have := injective same
              omega
            exact (List.mem_erase_of_ne different).mpr (listed number (by omega) takenToo)
          obtain ⟨failures, bounded, found, seeks⟩ :=
            inductionHypothesis stillListed (by omega)
          exact ⟨failures + 1, Nat.succ_le_succ bounded, found, .failed isTaken seeks⟩

/-- With one attempt more than there are names in use, what is found does not depend on the
bound, and nothing takes its place. -/
theorem exists_seeks_getD
    (injective : Function.Injective name)
    {inUse : List String}
    (listed : ∀ number, start ≤ number → taken (name number) = true → name number ∈ inUse)
    (otherwise : String) :
    ∃ failures ≤ inUse.length, Seeks taken name start failures
      ((freshName? taken name start (inUse.length + 1)).getD otherwise) := by
  obtain ⟨failures, bounded, found, seeks⟩ := exists_seeks injective listed
  have found_eq := freshName?_eq_some_iff.mpr ⟨failures, Nat.lt_succ_of_le bounded, seeks⟩
  rw [found_eq, Option.getD_some]
  exact ⟨failures, bounded, seeks⟩

end Search

/-! ## Numbered names -/

/-- Numbers between a stem and a suffix give texts of their own. -/
theorem injective_numbered (stem suffix : String) :
    Function.Injective fun number : Nat => stem ++ toString number ++ suffix := by
  intro first second same
  dsimp only at same
  rw [String.append_left_inj, String.append_right_inj] at same
  have digits : Nat.toDigits 10 first = Nat.toDigits 10 second := by
    rw [← Nat.toList_repr, ← Nat.toList_repr]
    exact congrArg String.toList same
  calc first
      = Nat.ofDigitChars 10 (Nat.toDigits 10 first) 0 := (Nat.ofDigitChars_ten_toDigits).symm
    _ = Nat.ofDigitChars 10 (Nat.toDigits 10 second) 0 := by rw [digits]
    _ = second := Nat.ofDigitChars_ten_toDigits

namespace Registry

variable {registry : Registry}

/-- An alias in use is that of a registered table. -/
theorem mem_of_isTaken
    {aliasName : String}
    (isTaken : registry.isTaken aliasName = true) :
    aliasName ∈ registry.tables.map TableRef.aliasName := by
  obtain ⟨ref, found⟩ := Option.isSome_iff_exists.mp isTaken
  obtain ⟨registered, isIt⟩ := mem_and_alias_of_get? found
  exact isIt ▸ List.mem_map_of_mem registered

/-- An alias that is not in use is that of no registered table. -/
theorem aliasName_ne_of_not_isTaken
    {aliasName : String}
    (free : registry.isTaken aliasName = false) :
    ∀ ref ∈ registry.tables, ref.aliasName ≠ aliasName := by
  rw [isTaken, Option.isSome_eq_false_iff, Option.isNone_iff_eq_none] at free
  exact get?_eq_none_iff.mp free

/-- The search for the name of a new group. -/
theorem seeks_nextGroupName (registry : Registry) :
    ∃ failures ≤ registry.groups.length,
      Seeks registry.hasGroup numberedGroup registry.groups.length failures
        registry.nextGroupName := by
  have injective : Function.Injective numberedGroup := by
    intro first second same
    apply injective_numbered "Group" ""
    simpa only [String.append_empty, numberedGroup] using same
  have listed : ∀ number, registry.groups.length ≤ number →
      registry.hasGroup (numberedGroup number) = true →
      numberedGroup number ∈ registry.groups.map TableGroup.name :=
    fun number _ exists_group => List.mem_map.mpr (hasGroup_iff.mp exists_group)
  have ends := exists_seeks_getD injective listed ""
  rwa [List.length_map] at ends

end Registry

namespace NamingContext

/-- The search for the alias of a table. -/
theorem seeks_firstFree (context : NamingContext) (stem : String) (start : Nat) :
    ∃ failures ≤ context.tableCount,
      Seeks context.isTaken (fun number => stem ++ toString number ++ context.suffix) start
        failures (context.firstFree stem start) := by
  have listed : ∀ number, start ≤ number →
      context.isTaken (stem ++ toString number ++ context.suffix) = true →
      stem ++ toString number ++ context.suffix ∈
        context.registry.tables.map TableRef.aliasName :=
    fun number _ isTaken => Registry.mem_of_isTaken isTaken
  have ends := exists_seeks_getD (injective_numbered stem context.suffix) listed ""
  rwa [List.length_map] at ends

/-- The first free alias has the form of those that are sought, and is free. -/
theorem exists_firstFree_eq (context : NamingContext) (stem : String) (start : Nat) :
    ∃ number : Nat, context.firstFree stem start = stem ++ toString number ++ context.suffix ∧
      context.isTaken (context.firstFree stem start) = false := by
  obtain ⟨failures, _, seeks⟩ := context.seeks_firstFree stem start
  exact ⟨start + failures, seeks.eq_name, seeks.not_taken⟩

/-- Whatever aliases and group names are in use, the searches of both naming schemes end
after no more failures than there are tables, with an alias that no table has, and the
search for a group name ends after no more failures than there are groups, with a name
that no group has and that is not empty. -/
theorem searches_end (context : NamingContext) (table : Table) (group : String) :
    let registry := context.registry
    let position := (context.groupPosition? group).getD context.groupCount
    (∃ failures ≤ registry.tables.length,
      Seeks context.isTaken
        (fun number => Namer.letters position ++ toString number ++ context.suffix)
        (context.tablesInGroup group) failures (Namer.alpha context table group)) ∧
      (∃ failures ≤ registry.tables.length,
        Seeks context.isTaken (fun number => "T" ++ toString number ++ context.suffix)
          registry.tables.length failures (Namer.numbered context table group)) ∧
      (∃ failures ≤ registry.groups.length,
        Seeks registry.hasGroup Registry.numberedGroup registry.groups.length failures
          registry.nextGroupName) ∧
      (∀ ref ∈ registry.tables,
        ref.aliasName ≠ Namer.alpha context table group ∧
          ref.aliasName ≠ Namer.numbered context table group) ∧
      (∀ present ∈ registry.groups, present.name ≠ registry.nextGroupName) ∧
      registry.nextGroupName ≠ "" := by
  intro registry position
  have byLetters := context.seeks_firstFree (Namer.letters position)
    (context.tablesInGroup group)
  have byNumber := context.seeks_firstFree "T" context.tableCount
  have ofGroup := registry.seeks_nextGroupName
  refine ⟨byLetters, byNumber, ofGroup, ?_, ?_, ?_⟩
  · intro ref registered
    obtain ⟨_, _, letters⟩ := byLetters
    obtain ⟨_, _, numbered⟩ := byNumber
    exact ⟨Registry.aliasName_ne_of_not_isTaken letters.not_taken ref registered,
      Registry.aliasName_ne_of_not_isTaken numbered.not_taken ref registered⟩
  · obtain ⟨_, _, seeks⟩ := ofGroup
    intro present member same
    have isTaken : registry.hasGroup registry.nextGroupName = true :=
      Registry.hasGroup_iff.mpr ⟨present, member, same⟩
    rw [seeks.not_taken] at isTaken
    cases isTaken
  · obtain ⟨_, _, seeks⟩ := ofGroup
    rw [seeks.eq_name, Registry.numberedGroup]
    simp

/-- Names that look like generated ones hold a search up, each of them once. -/
example :
    let registry : Registry :=
      { tables := [
          { table := { name := "person" }, aliasName := "T2", group := "Group2" },
          { table := { name := "phone" }, aliasName := "T3", group := "Group3" }]
        groups := [
          { name := "Group2", joinKind := none }, { name := "Group3", joinKind := none }] }
    Namer.numbered { registry := registry, depth := 0 } { name := "city" } "Group2" = "T4" ∧
      registry.nextGroupName = "Group4" := by
  decide +kernel

end NamingContext

/-! ## The form of an alias -/

namespace Namer

theorem toNat_ofNat_letter {digit : Nat} (small : digit < 26) :
    (Char.ofNat (65 + digit)).toNat = 65 + digit := by
  have all : ∀ digit < 26, (Char.ofNat (65 + digit)).toNat = 65 + digit := by decide
  exact all digit small

theorem isUpper_iff_toNat {letter : Char} :
    letter.isUpper = true ↔ 65 ≤ letter.toNat ∧ letter.toNat ≤ 90 :=
  calc letter.isUpper = true
      ↔ 'A'.val ≤ letter.val ∧ letter.val ≤ 'Z'.val := decide_eq_true_iff
    _ ↔ 65 ≤ letter.toNat ∧ letter.toNat ≤ 90 :=
        and_congr UInt32.le_iff_toNat_le UInt32.le_iff_toNat_le

theorem isUpper_ofNat {digit : Nat} (small : digit < 26) :
    (Char.ofNat (65 + digit)).isUpper = true := by
  rw [isUpper_iff_toNat, toNat_ofNat_letter small]
  omega

/-- The letters of a number are capitals. -/
theorem isUpper_of_mem_lettersOf
    {index : Nat}
    {letter : Char}
    (member : letter ∈ lettersOf index) : letter.isUpper = true := by
  induction index using lettersOf.induct with
  | case1 index small =>
      rw [lettersOf, if_pos small, List.mem_singleton] at member
      exact member ▸ isUpper_ofNat small
  | case2 index large inductionHypothesis =>
      rw [lettersOf, if_neg large, List.mem_append, List.mem_singleton] at member
      rcases member with member | rfl
      · exact inductionHypothesis member
      · exact isUpper_ofNat (Nat.mod_lt _ (by omega))

/-- A namer is one of the schemes that are always on offer. -/
def IsScheme (namer : Namer) : Prop :=
  namer = alpha ∨ namer = numbered

/-- A scheme gives an alias that is free, of capital letters, a number and the
suffix of the depth. -/
theorem IsScheme.exists_alias
    {namer : Namer}
    (isScheme : namer.IsScheme)
    (context : NamingContext)
    (table : Table)
    (group : String) :
    ∃ stem number, (∀ letter ∈ stem.toList, letter.isUpper = true) ∧
      namer context table group = stem ++ toString (number : Nat) ++ context.suffix ∧
      context.isTaken (namer context table group) = false := by
  have ofStem : ∀ stem start, (∀ letter ∈ stem.toList, letter.isUpper = true) →
      ∃ stem' number, (∀ letter ∈ stem'.toList, letter.isUpper = true) ∧
        context.firstFree stem start = stem' ++ toString (number : Nat) ++ context.suffix ∧
        context.isTaken (context.firstFree stem start) = false := by
    intro stem start capitals
    obtain ⟨number, alias_eq, free⟩ := context.exists_firstFree_eq stem start
    exact ⟨stem, number, capitals, alias_eq, free⟩
  rcases isScheme with rfl | rfl
  · refine ofStem _ _ fun letter member => ?_
    rw [letters, String.toList_ofList] at member
    exact isUpper_of_mem_lettersOf member
  · refine ofStem "T" _ fun letter member => ?_
    have isT : letter = 'T' := by simpa using member
    rw [isT]
    rfl

end Namer

end SqlBuilder
