/-!
# Qualified names

A column is written `alias.column`. The functions here cut such a text at its
first dot. Whatever follows that dot, further dots included, is the name.
-/

namespace SqlBuilder
namespace Text

/-- The texts before and after the first dot. -/
def splitAtDot (text : String) : Option (String × String) :=
  match text.toList.dropWhile (· != '.') with
  | [] => none
  | _ :: name =>
      some (String.ofList (text.toList.takeWhile (· != '.')), String.ofList name)

/-- The text after the first dot, or the whole text when it has none. -/
def afterDot (text : String) : String :=
  match splitAtDot text with
  | some (_, name) => name
  | none => text

/-- The text after the first dot when a qualifier stands before that dot, else
the whole text. -/
def withoutQualifier (text : String) : String :=
  match splitAtDot text with
  | some (qualifier, name) => if qualifier = "" then text else name
  | none => text

theorem toList_qualified (qualifier name : String) :
    (qualifier ++ "." ++ name).toList = qualifier.toList ++ '.' :: name.toList := by
  rw [String.toList_append, String.toList_append, List.append_assoc]
  rfl

/-- The first dot stands behind a qualifier that has none itself. -/
theorem splitAtDot_qualified
    {qualifier : String}
    (dotless : '.' ∉ qualifier.toList)
    (name : String) :
    splitAtDot (qualifier ++ "." ++ name) = some (qualifier, name) := by
  have undotted : ∀ character ∈ qualifier.toList, (character != '.') = true :=
    fun character member => bne_iff_ne.mpr fun isDot => dotless (isDot ▸ member)
  rw [splitAtDot, toList_qualified, List.dropWhile_append_of_pos undotted,
    List.takeWhile_append_of_pos undotted]
  simp

end Text
end SqlBuilder
