/-!
# Blank text

A text is blank when it holds nothing but white space. White space is the
Unicode property `White_Space`, so a no-break space or an ideographic space
counts, and a zero-width space does not.
-/

namespace SqlBuilder
namespace Text

/-- Code points with the Unicode property `White_Space` above the ASCII range,
apart from the run of typographic spaces. -/
def wideBlankCodes : List Nat :=
  [0x85, 0xA0, 0x1680, 0x2028, 0x2029, 0x202F, 0x205F, 0x3000]

/-- A character has the Unicode property `White_Space`. -/
def isBlankChar (character : Char) : Bool :=
  let code := character.toNat
  (0x09 ≤ code && code ≤ 0x0D) || code == 0x20 ||
    (0x2000 ≤ code && code ≤ 0x200A) || wideBlankCodes.contains code

/-- A text without a character other than white space. -/
def isBlank (text : String) : Bool :=
  text.toList.all isBlankChar

@[simp] theorem isBlank_empty : isBlank "" = true := rfl

end Text
end SqlBuilder
