/-
# Triage.Text.Blank -- blank characters

A character is blank when it has the Unicode property White_Space. Blanks separate the words of an
expression and may stand before the numbers of a written date; a title of blanks only is no title.
Main statement: `isBlank_eq_false_of_visible`, no visible ASCII character is blank.
-/
import Triage.Text.CodePoint

namespace Triage.Text

set_option autoImplicit false

/-- The twenty-five code points with the property White_Space. -/
def blankRanges : List CodePoints :=
  [(0x9, 0xD), (0x20, 0x20), (0x85, 0x85), (0xA0, 0xA0), (0x1680, 0x1680), (0x2000, 0x200A),
    (0x2028, 0x2029), (0x202F, 0x202F), (0x205F, 0x205F), (0x3000, 0x3000)]

def isBlank (c : Char) : Bool := inRanges blankRanges c

/-- A text without its leading blanks. -/
def trimLeft (text : List Char) : List Char := text.dropWhile isBlank

/-- A text is blank when all its characters are; the empty text is. -/
def allBlank (text : String) : Bool := text.toList.all isBlank

/-- The visible ASCII characters stand between two blank ranges. -/
theorem isBlank_eq_false_of_visible {c : Char} (visible : 0x21 ≤ c.toNat ∧ c.toNat ≤ 0x7E) :
    isBlank c = false := by
  apply Bool.eq_false_iff.mpr
  intro blank
  obtain ⟨range, member, above, below⟩ := inRanges_iff.mp blank
  simp only [blankRanges, List.mem_cons, List.not_mem_nil, or_false] at member
  rcases member with rfl | rfl | rfl | rfl | rfl | rfl | rfl | rfl | rfl | rfl <;>
    simp only at above below <;> omega

end Triage.Text
