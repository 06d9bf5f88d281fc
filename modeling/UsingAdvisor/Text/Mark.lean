import UsingAdvisor.Text.MarkTable
import UsingAdvisor.Text.Ranges
import UsingAdvisor.Text

/-!
# Marks

A mark belongs to the character in front of it. Some marks take room beside the character, others stand
above, below or around it.
-/

namespace UsingAdvisor.Text

/-- Whether a character is a mark that takes no room of its own. -/
def isNonspacing (c : Char) : Bool :=
  inRanges nonspacingRanges c.toNat

/-- Whether a character is a mark. -/
def isMark (c : Char) : Bool :=
  isNonspacing c || inRanges spacingRanges c.toNat

end UsingAdvisor.Text
