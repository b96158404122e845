import ImportChart.Text.Case
import ImportChart.Text.LetterTable
import ImportChart.Text.PrintableTable

/-!
# Letters, numbers and printable characters

Two classes of characters, by a test on ASCII and by the tables of the standard beyond it.
-/

namespace ImportChart.Text

/-- Letters and characters with a numeric value. -/
def isLetterOrNumber (c : Char) : Bool :=
  if c.toNat < 128 then c.isAlphanum else inRanges letterOrNumberRanges c.toNat

/-- Characters that are shown as they are inside quotation marks. -/
def isPrintable (c : Char) : Bool :=
  if c.toNat < 128 then 32 ≤ c.toNat && c.toNat < 127 else inRanges printableRanges c.toNat

end ImportChart.Text
