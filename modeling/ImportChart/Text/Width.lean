import ImportChart.Text.Case
import ImportChart.Text.WidthTable

/-!
# Cells and tabs

On a screen of cells of one size a character takes no cell, one or two, as the `rich` package counts them. A tab goes on
to the next stop, and there is a stop at every eighth cell.

- `width`: how many cells a text takes;
- `expandTabs`: a line with blanks in the place of its tabs.
-/

namespace ImportChart.Text

/-- How many cells a character takes by itself. -/
def charWidth (c : Char) : Nat :=
  let n := c.toNat
  if 32 ≤ n && n < 127 then 1
  else if inRanges narrowestRanges n then 0
  else if inRanges wideRanges n then 2
  else 1

/-- The cells of a text that follows a character. What a joiner joins takes no cell, and the sign for the coloured form
widens the character before it. -/
def widthAfter (previous : Option Char) : Text → Nat
  | [] => 0
  | '\u200d' :: _ :: rest => widthAfter previous rest
  | '\ufe0f' :: rest => (if previous.any fun c => inRanges widenedRanges c.toNat then 1 else 0) + widthAfter none rest
  | c :: rest =>
    let w := charWidth c
    if w = 0 then widthAfter previous rest else w + widthAfter (some c) rest

/-- How many cells a text takes. -/
def width (t : Text) : Nat := widthAfter none t

/-- The distance between the stops of tabs, in cells. -/
def tabStop : Nat := 8

/-- A piece of a line that begins at a stop, with the blanks up to the next stop behind it. -/
def upToStop (piece : Text) : Text := piece ++ List.replicate (tabStop - width piece % tabStop) ' '

/-- The pieces of a line between its tabs, each but the last one with its blanks. -/
def joinAtStops : List Text → Text
  | [] => []
  | [piece] => piece
  | piece :: next :: rest => upToStop piece ++ joinAtStops (next :: rest)

/-- A line with blanks in the place of its tabs. -/
def expandTabs (line : Text) : Text := joinAtStops (splitOn '\t' line)

end ImportChart.Text
