import ImportChart.Text.Basic

/-!
# Blank characters and lines

- `isBlank`: white space, together with the four information separators;
- `trim` and its two halves, and `words`;
- `isLineEnd` and `lines`: a line ends at any of ten characters, and a carriage return with the line feed after it
  is one end.
-/

namespace ImportChart.Text

/-- White space in the sense of Unicode, and the information separators U+001C to U+001F. -/
def isBlank (c : Char) : Bool :=
  let n := c.toNat
  (9 ≤ n && n ≤ 13) || (28 ≤ n && n ≤ 32) || n == 0x85 || n == 0xA0 || n == 0x1680 || (0x2000 ≤ n && n ≤ 0x200A) ||
    n == 0x2028 || n == 0x2029 || n == 0x202F || n == 0x205F || n == 0x3000

/-- Drop the blanks at the beginning. -/
def trimStart (t : Text) : Text := t.dropWhile isBlank

/-- Drop the blanks at the end. -/
def trimEnd (t : Text) : Text := dropEndWhile isBlank t

/-- Drop the blanks at both ends. -/
def trim (t : Text) : Text := trimEnd (trimStart t)

/-- What stands between blanks. -/
def words (t : Text) : List Text :=
  (splitOn ' ' (t.map fun c => if isBlank c then ' ' else c)).filter fun w => !w.isEmpty

/-- Whether a text has no character but blanks. -/
def isBlankText (t : Text) : Bool := t.all isBlank

/-- The characters that end a line. -/
def isLineEnd (c : Char) : Bool :=
  let n := c.toNat
  (10 ≤ n && n ≤ 13) || (28 ≤ n && n ≤ 30) || n == 0x85 || n == 0x2028 || n == 0x2029

/-- The lines of a text without their ends; text after the last line end is one more line, unless it is empty. -/
def lines : Text → List Text
  | [] => []
  | '\r' :: '\n' :: cs => [] :: lines cs
  | c :: cs =>
    if isLineEnd c then [] :: lines cs
    else
      match lines cs with
      | [] => [[c]]
      | line :: rest => (c :: line) :: rest

end ImportChart.Text
