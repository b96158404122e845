import ImportChart.Text.Blank

/-!
# Diagrams in a fence

A diagram is kept in a document between a line of three backticks with the name of its language and a line of three
backticks.

- `wrap`: the diagram in a fence;
- `unwrap`: the diagram in the first fence of a document; without a fence, the document itself with all triples of
  backticks removed.
-/

namespace ImportChart.Fence

/-- Three backticks. -/
def ticks : Text := ['\x60', '\x60', '\x60']

/-- The end of a fenced diagram: a line that begins with three backticks. -/
def closing : Text := '\n' :: ticks

/-- A diagram in a fence, without the line feeds at its end. -/
def wrap (diagram : Text) : Text :=
  ticks ++ "mermaid\n" ++ Text.dropEndWhile (· == '\n') diagram ++ closing ++ ['\n']

/-- Whether a character is the given lower-case letter in either case; the letter i has four forms. -/
def isLetter (lower c : Char) : Bool :=
  c.toLower == lower || (lower == 'i' && (c == 'ı' || c == 'İ'))

/-- The text after the name of the language, in any letter case. -/
def afterLanguage? (t : Text) : Option Text :=
  let name : Text := "mermaid"
  if t.length < name.length || !(List.zipWith isLetter name t).all id then none else some (t.drop name.length)

/-- The body of a fence whose opening line ends in these blanks: the text up to the closing after the last line feed
of the blanks, or after an earlier one if no closing follows the last. -/
def bodyAfterBlanks? : Text → Option Text
  | [] => none
  | c :: cs =>
    if !Text.isBlank c then none
    else
      (bodyAfterBlanks? cs).or <|
        if c == '\n' then (Text.splitAtPart closing cs).map Prod.fst else none

/-- The body of the fence that a text begins with. -/
def body? (t : Text) : Option Text :=
  if ticks.isPrefixOf t then (afterLanguage? (Text.trimStart (t.drop 3))).bind bodyAfterBlanks? else none

/-- The body of the first fence in a text. -/
def firstBody? : Text → Option Text
  | [] => none
  | c :: cs => (body? (c :: cs)).or (firstBody? cs)

/-- The diagram of a document. -/
def unwrap (document : Text) : Text :=
  match firstBody? document with
  | some body => body
  | none => Text.trim (Text.replaceAll ticks [] document)

end ImportChart.Fence
