import ImportChart.Document.Quoting
import ImportChart.Text.Letter

/-!
# The lines of a document

Before the `toml` package reads a document line by line, it goes through the text by characters: comments become blanks,
the line ends inside a list become blanks, so that a list is on one line, and every key is checked to be a key with an
equals sign behind it. `logicalLines` gives the lines that are left.

The state between two characters is a `Cursor`. A character looks back at the characters before it, as they are after
their own treatment; the first character of a text looks back at the end of the text.
-/

namespace ImportChart.Document

/-- Where the cursor is with respect to a key. -/
inductive KeyPart where
  | outside
  /-- In a key, or in a part of a dotted key. -/
  | inside
  /-- Behind a key, before its equals sign. -/
  | behind
  deriving DecidableEq, Repr

/-- Where the cursor is with respect to a header of a table. -/
inductive Header where
  | outside
  | table
  | tableInList
  deriving DecidableEq, Repr

/-- What is known before a character. -/
structure Cursor where
  /-- The characters before it, the nearest first. -/
  done : Text := []
  /-- The mark of the quotation that it stands in. -/
  mark : Option Char := none
  /-- Whether that quotation may go over several lines. -/
  multiline : Bool := false
  inComment : Bool := false
  header : Header := .outside
  /-- How many lists are open. -/
  depth : Int := 0
  /-- Whether nothing but blanks is before it on its line. -/
  atLineStart : Bool := true
  key : KeyPart := .outside
  /-- Whether the key has a point. -/
  dotted : Bool := false

namespace Cursor

/-- Go on with a character as it is. -/
def push (s : Cursor) (c : Char) : Cursor := { s with done := c :: s.done }

/-! ## Keys -/

/-- Behind a point or a blank in a dotted key, the next character decides whether the key goes on. -/
def beforeNextPart (s : Cursor) (rest : Text) : Reading Cursor :=
  match rest with
  | [] => .error .cutShort
  | next :: _ => .ok (if Text.isBlank next || next == '.' then s else { s with key := .inside })

/-- Go on inside or behind a key. -/
def stepKey (s : Cursor) (c : Char) (rest : Text) : Reading Cursor :=
  if c == '\n' then .error .malformed
  else if s.mark.isSome then
    if s.mark == some c && (s.done.takeWhile (· == '\\')).length % 2 == 0 then
      .ok ({ s with key := .behind, mark := none }.push c)
    else .ok (s.push c)
  else
    match s.key with
    | .inside =>
      if Text.isBlank c then .ok ({ s with key := .behind }.push c)
      else if c == '.' then .ok ({ s with dotted := true }.push c)
      else if Text.isLetterOrNumber c || c == '_' || c == '-' then .ok (s.push c)
      else if s.dotted && s.done.head? == some '.' && isMark c then .ok ({ s with mark := some c }.push c)
      else endKey
    | _ =>
      if Text.isBlank c then if s.dotted then (s.push c).beforeNextPart rest else .ok (s.push c)
      else if c == '.' then ({ s with dotted := true }.push c).beforeNextPart rest
      else endKey
where
  /-- The equals sign ends a key. -/
  endKey : Reading Cursor :=
    if c == '=' then .ok ({ s with key := .outside, dotted := false }.push c) else .error .malformed

/-! ## Values and headers -/

/-- The characters before the current one, the nearest first. -/
def behindMe (s : Cursor) (c : Char) (rest : Text) : Text := if s.done.isEmpty then rest.reverse ++ [c] else s.done

/-- How many of the two characters before are the mark itself. -/
def marksBefore (c : Char) (before : Text) : Nat := ((before.take 2).takeWhile (· == c)).length

/-- The state of the quotation after a mark that opens or closes one. -/
def turn (s : Cursor) (c : Char) (triple : Bool) : Cursor :=
  let opened := if triple then !s.multiline else s.mark.isNone
  { s with multiline := if triple then opened else s.multiline, mark := if opened then some c else none }

/-- Meet a quotation mark. -/
def meetMark (s : Cursor) (c : Char) (before : Text) : Cursor :=
  if s.mark.isSome && s.mark != some c then s
  else
    let count := marksBefore c before
    let escaped :=
      c == '"' && count != 1 && ((before.drop count).takeWhile (· == '\\')).length % 2 == 1
    if escaped then s else s.turn c (count == 2)

/-- Meet an opening bracket. -/
def openBracket (s : Cursor) (rest : Text) : Cursor :=
  if s.mark.isSome || s.header != .outside then s
  else if !s.atLineStart then { s with depth := s.depth + 1 }
  else { s with header := if rest.head? == some '[' then .tableInList else .table }

/-- Meet a closing bracket. -/
def closeBracket (s : Cursor) : Cursor :=
  if s.mark.isSome then s
  else
    match s.header with
    | .table => { s with header := .outside }
    | .tableInList => if s.done.head? == some ']' then { s with header := .outside } else s
    | .outside => { s with depth := s.depth - 1 }

/-- Meet the end of a line. In a quotation over several lines, a line end behind two marks becomes a mark too, and a
third mark before them becomes a blank, so that the three move on by one character. -/
def endLine (s : Cursor) : Reading Cursor :=
  let s := { s with inComment := false }
  if s.mark.isSome || s.multiline then
    if !s.multiline then .error .malformed
    else
      match s.done with
      | a :: b :: rest =>
        if isMark a && b == a then
          let rest := match rest with
            | d :: rest => (if d == a then ' ' else d) :: rest
            | [] => []
          .ok { s with done := a :: a :: b :: rest }
        else .ok (s.push '\n')
      | _ => .ok (s.push '\n')
  else if s.depth ≠ 0 then .ok (s.push ' ')
  else .ok ({ s with atLineStart := true }.push '\n')

/-- The first character of a line that is no blank begins a key, unless it begins a header. -/
def beginLine (s : Cursor) : Reading Cursor :=
  match s.done with
  | c :: _ =>
    if !s.atLineStart || c == ' ' || c == '\t' then .ok s
    else if s.header != .outside then .ok { s with atLineStart := false }
    else if c == '=' then .error .malformed
    else .ok { s with atLineStart := false, key := .inside }
  | [] => .ok s

/-- Go on with a character. -/
def step (s : Cursor) (c : Char) (rest : Text) : Reading Cursor :=
  if s.key != .outside then s.stepKey c rest
  else if c == '\n' then s.endLine
  else if s.inComment then .ok (s.push ' ')
  else if isMark c then ((s.meetMark c (s.behindMe c rest)).push c).beginLine
  else if c == '#' && s.mark.isNone && s.header == .outside then .ok ({ s with inComment := true }.push ' ')
  else if c == '[' then ((s.openBracket rest).push c).beginLine
  else if c == ']' then (s.closeBracket.push c).beginLine
  else (s.push c).beginLine

/-- Go on to the end of a text. -/
def run (s : Cursor) : Text → Reading Cursor
  | [] => .ok s
  | c :: rest => do (← s.step c rest).run rest

end Cursor

/-- The lines of a document, with its comments and the line ends in its lists as blanks. -/
def logicalLines (t : Text) : Reading (List Text) := do
  let s ← ({} : Cursor).run t
  if s.key != .outside || s.mark.isSome then throw .malformed
  return Text.splitOn '\n' s.done.reverse

end ImportChart.Document
