import ImportChart.Document.Error
import ImportChart.Text.Numeral

/-!
# Texts in quotation marks, as a document has them

How the `toml` package finds the texts of a TOML document and takes back what is escaped in them.

- `endsEscaped`: whether a text ends with an odd number of backslashes, so that what follows is escaped;
- `unescape` and `expandCodes`: the meaning of escape sequences;
- `readQuoted`: the text that stands in single, double or triple quotation marks;
- `quotePieces`: the pieces of a line inside and outside quotation marks.
-/

namespace ImportChart.Document

/-- The two quotation marks. -/
def isMark (c : Char) : Bool := c == '"' || c == '\''

/-- Whether a text ends with an odd number of backslashes. -/
def endsEscaped (t : Text) : Bool := (t.reverse.takeWhile (· == '\\')).length % 2 == 1

/-- A text without its first and its last `k` characters. -/
def inner (k : Nat) (t : Text) : Text := (t.take (t.length - k)).drop k

/-! ## Escape sequences -/

/-- The character that a letter stands for after a backslash. -/
def escaped? : Char → Option Char
  | '0' => some '\x00'
  | 'b' => some '\x08'
  | 'f' => some '\x0c'
  | 'n' => some '\n'
  | 'r' => some '\r'
  | 't' => some '\t'
  | '"' => some '"'
  | _ => none

/-- Whether a letter begins the code of a character. -/
def isCodeLetter (c : Char) : Bool := c == 'u' || c == 'U'

/-- Put the characters that escape sequences stand for in their place. Codes are left as they are. -/
def unescape : Text → Reading Text
  | [] => .ok []
  | ['\\'] => .ok ['\\']
  | '\\' :: c :: cs =>
    match escaped? c with
    | some e => (unescape cs).map (e :: ·)
    | none =>
      if c == '\\' then (unescape cs).map ('\\' :: ·)
      else if isCodeLetter c then (unescape cs).map fun t => '\\' :: c :: t
      else .error .malformed
  | c :: cs => (unescape cs).map (c :: ·)

/-- The value of a hexadecimal digit. -/
def hexValue? (c : Char) : Option Nat :=
  if c.isDigit then some (c.toNat - 48)
  else if 'a' ≤ c ∧ c ≤ 'f' then some (c.toNat - 87)
  else if 'A' ≤ c ∧ c ≤ 'F' then some (c.toNat - 55)
  else none

/-- The character with a code, which is given by its hexadecimal digits. -/
def charOfCode (digits : Text) : Reading Char :=
  match digits.mapM hexValue? with
  | none => .error .malformed
  | some [] => .error .cutShort
  | some [13] => .error .cutShort
  | some values =>
    let code := values.foldl (fun n d => n * 16 + d) 0
    if (values.head? == some 13 && 7 < values.getD 1 0) || (0xD800 ≤ code && code < 0xE000) then .error .malformed
    else if 0x80000000 ≤ code then .error .tooLarge
    else if 0x110000 ≤ code then .error .malformed
    else .ok (Char.ofNat code)

/-- Put characters in the place of their codes, given the pieces after each mark `\u` or `\U`; a mark whose backslash
is escaped stays. -/
def expandPieces (mark : Text) (width : Nat) : (skip : Bool) → List Text → Reading Text
  | _, [] => .ok []
  | true, piece :: rest => (expandPieces mark width (endsEscaped piece) rest).map (mark ++ piece ++ ·)
  | false, piece :: rest => do
    let c ← charOfCode (piece.take width)
    let rest ← expandPieces mark width false rest
    return c :: piece.drop width ++ rest

/-- Put characters in the place of the codes with a mark and a number of digits. -/
def expandCodes (mark : Text) (width : Nat) (t : Text) : Reading Text :=
  match Text.splitOnPart mark t with
  | [] => .ok t
  | first :: pieces => (expandPieces mark width (endsEscaped first) pieces).map (first ++ ·)

/-- Whether every escape sequence is known, given the pieces between the backslashes; an empty piece is a backslash
that escapes the next one. -/
def escapesKnown : (escapedHere : Bool) → List Text → Bool
  | _, [] => true
  | escapedHere, [] :: rest => escapesKnown (!escapedHere) rest
  | escapedHere, (c :: _) :: rest =>
    ((escaped? c).isSome || isCodeLetter c || escapedHere) && escapesKnown false rest

/-- The meaning of the escape sequences of a text in double quotation marks. -/
def expandEscapes (t : Text) : Reading Text := do
  if !escapesKnown false ((Text.splitOn '\\' t).drop 1) then throw .malformed
  let t ← expandCodes "\\u" 4 t
  let t ← expandCodes "\\U" 8 t
  unescape t

/-! ## Quoted texts -/

/-- Whether nothing stands after the closing mark, given the pieces between the marks. `empties` counts the empty
pieces, which two marks in a row leave, as long as they can belong to a closing triple mark. -/
def nothingAfterClose (triple : Bool) : (closed : Bool) → (empties : Nat) → List Text → Bool
  | _, _, [] => true
  | closed, empties, piece :: rest =>
    if piece.isEmpty then
      if triple then nothingAfterClose triple closed (empties + 1) rest else nothingAfterClose triple true empties rest
    else if endsEscaped piece then nothingAfterClose triple closed empties rest
    else if closed then false
    else if !triple || 1 < empties then nothingAfterClose triple true empties rest
    else nothingAfterClose triple closed 0 rest

/-- Whether a quoted text ends where its marks close. -/
def isClosed (mark : Char) (v : Text) : Bool :=
  match Text.splitOn mark (v.drop 1) with
  | [] :: [] :: pieces => nothingAfterClose true false 0 pieces
  | pieces => nothingAfterClose false false 0 pieces

/-- Take the marks off a text. -/
def dropMarks (mark : Char) (v : Text) : Text :=
  let tripled := match v with
    | _ :: b :: rest => b == mark && (rest.isEmpty || rest.head? == some b)
    | _ => false
  inner 1 (if tripled then inner 2 v else v)

/-- Read a text that begins with a quotation mark. -/
def readQuoted (mark : Char) (v : Text) : Reading Text := do
  if !isClosed mark v then throw .malformed
  let v ← if mark == '"' then expandEscapes v else pure v
  return dropMarks mark v

/-! ## Lines with quotation marks -/

/-- Go on with the pieces between single marks, when the last of them is open, through the next pieces between double
marks. Returns the pieces and what is left. -/
def closeSingles : (singles doubles : List Text) → List Text × List Text
  | singles, [] => (singles, [])
  | singles, d :: doubles =>
    if singles.length % 2 = 0 then
      let last := singles.getLast?.getD [] ++ '"' :: d
      closeSingles (singles.dropLast ++ Text.splitOn '\'' last) doubles
    else (singles, d :: doubles)

/-- The pieces of a line, cut at its quotation marks; those at even places lie outside. Behind the first double mark
everything counts as inside. -/
def quotePieces (line : Text) : List Text :=
  let doubles := Text.splitOn '"' line
  let (before, doubles) :=
    match doubles with
    | first :: next :: rest =>
      if '\'' ∈ first then closeSingles (Text.splitOn '\'' first) (next :: rest) else ([], doubles)
    | _ => ([], doubles)
  match doubles with
  | [] => before
  | first :: rest => before ++ Text.splitOn '\'' first ++ rest

/-- How often `part` is counted in the pieces up to the first one outside quotation marks that has it. -/
def countBefore (part : Text) : (outside : Bool) → List Text → Nat
  | _, [] => 0
  | outside, piece :: rest =>
    if outside && Text.contains part piece then 0
    else (Text.splitOnPart part piece).length - 1 + countBefore part (!outside) rest

end ImportChart.Document
