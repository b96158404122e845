import ImportChart.Document.Moment
import ImportChart.Document.Number
import ImportChart.Document.Quoting

/-!
# Values and entries of a document

A value is read from its text, and an entry `key = value` from its line, as the `toml` package reads them. A list or a
table on one line has values inside it, so that reading goes on inside the brackets; `readValue` bounds the depth by the
length of the text.

- `splitEntry`: the key and the value of a line, cut at the right equals sign;
- `keyParts`: the parts of a dotted key;
- `listItems`: the items of a list;
- `readValue`, `readEntry` and `readInlineTable`.
-/

namespace ImportChart.Document

/-! ## Cutting a line at its equals sign -/

/-- The last piece of a line that is cut at its first equals signs. -/
def behindSigns (line : Text) (signs : Nat) : Text := (Text.splitOnLimit '=' signs line).getLast?.getD []

/-- Whether a text may begin a value that is not a number: it is empty, or begins with a blank, a quotation mark or an
opening bracket, or is a truth value. -/
def beginsValue (v : Text) : Bool :=
  match v with
  | [] => true
  | c :: _ =>
    c == ' ' || c == '\t' || isMark c || c == '[' || c == '\x7b' || Text.trim v == ("true" : Text) ||
      Text.trim v == ("false" : Text)

/-- Whether a text can be a value. One that does not begin like another value has to be a number, a moment, or a time of
the day. -/
def canBeValue (v : Text) : Reading Bool := do
  if beginsValue v then return true
  if (Double.read? v).isSome then return true
  if (← readMoment? v).isSome then return true
  return (readTime? v).isSome

/-- A line cut into its key and its value. `plain` says whether the value keeps the rules of numerals. -/
structure SplitEntry where
  key : Text
  value : Text
  plain : Bool
  deriving DecidableEq, Repr

/-- Cut a line at more and more equals signs until what is left can be a value. `tail` is what is left now. -/
def findValue (line : Text) (tail : Text) (plain : Bool) : (more signs : Nat) → Reading SplitEntry
  | 0, _ => .error .malformed
  | more + 1, signs => do
    if ← canBeValue tail then
      let pieces := Text.splitOnLimit '=' signs line
      return ⟨Text.trim (Text.joinWith "=" pieces.dropLast), Text.trim tail, plain⟩
    let next := behindSigns line (signs + 1)
    if next == tail then throw .malformed
    findValue line next (plain && isPlainNumeral next) more (signs + 1)

/-- Cut a line into its key and its value. -/
def splitEntry (line : Text) : Reading SplitEntry :=
  let signs := countBefore "=" true (quotePieces line) + 1
  let tail := behindSigns line signs
  let digits := if tail.head?.any Char.isDigit then tail.filter (· != '_') else tail
  findValue line digits (isPlainNumeral tail) (line.length + 1) signs

/-! ## Keys -/

/-- The parts of a key with points and quotation marks, given its pieces outside and inside the marks. -/
def partsOfPieces : (outside : Bool) → List Text → List Text
  | _, [] => []
  | true, piece :: rest => (Text.splitOn '.' piece).map Text.trim ++ partsOfPieces false rest
  | false, piece :: rest => piece :: partsOfPieces true rest

/-- The parts of a dotted key. Empty parts at the end do not count. -/
def dottedParts (key : Text) : List Text :=
  let parts := if key.any isMark then partsOfPieces true (quotePieces key) else Text.splitOn '.' key
  (parts.reverse.dropWhile List.isEmpty).reverse

/-- The parts of a key: the tables that it leads through, and the name in the last of them. -/
def keyParts (key : Text) : Reading (List Text × Text) :=
  if '.' ∈ key then
    match (dottedParts key).getLast? with
    | none => .error .cutShort
    | some name => .ok ((dottedParts key).dropLast.filter fun p => !p.isEmpty, Text.trim name)
  else
    match key with
    | [] => .error .cutShort
    | c :: _ =>
      if isMark c && key.getLast? == some c then (unescape (inner 1 key)).map fun name => ([], name)
      else .ok ([], key)

/-! ## Lists -/

/-- Whether a list begins with a text. -/
def isTextList (v : Text) : Bool := (Text.trim (inner 1 v)).head?.any isMark

/-- Whether a piece of a list is a text that is closed. -/
def isBounded (piece : Text) : Bool :=
  match piece with
  | [] => true
  | c :: _ => piece.getLast? == some c && !endsEscaped (inner 1 piece)

/-- Whether a piece of a list begins with a triple mark that it does not close. -/
def isOpenTriple (piece : Text) : Bool :=
  match piece with
  | a :: b :: c :: _ =>
    a == b && b == c &&
      match piece.reverse with
      | _ :: y :: z :: _ => y != a && z != a
      | _ => false
  | _ => false

/-- Join the pieces of a list of texts that were cut at a comma inside a text. -/
def joinTexts : List Text → Reading (List Text)
  | [] => .ok []
  | [piece] => .ok [piece]
  | piece :: next :: rest =>
    let trimmed := Text.trim piece
    if isBounded trimmed && !isOpenTriple trimmed then (joinTexts (next :: rest)).map (piece :: ·)
    else
      match rest with
      | [] => if lastIsWhole (piece ++ ',' :: next) then .ok [piece ++ ',' :: next] else .error .cutShort
      | third :: rest => joinTexts ((piece ++ ',' :: next) :: third :: rest)
termination_by pieces => pieces.length
where
  /-- Whether a joined piece is a text that is closed. -/
  lastIsWhole (piece : Text) : Bool := isBounded (Text.trim piece) && !isOpenTriple (Text.trim piece)

/-- The pieces of a list of tables: each begins with an opening brace and ends with the brace that closes it. `piece`
holds the characters of the current piece, the nearest first. -/
def tablePieces : (piece : Text) → (depth : Nat) → (quoted : Bool) → Text → List Text
  | _, _, _, [] => []
  | _, _, _, [_] => []
  | piece, depth, quoted, c :: next :: rest =>
    let turns := isMark c && !(quoted && (piece.takeWhile (· == '\\')).length % 2 == 1)
    let quoted := if turns then !quoted else quoted
    let depth := if !quoted && c == '\x7b' then depth + 1 else depth
    if quoted || c != '\x7d' then tablePieces (c :: piece) depth quoted (next :: rest)
    else if 1 < depth then tablePieces (c :: piece) (depth - 1) quoted (next :: rest)
    else
      (c :: piece).reverse ::
        match _h : rest.dropWhile (· != '\x7b') with
        | [] => []
        | brace :: left => tablePieces [brace] depth quoted left
termination_by _ _ _ t => t.length
decreasing_by
  · simp
  · simp
  · have := (List.dropWhile_suffix (l := rest) (· != '\x7b')).length_le
    simp_all
    omega

/-- The pieces between the commas that stand outside all brackets. -/
def outerPieces : (depth : Int) → Text → List Text
  | _, [] => [[]]
  | depth, c :: rest =>
    if c == ',' && depth == 0 then [] :: outerPieces depth rest
    else
      let depth := if c == '[' then depth + 1 else if c == ']' then depth - 1 else depth
      match outerPieces depth rest with
      | [] => [[c]]
      | piece :: pieces => (c :: piece) :: pieces

/-- The texts of the items of a list, given with its brackets. -/
def listItems (v : Text) : Reading (List Text) := do
  let body := inner 1 v
  let pieces ←
    if '[' ∉ body || !Text.isBlankText (body.takeWhile (· != '[')) then
      let pieces :=
        if (Text.trim body).head? == some '\x7b' then firstTable v else Text.splitOn ',' body
      if isTextList v then joinTexts pieces else pure pieces
    else pure (outerPieces 0 body)
  return (pieces.map Text.trim).filter fun p => !p.isEmpty
where
  /-- The pieces of a list whose first item is a table. -/
  firstTable (v : Text) : List Text :=
    match v with
    | _ :: c :: rest => tablePieces [c] (if c == '\x7b' then 1 else 0) false rest
    | _ => []

/-- The kinds of values that a list tells apart. -/
inductive ItemKind where
  | text | integer | float | boolean | moment | time | list | table
  deriving DecidableEq, Repr

/-- The kind of a value. -/
def ItemKind.ofValue : Value → ItemKind
  | .text _ => .text
  | .integer _ => .integer
  | .float _ => .float
  | .boolean _ => .boolean
  | .moment _ _ _ | .date _ => .moment
  | .time _ => .time
  | .list _ => .list
  | .table _ => .table

/-- How a value is read from its text; `plain` says whether it keeps the rules of numerals. -/
abbrev ValueReader := (v : Text) → (plain : Bool) → Reading Value

/-- Read the items of a list, which are all of one kind. -/
def readItems (read : ValueReader) : (kind : Option ItemKind) → List Text → Reading (List Value)
  | _, [] => .ok []
  | kind, piece :: rest => do
    let value ← read piece true
    if kind.any (· != ItemKind.ofValue value) then throw .malformed
    let values ← readItems read (some (ItemKind.ofValue value)) rest
    return value :: values

/-! ## Entries -/

/-- A text over several lines that is not finished: the key that it belongs to, its beginning, and whether its last
line ended with a backslash, which joins it to the next one. -/
structure Pending where
  key : Text
  body : Text
  joined : Bool
  deriving DecidableEq, Repr

/-- The last text of a list of texts that is not closed on its line. -/
def lastText (v : Text) : Reading Text :=
  if v.head? == some '[' && v.getLast? != some ']' && isTextList v then do
    let pieces := Text.splitOn ',' (Text.trim (v.drop 1))
    go pieces.reverse
  else .ok v
where
  /-- Join the pieces behind the last one that begins with a mark; they come with the last one first. -/
  go : List Text → Reading Text
    | [] => .ok []
    | [piece] => .ok piece
    | [] :: _ :: _ => .error .cutShort
    | (c :: piece) :: before :: rest =>
      if isMark c then .ok (c :: piece) else go ((before ++ ',' :: c :: piece) :: rest)
  termination_by pieces => pieces.length

/-- How much of a value is looked at for backslashes at its end, if the value is a text that goes on after its line. -/
def openLength? (v : Text) : Reading (Option Nat) := do
  if v.length < 3 then return none
  match ← lastText v with
  | [] => throw .cutShort
  | a :: rest =>
    if !isMark a then return none
    match rest with
    | [] => throw .cutShort
    | b :: rest =>
      if b != a then return none
      match rest with
      | [] => throw .cutShort
      | c :: _ =>
        let text := a :: b :: rest
        if c != a then return none
        if 5 < text.length && (text.reverse.take 3).all (· == a) then return none
        return some text.length

/-- The beginning of a text that goes on on the next line. -/
def Pending.ofValue (key v : Text) (length : Nat) : Pending :=
  if ((v.reverse.take length).takeWhile (· == '\\')).length % 2 == 1 then ⟨key, v.dropLast, true⟩
  else ⟨key, v ++ ['\n'], false⟩

/-- The tables that a key leads through, made where they are missing. -/
def openTables : (names : List Text) → Value → Reading Value
  | [], v => .ok v
  | name :: names, .table entries => do
    let below ← openTables names ((entries.lookup name).getD (.table []))
    return .table (setKey name below entries)
  | _ :: _, _ => .error .notTable

/-- Read an entry into a table. Besides the table, the answer is the text that goes on on the next line, if there is
one. -/
def readEntryWith (read : ValueReader) (line : Text) (current : Value) : Reading (Value × Option Pending) := do
  let entry ← splitEntry line
  let (names, name) ← keyParts entry.key
  let current ← openTables names current
  let place := names.map Step.key
  let length ← openLength? entry.value
  let value? ← match length with
    | some _ => pure none
    | none => some <$> read entry.value entry.plain
  match current.at? place with
  | some (.table entries) =>
    if (entries.lookup name).isSome then throw .malformed
    match value?, length with
    | some value, _ => return (current.modify (·.set name value) place, none)
    | none, some n => if name.isEmpty then throw .nameless else return (current, some (.ofValue name entry.value n))
    | none, none => throw .malformed
  | _ => throw .malformed

/-! ## Tables on one line -/

/-- Whether a piece of a table on one line has a whole value behind its equals sign. -/
def hasWholeValue (piece : Text) : Reading Bool :=
  if '=' ∉ piece then .error .malformed
  else
    match Text.trim (Text.splitOnce '=' piece).2 with
    | [] => .error .cutShort
    | c :: rest =>
      let v := c :: rest
      let last := v.getLast?
      .ok ((isMark c && last == some c) || c == '-' || c.isDigit || v == ("true" : Text) || v == ("false" : Text) ||
        (c == '[' && last == some ']') || (c == '\x7b' && last == some '\x7d'))

/-- The entries of a table on one line, given the pieces between its commas. -/
def inlineEntries : List Text → Reading (List Text)
  | [] => .ok []
  | [piece] => do if ← hasWholeValue piece then return [piece] else throw .malformed
  | piece :: next :: rest => do
    if ← hasWholeValue piece then return piece :: (← inlineEntries (next :: rest))
    else inlineEntries ((piece ++ ',' :: next) :: rest)
termination_by pieces => pieces.length

/-- Read entries into a table, up to the first one that goes on on the next line. -/
def readEntriesWith (read : ValueReader) : List Text → Value → Reading Value
  | [], current => .ok current
  | entry :: rest, current => do
    match ← readEntryWith read entry current with
    | (current, none) => readEntriesWith read rest current
    | (current, some _) => return current

/-- Read a table on one line into a table. -/
def readInlineTableWith (read : ValueReader) (v : Text) (current : Value) : Reading Value := do
  let pieces := Text.splitOn ',' (inner 1 v)
  let pieces := match pieces with
    | [piece] => if Text.isBlankText piece then [] else [piece]
    | _ => pieces
  readEntriesWith read (← inlineEntries pieces) current

/-! ## Values -/

/-- Read a value, given how the values inside it are read. -/
def readValueWith (read : ValueReader) (v : Text) (plain : Bool) : Reading Value :=
  match v with
  | [] => .error .malformed
  | c :: _ =>
    if v == ("true" : Text) then .ok (.boolean true)
    else if v == ("false" : Text) then .ok (.boolean false)
    else if Text.asciiLower v == ("true" : Text) || Text.asciiLower v == ("false" : Text) then .error .malformed
    else if isMark c then (readQuoted c v).map .text
    else if c == '[' then do return .list (← readItems read none (← listItems v))
    else if c == '\x7b' then readInlineTableWith read v (.table [])
    else
      match readTime? v with
      | some t => if t.isValid then .ok (.time t) else .error .malformed
      | none => do
        match ← readMoment? v with
        | some moment => return moment
        | none => if plain then readNumber v else throw .malformed

/-- Read a value that is nested at most as deep as the first argument says. -/
def readNested : (depth : Nat) → ValueReader
  | 0, _, _ => .error .malformed
  | depth + 1, v, plain => readValueWith (readNested depth) v plain

/-- Read a value. What is nested in it is shorter than the value itself. -/
def readValue (v : Text) (plain : Bool) : Reading Value := readNested (v.length + 1) v plain

/-- Read an entry into a table. -/
def readEntry (line : Text) (current : Value) : Reading (Value × Option Pending) :=
  readEntryWith readValue line current

/-- Read a table on one line into a table. -/
def readInlineTable (v : Text) (current : Value) : Reading Value := readInlineTableWith readValue v current

end ImportChart.Document
