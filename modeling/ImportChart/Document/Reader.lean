import ImportChart.Document.Entry
import ImportChart.Document.Lines
import ImportChart.Document.Shown

/-!
# Reading a document

`read` is the reader of the `toml` package. It goes through the logical lines of a document. A header opens the table
that the entries after it belong to, an entry is set in the open table, and a text over several lines is collected until
its closing marks.

The open table is kept as a place in the document, the names and list ends that lead to it.
-/

namespace ImportChart.Document

/-! ## Headers -/

/-- The names in the header of a table, and whether it opens a new table in a list. -/
structure HeaderLine where
  names : List Text
  inList : Bool
  deriving DecidableEq, Repr

/-- Whether a name may stand in a header without quotation marks. -/
def isBareName (t : Text) : Bool := !t.isEmpty && t.all fun c => c.isAlphanum || c == '_' || c == '-'

/-- Whether a name in quotation marks is complete. -/
def isWholeName (name : Text) : Bool := 1 < name.length && name.head? == name.getLast?

/-- Take as many pieces between points as a name in quotation marks needs, given the name so far and the number of
pieces that may still be asked for. The answer is the name, without its marks, and the number of pieces it took. -/
def takeQuotedName (pieces : List Text) : (more taken : Nat) → Reading (Text × Nat)
  | more, taken =>
    let name := Text.trim (Text.joinWith "." (pieces.take taken))
    if isWholeName name then .ok (inner 1 name, taken)
    else
      match more with
      | 0 => .error .malformed
      | more + 1 => takeQuotedName pieces more (taken + 1)

/-- The names between the points of a header. -/
def headerNames : (fuel : Nat) → List Text → Reading (List Text)
  | 0, _ => .ok []
  | _, [] => .ok []
  | fuel + 1, piece :: rest => do
    let trimmed := Text.trim piece
    if trimmed.head?.any isMark then
      let (name, taken) ← takeQuotedName (trimmed :: rest) (rest.length + 2) 1
      return name :: (← headerNames fuel (rest.drop (taken - 1)))
    else if isBareName trimmed then return trimmed :: (← headerNames fuel rest)
    else throw .malformed

/-- Read a header, given its line without the first bracket. -/
def readHeader (line : Text) : Reading HeaderLine := do
  let (inList, close, line) := match line with
    | '[' :: rest => (true, ("]]" : Text), rest)
    | _ => (false, ("]" : Text), line)
  if line.isEmpty && !inList then throw .malformed
  let cuts := countBefore close true (quotePieces line) + 1
  let pieces := Text.splitOnPart.go close cuts line
  if pieces.length < cuts + 1 || !Text.isBlankText (pieces.getLast?.getD []) then throw .malformed
  let groups := Text.splitOn '.' (Text.joinWith close pieces.dropLast)
  return ⟨← headerNames groups.length groups, inList⟩

/-! ## Opening a table -/

/-- A document on the way: what is read so far, the tables that were made only because a header leads through them,
and the place of the open table. -/
structure Draft where
  root : Value := .table []
  implied : List Text := []
  here : List Step := []
  pending : Option Pending := none

namespace Draft

/-- What a header makes where nothing is. -/
def fresh (inList : Bool) : Value := if inList then .list [.table []] else .table []

/-- The fault of a name that is opened twice in a table: what is said of it shows the table. -/
def openedTwice (entries : Entries) : ReadError :=
  match (Value.table entries).shownInside with
  | .ok _ => .malformed
  | .error _ => .tooManyDigits

/-- Go to the value of a name in the value at a place, and make it where it is missing. -/
def openName (d : Draft) (inList isLast : Bool) (name : Text) : Reading Draft := do
  if name.isEmpty then throw .malformed
  match (d.root.at? d.here).getD (.table []) with
  | .table entries =>
    let place := d.here ++ [.key name]
    match entries.lookup name with
    | none =>
      let root := d.root.modify (·.set name (fresh (inList && isLast))) d.here
      return { d with root, here := place, implied := if isLast then d.implied else d.implied ++ [name] }
    | some old =>
      if !isLast then return { d with here := place }
      else if name ∈ d.implied then
        if inList then throw .malformed
        return { d with here := place, implied := d.implied.erase name }
      else if !inList then throw (openedTwice entries)
      else
        match old with
        | .list items =>
          return { d with here := place, root := d.root.modify (fun _ => .list (items ++ [.table []])) place }
        | _ => throw .notList
  | .list items =>
    match items.getLast? with
    | none => throw .cutShort
    | some (.table entries) =>
      let place := d.here ++ [.last]
      let root :=
        if (entries.lookup name).isSome then d.root
        else d.root.modify (·.set name (fresh (inList && isLast))) place
      return { d with root, here := place ++ [.key name] }
    | some _ => throw .notTable
  | .text [] => throw .cutShort
  | _ => throw .notTable

/-- In a header that opens tables in lists, every name leads on to the end of its list. -/
def enterList (d : Draft) : Reading Draft :=
  match d.root.at? d.here with
  | some (.table _) => .ok d
  | some (.list []) | some (.text []) => .error .cutShort
  | some (.list _) | some (.text _) => .ok { d with here := d.here ++ [.last] }
  | _ => .error .notTable

/-- Follow the names of a header. -/
def followNames (inList : Bool) : List Text → Draft → Reading Draft
  | [], d => .ok d
  | name :: names, d => do
    let d ← d.openName inList names.isEmpty name
    let d ← if inList then d.enterList else pure d
    followNames inList names d

/-- Open the table of a header. -/
def openTable (d : Draft) (header : HeaderLine) : Reading Draft :=
  followNames header.inList header.names { d with here := [] }

/-! ## Lines -/

/-- Read an entry into the open table. -/
def addEntry (d : Draft) (line : Text) : Reading Draft := do
  let (table, pending) ← readEntry line ((d.root.at? d.here).getD (.table []))
  return { d with root := d.root.modify (fun _ => table) d.here, pending }

/-- Read a table on one line into the open table. -/
def addInlineTable (d : Draft) (line : Text) : Reading Draft := do
  if line.getLast? != some '\x7d' then throw .malformed
  let table ← readInlineTable line ((d.root.at? d.here).getD (.table []))
  return { d with root := d.root.modify (fun _ => table) d.here }

/-- Whether a line is the last one of a text that goes over several lines, whose first character is given. -/
def closes (first : Option Char) (line : Text) : Reading Bool :=
  if first == some '[' then
    match line.getLast? with
    | none => .error .cutShort
    | last => .ok (last == some ']')
  else .ok (2 < line.length && (line.reverse.take 3).all fun c => some c == first)

/-- Go on with a text over several lines. -/
def addText (d : Draft) (p : Pending) (line : Text) : Reading Draft := do
  let body := p.body ++ line
  if ← closes body.head? line then
    let value ← readValue body true
    return { d with root := d.root.modify (·.set p.key value) d.here, pending := none }
  else if endsEscaped body then return { d with pending := some ⟨p.key, body.dropLast, true⟩ }
  else return { d with pending := some ⟨p.key, body ++ ['\n'], false⟩ }

/-- Whether the blanks at the ends of the next line do not count. -/
def trims (pending : Option Pending) : Bool :=
  match pending with
  | none => true
  | some p => p.joined || '\n' ∉ p.body

/-- Go on with a line. -/
def addLine (d : Draft) (line : Text) : Reading Draft :=
  let line := if trims d.pending then Text.trim line else line
  match d.pending, line with
  | none, [] => .ok d
  | some p, [] => if p.joined then .ok d else d.addText p []
  | some p, line => d.addText p line
  | none, c :: rest =>
    if c == '[' then do d.openTable (← readHeader rest)
    else if c == '\x7b' then d.addInlineTable line
    else if '=' ∈ line then d.addEntry line
    else .ok d

end Draft

/-- Read the entries of a document from its lines. -/
def readLines (lines : List Text) : Reading Draft := lines.foldlM (fun d line => d.addLine line) {}

/-- Read a document. -/
def read (t : Text) : Reading Entries := do
  match (← readLines (← logicalLines t)).root with
  | .table entries => return entries
  | _ => return []

end ImportChart.Document
