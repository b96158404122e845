import ImportChart.Document.Value
import ImportChart.Text.Quoted

/-!
# Writing a document

The writer of the `toml` package. Not every value that its reader gives has a text: `WriteError` says what it stops at.

- `writeText`: a text in double quotation marks;
- `writeValue`: a value on one line;
- `writeTable`: the entries of a table, first those that stand on one line, then its lists of tables; what is left are
  the tables inside it, which are written later, under headers of their own;
- `write`: a document. Tables come level by level, so that a table inside another one comes after all tables of the
  upper level.
-/

namespace ImportChart.Document

/-- Why a document is not written. -/
inductive WriteError where
  /-- An item in a list of tables is not a table. -/
  | notTable
  /-- An escape sequence has nothing behind it. -/
  | cutShort
  /-- An integer has too many digits. -/
  | tooManyDigits
  /-- A distance from universal time is a day or more. -/
  | distantOffset
  deriving DecidableEq, Repr

/-- What is said of an error. -/
def WriteError.message : WriteError → Text
  | .notTable | .cutShort => []
  | .tooManyDigits => Text.tooManyDigits
  | .distantOffset => "offset must be a timedelta strictly between -timedelta(hours=24) and timedelta(hours=24)."

/-- The result of writing. -/
abbrev Writing := Except WriteError

/-! ## Texts -/

/-- The part of a shown text between its marks, with double marks escaped and single ones not. -/
def shownInside (t : Text) : Text :=
  let shown := t.flatMap (Text.quotedChar (Text.quoteMark t))
  if Text.quoteMark t == '"' then shown
  else Text.replaceAll "\"" "\\\"" (Text.replaceAll "\\'" "'" shown)

/-- Undouble the backslashes. -/
def halveBackslashes (t : Text) : Text := Text.replaceAll "\\\\" "\\" t

/-- Whether the code behind a piece is a code: the backslashes at its end pair up. The first character of a piece is not
counted. -/
def leavesCode (piece : Text) : Bool :=
  let run := (piece.reverse.takeWhile (· == '\\')).length
  run == 0 || min run (piece.length - 1) % 2 == 1

/-- Two pieces with the mark of the code between them. A code becomes one of four digits, unless the backslash of its
mark is taken by the piece before it. -/
def joinPair (first second : Text) : Text :=
  let first := halveBackslashes first
  first ++ (if leavesCode first then "x" else "u00") ++ second

/-- Join the pieces of a text that was cut at its two-digit codes. -/
def joinCodes : List Text → Writing Text
  | [] => .ok []
  | [piece] => .ok piece
  | [] :: [_] => .error .cutShort
  | [] :: [] :: _ => .error .cutShort
  | [] :: first :: second :: rest => joinCodes (joinPair first second :: rest)
  | first :: second :: rest => joinCodes (joinPair first second :: rest)
termination_by pieces => pieces.length

/-- A text in double quotation marks. -/
def writeText (t : Text) : Writing Text :=
  (joinCodes (Text.splitOnPart "\\x" (shownInside t))).map fun body => '"' :: body ++ ['"']

/-! ## Values -/

/-- Whether a key may stand without quotation marks. -/
def isBareKey (key : Text) : Bool :=
  let body := if key.getLast? == some '\n' then key.dropLast else key
  !body.isEmpty && body.all fun c => c.isAlphanum || c == '_' || c == '-'

/-- A key as it is written. -/
def writeKey (key : Text) : Writing Text := if isBareKey key then .ok key else writeText key

/-- A floating-point number. The power of ten is written without its leading zero. -/
def writeFloat (x : Double) : Text := Text.replaceAll "e-0" "e-" (Text.replaceAll "e+0" "e+" x.toText)

/-- An integer. -/
def writeInteger (n : Int) : Writing Text := if Text.isWritable n then .ok (Text.ofInt n) else .error .tooManyDigits

/-- A moment; universal time has a letter. -/
def writeMoment (d : Date) (t : TimeOfDay) (offset : Option Int) : Writing Text :=
  match offset with
  | none => .ok (momentText 'T' d t none)
  | some minutes =>
    if 1440 ≤ minutes.natAbs then .error .distantOffset
    else .ok (Text.replaceAll "+00:00" "Z" (momentText 'T' d t (some minutes)))

/-- The items of a list, with a comma behind each. -/
def writeItems (items : List Text) : Text := '[' :: items.flatMap (fun t => ' ' :: t ++ [',']) ++ [']']

mutual
/-- A value on one line. Of a table in a list that is no list of tables, the keys are written. -/
def writeValue : Value → Writing Text
  | .text t => writeText t
  | .integer n => writeInteger n
  | .float x => .ok (writeFloat x)
  | .boolean b => .ok (if b then "true" else "false")
  | .moment d t offset => writeMoment d t offset
  | .date d => .ok d.toText
  | .time t => .ok t.toText
  | .list items => (writeValues items).map writeItems
  | .table entries => (entries.mapM fun e => writeText e.1).map writeItems
/-- The texts of values. -/
def writeValues : List Value → Writing (List Text)
  | [] => .ok []
  | v :: rest => do return (← writeValue v) :: (← writeValues rest)
end

/-! ## Tables -/

/-- A table as it is written: its entries, and the tables inside it by their headers. -/
structure Written where
  text : Text
  tables : List (Text × Entries)

/-- Whether a list has a table among its items. -/
def hasTable (items : List Value) : Bool := items.any Value.isTable

mutual
/-- How deep tables and lists are nested. -/
def depthOf : Value → Nat
  | .list items => depthOfItems items + 1
  | .table entries => depthOfEntries entries + 1
  | _ => 0
/-- The greatest depth of some values. -/
def depthOfItems : List Value → Nat
  | [] => 0
  | v :: rest => max (depthOf v) (depthOfItems rest)
/-- The greatest depth of the values of some entries. -/
def depthOfEntries : List (Text × Value) → Nat
  | [] => 0
  | (_, v) :: rest => max (depthOf v) (depthOfEntries rest)
end

/-- A header under a path of headers. -/
def headerUnder (above key : Text) : Text := if above.isEmpty then key else above ++ '.' :: key

/-- How the entries of a table are written, given the header above them. -/
abbrev TableWriter := (above : Text) → Entries → Writing Written

/-- The tables inside an item of a list of tables, level by level. -/
def writeLevels (writeTable : TableWriter) (above : Text) : (depth : Nat) → List (Text × Entries) → Writing Text
  | 0, _ => .ok []
  | depth + 1, tables => do
    if tables.isEmpty then return []
    let written ← tables.mapM fun (key, entries) => do
      let header : Text := above ++ '.' :: key
      let w ← writeTable header entries
      let block : Text := if w.text.isEmpty then [] else '[' :: header ++ "]\n" ++ w.text
      return (block, w.tables.map fun (k, entries) => (key ++ '.' :: k, entries))
    let next := (written.flatMap (·.2)).foldl (fun m (k, entries) => setKey k entries m) []
    return written.flatMap (·.1) ++ (← writeLevels writeTable above depth next)

/-- An item of a list of tables. -/
def writeItem (writeTable : TableWriter) (header : Text) (depth : Nat) : Value → Writing Text
  | .table entries => do
    let w ← writeTable header entries
    let below ← writeLevels writeTable header depth w.tables
    let (own, later) := if w.text.head? == some '[' then ([], w.text) else (w.text, [])
    return ("[[" : Text) ++ header ++ "]]\n" ++ own ++ ['\n'] ++ later ++ below
  | .list [] | .text [] => .ok (("[[" : Text) ++ header ++ "]]\n\n")
  | _ => .error .notTable

/-- Add an entry to a table that is written so far; lists of tables are kept apart, since they come last. -/
def writeEntry (writeTable : TableWriter) (above : Text) (depth : Nat) (done : Written × Text) (e : Text × Value) :
    Writing (Written × Text) := do
  let (w, lists) := done
  let key ← writeKey e.1
  match e.2 with
  | .table entries => return ({ w with tables := setKey key entries w.tables }, lists)
  | .list items =>
    if hasTable items then
      let blocks ← items.mapM (writeItem writeTable (headerUnder above key) depth)
      return (w, lists ++ blocks.flatten)
    else return ({ w with text := w.text ++ key ++ " = " ++ (← writeValue e.2) ++ "\n" }, lists)
  | v => return ({ w with text := w.text ++ key ++ " = " ++ (← writeValue v) ++ "\n" }, lists)

/-- Write the entries of a table that is nested at most as deep as the first argument says. -/
def writeTable : (depth : Nat) → TableWriter
  | 0, _, _ => .ok ⟨[], []⟩
  | depth + 1, above, entries => do
    let (w, lists) ← entries.foldlM (writeEntry (writeTable depth) above depth) (⟨[], []⟩, [])
    return { w with text := w.text ++ lists }

/-! ## Documents -/

/-- Begin a new block behind an empty line. -/
def separate (t : Text) : Text := if t.isEmpty || Text.endsWith "\n\n" t then t else t ++ ['\n']

/-- Write tables level by level behind a text. A table without entries of its own has no header if it has tables
inside it. -/
def writeSections (write : TableWriter) : (depth : Nat) → Text → List (Text × Entries) → Writing Text
  | 0, t, _ => .ok t
  | depth + 1, t, tables => do
    if tables.isEmpty then return t
    let (t, next) ← tables.foldlM (fun (t, next) (header, entries) => do
      let w ← write header entries
      let t :=
        if w.text.isEmpty && !w.tables.isEmpty then t else separate t ++ '[' :: header ++ "]\n" ++ w.text
      return (t, w.tables.foldl (fun m (k, entries) => setKey (header ++ '.' :: k) entries m) next)) (t, [])
    writeSections write depth t next

/-- The text of a document. -/
def write (entries : Entries) : Writing Text := do
  let depth := depthOfEntries entries + 1
  let w ← writeTable depth [] entries
  writeSections (writeTable depth) depth w.text w.tables

end ImportChart.Document
