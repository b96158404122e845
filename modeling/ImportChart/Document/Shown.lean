import ImportChart.Document.Value
import ImportChart.Document.Writer

/-!
# Values as they are shown

How a value of a TOML document is shown in a message or in a table: a text as it is, or in quotation marks if it stands
inside another value; lists and tables in brackets.
-/

namespace ImportChart.Document

/-- The parts of a time of the day that are shown: seconds and microseconds only as far as they are needed. -/
def shownParts (t : TimeOfDay) : List Nat :=
  if t.microsecond ≠ 0 then [t.hour, t.minute, t.second, t.microsecond]
  else if t.second ≠ 0 then [t.hour, t.minute, t.second]
  else [t.hour, t.minute]

/-- A name with numbers in round brackets. -/
def shownCall (name : Text) (numbers : List Nat) : Text :=
  name ++ '(' :: Text.joinWith ", " (numbers.map Text.ofNat) ++ [')']

namespace Value

mutual
/-- A value inside another one. -/
def shownInside : Value → Writing Text
  | .text t => .ok (Text.quoted t)
  | .integer n => writeInteger n
  | .float x => .ok x.toText
  | .boolean b => .ok (if b then "True" else "False")
  | .moment d t _ => .ok (shownCall "datetime.datetime" ([d.year, d.month, d.day] ++ shownParts t))
  | .date d => .ok (shownCall "datetime.date" [d.year, d.month, d.day])
  | .time t => .ok (shownCall "datetime.time" (shownParts t))
  | .list items => do return '[' :: Text.joinWith ", " (← shownItems items) ++ [']']
  | .table entries => do return '\x7b' :: Text.joinWith ", " (← shownEntries entries) ++ ['\x7d']
/-- The items of a list. -/
def shownItems : List Value → Writing (List Text)
  | [] => .ok []
  | v :: rest => do return (← shownInside v) :: (← shownItems rest)
/-- The entries of a table. -/
def shownEntries : List (Text × Value) → Writing (List Text)
  | [] => .ok []
  | (k, v) :: rest => do return (Text.quoted k ++ ": " ++ (← shownInside v)) :: (← shownEntries rest)
end

/-- A value by itself. -/
def shown : Value → Writing Text
  | .text t => .ok t
  | .moment d t offset =>
    if offset.any fun minutes => 1440 ≤ minutes.natAbs then .error .distantOffset
    else .ok (momentText ' ' d t offset)
  | .date d => .ok d.toText
  | .time t => .ok t.toText
  | v => v.shownInside

end Value

end ImportChart.Document
