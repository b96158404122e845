import ImportChart.Keyed
import ImportChart.Number.Shortest

/-!
# Values of a settings document

The settings are kept in TOML, and the modules on documents carry out this format as the `toml` package has it: what it
reads and what it writes, also where that is not what the format asks for. How settings make use of documents is the
matter of the modules on settings.

A document is a table of values: texts, numbers, truth values, days and times, lists, and tables again. The keys of a
table keep the order in which they came.

- `Date`, `TimeOfDay` and their texts;
- `Value`, with `Value.get?` for a key of a table and `Value.isTruthy` for a value taken as a condition;
- `Step` and `Value.at?`: the place of a value inside another one.
-/

namespace ImportChart.Document

/-! ## Days and times -/

/-- A day of the calendar. -/
structure Date where
  year : Nat
  month : Nat
  day : Nat
  deriving DecidableEq, Repr

/-- A time of the day, to the microsecond. -/
structure TimeOfDay where
  hour : Nat
  minute : Nat
  second : Nat
  microsecond : Nat
  deriving DecidableEq, Repr

/-- A numeral with zeros in front of it up to a width. -/
def padded (width n : Nat) : Text :=
  let digits := Text.ofNat n
  List.replicate (width - digits.length) '0' ++ digits

namespace Date

/-- Whether a year has a leap day. -/
def isLeap (year : Nat) : Bool := year % 4 == 0 && (year % 100 != 0 || year % 400 == 0)

/-- How many days a month has. -/
def daysIn (year month : Nat) : Nat :=
  if month = 2 then if isLeap year then 29 else 28
  else if month = 4 ∨ month = 6 ∨ month = 9 ∨ month = 11 then 30
  else 31

/-- Whether the calendar has the day; years have four digits at most and begin with one. -/
def isValid (d : Date) : Bool :=
  1 ≤ d.year && d.year ≤ 9999 && 1 ≤ d.month && d.month ≤ 12 && 1 ≤ d.day && d.day ≤ daysIn d.year d.month

/-- The text of a day. -/
def toText (d : Date) : Text := padded 4 d.year ++ '-' :: padded 2 d.month ++ '-' :: padded 2 d.day

end Date

namespace TimeOfDay

/-- Whether the day has the time. -/
def isValid (t : TimeOfDay) : Bool := t.hour < 24 && t.minute < 60 && t.second < 60 && t.microsecond < 1000000

/-- The text of a time; whole seconds are written without a fraction. -/
def toText (t : TimeOfDay) : Text :=
  padded 2 t.hour ++ ':' :: padded 2 t.minute ++ ':' :: padded 2 t.second ++
    if t.microsecond = 0 then [] else '.' :: padded 6 t.microsecond

end TimeOfDay

/-- The text of a distance from universal time, in minutes. -/
def offsetText (minutes : Int) : Text :=
  (if minutes < 0 then '-' else '+') :: padded 2 (minutes.natAbs / 60) ++ ':' :: padded 2 (minutes.natAbs % 60)

/-- The text of a moment, with a separator between its day and its time. -/
def momentText (separator : Char) (d : Date) (t : TimeOfDay) (offset : Option Int) : Text :=
  d.toText ++ separator :: t.toText ++ (offset.map offsetText).getD []

/-! ## Values -/

/-- A value of a document. -/
inductive Value where
  | text (t : Text)
  | integer (n : Int)
  | float (x : Double)
  | boolean (b : Bool)
  /-- A time of a day, with its distance from universal time in minutes if that is known. -/
  | moment (date : Date) (time : TimeOfDay) (offset : Option Int)
  | date (d : Date)
  | time (t : TimeOfDay)
  | list (items : List Value)
  | table (entries : List (Text × Value))
  deriving Repr

/-- The entries of a table. -/
abbrev Entries := List (Text × Value)

namespace Value

instance : Inhabited Value := ⟨.table []⟩

/-- The value of a key of a table. -/
def get? (key : Text) : Value → Option Value
  | .table entries => entries.lookup key
  | _ => none

/-- Whether a value is a table. -/
def isTable : Value → Bool
  | .table _ => true
  | _ => false

/-- Whether a value counts as true: all do but `false`, the number zero, and what is empty. -/
def isTruthy : Value → Bool
  | .text t => !t.isEmpty
  | .integer n => n ≠ 0
  | .float x => !x.isZero
  | .boolean b => b
  | .list items => !items.isEmpty
  | .table entries => !entries.isEmpty
  | .moment _ _ _ | .date _ | .time _ => true

end Value

/-! ## Places inside a value -/

/-- A step into a value. -/
inductive Step where
  /-- To the value of a key of a table. -/
  | key (k : Text)
  /-- To the last item of a list; in a text, to its last character. -/
  | last
  deriving DecidableEq, Repr

namespace Value

/-- The value after one step. -/
def step? : Step → Value → Option Value
  | .key k, v => v.get? k
  | .last, .list items => items.getLast?
  | .last, .text t => t.getLast?.map fun c => .text [c]
  | .last, _ => none

/-- The value at a place. -/
def at? : List Step → Value → Option Value
  | [], v => some v
  | s :: steps, v => (v.step? s).bind (at? steps)

/-- The value with another one in the place after a step; a place that is not there stays so. -/
def replaceStep (v : Value) (s : Step) (new : Value) : Value :=
  match s, v with
  | .key k, .table entries => .table (setKey k new entries)
  | .last, .list items => .list (items.dropLast ++ [new])
  | _, v => v

/-- The value with `f` applied at a place. -/
def modify (f : Value → Value) : List Step → Value → Value
  | [], v => f v
  | s :: steps, v =>
    match v.step? s with
    | some inner => v.replaceStep s (modify f steps inner)
    | none => v

/-- A table with a key set; other values stay. -/
def set (v : Value) (key : Text) (new : Value) : Value := v.replaceStep (.key key) new

end Value

end ImportChart.Document
