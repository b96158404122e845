import ImportChart.Document.Error
import ImportChart.Document.Value
import ImportChart.Text.Numeral

/-!
# Days and times in a document

To the `toml` package a day and the parts of a moment stand at fixed places of a text, whatever the characters between
them, which is more than TOML allows. After the nineteenth character comes a fraction of a second, a distance from
universal time, or both; what cannot be read there is passed over.

- `readTime?`: a time of the day at the beginning of a text;
- `readMoment?`: a day, or a day with a time.
-/

namespace ImportChart.Document

/-- The part of a text from one place up to another one. -/
def part (start stop : Nat) (t : Text) : Text := (t.take stop).drop start

/-- The integer at a place of a text. -/
def integerAt? (start stop : Nat) (t : Text) : Option Int := (Text.readInt (part start stop t)).toOption

/-- The natural number at a place of a text. -/
def naturalAt? (start stop : Nat) (t : Text) : Option Nat :=
  (integerAt? start stop t).bind fun n => if 0 ≤ n then some n.toNat else none

/-! ## Times of the day -/

/-- Two digits, and what follows them. -/
def takePair? : Text → Option (Nat × Text)
  | a :: b :: rest => if a.isDigit && b.isDigit then some (Text.valueOfDigits 10 [a, b], rest) else none
  | _ => none

/-- A colon and two digits, and what follows them. -/
def takeColonPair? : Text → Option (Nat × Text)
  | ':' :: rest => takePair? rest
  | _ => none

/-- The digits after a point: three at least, and six at most count. Fewer are passed over. -/
def fractionDigits : Text → Text
  | '.' :: rest =>
    let digits := (rest.takeWhile Char.isDigit).take 6
    if digits.length < 3 then [] else digits
  | _ => []

/-- The time that a text begins with. The digits after the point count millionths, however many they are. -/
def readTime? (t : Text) : Option TimeOfDay := do
  let (hour, rest) ← takePair? t
  let (minute, rest) ← takeColonPair? rest
  let (second, rest) ← takeColonPair? rest
  return ⟨hour, minute, second, Text.valueOfDigits 10 (fractionDigits rest)⟩

/-! ## Moments -/

/-- The distance from universal time in minutes. -/
def readOffset? (t : Text) : Option Int :=
  let t : Text := if t == ("Z" : Text) then "+00:00" else t
  match integerAt? 1 3 t, integerAt? 4 6 t with
  | some hours, some minutes =>
    let distance := hours * 60 + minutes
    some (if t.head? == some '-' then -distance else distance)
  | _, _ => none

/-- The millionths of a second that the digits of a fraction stand for. -/
def millionths? (digits : Text) : Reading (Option Int) :=
  match Text.readInt digits with
  | .error _ => .ok none
  | .ok n =>
    if digits.length ≤ 6 then .ok (some (n * Nat.pow 10 (6 - digits.length)))
    else
      match (Double.mul (.ofInt n) (.ofDecimal false 1 (6 - digits.length))).toInt? with
      | .ok k => .ok (some k)
      | .error _ => .error .tooLarge

/-- A fraction with the distance from universal time behind it. -/
def splitFraction (t : Text) : Text × Option Text :=
  if t.getLast?.any fun c => c == 'Z' || c == 'z' then (t.dropLast, some "Z")
  else
    let sign := if '+' ∈ t then '+' else '-'
    if sign ∈ t then (t.takeWhile (· != sign), some (t.dropWhile (· != sign))) else (t, none)

/-- What stands behind the seconds: millionths, and the distance from universal time. -/
def readBehindSeconds (v : Text) : Reading (Int × Option Int) :=
  match v.drop 19 with
  | [] => .ok (0, none)
  | '.' :: rest => do
    let (digits, zone) := splitFraction rest
    match zone.map readOffset? with
    | some none => return (0, none)
    | offset =>
      match ← millionths? digits with
      | some k => return (k, offset.join)
      | none => return (0, none)
  | zone => .ok (0, readOffset? zone)

/-- Read a day, or a day with a time. -/
def readMoment? (v : Text) : Reading (Option Value) := do
  let (fraction, offset) ← readBehindSeconds v
  if '-' ∉ v.drop 1 then return none
  return do
    let d : Date := ⟨← naturalAt? 0 4 v, ← naturalAt? 5 7 v, ← naturalAt? 8 10 v⟩
    guard d.isValid
    if v.length = 10 then return .date d
    guard (0 ≤ fraction)
    let t : TimeOfDay := ⟨← naturalAt? 11 13 v, ← naturalAt? 14 16 v, ← naturalAt? 17 19 v, fraction.toNat⟩
    guard t.isValid
    return .moment d t offset

end ImportChart.Document
