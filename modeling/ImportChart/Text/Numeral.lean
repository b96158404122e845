import ImportChart.Text.Blank
import ImportChart.Text.DigitTable
import ImportChart.Text.Quoted

/-!
# Decimal numerals as people write them

- `digitValue?`: the value of a decimal digit of any script;
- `readInt`: an integer with blanks around it, a sign, and single underscores between its digits. The two ways to
  fail are the two constructors of `NumeralError`;
- `readPositive?`: a positive integer in the form that the arguments of a program have;
- `isWritable`: whether an integer is written, which has the same limit on its digits.
-/

namespace ImportChart.Text

/-- The value of a decimal digit of any script. -/
def digitValue? (c : Char) : Option Nat :=
  if c.toNat < 128 then if c.isDigit then some (c.toNat - 48) else none
  else (digitZeros.find? fun z => z ≤ c.toNat && c.toNat ≤ z + 9).map (c.toNat - ·)

/-- Whether a character is a decimal digit of any script. -/
def isDecimalDigit (c : Char) : Bool := (digitValue? c).isSome

/-- The blanks that may stand around a numeral: all of them but the information separators. -/
def isNumeralBlank (c : Char) : Bool := isBlank c && !(28 ≤ c.toNat && c.toNat ≤ 31)

/-- Drop the blanks around a numeral. -/
def trimNumeral (t : Text) : Text := dropEndWhile isNumeralBlank (t.dropWhile isNumeralBlank)

/-- A sign in front of a numeral: whether it is a minus, and the text after it. -/
def takeSign : Text → Bool × Text
  | '-' :: cs => (true, cs)
  | '+' :: cs => (false, cs)
  | cs => (false, cs)

/-- Whether every underscore has something other than an underscore on both sides. -/
def underscoresSeparate : Text → Bool
  | [] => true
  | '_' :: _ => false
  | _ :: cs => go cs
where
  /-- The same after a character that is no underscore. -/
  go : Text → Bool
    | [] => true
    | ['_'] => false
    | '_' :: c :: cs => c ≠ '_' && go cs
    | _ :: cs => go cs

/-- The number that a run of digits and underscores stands for in a base. -/
def valueOfDigits (base : Nat) (digits : Text) : Nat :=
  digits.foldl (fun n c => match digitValue? c with | some d => n * base + d | none => n) 0

/-- Why a text is not read as an integer. -/
inductive NumeralError where
  /-- It is not a numeral. -/
  | malformed
  /-- It has more digits than are read. -/
  | tooLong (digits : Nat)
  deriving DecidableEq, Repr

/-- The longest numeral that is read or written. -/
def maxDigits : Nat := 4300

/-- Read a decimal integer. -/
def readInt (t : Text) : Except NumeralError Int :=
  let (negative, body) := takeSign (trimNumeral t)
  let run := body.takeWhile fun c => isDecimalDigit c || c == '_'
  let digits := run.filter (· ≠ '_')
  if digits.isEmpty || !underscoresSeparate run then .error .malformed
  else if maxDigits < digits.length then .error (.tooLong digits.length)
  else if run.length ≠ body.length then .error .malformed
  else
    let n := valueOfDigits 10 digits
    .ok (if negative then - (n : Int) else n)

/-- Drop the zeros in front of a numeral, with the underscores among them. -/
def dropLeadingZeros : Text → Text
  | '0' :: cs => cs.dropWhile fun c => c == '0' || c == '_'
  | cs => cs

/-- Drop a fraction that has no digit but zeros, and one at least. -/
def dropZeroFraction (t : Text) : Text :=
  match splitOnce '.' t with
  | (whole, c :: cs) => if (c :: cs).all (· == '0') then whole else t
  | _ => t

/-- Read a positive integer. There may be blanks around it, a plus sign, zeros in front of it, single underscores
between its digits, which are those of ASCII, and a fraction of zeros. -/
def readPositive? (t : Text) : Option Nat :=
  let unsigned := match trimNumeral t with
    | '+' :: cs => cs
    | cs => cs
  let whole := dropZeroFraction (dropLeadingZeros unsigned)
  let digits := whole.filter (· ≠ '_')
  if !(whole.head?.any fun c => '1' ≤ c && c ≤ '9') then none
  else if !underscoresSeparate whole || !digits.all Char.isDigit || maxDigits < digits.length then none
  else some (valueOfDigits 10 digits)

/-- Whether an integer is written: it has no more digits than a numeral may have. -/
def isWritable (n : Int) : Bool := (ofNat n.natAbs).length ≤ maxDigits

/-- What is said of an integer that is too long to be written. -/
def tooManyDigits : Text :=
  ("Exceeds the limit (" : Text) ++ ofNat maxDigits ++
    " digits) for integer string conversion; use sys.set_int_max_str_digits() to increase the limit"

/-- How much of a quoted text is shown when it is not a numeral. -/
def shownLength : Nat := 200

/-- What is said of a text that is not read as an integer. -/
def NumeralError.message (t : Text) : NumeralError → Text
  | .malformed => ("invalid literal for int() with base 10: " : Text) ++ (quoted t).take shownLength
  | .tooLong digits =>
    ("Exceeds the limit (" : Text) ++ ofNat maxDigits ++ " digits) for integer string conversion: value has " ++
      ofNat digits ++ " digits; use sys.set_int_max_str_digits() to increase the limit"

end ImportChart.Text
