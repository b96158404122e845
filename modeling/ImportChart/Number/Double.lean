import ImportChart.Text.Numeral

/-!
# Floating-point numbers of double precision

A finite number is a sign, a mantissa below 2^53 and a binary exponent, so that every statement about it is one
about natural numbers.

- `ofRatio`: the nearest number to a quotient, a tie going to the even mantissa;
- `ofDecimal` and `read?`: the number that a decimal numeral stands for;
- `toInt?`: the integer part.
-/

namespace ImportChart

/-- A number of double precision: `±mantissa · 2^exponent`, an infinity, or no number. -/
inductive Double where
  | finite (negative : Bool) (mantissa : Nat) (exponent : Int)
  | infinite (negative : Bool)
  | nan
  deriving DecidableEq, Repr

namespace Double

/-- Zero with a sign. -/
def signedZero (negative : Bool) : Double := .finite negative 0 (-1074)

/-- The natural number nearest to `num / den`, a tie going to the even one. -/
def roundQuotient (num den : Nat) : Nat :=
  let q := num / den
  let r := num % den
  if 2 * r > den || (2 * r == den && q % 2 == 1) then q + 1 else q

/-- `num / den · 2^-e` as a quotient of natural numbers. -/
def scaleDown (num den : Nat) (e : Int) : Nat × Nat :=
  if 0 ≤ e then (num, den * Nat.pow 2 e.toNat) else (num * Nat.pow 2 (-e).toNat, den)

/-- The number nearest to `num / den`, with the given sign. -/
def ofRatio (negative : Bool) (num den : Nat) : Double :=
  if num = 0 then signedZero negative
  else
    let guess : Int := (num.log2 : Int) - den.log2 - 52
    let (n, d) := scaleDown num den guess
    let exponent := max (-1074) (if n < d * Nat.pow 2 52 then guess - 1 else guess)
    let (n, d) := scaleDown num den exponent
    let m := roundQuotient n d
    let (m, exponent) := if m = Nat.pow 2 53 then (Nat.pow 2 52, exponent + 1) else (m, exponent)
    if 971 < exponent then .infinite negative else .finite negative m exponent

/-- The number nearest to `digits · 10^power`. Powers far outside the range are decided by the number of digits. -/
def ofDecimal (negative : Bool) (digits : Nat) (power : Int) : Double :=
  let width : Int := (Nat.toDigits 10 digits).length
  if digits = 0 || width + power < -330 then signedZero negative
  else if 310 < width + power then .infinite negative
  else if 0 ≤ power then ofRatio negative (digits * Nat.pow 10 power.toNat) 1
  else ofRatio negative digits (Nat.pow 10 (-power).toNat)

/-- The nearest number to an integer. -/
def ofInt (n : Int) : Double := ofRatio (n < 0) n.natAbs 1

/-- The magnitude of a finite number as a quotient. -/
def ratio (mantissa : Nat) (exponent : Int) : Nat × Nat :=
  if 0 ≤ exponent then (mantissa * Nat.pow 2 exponent.toNat, 1) else (mantissa, Nat.pow 2 (-exponent).toNat)

/-- The product of two numbers, rounded once. -/
def mul : Double → Double → Double
  | .finite s m e, .finite s' m' e' =>
    let (n, d) := ratio m e
    let (n', d') := ratio m' e'
    ofRatio (s != s') (n * n') (d * d')
  | .nan, _ => .nan
  | _, .nan => .nan
  | .infinite s, .infinite s' => .infinite (s != s')
  | .infinite s, .finite s' m _ => if m = 0 then .nan else .infinite (s != s')
  | .finite s m _, .infinite s' => if m = 0 then .nan else .infinite (s != s')

/-- Zero minus a number: zero itself gives the positive zero. -/
def negated : Double → Double
  | .finite s m e => if m = 0 then signedZero false else .finite (!s) m e
  | .infinite s => .infinite (!s)
  | .nan => .nan

/-- Whether the number is zero, of either sign. -/
def isZero : Double → Bool
  | .finite _ m _ => m = 0
  | _ => false

/-- Why a number has no integer part. -/
inductive NotIntegral where
  | infinite
  | nan
  deriving DecidableEq, Repr

/-- The integer part, toward zero. -/
def toInt? : Double → Except NotIntegral Int
  | .finite s m e =>
    let (n, d) := ratio m e
    .ok (if s then - ((n / d : Nat) : Int) else (n / d : Nat))
  | .infinite _ => .error .infinite
  | .nan => .error .nan

/-! ## Reading -/

/-- Decimal digits in ASCII for the digits of any script. -/
def asciiDigits (t : Text) : Text :=
  t.map fun c => match Text.digitValue? c with | some d => Nat.digitChar d | none => c

/-- Remove the underscores of a numeral; each has to stand between two digits. -/
def dropUnderscores : (afterDigit : Bool) → Text → Option Text
  | _, [] => some []
  | afterDigit, '_' :: cs =>
    match cs with
    | c :: _ => if afterDigit && c.isDigit then dropUnderscores false cs else none
    | [] => none
  | _, c :: cs => (dropUnderscores c.isDigit cs).map (c :: ·)

/-- Read the exponent part of a numeral, which may be absent. -/
def readPower? : Text → Option Int
  | [] => some 0
  | c :: cs =>
    if c == 'e' || c == 'E' then
      let (negative, digits) := Text.takeSign cs
      if digits.isEmpty || !digits.all Char.isDigit then none
      else
        let n : Nat := Text.valueOfDigits 10 digits
        some (if negative then - (n : Int) else n)
    else none

/-- Read a numeral with an optional fraction and an optional exponent, or the name of an infinity or of no number,
in any letter case. -/
def read? (t : Text) : Option Double :=
  match dropUnderscores false (asciiDigits (Text.trimNumeral t)) with
  | none => none
  | some plain =>
    let (negative, body) := Text.takeSign plain
    let name := Text.asciiLower body
    if name == ("inf" : Text) || name == ("infinity" : Text) then some (.infinite negative)
    else if name == ("nan" : Text) then some .nan
    else
      let whole := body.takeWhile Char.isDigit
      let rest := body.dropWhile Char.isDigit
      let (fraction, rest) :=
        match rest with
        | '.' :: cs => (cs.takeWhile Char.isDigit, cs.dropWhile Char.isDigit)
        | _ => ([], rest)
      if whole.isEmpty && fraction.isEmpty then none
      else (readPower? rest).map fun power =>
        ofDecimal negative (Text.valueOfDigits 10 (whole ++ fraction)) (power - fraction.length)

end Double

end ImportChart
