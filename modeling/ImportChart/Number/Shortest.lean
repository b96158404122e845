import ImportChart.Number.Double

/-!
# The shortest text of a floating-point number

A finite number is written with the fewest digits that read back as the number itself; of two such numerals the one
nearer to the number is taken, and halfway between them the one whose last digit is even. `Layout` says where the
point goes and when a power of ten is written instead.
-/

namespace ImportChart.Double

/-- How many digits the whole part of `num / den` has; not positive if that many zeros, or more, follow the point. -/
def pointPosition (num den : Nat) : Int :=
  if den ≤ num then (Nat.toDigits 10 (num / den)).length
  else match (List.range 400).find? fun k => den ≤ num * Nat.pow 10 (k + 1) with
    | some k => - (k : Int)
    | none => 0

/-- The magnitude of a number on the grid of the numerals with `count` digits: the grid point below it and the
distance above that point, as `num / den` in units of the grid. -/
def onGrid (num den : Nat) (scale : Int) : Nat × Nat × Nat :=
  let (n, d) := if 0 ≤ scale then (num, den * Nat.pow 10 scale.toNat) else (num * Nat.pow 10 (-scale).toNat, den)
  (n / d, n % d, d)

/-- A numeral with `count` digits that reads back as the number: its digits and its power of ten. -/
def withDigits? (mantissa : Nat) (exponent : Int) (count : Nat) : Option (Nat × Int) :=
  let (num, den) := ratio mantissa exponent
  let scale := pointPosition num den - count
  let (low, above, unit) := onGrid num den scale
  let readsBack (digits : Nat) : Bool := ofDecimal false digits scale == .finite false mantissa exponent
  let lowFits := readsBack low
  let highFits := readsBack (low + 1)
  let lowNearer := 2 * above < unit || (2 * above = unit && low % 2 = 0)
  if lowFits && (!highFits || lowNearer) then some (low, scale)
  else if highFits then some (low + 1, scale)
  else none

/-- The shortest numeral that reads back as the number; seventeen digits always do. -/
def shortest (mantissa : Nat) (exponent : Int) : Nat × Int :=
  ((List.range 17).findSome? fun k => withDigits? mantissa exponent (k + 1)).getD (0, 0)

/-- The digits of a numeral without the zeros at its end, and the position of the point from their beginning. -/
def significant (digits : Nat) (power : Int) : Text × Int :=
  let all := Nat.toDigits 10 digits
  (Text.dropEndWhile (· == '0') all, all.length + power)

/-- The choices in writing a number. -/
structure Layout where
  /-- Numbers below `10^smallest` are written with a power of ten. -/
  smallest : Int
  /-- Numbers from `10^largest` on are written with a power of ten. -/
  largest : Int
  /-- The least number of digits of the power. -/
  powerWidth : Nat

/-- Numbers from `10^-4` to below `10^16` are written without a power of ten; a power has two digits at least. -/
def plainLayout : Layout := ⟨-4, 16, 2⟩

/-- The power of ten at the end of a numeral, always with a sign. -/
def powerText (width : Nat) (power : Int) : Text :=
  let digits := Text.ofNat power.natAbs
  'e' :: (if power < 0 then '-' else '+') :: (List.replicate (width - digits.length) '0' ++ digits)

/-- Lay out the digits of a number whose point stands at `position`. -/
def Layout.write (layout : Layout) (digits : Text) (position : Int) : Text :=
  let power := position - 1
  if layout.smallest ≤ power && power < layout.largest then
    if position ≤ 0 then ("0." : Text) ++ List.replicate (-position).toNat '0' ++ digits
    else if (digits.length : Int) ≤ position then
      digits ++ List.replicate (position.toNat - digits.length) '0' ++ ".0"
    else digits.take position.toNat ++ '.' :: digits.drop position.toNat
  else
    let lead := match digits with
      | [] => []
      | [d] => [d]
      | d :: ds => d :: '.' :: ds
    lead ++ powerText layout.powerWidth power

/-- The text of a number. -/
def toText : Double → Text
  | .nan => "nan"
  | .infinite negative => if negative then "-inf" else "inf"
  | .finite negative m e =>
    let magnitude : Text :=
      if m = 0 then "0.0"
      else
        let (digits, position) := (fun p : Nat × Int => significant p.1 p.2) (shortest m e)
        plainLayout.write digits position
    if negative then '-' :: magnitude else magnitude

end ImportChart.Double
