import ImportChart.Document.Error
import ImportChart.Document.Value
import ImportChart.Number.Double

/-!
# Numbers in a document

What counts as a number of TOML to the `toml` package, and which one it is.

- `isPlainNumeral`: the rules on leading zeros and underscores;
- `readInteger?`: an integer in base ten, or in the base that its beginning names;
- `readNumber`: an integer or a floating-point number.
-/

namespace ImportChart.Document

/-- Whether a numeral has no superfluous zero in front and no underscore in a wrong place. -/
def isPlainNumeral (t : Text) : Bool :=
  match Text.trim t with
  | [] => false
  | [c] => c != '_'
  | a :: b :: rest =>
    let all := a :: b :: rest
    if a == '_' || all.getLast? == some '_' || Text.contains "_." all || Text.contains "._" all then false
    else if a == '0' && !(b == '.' || b == 'o' || b == 'b' || b == 'x') then false
    else if a == '+' || a == '-' then
      if b == '0' && !rest.isEmpty && rest.head? != some '.' then false else !Text.contains "__" (b :: rest)
    else !Text.contains "__" all

/-! ## Integers -/

/-- The value of a digit in a base of up to thirty-six. -/
def digitIn? (base : Nat) (c : Char) : Option Nat :=
  let value? :=
    if c.isDigit then some (c.toNat - 48)
    else if 'a' ≤ c ∧ c ≤ 'z' then some (c.toNat - 87)
    else if 'A' ≤ c ∧ c ≤ 'Z' then some (c.toNat - 55)
    else none
  value?.filter (· < base)

/-- The natural number that digits stand for in a base; there is at least one digit. -/
def naturalIn? (base : Nat) (digits : Text) : Option Nat :=
  if digits.isEmpty then none
  else (digits.mapM (digitIn? base)).map fun ds => ds.foldl (fun n d => n * base + d) 0

/-- The natural number of a numeral in base ten, or in the base that a leading `0x`, `0o` or `0b` names. In base ten a
zero begins nothing but zero, and there is a limit on the digits. -/
def natural? (t : Text) : Option Nat :=
  match t with
  | '0' :: c :: digits =>
    if c == 'x' || c == 'X' then naturalIn? 16 digits
    else if c == 'o' || c == 'O' then naturalIn? 8 digits
    else if c == 'b' || c == 'B' then naturalIn? 2 digits
    else if (c :: digits).all (· == '0') && digits.length + 2 ≤ Text.maxDigits then some 0
    else none
  | digits => if Text.maxDigits < digits.length then none else naturalIn? 10 digits

/-- Read an integer with blanks around it and a sign. -/
def readInteger? (t : Text) : Option Int :=
  let (negative, body) := Text.takeSign (Text.trimNumeral (Double.asciiDigits t))
  (natural? body).map fun n => if negative then - (n : Int) else n

/-! ## Numbers -/

/-- Whether a numeral has a point or an exponent. The letter of an exponent does not count in a hexadecimal one. -/
def hasFraction (v : Text) : Bool := '.' ∈ v || ('x' ∉ v && ('e' ∈ v || 'E' ∈ v))

/-- Whether a text names an infinity or no number. -/
def isSpecialName (v : Text) : Bool :=
  let name := Text.asciiLower v
  name == ("inf" : Text) || name == ("nan" : Text)

/-- Read a number without its sign and its underscores. -/
def readUnsigned (v : Text) : Reading Value :=
  let found : Option Value :=
    if hasFraction v then
      if ('.' ∈ v && (Text.splitOnce '.' v).2.isEmpty) || !(v.head?.any Char.isDigit) then none
      else (Double.read? v).map .float
    else if isSpecialName v then (Double.read? v).map .float
    else (readInteger? v).map .integer
  match found with
  | some value => .ok value
  | none => .error .malformed

/-- Zero minus a number. -/
def negate : Value → Value
  | .integer n => .integer (-n)
  | .float x => .float x.negated
  | v => v

/-- Read a number. A minus sign takes the number from zero. -/
def readNumber (v : Text) : Reading Value :=
  let (negative, body) := Text.takeSign v
  (readUnsigned (body.filter (· != '_'))).map fun value => if negative then negate value else value

end ImportChart.Document
