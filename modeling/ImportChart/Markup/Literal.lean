import ImportChart.Text.Letter
import ImportChart.Text.Numeral

/-!
# Literal values

In a tag of the `rich` package the parameters of a handler are a value that is written out: numbers, texts in quotation
marks, `None`, `True`, `False`, `...`, tuples in round brackets, sets and tables in braces. Only whether a text is such
a value matters, so a value is read as its `Kind`.

- `isLiteral`: whether a text is a literal value;
- `isHandler`: whether a text gives the parameters of a handler, which may be the name of something that is called.
-/

namespace ImportChart.Markup.Literal

/-- What of a value decides where it may stand. -/
inductive Kind where
  /-- A real number without a sign. -/
  | real
  /-- An imaginary number without a sign. -/
  | imaginary
  /-- A real number with a sign. -/
  | signedReal
  /-- Any other value that may be a key. -/
  | plain
  /-- A value that may not be a key. -/
  | nonKey
  deriving DecidableEq, Repr

/-! ## Blanks -/

/-- Dropping characters from the front makes no text longer. -/
theorem length_dropWhile_le (p : Char → Bool) (t : Text) : (t.dropWhile p).length ≤ t.length :=
  (List.dropWhile_sublist p).length_le

/-- Drop the blanks in front. A backslash joins a line with the next one. Inside brackets, line ends and comments are
blanks too. -/
def skip (inside : Bool) : Text → Text
  | [] => []
  | '\\' :: '\n' :: rest => skip inside rest
  | c :: rest =>
    if c == ' ' || c == '\t' || c == '\x0c' || (inside && c == '\n') then skip inside rest
    else if inside && c == '#' then skip inside (rest.dropWhile (· != '\n'))
    else c :: rest
termination_by t => t.length
decreasing_by
  · simp only [List.length_cons]
    omega
  · simp
  · have := length_dropWhile_le (· != '\n') rest
    simp only [List.length_cons]
    omega

/-- Skipping blanks makes no text longer. -/
theorem length_skip_le (inside : Bool) (t : Text) : (skip inside t).length ≤ t.length := by
  fun_induction skip inside t with
  | case1 => exact Nat.le_refl _
  | case2 rest ih => exact Nat.le_trans ih (Nat.le_add_right _ 2)
  | case3 c rest _ _ ih => exact Nat.le_trans ih (Nat.le_succ _)
  | case4 c rest _ _ _ ih => exact Nat.le_trans ih (Nat.le_trans (length_dropWhile_le _ rest) (Nat.le_succ _))
  | case5 => exact Nat.le_refl _

/-- Whether nothing but blanks, comments and line ends is left. -/
def isFinished (t : Text) : Bool :=
  match _h : skip false t with
  | [] => true
  | c :: rest =>
    if c == '#' then isFinished (rest.dropWhile (· != '\n'))
    else if c == '\n' then isFinished rest
    else false
termination_by t.length
decreasing_by
  · have h1 := length_skip_le false t
    have h2 := length_dropWhile_le (· != '\n') rest
    rw [_h] at h1
    simp only [List.length_cons] at h1
    omega
  · have h1 := length_skip_le false t
    rw [_h] at h1
    simp only [List.length_cons] at h1
    omega

/-- Whether a character indents a line. -/
def isIndent (c : Char) : Bool := c == ' ' || c == '\t'

/-- Drop the lines in front that are blank or hold a comment only. The first line that is left has no indentation. -/
def fromFirstLine? (t : Text) : Option Text :=
  match _h : t.dropWhile isIndent with
  | '#' :: rest => fromFirstLine? (rest.dropWhile (· != '\n'))
  | '\n' :: rest => fromFirstLine? rest
  | '\\' :: '\n' :: rest => fromFirstLine? rest
  | [] => none
  | _ => if t.head?.any isIndent then none else some t
termination_by t.length
decreasing_by
  all_goals
    have h1 := length_dropWhile_le isIndent t
    rw [_h] at h1
    simp only [List.length_cons] at h1
  · have := length_dropWhile_le (· != '\n') rest
    omega
  · omega
  · omega

/-! ## Numbers -/

/-- Take digits of a class, with single underscores between them. -/
def takeDigits (p : Char → Bool) : Text → Text × Text
  | [] => ([], [])
  | c :: rest =>
    if p c then ((takeDigits p rest).map (c :: ·) id)
    else if c == '_' && rest.head?.any p then takeDigits p rest
    else ([], c :: rest)

/-- Whether a character is a hexadecimal digit. -/
def isHexadecimal (c : Char) : Bool := c.isDigit || ('a' ≤ c && c ≤ 'f') || ('A' ≤ c && c ≤ 'F')

/-- The digits of the base that the letter behind a zero names. -/
def digitsOf? (letter : Char) : Option (Char → Bool) :=
  if letter == 'x' || letter == 'X' then some isHexadecimal
  else if letter == 'o' || letter == 'O' then some fun c => '0' ≤ c && c ≤ '7'
  else if letter == 'b' || letter == 'B' then some fun c => c == '0' || c == '1'
  else none

/-- Take the exponent of a number, if there is one. The answer is whether there was. -/
def takeExponent (t : Text) : Bool × Text :=
  match t with
  | c :: rest =>
    let digits := if rest.head? == some '+' || rest.head? == some '-' then rest.drop 1 else rest
    if (c == 'e' || c == 'E') && digits.head?.any Char.isDigit then (true, (takeDigits Char.isDigit digits).2)
    else (false, t)
  | [] => (false, t)

/-- Take a fraction with its point, if there is one. The answer is whether there was. -/
def takeFraction (t : Text) : Bool × Text :=
  match t with
  | '.' :: rest => (true, if rest.head?.any Char.isDigit then (takeDigits Char.isDigit rest).2 else rest)
  | _ => (false, t)

/-- Take a decimal number. An integer has no zero in front unless it is zero, and there is a limit on its digits. -/
def takeDecimal? (t : Text) : Option (Kind × Text) :=
  let (whole, rest) := if t.head?.any Char.isDigit then takeDigits Char.isDigit t else ([], t)
  if whole.isEmpty && !((t.drop 1).head?.any Char.isDigit) then none
  else
    let (hasFraction, rest) := takeFraction rest
    let (hasExponent, rest) := takeExponent rest
    match rest with
    | 'j' :: rest | 'J' :: rest => some (.imaginary, rest)
    | rest =>
      if hasFraction || hasExponent then some (.real, rest)
      else if whole.head? == some '0' && whole.any (· != '0') then none
      else if Text.maxDigits < whole.length then none
      else some (.real, rest)

/-- Take a number. -/
def takeNumber? (t : Text) : Option (Kind × Text) :=
  match t with
  | '0' :: letter :: rest =>
    match digitsOf? letter with
    | some p =>
      let (digits, rest) := takeDigits p rest
      if digits.isEmpty then none else some (.real, rest)
    | none => takeDecimal? t
  | _ => takeDecimal? t

/-! ## Texts -/

/-- Take the rest of a text in quotation marks: what stands before the closing mark, and what follows it. A `long` text
ends at three marks and may go over several lines. -/
def takeQuoted? (mark : Char) (long : Bool) : Text → Option (Text × Text)
  | [] => none
  | '\\' :: c :: rest => (takeQuoted? mark long rest).map fun (body, after) => ('\\' :: c :: body, after)
  | c :: rest =>
    if c == mark && (!long || rest.take 2 == [mark, mark]) then some ([], if long then rest.drop 2 else rest)
    else if c == '\n' && !long then none
    else (takeQuoted? mark long rest).map fun (body, after) => (c :: body, after)

/-- Whether a text begins with hexadecimal digits. -/
def hasHexadecimal (count : Nat) (t : Text) : Bool := (t.take count).length == count && (t.take count).all isHexadecimal

/-- The value of hexadecimal digits. -/
def hexadecimalValue (digits : Text) : Nat :=
  digits.foldl (fun n c => n * 16 + (if c.isDigit then c.toNat - 48 else c.toLower.toNat - 87)) 0

/-- Whether the name of a character in braces follows. The name is not looked up. -/
def hasCharacterName (t : Text) : Bool :=
  match t with
  | '\x7b' :: rest =>
    let name := rest.takeWhile (· != '\x7d')
    !name.isEmpty && name.length < rest.length && name.all fun c => c.isAlphanum || c == ' ' || c == '-'
  | _ => false

/-- Whether what follows a backslash is complete. In a text of bytes there are fewer such sequences. -/
def isEscape (ofBytes : Bool) (c : Char) (rest : Text) : Bool :=
  if c == 'x' then hasHexadecimal 2 rest
  else if ofBytes then true
  else if c == 'u' then hasHexadecimal 4 rest
  else if c == 'U' then hasHexadecimal 8 rest && hexadecimalValue (rest.take 8) ≤ 0x10FFFF
  else if c == 'N' then hasCharacterName rest
  else true

/-- Whether all sequences behind backslashes are complete. -/
def escapesComplete (ofBytes : Bool) : Text → Bool
  | [] => true
  | '\\' :: c :: rest => isEscape ofBytes c rest && escapesComplete ofBytes rest
  | _ :: rest => escapesComplete ofBytes rest

/-- Whether a character may stand in a name. -/
def isNameCharacter (c : Char) : Bool := c.isAlphanum || c == '_' || 128 ≤ c.toNat

/-- Take a text in quotation marks, which letters before the mark may make a text of bytes or a raw one. The answer is
whether it is a text of bytes, and what follows it. -/
def takeText? (t : Text) : Option (Bool × Text) :=
  let letters := t.takeWhile isNameCharacter
  let kind := Text.asciiLower letters
  let ofBytes := 'b' ∈ kind
  if !(["", "r", "u", "b", "br", "rb"] : List Text).contains kind then none
  else
    match t.drop letters.length with
    | mark :: rest =>
      if mark != '\'' && mark != '"' then none
      else
        let long := rest.take 2 == [mark, mark]
        match takeQuoted? mark long (if long then rest.drop 2 else rest) with
        | none => none
        | some (body, after) =>
          if ofBytes && body.any fun c => 128 ≤ c.toNat then none
          else if 'r' ∉ kind && !escapesComplete ofBytes body then none
          else some (ofBytes, after)
    | [] => none

/-- Take the texts that follow a text; together they are one value. -/
def takeMoreTexts (inside ofBytes : Bool) : (fuel : Nat) → Text → Option Text
  | 0, t => some t
  | fuel + 1, t =>
    match takeText? (skip inside t) with
    | none => some t
    | some (kind, after) => if kind == ofBytes then takeMoreTexts inside ofBytes fuel after else none

/-! ## Values -/

/-- A value in brackets, with the value that it is the key of in a table. -/
structure Member where
  key : Kind
  value : Option Kind
  deriving DecidableEq, Repr

/-- The kind of a tuple. -/
def tupleKind (members : List Member) : Kind := if members.any fun m => m.key == .nonKey then .nonKey else .plain

/-- The kind of what stands in round brackets: a tuple, or a single value. Tables only have values for their keys. -/
def roundKind? (members : List Member) (hasComma : Bool) : Option Kind :=
  if members.any fun m => m.value.isSome then none
  else
    match members, hasComma with
    | [m], false => some m.key
    | _, _ => some (tupleKind members)

/-- The kind of what stands in braces: a table, in which every key has a value, or a set. -/
def braceKind? (members : List Member) : Option Kind :=
  if members.any fun m => m.key == .nonKey then none
  else if members.all (fun m => m.value.isSome) || members.all (fun m => m.value.isNone) then some .nonKey
  else none

/-- The kind of a value with a sign before it; only a number has one. -/
def withSign? : Kind → Option Kind
  | .real => some .signedReal
  | .imaginary => some .plain
  | _ => none

/-- The kind of a sum, which has a real part and an imaginary one. -/
def sum? : Kind → Kind → Option Kind
  | .real, .imaginary | .signedReal, .imaginary => some .plain
  | _, _ => none

/-- Whether a text begins with a sign. -/
def hasSign (t : Text) : Bool := t.head? == some '+' || t.head? == some '-'

/-- A name that is a value. -/
def namedKind? (name : Text) : Option Kind :=
  if name == ("None" : Text) || name == ("True" : Text) || name == ("False" : Text) then some .plain else none

/-- How deep brackets may stand inside one another. -/
def maxDepth : Nat := 200

mutual
/-- Take a value. `depth` more brackets may be opened. -/
def takeValue? (fuel depth : Nat) (inside : Bool) (t : Text) : Option (Kind × Text) :=
  match fuel with
  | 0 => none
  | fuel + 1 => do
    let (first, rest) ← takeOperand? fuel depth inside (skip inside t)
    let next := skip inside rest
    if hasSign next then
      let (second, rest) ← takeAtom? fuel depth inside (skip inside (next.drop 1))
      return (← sum? first second, rest)
    else return (first, rest)

/-- Take a value that may have a sign. -/
def takeOperand? (fuel depth : Nat) (inside : Bool) (t : Text) : Option (Kind × Text) :=
  match fuel with
  | 0 => none
  | fuel + 1 =>
    if hasSign t then do
      let (kind, rest) ← takeAtom? fuel depth inside (skip inside (t.drop 1))
      return (← withSign? kind, rest)
    else takeAtom? fuel depth inside t

/-- Take a value without a sign. -/
def takeAtom? (fuel depth : Nat) (inside : Bool) (t : Text) : Option (Kind × Text) :=
  match fuel, t with
  | 0, _ => none
  | _, [] => none
  | _ + 1, '.' :: '.' :: '.' :: rest => some (.plain, rest)
  | fuel + 1, '(' :: rest =>
    match depth with
    | 0 => none
    | depth + 1 => do
      let (members, hasComma, rest) ← takeMembers? fuel depth (some ')') rest
      return (← roundKind? members hasComma, rest)
  | fuel + 1, '\x7b' :: rest =>
    match depth with
    | 0 => none
    | depth + 1 => do
      let (members, _, rest) ← takeMembers? fuel depth (some '\x7d') rest
      return (← braceKind? members, rest)
  | fuel + 1, c :: rest =>
    if c.isDigit || c == '.' then takeNumber? (c :: rest)
    else
      match takeText? (c :: rest) with
      | some (ofBytes, rest) => (takeMoreTexts inside ofBytes fuel rest).map fun rest => (.plain, rest)
      | none =>
        let name := (c :: rest).takeWhile isNameCharacter
        let after := (c :: rest).drop name.length
        if name == ("set" : Text) then
          match skip inside after with
          | '(' :: rest =>
            match skip true rest with
            | ')' :: rest => some (.nonKey, rest)
            | _ => none
          | _ => none
        else (namedKind? name).map fun kind => (kind, after)

/-- Take values with commas between them, up to the closing bracket or, if there is none, up to the end. The answer is
the values, whether there was a comma, and what is left. -/
def takeMembers? (fuel depth : Nat) (close : Option Char) (t : Text) : Option (List Member × Bool × Text) :=
  match fuel with
  | 0 => none
  | fuel + 1 =>
    let inside := close.isSome
    let isEnd (t : Text) : Bool := match close with
      | some c => t.head? == some c
      | none => isFinished t
    let t := skip inside t
    if isEnd t then some ([], false, t.drop 1)
    else do
      let (key, rest) ← takeValue? fuel depth inside t
      let rest := skip inside rest
      let (value, rest) ← match rest with
        | ':' :: rest =>
          if close == some '\x7d' then (takeValue? fuel depth inside rest).map fun (kind, rest) => (some kind, rest)
          else none
        | rest => some (none, rest)
      let rest := skip inside rest
      if isEnd rest then some ([⟨key, value⟩], false, rest.drop 1)
      else
        match rest with
        | ',' :: rest =>
          let (members, _, rest) ← takeMembers? fuel depth close rest
          return (⟨key, value⟩ :: members, true, rest)
        | _ => none
end

/-- A text with a line feed for each line end. -/
def withLineFeeds : Text → Text
  | [] => []
  | '\r' :: '\n' :: rest => '\n' :: withLineFeeds rest
  | c :: rest => (if c == '\r' then '\n' else c) :: withLineFeeds rest

/-- Whether a text is a literal value. Values with commas between them are one value. -/
def isLiteral (t : Text) : Bool :=
  let t := withLineFeeds t
  if '\x00' ∈ t then false
  else
    match fromFirstLine? t with
    | none => false
    | some t => (takeMembers? (5 * t.length + 10) maxDepth none t).isSome

/-! ## Handlers -/

/-- Whether a character may stand in the name of what a handler calls. -/
def isCallCharacter (c : Char) : Bool := Text.isLetterOrNumber c || c == '_' || c == '.'

/-- Whether a text gives the parameters of a handler: a name, a name with values in round brackets behind it, or a
value. -/
def isHandler (t : Text) : Bool :=
  let t := Text.trim t
  let rest := t.dropWhile isCallCharacter
  if rest.isEmpty then true
  else if Text.startsWith "(" rest && Text.endsWith ")" rest && '\n' ∉ rest then isLiteral rest
  else isLiteral t

end ImportChart.Markup.Literal
