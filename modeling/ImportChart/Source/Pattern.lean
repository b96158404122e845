import ImportChart.Text.Blank

/-!
# Declarations as they look on the surface

Five forms of declaration, recognised at the beginning of a text without regard to what stands around it. A
recogniser gives the name or target that it captures and the text after the form.

- `importTarget?`: `import "target"` and `import … from "target"`;
- `requireTarget?`: `require("target")`;
- `functionName?`: `function name(`;
- `arrowName?`: `const name = (…) =>`, also with `async`;
- `className?`: `class name`.
-/

namespace ImportChart.Source

/-- What a recogniser found: the captured part, and the text after the form. -/
structure Found where
  capture : Text
  rest : Text
  deriving DecidableEq, Repr

/-! ## Pieces of the forms -/

/-- The characters of names. -/
def isNameChar (c : Char) : Bool := c.isAlphanum || c == '_' || c == '$'

/-- The two quotation marks; a target may begin with one and end with the other. -/
def isQuote (c : Char) : Bool := c == '\'' || c == '"'

/-- The text after a word, if it begins with that word. -/
def after? (word t : Text) : Option Text := if word.isPrefixOf t then some (t.drop word.length) else none

/-- Behind a word that a text begins with, the rest is left. -/
@[simp] theorem after?_append (word t : Text) : after? word (word ++ t) = some t := by simp [after?]

/-- A text that does not begin with a word has nothing behind it. -/
theorem after?_eq_none {word t : Text} (h : ¬word <+: t) : after? word t = none := by
  rw [after?, if_neg]
  simpa using h

/-- The text after one blank or more. -/
def afterBlanks? : Text → Option Text
  | c :: cs => if Text.isBlank c then some (Text.trimStart cs) else none
  | [] => none

/-- A name of one character or more. -/
def name? (t : Text) : Option Found :=
  let name := t.takeWhile isNameChar
  if name.isEmpty then none else some ⟨name, t.dropWhile isNameChar⟩

/-- A target of one character or more between quotation marks. -/
def quotedTarget? : Text → Option Found
  | [] => none
  | c :: cs =>
    let target := cs.takeWhile (!isQuote ·)
    match cs.dropWhile (!isQuote ·) with
    | [] => none
    | _ :: rest => if isQuote c && !target.isEmpty then some ⟨target, rest⟩ else none

/-- The characters that may stand between `import` and its target. -/
def isClauseChar (c : Char) : Bool := !isQuote c && c ≠ ';'

/-- Whether a text may stand between `import` and its target: blanks only, or blanks, something, `from` and blanks
again. -/
def isClause (t : Text) : Bool :=
  let core := Text.trimEnd t
  let bound := (t.head?.map Text.isBlank).getD false && (t.getLast?.map Text.isBlank).getD false
  bound && (core.isEmpty || (("from" : Text).isSuffixOf core && 6 ≤ core.length))

/-! ## The forms -/

/-- The target of an import; a semicolon after it belongs to the form. -/
def importTarget? (t : Text) : Option Found := do
  let t ← after? "import" t
  if isClause (t.takeWhile isClauseChar) then
    let found ← quotedTarget? (t.dropWhile isClauseChar)
    return { found with rest := (after? ";" found.rest).getD found.rest }
  else none

/-- The target of a call of `require`. -/
def requireTarget? (t : Text) : Option Found := do
  let t ← after? "require(" t
  let found ← quotedTarget? (Text.trimStart t)
  let rest ← after? ")" (Text.trimStart found.rest)
  return { found with rest }

/-- The name of a function. -/
def functionName? (t : Text) : Option Found := do
  let t ← after? "function" t
  let found ← name? (← afterBlanks? t)
  let rest ← after? "(" (Text.trimStart found.rest)
  return { found with rest }

/-- The characters that may stand between the parentheses of an arrow function. -/
def isParameterChar (c : Char) : Bool := c ≠ '(' && c ≠ ')'

/-- The name of a constant that is an arrow function. -/
def arrowName? (t : Text) : Option Found := do
  let t ← after? "const" t
  let found ← name? (← afterBlanks? t)
  let t ← after? "=" (Text.trimStart found.rest)
  let t := Text.trimStart t
  let t ← after? "(" (((after? "async" t).map Text.trimStart).getD t)
  let t ← after? ")" (t.dropWhile isParameterChar)
  let rest ← after? "=>" (Text.trimStart t)
  return { found with rest }

/-- The name of a function in either form. -/
def callableName? (t : Text) : Option Found := (functionName? t).or (arrowName? t)

/-- The name of a class. -/
def className? (t : Text) : Option Found := do
  name? (← afterBlanks? (← after? "class" t))

end ImportChart.Source
