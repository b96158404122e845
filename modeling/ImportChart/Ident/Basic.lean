import ImportChart.Text.Basic

/-!
# Identifiers of diagram nodes

An identifier is a non-empty word over ASCII letters, digits and `_` that does not begin with `_` and is none of the
words that the diagram language reserves.

- `sanitize`: the word nearest to a label;
- `preferred`: the identifier that a label gets if it is free.
-/

namespace ImportChart.Ident

/-- The characters of identifiers. -/
def isIdentChar (c : Char) : Bool := c.isAlphanum || c == '_'

/-- The words that the diagram language reserves, and the first of the two anchors, in lower case. -/
def reservedWords : List Text :=
  ["end", "graph", "subgraph", "flowchart", "direction", "style", "class", "classdef", "click", "linkstyle", "default",
    "call", "href", "start"]

/-- Whether a word is reserved, in any letter case. -/
def isReserved (word : Text) : Bool := reservedWords.contains (Text.asciiLower word)

/-- Put `_` for every other character and drop the `_` at the beginning; if nothing is left, take a fixed word. -/
def sanitize (label : Text) : Text :=
  match (label.map fun c => if isIdentChar c then c else '_').dropWhile (· == '_') with
  | [] => "node"
  | word => word

/-- The sanitized label, with an ending if it is reserved. -/
def preferred (label : Text) : Text :=
  let word := sanitize label
  if isReserved word then word ++ "_node" else word

/-- Whether a word can be the identifier of a node. -/
def IsUsable (word : Text) : Prop :=
  word ≠ [] ∧ word.all isIdentChar = true ∧ word.head? ≠ some '_' ∧ isReserved word = false

instance (word : Text) : Decidable (IsUsable word) := inferInstanceAs (Decidable (_ ∧ _ ∧ _ ∧ _))

end ImportChart.Ident
