/-!
# Why a document is not read

The `toml` package stops in several ways. `malformed` is a fault of the text, the one that it has an error of its own
for. The other causes come from documents whose parts contradict each other or end too early; they are kept apart
because a reader of documents can pass over a malformed one, and not over these.
-/

namespace ImportChart.Document

/-- Why a document is not read. -/
inductive ReadError where
  /-- The text breaks a rule of the format. -/
  | malformed
  /-- A construct ends before the character that decides about it. -/
  | cutShort
  /-- A key is looked for in a value that is not a table. -/
  | notTable
  /-- A table is to be added to a value that is not a list. -/
  | notList
  /-- A number is too large to be turned into what it stands for. -/
  | tooLarge
  /-- A text over several lines has no name. -/
  | nameless
  /-- A table is opened twice, and what is said of that would hold an integer with too many digits. -/
  | tooManyDigits
  deriving DecidableEq, Repr

/-- The result of reading. -/
abbrev Reading := Except ReadError

end ImportChart.Document
