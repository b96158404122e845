import ImportChart.Document.Reader
import ImportChart.Document.Writer
import ImportChart.Export.Svg
import ImportChart.Flow

/-!
# Settings

The settings of the program, each in a group of the settings document, with the value it has when it is not set.

- `Setting`, `Setting.ofKey?` and `Setting.default`;
- `Setting.parse`: the value that a text stands for, by the kind of the setting;
- `SettingsError`: every way in which settings are not changed or not used.
-/

namespace ImportChart

open Document (Value)

/-- A setting of the program. -/
inductive Setting where
  /-- More parts of paths that a scan leaves out. -/
  | extraIgnores
  /-- The endings of the files that a scan reads. -/
  | extensions
  /-- Whether a scan reads files without an ending. -/
  | includeExtensionless
  /-- The greatest size of a diagram text. -/
  | maxTextSize
  /-- How long the renderer may run, in seconds. -/
  | timeout
  deriving DecidableEq, Repr

namespace Setting

/-- All settings, in the order in which they are listed. -/
def all : List Setting := [.extraIgnores, .extensions, .includeExtensionless, .maxTextSize, .timeout]

/-- The group of settings for scans. -/
def scanGroup : Text := "scan"

/-- The group of settings for the export. -/
def exportGroup : Text := "export"

/-- The groups of settings, in the order in which they are listed. -/
def groups : List Text := [scanGroup, exportGroup]

/-- The group that a setting belongs to. -/
def group : Setting → Text
  | .extraIgnores | .extensions | .includeExtensionless => scanGroup
  | .maxTextSize | .timeout => exportGroup

/-- The name of a setting in its group. -/
def name : Setting → Text
  | .extraIgnores => "extra_ignores"
  | .extensions => "extensions"
  | .includeExtensionless => "include_extensionless"
  | .maxTextSize => "max_text_size"
  | .timeout => "timeout"

/-- The value of a setting that is not set. -/
def default : Setting → Value
  | .extraIgnores => .list []
  | .extensions => .list (Scan.textExtensions.map .text)
  | .includeExtensionless => .boolean true
  | .maxTextSize => .integer defaultMaxTextSize
  | .timeout => .integer Export.defaultTimeout

/-- The key of a setting: its group and its name with a point between them. -/
def key (s : Setting) : Text := s.group ++ '.' :: s.name

/-- The setting with a key. -/
def ofKey? (key : Text) : Option Setting := all.find? fun s => s.key = key

/-- The settings of a group with the values they have when they are not set. -/
def defaults (group : Text) : Document.Entries :=
  (all.filter fun s => s.group = group).map fun s => (s.name, s.default)

/-- A setting is found by its key. -/
theorem ofKey?_key (s : Setting) : ofKey? s.key = some s := by cases s <;> decide

end Setting

/-- Why settings are not changed or not used. -/
inductive SettingsError where
  /-- There is no setting with the key. -/
  | unknownKey (key : Text)
  | notBoolean (raw : Text)
  | notInteger (raw : Text) (e : Text.NumeralError)
  | notPositive (raw : Text)
  /-- The document is not in UTF-8. -/
  | undecodable (f : Utf8.DecodeFault)
  /-- The document contradicts itself. -/
  | document (e : Document.ReadError)
  /-- The group of a setting is not a table. -/
  | groupNotTable
  /-- A setting that has to be a list has a value without items. -/
  | notIterable
  /-- The ending of a file name is not a text. -/
  | extensionNotText
  /-- An integer setting is infinite. -/
  | infinite
  /-- The folder of the document cannot be made. -/
  | folder (f : Fault)
  /-- The document cannot be removed. -/
  | removal (f : Fault)
  /-- The document cannot be opened for writing. -/
  | unwritable (path : Text)
  | writing (e : Document.WriteError)
  deriving DecidableEq, Repr

/-- What is said of an error; of an unknown key only the key is said. -/
def SettingsError.message : SettingsError → Text
  | .unknownKey key => key
  | .notBoolean raw => ("Expected a boolean, got " : Text) ++ Text.quoted raw
  | .notInteger raw e => e.message raw
  | .notPositive raw => ("Expected a positive integer, got " : Text) ++ Text.quoted raw
  | .folder f | .removal f => f.message
  | .unwritable path => ("Could not write " : Text) ++ path
  | .writing e => e.message
  | .undecodable f => f.message
  | .document .tooManyDigits => Text.tooManyDigits
  | .document _ | .groupNotTable | .notIterable | .extensionNotText | .infinite => []

namespace Setting

/-- The words for a truth value. -/
def parseBoolean (raw : Text) : Except SettingsError Value :=
  let word := Text.lower (Text.trim raw)
  if (["true", "1", "yes"] : List Text).contains word then .ok (.boolean true)
  else if (["false", "0", "no"] : List Text).contains word then .ok (.boolean false)
  else .error (.notBoolean raw)

/-- A positive integer. -/
def parseInteger (raw : Text) : Except SettingsError Value :=
  match Text.readInt raw with
  | .error e => .error (.notInteger raw e)
  | .ok n => if n ≤ 0 then .error (.notPositive raw) else .ok (.integer n)

/-- The items between commas, without the blanks around them; items of blanks only do not count. -/
def parseItems (raw : Text) : List Text := ((Text.splitOn ',' raw).map Text.trim).filter fun t => !t.isEmpty

/-- The value that a text stands for. -/
def parse (s : Setting) (raw : Text) : Except SettingsError Value :=
  match s with
  | .includeExtensionless => parseBoolean raw
  | .maxTextSize | .timeout => parseInteger raw
  | .extraIgnores | .extensions => .ok (.list ((parseItems raw).map .text))

end Setting

end ImportChart
