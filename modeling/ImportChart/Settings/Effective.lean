import ImportChart.Settings.Store

/-!
# The settings in effect

- `group`: the settings of a group, with the values of the document over the ones that hold when nothing is set;
- `scanRules`: what a scan leaves out and reads by the settings;
- `exportSettings`: the integers for the export.

A setting may have a value of any kind. A value that is to be a list of texts may also be a text, which stands for its
characters, or a table, which stands for its keys.
-/

namespace ImportChart.Settings

open Document (Value Entries)

/-- The entries of a group of a document over the default ones. A group that is not a table does not count. -/
def groupOf (name : Text) (entries : Entries) : Entries :=
  match entries.lookup name with
  | some (.table values) => values.foldl (fun m (k, v) => setKey k v m) (Setting.defaults name)
  | _ => Setting.defaults name

/-- The settings of a group. -/
def group (d : Disk) (h : Home) (name : Text) : Except SettingsError Entries :=
  (load d h).map fun loaded => groupOf name loaded.entries

/-- The items that a value stands for where a list is asked for; what counts as false stands for none. -/
def itemsOf (v : Value) : Except SettingsError (List Value) :=
  match v with
  | .list items => .ok items
  | .text t => .ok (t.map fun c => .text [c])
  | .table entries => .ok (entries.map fun e => .text e.1)
  | v => if v.isTruthy then .error .notIterable else .ok []

/-! ## Scans -/

/-- What a scan leaves out and reads by the settings. -/
structure ScanRules where
  /-- The patterns beside the built-in ones. -/
  extraPatterns : List Value
  extensions : List Text
  includeExtensionless : Bool

/-- The ending of a file name that a text stands for: in small letters and with a point in front. -/
def extensionOf : Value → Except SettingsError Text
  | .text t => .ok (if t.head? == some '.' then Text.lower t else '.' :: Text.lower t)
  | _ => .error .extensionNotText

/-- Whether a pattern says something that the built-in ones do not say. -/
def isNewPattern : Value → Bool
  | .text t => !t.isEmpty && !Scan.builtinPatterns.contains t
  | v => v.isTruthy

/-- The rules of the settings of a group, with more patterns. -/
def scanRulesOf (settings : Entries) (extra : List Text) : Except SettingsError ScanRules := do
  let valueOf (s : Setting) : Value := (settings.lookup s.name).getD s.default
  let extensions ← (← itemsOf (valueOf .extensions)).mapM extensionOf
  let patterns ← itemsOf (valueOf .extraIgnores)
  return {
    extraPatterns := (patterns ++ extra.map Value.text).filter isNewPattern
    extensions := if extensions.isEmpty then Scan.textExtensions else extensions
    includeExtensionless := (valueOf .includeExtensionless).isTruthy }

/-- The rules for scans, with more patterns. -/
def scanRules (d : Disk) (h : Home) (extra : List Text) : Except SettingsError ScanRules := do
  scanRulesOf (← group d h Setting.scanGroup) extra

namespace ScanRules

/-- The patterns up to the first one that is not a text. -/
def textsBefore : List Value → List Text
  | .text t :: rest => t :: textsBefore rest
  | _ => []

/-- The policy of the rules, up to the first pattern that is not a text. -/
def policy (r : ScanRules) : Scan.Policy where
  ignorePatterns := Scan.builtinPatterns ++ textsBefore r.extraPatterns
  extensions := r.extensions
  includeExtensionless := r.includeExtensionless

/-- Whether all patterns are texts. -/
def isUsable (r : ScanRules) : Bool := (textsBefore r.extraPatterns).length = r.extraPatterns.length

/-- Whether a scan of a folder comes to a pattern that is not a text: one of the entries is left out by nothing that
stands before that pattern. -/
def fails (r : ScanRules) (d : Disk) (root : Text) : Bool :=
  !r.isUsable &&
    match d.probe root with
    | .ok (some (.folder entries access)) =>
      access.read &&
        entries.any fun (name, e) => !r.policy.ignores name (Scan.isSubfolder d (Scan.entryPath root name) e)
    | _ => false

end ScanRules

/-! ## Export -/

/-- The settings for the export, with the two integers among them, and the names of those that were replaced by the
value that holds when nothing is set. -/
structure ExportSettings where
  entries : Entries
  maxTextSize : Int
  timeout : Int
  replaced : List Text

/-- The integer that a value stands for; a fraction is cut off. -/
def integerOf (v : Value) : Except SettingsError (Option Int) :=
  match v with
  | .integer n => .ok (some n)
  | .boolean b => .ok (some (if b then 1 else 0))
  | .text t => .ok (Text.readInt t).toOption
  | .float x =>
    match x.toInt? with
    | .ok n => .ok (some n)
    | .error .nan => .ok none
    | .error .infinite => .error .infinite
  | _ => .ok none

/-- The integer of a setting, and whether it was replaced. -/
def integerSetting (settings : Entries) (s : Setting) (default : Int) : Except SettingsError (Int × Bool) := do
  match ← integerOf ((settings.lookup s.name).getD s.default) with
  | some n => return (n, false)
  | none => return (default, true)

/-- The settings for the export from the entries of their group. -/
def exportSettingsOf (settings : Entries) : Except SettingsError ExportSettings := do
  let (size, sizeReplaced) ← integerSetting settings .maxTextSize defaultMaxTextSize
  let (timeout, timeoutReplaced) ← integerSetting settings .timeout Export.defaultTimeout
  return {
    entries := setKey Setting.timeout.name (.integer timeout) (setKey Setting.maxTextSize.name (.integer size) settings)
    maxTextSize := size
    timeout
    replaced := (if sizeReplaced then [Setting.maxTextSize.name] else []) ++
      (if timeoutReplaced then [Setting.timeout.name] else []) }

/-- The settings for the export. -/
def exportSettings (d : Disk) (h : Home) : Except SettingsError ExportSettings := do
  exportSettingsOf (← group d h Setting.exportGroup)

end ImportChart.Settings
