import ImportChart.Settings.Basic

/-!
# The settings document on disk

The settings are kept in one file. A file that is missing stands for no settings, and so does one that cannot be read
or is malformed; `Loaded.unreadable` tells the two apart. Changing a setting reads the file, sets the value and writes
the whole document again.

- `load`, `save`, `set` and `reset`.
-/

namespace ImportChart.Settings

open Document (Value Entries)

/-- Where the settings are kept. -/
structure Home where
  folder : Text
  deriving DecidableEq, Repr

/-- The file with the settings. -/
def Home.file (h : Home) : Text := Path.under h.folder "config.toml"

/-- The settings as they are on disk. -/
structure Loaded where
  entries : Entries
  /-- Whether there is a file that says nothing because it cannot be read. -/
  unreadable : Bool

/-- The settings in the content of a file. -/
def ofContent (content : Bytes) : Except SettingsError Loaded :=
  match Utf8.readText content with
  | none => .error (.undecodable (Utf8.firstFault 0 content))
  | some t =>
    match Document.read t with
    | .ok entries => .ok ⟨entries, false⟩
    | .error .malformed => .ok ⟨[], true⟩
    | .error e => .error (.document e)

/-- Load the settings. -/
def load (d : Disk) (h : Home) : Except SettingsError Loaded :=
  match d.probe h.file with
  | .ok none => .ok ⟨[], false⟩
  | .error f => .error (.folder f)
  | .ok (some _) =>
    match d.read h.file with
    | .error _ => .ok ⟨[], true⟩
    | .ok content => ofContent content

/-- Write the settings. The file is opened before the text of the document is made, so that it is left empty if there is
no such text, and with a part of it if there is no room for all of it. -/
def save (d : Disk) (h : Home) (entries : Entries) : Except SettingsError Unit × Disk :=
  match d.ensureFolder h.folder with
  | (.error f, d) => (.error (.folder f), d)
  | (.ok (), d) =>
    match d.write h.file [] with
    | (.error _, d) => (.error (.unwritable h.file), d)
    | (.ok (), opened) =>
      match Document.write entries with
      | .error e => (.error (.writing e), opened)
      | .ok t =>
        match opened.write h.file (Utf8.encode t) with
        | (.error _, d) => (.error (.unwritable h.file), d)
        | (.ok (), d) => (.ok (), d)

/-- Set the value of a name in a group. -/
def setIn (group name : Text) (value : Value) (entries : Entries) : Except SettingsError Entries :=
  match (entries.lookup group).getD (.table []) with
  | .table values => .ok (setKey group (.table (setKey name value values)) entries)
  | _ => .error .groupNotTable

/-- Change the setting with a key to the value that a text stands for. -/
def set (d : Disk) (h : Home) (key raw : Text) : Except SettingsError Value × Disk :=
  match Setting.ofKey? key with
  | none => (.error (.unknownKey key), d)
  | some s =>
    match s.parse raw with
    | .error e => (.error e, d)
    | .ok value =>
      match load d h with
      | .error e => (.error e, d)
      | .ok loaded =>
        match setIn s.group s.name value loaded.entries with
        | .error e => (.error e, d)
        | .ok entries =>
          match save d h entries with
          | (.error e, d) => (.error e, d)
          | (.ok (), d) => (.ok value, d)

/-- Remove the file with the settings. The answer is whether there was one. -/
def reset (d : Disk) (h : Home) : Except SettingsError Bool × Disk :=
  match d.probe h.file with
  | .ok none => (.ok false, d)
  | .error f => (.error (.removal f), d)
  | .ok (some _) =>
    match d.remove h.file with
    | .error f => (.error (.removal f), d)
    | .ok d => (.ok true, d)

end ImportChart.Settings
