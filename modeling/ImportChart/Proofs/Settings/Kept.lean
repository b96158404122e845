import ImportChart.Proofs.Document.RoundTrip
import ImportChart.Proofs.Settings.Home
import ImportChart.Proofs.Text.Utf8
import ImportChart.Settings.Effective

/-!
# The document of the settings on disk

- `IsItemText`, `isSimple_of_parse`: the values of settings are simple;
- `valueIn`, `valueIn_setIn`: the value of a setting in a document, and what setting one changes;
- `Home.Keeps`: the disk keeps a document of settings; `Keeps.load`, `Keeps.save` and `Keeps.reset`;
- `lookup_groupOf`: the value of a setting that is in effect.
-/

namespace ImportChart

/-- Whether an error is one of a key that is not known or of a value that is not accepted. -/
def SettingsError.isRejection : SettingsError → Bool
  | .unknownKey _ | .notBoolean _ | .notInteger _ _ | .notPositive _ => true
  | _ => false

namespace Settings

open Document (Value Entries IsSimple IsSimpleTable IsSimpleDocument IsWord documentOf documentLines isItemChar
  isSimpleDocument_nil isSimpleTable_nil unlines)

variable {d : Disk} {home : Home} {setting other : Setting} {raw : Text} {value : Value}
  {sections : List (Text × Entries)}

/-! ## Values -/

/-- An integer setting is a positive number that a text stands for. -/
theorem parseInteger_eq_ok (h : Setting.parseInteger raw = .ok value) :
    ∃ n, Text.readInt raw = .ok n ∧ 0 < n ∧ value = .integer n := by
  unfold Setting.parseInteger at h
  split at h
  · cases h
  · next n hread =>
    split_ifs at h with hpositive
    exact ⟨n, hread, Int.not_le.mp hpositive, (Except.ok.inj h).symm⟩

/-- A text that stands for no value is not accepted, and that is all that can be wrong with it. -/
theorem isRejection_of_parse {e : SettingsError} (h : setting.parse raw = .error e) : e.isRejection = true := by
  have hinteger (h : Setting.parseInteger raw = .error e) : e.isRejection = true := by
    unfold Setting.parseInteger at h
    split at h
    · rw [← Except.error.inj h]
      rfl
    · split_ifs at h
      rw [← Except.error.inj h]
      rfl
  cases setting with
  | extraIgnores | extensions => cases h
  | includeExtensionless =>
    simp only [Setting.parse, Setting.parseBoolean] at h
    split_ifs at h
    rw [← Except.error.inj h]
    rfl
  | maxTextSize | timeout => exact hinteger h

/-- The items of a list as a text has them: between commas, with blanks around them. -/
def IsItemText (raw : Text) : Prop := ∀ piece ∈ Text.splitOn ',' raw, ∀ c ∈ Text.trim piece, isItemChar c = true

instance (raw : Text) : Decidable (IsItemText raw) :=
  decidable_of_iff (((Text.splitOn ',' raw).all fun piece => (Text.trim piece).all isItemChar) = true)
    (by simp only [IsItemText, List.all_eq_true])

/-- Whether a setting is a list of texts. -/
def isList : Setting → Bool
  | .extraIgnores | .extensions => true
  | .includeExtensionless | .maxTextSize | .timeout => false

theorem isSimple_parseItems (h : IsItemText raw) : IsSimple (.list ((Setting.parseItems raw).map .text)) := by
  refine .list fun t ht => ?_
  obtain ⟨ht, hne⟩ := List.mem_filter.mp ht
  obtain ⟨piece, hpiece, rfl⟩ := List.mem_map.mp ht
  exact ⟨by simpa using hne, h piece hpiece⟩

/-- The values of settings are simple. -/
theorem isSimple_of_parse (h : setting.parse raw = .ok value) (hlist : isList setting = true → IsItemText raw) :
    IsSimple value := by
  have hinteger (h : Setting.parseInteger raw = .ok value) : IsSimple value := by
    obtain ⟨n, hread, hpositive, rfl⟩ := parseInteger_eq_ok h
    exact .integer hpositive (Text.isWritable_of_readInt hread)
  cases setting with
  | extraIgnores | extensions =>
    obtain rfl := Except.ok.inj h
    exact isSimple_parseItems (hlist rfl)
  | includeExtensionless =>
    simp only [Setting.parse, Setting.parseBoolean] at h
    split_ifs at h
    · exact Except.ok.inj h ▸ .boolean true
    · exact Except.ok.inj h ▸ .boolean false
  | maxTextSize | timeout => exact hinteger h

/-! ## Documents -/

/-- The value of a setting in the tables of a document. -/
def valueIn (sections : List (Text × Entries)) (s : Setting) : Option Value :=
  (sections.lookup s.group).bind fun entries => entries.lookup s.name

/-- The tables with the value of a setting set. -/
def withValue (s : Setting) (value : Value) (sections : List (Text × Entries)) : List (Text × Entries) :=
  setKey s.group (setKey s.name value ((sections.lookup s.group).getD [])) sections

theorem lookup_documentOf (sections : List (Text × Entries)) (group : Text) :
    (documentOf sections).lookup group = (sections.lookup group).map .table := by
  induction sections with
  | nil => rfl
  | cons s sections ih =>
    have hcons : documentOf (s :: sections) = (s.1, .table s.2) :: documentOf sections := rfl
    rw [hcons, List.lookup_cons, List.lookup_cons, ih]
    split
    · rfl
    · rfl

theorem setKey_documentOf (group : Text) (entries : Entries) (sections : List (Text × Entries)) :
    setKey group (.table entries) (documentOf sections) = documentOf (setKey group entries sections) := by
  induction sections with
  | nil => rfl
  | cons s sections ih =>
    have hcons : documentOf (s :: sections) = (s.1, .table s.2) :: documentOf sections := rfl
    rw [hcons, setKey, ih, setKey]
    split
    · rfl
    · rfl

theorem setIn_documentOf (s : Setting) (value : Value) (sections : List (Text × Entries)) :
    setIn s.group s.name value (documentOf sections) = .ok (documentOf (withValue s value sections)) := by
  rw [withValue, ← setKey_documentOf, setIn, lookup_documentOf]
  cases sections.lookup s.group <;> rfl

/-- A setting is known by its key. -/
theorem key_injective : Function.Injective Setting.key := by
  intro setting other hkey
  have hfound := Setting.ofKey?_key setting
  rw [hkey, Setting.ofKey?_key] at hfound
  exact (Option.some.inj hfound).symm

/-- A setting is known by its group and its name. -/
theorem setting_eq (hgroup : other.group = setting.group) (hname : other.name = setting.name) : other = setting :=
  key_injective (by rw [Setting.key, hgroup, hname, Setting.key])

/-- **Setting one value leaves the others.** -/
theorem valueIn_withValue (s other : Setting) (value : Value) (sections : List (Text × Entries)) :
    valueIn (withValue s value sections) other = if other = s then some value else valueIn sections other := by
  unfold valueIn withValue
  by_cases hgroup : other.group = s.group
  · rw [hgroup, lookup_setKey_self, Option.bind_some]
    by_cases hname : other.name = s.name
    · rw [hname, lookup_setKey_self, if_pos (setting_eq hgroup hname)]
    · rw [lookup_setKey_of_ne hname, if_neg fun heq => hname (congrArg Setting.name heq)]
      cases sections.lookup s.group <;> rfl
  · rw [lookup_setKey_of_ne hgroup, if_neg fun heq => hgroup (congrArg Setting.group heq)]

theorem isWord_group (s : Setting) : IsWord s.group := by cases s <;> decide

theorem isWord_name (s : Setting) : IsWord s.name := by cases s <;> decide

theorem isSimpleTable_setKey {entries : Entries} (h : IsSimpleTable entries) (s : Setting) (hvalue : IsSimple value) :
    IsSimpleTable (setKey s.name value entries) where
  nodup := nodup_keys_setKey h.nodup _ _
  words e he := by
    rcases mem_of_mem_setKey he with rfl | he
    · exact isWord_name s
    · exact h.words e he
  simple e he := by
    rcases mem_of_mem_setKey he with rfl | he
    · exact hvalue
    · exact h.simple e he

/-- A simple document stays simple when a setting gets a simple value. -/
theorem isSimpleDocument_withValue (h : IsSimpleDocument sections) (s : Setting) (hvalue : IsSimple value) :
    IsSimpleDocument (withValue s value sections) where
  nodup := nodup_keys_setKey h.nodup _ _
  words t ht := by
    rcases mem_of_mem_setKey ht with rfl | ht
    · exact isWord_group s
    · exact h.words t ht
  tables t ht := by
    rcases mem_of_mem_setKey ht with rfl | ht
    · refine isSimpleTable_setKey ?_ s hvalue
      cases hlookup : sections.lookup s.group with
      | none => exact isSimpleTable_nil
      | some entries => exact h.tables _ (mem_of_lookup_eq_some hlookup)
    · exact h.tables t ht

/-! ## The document on disk -/

/-- The disk keeps a document of settings; there is no file if there are no settings. -/
structure Home.Keeps (home : Home) (d : Disk) (sections : List (Text × Entries)) : Prop where
  simple : IsSimpleDocument sections
  stored : (sections = [] ∧ home.IsNew d) ∨ home.IsReady d (some (Utf8.encode (unlines (documentLines sections))))

namespace Home.Keeps

/-- **The document that is kept is loaded.** -/
theorem load (h : home.Keeps d sections) : load d home = .ok ⟨documentOf sections, false⟩ := by
  obtain ⟨hsimple, ⟨rfl, hnew⟩ | hready⟩ := h
  · rw [Settings.load, hnew.absent]
    rfl
  · have hreturn := Document.notMem_unlines hsimple (x := '\r') rfl (by decide)
    rw [Settings.load, hready.probe_some]
    simp only [hready.read, ofContent, Utf8.readText_encode hreturn, Document.read_simple hsimple]

/-- The folder can be made. -/
theorem made (hhome : home.IsRooted) (h : home.Keeps d sections) :
    ∃ made content, d.ensureFolder home.folder = (.ok (), made) ∧ home.IsReady made content := by
  rcases h.stored with ⟨-, hempty⟩ | hready
  · obtain ⟨made, hmade, hready⟩ := hempty.made
    exact ⟨made, none, hmade, hready⟩
  · exact ⟨d, _, hready.ensureFolder hhome, hready⟩

/-- **A simple document is saved and kept.** -/
theorem save (hhome : home.IsRooted) (h : home.Keeps d sections) {new : List (Text × Entries)}
    (hnew : IsSimpleDocument new) : ∃ d', save d home (documentOf new) = (.ok (), d') ∧ home.Keeps d' new := by
  obtain ⟨made, content, hmade, hready⟩ := h.made hhome
  obtain ⟨opened, hopened, hempty⟩ := hready.write []
  obtain ⟨d', hwritten, hready'⟩ := hempty.write (Utf8.encode (unlines (documentLines new)))
  refine ⟨d', ?_, hnew, Or.inr hready'⟩
  rw [Settings.save, hmade]
  simp only [hopened, Document.write_simple hnew, hwritten]

/-- **A document that cannot be written leaves an empty file.** -/
theorem save_error (hhome : home.IsRooted) (h : home.Keeps d sections) {entries : Entries} {e : Document.WriteError}
    (herror : Document.write entries = .error e) :
    ∃ d', Settings.save d home entries = (.error (.writing e), d') ∧ home.IsReady d' (some []) := by
  obtain ⟨made, content, hmade, hready⟩ := h.made hhome
  obtain ⟨opened, hopened, hready'⟩ := hready.write []
  refine ⟨opened, ?_, hready'⟩
  rw [Settings.save, hmade]
  simp only [hopened, herror]

/-- **After a reset nothing is kept.** -/
theorem reset (hhome : home.IsRooted) (h : home.Keeps d sections) :
    ∃ removed d', reset d home = (.ok removed, d') ∧ home.Keeps d' [] := by
  rcases h.stored with ⟨rfl, hempty⟩ | hready
  · exact ⟨false, d, by rw [Settings.reset, hempty.absent], isSimpleDocument_nil, Or.inl ⟨rfl, hempty⟩⟩
  · obtain ⟨d', hremove, hready'⟩ := hready.remove hhome
    refine ⟨true, d', ?_, isSimpleDocument_nil, Or.inl ⟨rfl, hready'.isNew hhome⟩⟩
    rw [Settings.reset, hready.probe_some]
    simp only [hremove]

end Home.Keeps

/-! ## The values in effect -/

theorem lookup_defaults (s : Setting) : (Setting.defaults s.group).lookup s.name = some s.default := by
  cases s <;> rfl

/-- **The value in effect is the one in the document, or else the one that holds when nothing is set.** -/
theorem lookup_groupOf (h : IsSimpleDocument sections) (s : Setting) :
    (groupOf s.group (documentOf sections)).lookup s.name = some ((valueIn sections s).getD s.default) := by
  rw [groupOf, lookup_documentOf, valueIn]
  cases hlookup : sections.lookup s.group with
  | none => exact lookup_defaults s
  | some entries =>
    have hnodup := (h.tables _ (mem_of_lookup_eq_some hlookup)).nodup
    rw [Option.map_some, Option.bind_some]
    refine (lookup_foldl_setKey hnodup s.name _).trans ?_
    rw [lookup_defaults]
    cases entries.lookup s.name <;> rfl

end Settings

end ImportChart
