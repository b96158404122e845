import ImportChart.Proofs.Settings.Failure
import ImportChart.Proofs.Settings.Loading

/-!
# A setting that is set is in effect

This holds whatever else the document has, as long as what is written can be read again.

- `SameData`: two values say the same, whatever the order of the keys in their tables;
- `ComesBack`: what is written for a document says the same when it is read;
- `Home.IsWritable`: the file of the settings can be written, and read again; `IsWritable.save`;
- `set_inEffect_iff`: the setting is set, and in effect, exactly if its group is a table or is missing. Of any other
  group nothing is changed, although what is read takes it for missing (`not_set_number`).
-/

namespace ImportChart.Settings

open Document (Value Entries)

variable {d d' made : Disk} {home : Home} {loaded : Loaded} {s : Setting} {raw t : Text} {v w value : Value}
  {entries new : Entries}

/-! ## Values that say the same -/

/-- Two values say the same: they are equal, up to the order of the keys of the tables in them. -/
inductive SameData : Value → Value → Prop
  | scalar {v : Value} (h : v.isScalar = true) : SameData v v
  | list {items items' : List Value} (hlength : items.length = items'.length)
    (h : ∀ (i : Nat) v w, items[i]? = some v → items'[i]? = some w → SameData v w) :
    SameData (.list items) (.list items')
  | table {entries entries' : Entries} (hkeys : ∀ key, entries.lookup key = none ↔ entries'.lookup key = none)
    (h : ∀ key v w, entries.lookup key = some v → entries'.lookup key = some w → SameData v w) :
    SameData (.table entries) (.table entries')

namespace SameData

/-- A value says the same as itself. -/
theorem refl : (v : Value) → SameData v v
  | .text _ | .integer _ | .float _ | .boolean _ | .moment _ _ _ | .date _ | .time _ => .scalar rfl
  | .list items => by
    refine .list rfl fun i v w hv hw => ?_
    obtain rfl := Option.some.inj (hv.symm.trans hw)
    have hmem : v ∈ items := List.mem_of_getElem? hv
    have hsize := List.sizeOf_lt_of_mem hmem
    exact refl v
  | .table entries => by
    refine .table (fun key => Iff.rfl) fun key v w hv hw => ?_
    obtain rfl := Option.some.inj (hv.symm.trans hw)
    have hmem : (key, v) ∈ entries := mem_of_lookup_eq_some hv
    have hsize := List.sizeOf_lt_of_mem hmem
    exact refl v
termination_by v => sizeOf v
decreasing_by
  · simp only [Value.list.sizeOf_spec]
    omega
  · simp only [Value.table.sizeOf_spec, Prod.mk.sizeOf_spec] at hsize ⊢
    omega

theorem eq_of_isScalar (h : SameData v w) (hv : v.isScalar = true) : w = v := by
  cases h with
  | scalar _ => rfl
  | list _ _ => cases hv
  | table _ _ => cases hv

/-- What is found under a key in the one table is found in the other one. -/
theorem exists_lookup {entries entries' : Entries} (h : SameData (.table entries) (.table entries')) {key : Text}
    (hv : entries.lookup key = some v) : ∃ w, entries'.lookup key = some w ∧ SameData v w := by
  cases h with
  | scalar h => cases h
  | table hkeys h =>
    cases hw : entries'.lookup key with
    | none =>
      rw [(hkeys key).mpr hw] at hv
      cases hv
    | some w => exact ⟨w, rfl, h key v w hv hw⟩

/-- Only a table says the same as a table. -/
theorem exists_table (h : SameData (.table entries) w) :
    ∃ entries', w = .table entries' ∧ SameData (.table entries) (.table entries') := by
  cases h with
  | scalar h => cases h
  | table hkeys h => exact ⟨_, rfl, .table hkeys h⟩

/-- A list of values without tables says the same as itself only. -/
theorem eq_of_list {items : List Value} (h : SameData (.list items) w) (hitems : ∀ v ∈ items, v.isScalar = true) :
    w = .list items := by
  cases h with
  | scalar h => cases h
  | @list _ items' hlength h =>
    refine congrArg Value.list (List.ext_getElem? fun i => ?_).symm
    by_cases hi : i < items.length
    · have hi' : i < items'.length := hlength ▸ hi
      have hsame := h i items[i] items'[i] (List.getElem?_eq_getElem hi) (List.getElem?_eq_getElem hi')
      rw [List.getElem?_eq_getElem hi, List.getElem?_eq_getElem hi',
        hsame.eq_of_isScalar (hitems _ (List.getElem_mem hi))]
    · rw [List.getElem?_eq_none (Nat.not_lt.mp hi), List.getElem?_eq_none (hlength ▸ Nat.not_lt.mp hi)]

/-- The value of a setting says the same as itself only. -/
theorem eq_of_parse (hparse : s.parse raw = .ok value) (h : SameData value w) : w = value := by
  have hitems (items : List Text) (hvalue : value = .list (items.map .text)) : w = value := by
    rw [hvalue] at h ⊢
    refine h.eq_of_list fun v hv => ?_
    obtain ⟨t, -, rfl⟩ := List.mem_map.mp hv
    rfl
  cases s with
  | extraIgnores | extensions => exact hitems _ (Except.ok.inj hparse).symm
  | includeExtensionless =>
    simp only [Setting.parse, Setting.parseBoolean] at hparse
    split_ifs at hparse
    · exact h.eq_of_isScalar (Except.ok.inj hparse ▸ rfl)
    · exact h.eq_of_isScalar (Except.ok.inj hparse ▸ rfl)
  | maxTextSize | timeout =>
    obtain ⟨n, -, -, rfl⟩ := parseInteger_eq_ok hparse
    exact h.eq_of_isScalar rfl

end SameData

/-! ## Writing and reading again -/

/-- What is written for a document says the same when it is read. -/
def ComesBack (entries : Entries) : Prop :=
  ∃ t back, Document.write entries = .ok t ∧ Document.read (Utf8.unifyLineEnds t) = .ok back ∧
    SameData (.table entries) (.table back)

/-- A simple document comes back. -/
theorem comesBack_simple {sections : List (Text × Entries)} (h : Document.IsSimpleDocument sections) :
    ComesBack (Document.documentOf sections) := by
  have hreturn := Document.notMem_unlines h (x := '\r') rfl (by decide)
  refine ⟨_, _, Document.write_simple h, ?_, .refl _⟩
  rw [Utf8.unifyLineEnds_of_notMem hreturn]
  exact Document.read_simple h

/-- Once its folder is made, the file can be written, whatever its content is to be, and it can be read then. -/
def Home.IsWritable (home : Home) (d : Disk) : Prop :=
  ∃ made, d.ensureFolder home.folder = (.ok (), made) ∧ made.root.IsFolderAt [] ∧
    ∃ names access, made.openToWrite home.file = .ok (names, access) ∧ access.read = true ∧ access.room = none

theorem Home.IsReady.isWritable {content : Option Bytes} (hhome : home.IsRooted) (h : home.IsReady d content) :
    home.IsWritable d := by
  obtain ⟨_, _, _, _, _, _, hopen⟩ := h.openToWrite_file
  exact ⟨d, h.ensureFolder hhome, h.root, _, true, hopen, rfl, rfl⟩

namespace Home.IsWritable

/-- **What is saved is there afterwards.** -/
theorem save (h : home.IsWritable d) (hwrite : Document.write entries = .ok t) :
    ∃ d', save d home entries = (.ok (), d') ∧ home.Holds d' (some (Utf8.encode t)) := by
  obtain ⟨made, hmade, hroot, names, access, hopen, hreadable, hroom⟩ := h
  obtain ⟨empty, hempty, -, hroot', hreopen⟩ := Disk.exists_emptied hroot hopen
  obtain ⟨d', hfill, hwrote⟩ :=
    Disk.exists_wrote_of_holds hroot' hreopen (Access.holds_of_room hroom (Utf8.encode t))
  refine ⟨d', ?_, Disk.read_eq_ok_iff.mpr ⟨access, hwrote.entry?, hreadable⟩⟩
  rw [Settings.save, hmade]
  simp only [hempty, hwrite, hfill]

end Home.IsWritable

/-! ## Setting a value -/

theorem configured_of_same {back : Entries} (hparse : s.parse raw = .ok value)
    (hsame : SameData (.table new) (.table back)) (hnew : configured s new = some value) :
    configured s back = some value := by
  obtain ⟨g, hg, hvalue⟩ := Option.bind_eq_some_iff.mp hnew
  cases g with
  | table values =>
    obtain ⟨g', hg', hsame⟩ := hsame.exists_lookup hg
    obtain ⟨values', rfl, hsame⟩ := hsame.exists_table
    obtain ⟨w, hw, hsame⟩ := hsame.exists_lookup hvalue
    obtain rfl := hsame.eq_of_parse hparse
    rw [configured, hg']
    exact hw
  | _ => cases hvalue

/-- The value that is set is what the document says then. -/
theorem configured_setIn (h : setIn s.group s.name value entries = .ok new) : configured s new = some value := by
  unfold setIn at h
  split at h
  · rw [← Except.ok.inj h, configured, lookup_setKey_self, Option.bind_some]
    exact lookup_setKey_self _ _ _
  · cases h

/-- A value is set unless there is something else than a table in the place of its group. -/
theorem exists_setIn_iff : (∃ new, setIn s.group s.name value entries = .ok new) ↔
    ∀ v, entries.lookup s.group = some v → v.isTable = true := by
  unfold setIn
  cases hlookup : entries.lookup s.group with
  | none => simp
  | some v => cases v <;> simp [Value.isTable]

/-- A setting is set if the new document comes back. -/
theorem set_of_setIn (hload : load d home = .ok loaded) (hparse : s.parse raw = .ok value)
    (hwritable : home.IsWritable d) (hset : setIn s.group s.name value loaded.entries = .ok new)
    (hback : ComesBack new) : ∃ d' back, set d home s.key raw = (.ok value, d') ∧
      load d' home = .ok ⟨back, false⟩ ∧ configured s back = some value := by
  obtain ⟨t, back, hwrite, hread, hsame⟩ := hback
  obtain ⟨d', hsave, hholds⟩ := hwritable.save hwrite
  refine ⟨d', back, ?_, ?_, configured_of_same hparse hsame (configured_setIn hset)⟩
  · rw [set, Setting.ofKey?_key]
    simp only [hparse, hload, hset, hsave]
  · rw [load_of_content hholds, ofContent_encode, hread]

/-- **A setting that is set is in effect**, with the value that its text stands for, exactly if the document has a table
or nothing in the place of its group. Otherwise it is not set and the disk stays as it is, although the group counts as
missing and has the values that hold when nothing is set. -/
theorem set_inEffect_iff (hload : load d home = .ok loaded) (hparse : s.parse raw = .ok value)
    (hwritable : home.IsWritable d)
    (hback : ∀ new, setIn s.group s.name value loaded.entries = .ok new → ComesBack new) :
    ((∃ d' settings, set d home s.key raw = (.ok value, d') ∧ group d' home s.group = .ok settings ∧
        settings.lookup s.name = some value) ↔
      ∀ v, loaded.entries.lookup s.group = some v → v.isTable = true) ∧
    ((∃ v, loaded.entries.lookup s.group = some v ∧ v.isTable = false) →
      set d home s.key raw = (.error .groupNotTable, d) ∧
        group d home s.group = .ok (Setting.defaults s.group)) := by
  have hgroup : group d home s.group = .ok (groupOf s.group loaded.entries) := by
    rw [group, hload]
    rfl
  have hnot {v : Value} (hv : loaded.entries.lookup s.group = some v) (htable : v.isTable = false) :
      set d home s.key raw = (.error .groupNotTable, d) ∧ group d home s.group = .ok (Setting.defaults s.group) := by
    rw [hgroup, set, Setting.ofKey?_key]
    simp only [hparse, hload, setIn, groupOf, hv, Option.getD_some]
    cases v with
    | table values => cases htable
    | _ => exact ⟨rfl, rfl⟩
  refine ⟨⟨?_, fun htable => ?_⟩, ?_⟩
  · rintro ⟨d', settings, hset, -⟩ v hv
    by_contra htable
    rw [(hnot hv (Bool.eq_false_iff.mpr htable)).1] at hset
    cases hset
  · obtain ⟨new, hnew⟩ := exists_setIn_iff.mpr htable
    obtain ⟨d', back, hset, hload', hvalue⟩ := set_of_setIn hload hparse hwritable hnew (hback new hnew)
    refine ⟨d', groupOf s.group back, hset, ?_, ?_⟩
    · rw [group, hload']
      rfl
    · rw [lookup_groupOf_eq (keysDistinct_of_load hload') s, hvalue]
      rfl
  · rintro ⟨v, hv, htable⟩
    exact hnot hv htable

/-- A setting of another group is set beside the one of `timeoutDisk`. -/
theorem set_inEffect_timeout :
    load timeoutDisk homeOfDisk =
      .ok ⟨Document.documentOf [(Setting.exportGroup, [(Setting.timeout.name, .integer 30)])], false⟩ ∧
    Setting.includeExtensionless.parse "no" = .ok (.boolean false) ∧ homeOfDisk.IsWritable timeoutDisk ∧
    (∀ new, setIn Setting.includeExtensionless.group Setting.includeExtensionless.name (.boolean false)
        (Document.documentOf [(Setting.exportGroup, [(Setting.timeout.name, .integer 30)])]) = .ok new →
      ComesBack new) ∧
    ∃ d' settings, set timeoutDisk homeOfDisk Setting.includeExtensionless.key "no" = (.ok (.boolean false), d') ∧
      group d' homeOfDisk Setting.includeExtensionless.group = .ok settings ∧
      settings.lookup Setting.includeExtensionless.name = some (.boolean false) := by
  have hparse : Setting.includeExtensionless.parse "no" = .ok (.boolean false) := by rfl
  have hload := keeps_timeoutDisk.load
  have hwritable := isReady_timeoutDisk.isWritable isRooted_homeOfDisk
  have hback : ∀ new, setIn Setting.includeExtensionless.group Setting.includeExtensionless.name (.boolean false)
      (Document.documentOf [(Setting.exportGroup, [(Setting.timeout.name, .integer 30)])]) = .ok new →
      ComesBack new := by
    intro new hnew
    rw [setIn_documentOf] at hnew
    rw [← Except.ok.inj hnew]
    exact comesBack_simple (isSimpleDocument_withValue keeps_timeoutDisk.simple _ (.boolean false))
  obtain ⟨hset, -⟩ := set_inEffect_iff hload hparse hwritable hback
  refine ⟨hload, hparse, hwritable, hback, hset.mpr ?_⟩
  intro v hv
  cases hv

/-- A document with a number in the place of a group. -/
def numberLines : List Text := ["export = 5"]

/-- The disk with this document. -/
def numberDisk : Disk := homeDisk (some (Utf8.encode (Document.unlines numberLines)))

theorem read_numberLines : Document.read (Document.unlines numberLines) = .ok [(Setting.exportGroup, .integer 5)] := by
  have hsimple : Document.IsSimple (.integer 5) := .integer (by decide) (by decide)
  have hread := Document.read_entry (isWord_group .timeout) (Document.standsFor_simpleText hsimple)
    (List.all_eq_true.mp (by decide))
  have hlines : numberLines = [Document.valueLine Setting.timeout.group (Document.simpleText (.integer 5))] := by decide
  rwa [← hlines] at hread

theorem load_numberDisk : load numberDisk homeOfDisk = .ok ⟨[(Setting.exportGroup, .integer 5)], false⟩ :=
  load_of_read (isReady_homeDisk _).holds (by decide) read_numberLines

/-- **In a document with a number in the place of a group no setting of the group is set**, although the group counts
as missing when it is read. -/
theorem not_set_number :
    load numberDisk homeOfDisk = .ok ⟨[(Setting.exportGroup, .integer 5)], false⟩ ∧
    ComesBack [(Setting.exportGroup, .integer 5)] ∧ homeOfDisk.IsWritable numberDisk ∧
    group numberDisk homeOfDisk Setting.exportGroup = .ok (Setting.defaults Setting.exportGroup) ∧
    Setting.timeout.parse "30" = .ok (.integer 30) ∧
    ∀ value d', set numberDisk homeOfDisk Setting.timeout.key "30" ≠ (.ok value, d') := by
  have hparse : Setting.timeout.parse "30" = .ok (.integer 30) := by rfl
  have hback : ComesBack [(Setting.exportGroup, .integer 5)] := by
    have hwrite : Document.write [(Setting.exportGroup, .integer 5)] = .ok (Document.unlines numberLines) := by rfl
    refine ⟨_, _, hwrite, ?_, .refl _⟩
    rw [Utf8.unifyLineEnds_of_notMem (by decide)]
    exact read_numberLines
  refine ⟨load_numberDisk, hback, (isReady_homeDisk _).isWritable isRooted_homeOfDisk, ?_, hparse, ?_⟩
  · rw [group, load_numberDisk]
    rfl
  · intro value d' hset
    rw [set, Setting.ofKey?_key] at hset
    simp only [hparse, load_numberDisk] at hset
    cases hset

end ImportChart.Settings
