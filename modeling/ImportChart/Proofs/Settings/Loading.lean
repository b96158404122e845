import ImportChart.Proofs.Document.Keys
import ImportChart.Proofs.Settings.Home
import ImportChart.Proofs.Text.Utf8
import ImportChart.Settings.Effective

/-!
# What is loaded from the file of the settings

- `Home.Holds`: there is no file, or one with a content;
- `Loads`: the settings that stand in such a file: none without a file, the entries of its document, and none if the
  document is malformed;
- `load_eq_ok_iff`: the settings are loaded exactly if the content is UTF-8 and its document is read or malformed, and
  then they are these. Any other content is an error, so that not every file falls back to the values that hold when
  nothing is set (`not_load`);
- `configured`: what a document says of a setting; `lookup_groupOf_eq`: the value in effect of any document that is
  loaded.
-/

namespace ImportChart.Settings

open Document (Value Entries)

variable {d : Disk} {home : Home} {state : Option Bytes} {content : Bytes} {loaded : Loaded} {t : Text}

/-- A result comes from the results of the parts. -/
theorem exists_of_bind_eq_ok {ε α β : Type} {x : Except ε α} {f : α → Except ε β} {b : β}
    (h : (x >>= f) = .ok b) : ∃ a, x = .ok a ∧ f a = .ok b := by
  cases x with
  | error e => cases h
  | ok a => exact ⟨a, rfl, h⟩

/-! ## The content of the file -/

/-- There is no file, or one with a content that can be read. -/
def Home.Holds (home : Home) (d : Disk) : Option Bytes → Prop
  | none => d.probe home.file = .ok none
  | some content => d.read home.file = .ok content

theorem Home.IsReady.holds (h : home.IsReady d state) : home.Holds d state := by
  cases state with
  | none => exact h.probe_none
  | some content => exact h.read

/-- The settings that stand in a file, or where there is none. -/
inductive Loads : Option Bytes → Loaded → Prop
  | absent : Loads none ⟨[], false⟩
  | document {t : Text} {entries : Entries} (h : Document.read (Utf8.unifyLineEnds t) = .ok entries) :
    Loads (some (Utf8.encode t)) ⟨entries, false⟩
  | malformed {t : Text} (h : Document.read (Utf8.unifyLineEnds t) = .error .malformed) :
    Loads (some (Utf8.encode t)) ⟨[], true⟩

theorem ofContent_encode (t : Text) :
    ofContent (Utf8.encode t) = match Document.read (Utf8.unifyLineEnds t) with
      | .ok entries => .ok ⟨entries, false⟩
      | .error .malformed => .ok ⟨[], true⟩
      | .error e => .error (.document e) := by
  rw [ofContent, Utf8.readText, Utf8.decode_eq_some_iff.mpr rfl]
  rfl

/-- Bytes that are not those of a text are an error. -/
theorem ofContent_of_forall_ne (h : ∀ t, Utf8.encode t ≠ content) :
    ofContent content = .error (.undecodable (Utf8.firstFault 0 content)) := by
  have hdecode : Utf8.decode content = none := by
    cases hdecode : Utf8.decode content with
    | none => rfl
    | some t => exact absurd (Utf8.decode_eq_some_iff.mp hdecode) (h t)
  rw [ofContent, Utf8.readText, hdecode]
  rfl

/-- Without a file there are no settings. -/
theorem load_of_absent (h : home.Holds d none) : load d home = .ok ⟨[], false⟩ := by
  have hprobe : d.probe home.file = .ok none := h
  rw [load, hprobe]

/-- The settings come from the content of the file. -/
theorem load_of_content (h : home.Holds d (some content)) : load d home = ofContent content := by
  have hread : d.read home.file = .ok content := h
  obtain ⟨_, hentry, -⟩ := Disk.read_eq_ok_iff.mp hread
  simp only [load, Disk.probe_eq_some_iff.mpr hentry, hread]

/-- A document without carriage returns is loaded as it is read. -/
theorem load_of_read {entries : Entries} (h : home.Holds d (some (Utf8.encode t))) (hreturn : '\r' ∉ t)
    (hread : Document.read t = .ok entries) : load d home = .ok ⟨entries, false⟩ := by
  rw [load_of_content h, ofContent, Utf8.readText_encode hreturn]
  simp only [hread]

/-! ## Loading -/

/-- Whether a content is a text whose document is read or malformed. -/
def IsLoadable (content : Bytes) : Prop :=
  ∃ t, Utf8.encode t = content ∧ ∀ e, Document.read (Utf8.unifyLineEnds t) = .error e → e = .malformed

theorem ofContent_eq_ok_iff : ofContent content = .ok loaded ↔ Loads (some content) loaded := by
  constructor
  · intro h
    by_cases htext : ∃ t, Utf8.encode t = content
    · obtain ⟨t, rfl⟩ := htext
      rw [ofContent_encode] at h
      split at h
      · next entries hread => exact Except.ok.inj h ▸ .document hread
      · next hread => exact Except.ok.inj h ▸ .malformed hread
      · cases h
    · rw [ofContent_of_forall_ne (not_exists.mp htext)] at h
      cases h
  · rintro (_ | hread | hread)
    · rw [ofContent_encode, hread]
    · rw [ofContent_encode, hread]

theorem exists_ofContent_iff : (∃ loaded, ofContent content = .ok loaded) ↔ IsLoadable content := by
  constructor
  · rintro ⟨loaded, h⟩
    cases ofContent_eq_ok_iff.mp h with
    | document hread => exact ⟨_, rfl, fun e he => by rw [hread] at he; cases he⟩
    | malformed hread => exact ⟨_, rfl, fun e he => by rw [hread] at he; exact (Except.error.inj he).symm⟩
  · rintro ⟨t, rfl, hcause⟩
    cases hread : Document.read (Utf8.unifyLineEnds t) with
    | ok entries => exact ⟨_, ofContent_eq_ok_iff.mpr (.document hread)⟩
    | error e =>
      rw [hcause e hread] at hread
      exact ⟨_, ofContent_eq_ok_iff.mpr (.malformed hread)⟩

/-- A group of which nothing is set has the values that hold then. -/
theorem group_of_load_nil (hload : load d home = .ok loaded) (hnone : loaded.entries = []) (name : Text) :
    group d home name = .ok (Setting.defaults name) := by
  rw [group, hload, Except.map, hnone]
  rfl

/-- **What is loaded from the file of the settings**, whatever its bytes are. Settings are loaded exactly if there is no
file, or its content is UTF-8 and its document is read or malformed. They are then the entries of the document, and
none without a file or from a malformed document, so that every group has the values that hold when nothing is set. -/
theorem load_eq_ok_iff (hfile : home.Holds d state) :
    (∀ loaded, load d home = .ok loaded ↔ Loads state loaded) ∧
    ((∃ loaded, load d home = .ok loaded) ↔ ∀ content, state = some content → IsLoadable content) ∧
    ∀ loaded, load d home = .ok loaded → loaded.entries = [] →
      ∀ name, group d home name = .ok (Setting.defaults name) := by
  refine ⟨fun loaded => ?_, ?_, fun loaded hload hnone name => group_of_load_nil hload hnone name⟩
  · cases state with
    | none =>
      rw [load_of_absent hfile]
      refine ⟨fun h => Except.ok.inj h ▸ .absent, fun h => ?_⟩
      cases h
      rfl
    | some content =>
      rw [load_of_content hfile]
      exact ofContent_eq_ok_iff
  · cases state with
    | none => exact iff_of_true ⟨_, load_of_absent hfile⟩ (by rintro content ⟨⟩)
    | some content =>
      rw [load_of_content hfile, exists_ofContent_iff]
      exact ⟨fun h other heq => Option.some.inj heq ▸ h, fun h => h content rfl⟩

/-- A text that is not a document. -/
def brokenContent : Bytes := Utf8.encode "this is = = not toml"

/-- From a text that is not a document nothing is loaded. -/
theorem load_broken : homeOfDisk.Holds (homeDisk (some brokenContent)) (some brokenContent) ∧
    (load (homeDisk (some brokenContent)) homeOfDisk = .ok ⟨[], true⟩ ↔ Loads (some brokenContent) ⟨[], true⟩) ∧
    Loads (some brokenContent) ⟨[], true⟩ ∧
    group (homeDisk (some brokenContent)) homeOfDisk Setting.exportGroup =
      .ok (Setting.defaults Setting.exportGroup) := by
  have hholds := (isReady_homeDisk (some brokenContent)).holds
  obtain ⟨hloads, -, hdefaults⟩ := load_eq_ok_iff hholds
  have hbroken : Loads (some brokenContent) ⟨[], true⟩ := .malformed (by rfl)
  exact ⟨hholds, hloads _, hbroken, hdefaults _ ((hloads _).mpr hbroken) rfl _⟩

/-- What is not read is not loaded either. -/
theorem load_ne_ok (h : ∀ loaded, ofContent content ≠ .ok loaded) :
    homeOfDisk.Holds (homeDisk (some content)) (some content) ∧
      ∀ loaded, load (homeDisk (some content)) homeOfDisk ≠ .ok loaded := by
  have hholds := (isReady_homeDisk (some content)).holds
  refine ⟨hholds, fun loaded hload => h loaded ?_⟩
  rwa [load_of_content hholds] at hload

/-- Neither bytes that are not UTF-8 nor a key that ends with a point fall back to no settings. -/
theorem not_load :
    (homeOfDisk.Holds (homeDisk (some [0xFF])) (some [0xFF]) ∧
      ∀ loaded, load (homeDisk (some [0xFF])) homeOfDisk ≠ .ok loaded) ∧
    homeOfDisk.Holds (homeDisk (some (Utf8.encode "a ."))) (some (Utf8.encode "a .")) ∧
      ∀ loaded, load (homeDisk (some (Utf8.encode "a ."))) homeOfDisk ≠ .ok loaded := by
  refine ⟨load_ne_ok fun loaded hloaded => ?_, load_ne_ok fun loaded hloaded => ?_⟩
  · have hdecode : Utf8.decode [0xFF] = none := by decide +kernel
    rw [ofContent, Utf8.readText, hdecode] at hloaded
    cases hloaded
  · have hread : Document.read (Utf8.unifyLineEnds "a .") = .error .cutShort := by rfl
    rw [ofContent_encode, hread] at hloaded
    cases hloaded

/-! ## The values in effect -/

/-- What a document says of a setting: its value in the table of its group. -/
def configured (s : Setting) (entries : Entries) : Option Value := (entries.lookup s.group).bind (Value.get? s.name)

/-- No table of the document that is loaded has a key twice. -/
theorem keysDistinct_of_load (h : load d home = .ok loaded) : (Value.table loaded.entries).KeysDistinct := by
  have hcontent {content : Bytes} (h : ofContent content = .ok loaded) :
      (Value.table loaded.entries).KeysDistinct := by
    cases ofContent_eq_ok_iff.mp h with
    | document hread => exact Document.keysDistinct_of_read hread
    | malformed _ => exact .nil
  unfold load at h
  split at h
  · exact Except.ok.inj h ▸ .nil
  · cases h
  · split at h
    · exact Except.ok.inj h ▸ .nil
    · exact hcontent h

/-- **The value in effect is the one that the document says, or else the one that holds when nothing is set.** -/
theorem lookup_groupOf_eq {entries : Entries} (h : (Value.table entries).KeysDistinct) (s : Setting) :
    (groupOf s.group entries).lookup s.name = some ((configured s entries).getD s.default) := by
  have hdefault : (Setting.defaults s.group).lookup s.name = some s.default := by cases s <;> rfl
  rw [groupOf, configured]
  split
  · next values hlookup =>
    refine (lookup_foldl_setKey (h.of_lookup hlookup).nodup s.name _).trans ?_
    rw [hlookup, hdefault, Option.bind_some, Value.get?]
    cases values.lookup s.name <;> rfl
  · next htable =>
    have hnone : (entries.lookup s.group).bind (Value.get? s.name) = none := by
      cases hlookup : entries.lookup s.group with
      | none => rfl
      | some v =>
        cases v with
        | table values => exact absurd hlookup (htable values)
        | _ => rfl
    rw [hnone]
    exact hdefault

end ImportChart.Settings
