import ImportChart.Proofs.Document.RoundTrip
import ImportChart.Proofs.Number.Truncation
import ImportChart.Proofs.Settings.Kept
import ImportChart.Proofs.Settings.Loading
import ImportChart.Proofs.Text.Integers

/-!
# The integers for the export

The settings for the export are integers, whatever the document has in their place.

- `Coerces`: the integer that a value of any kind stands for; `integerOf_eq_ok_iff`;
- `InEffect`: the integer of a setting by the document;
- `exportSettings_inEffect`: both settings are the integers in effect, unless the document has an infinite number in the
  place of one of them. Such a number is an error and is not replaced (`not_exportSettings_infinite`).
-/

namespace ImportChart.Settings

open Document (Value Entries StandsFor)

variable {d : Disk} {home : Home} {loaded : Loaded} {entries settings : Entries} {s : Setting} {v : Value} {n : Int}
  {r : Except SettingsError (Option Int)}

/-! ## Values as integers -/

/-- The integer that a value stands for: an integer for itself, a truth value for zero or one, a finite number for its
integer part, and a numeral for its integer. -/
inductive Coerces : Value → Int → Prop
  | integer (n : Int) : Coerces (.integer n) n
  | boolean (b : Bool) : Coerces (.boolean b) b.toInt
  | float {x : Double} {q : ℚ} (h : x.rational? = some q) : Coerces (.float x) (Double.truncate q)
  | text {t : Text} {n : Int} (h : Text.IsNumeral t n) : Coerces (.text t) n

/-- An infinite number. -/
def IsInfinite (v : Value) : Prop := ∃ negative, v = .float (.infinite negative)

theorem integerOf_eq_ok_iff : integerOf v = .ok (some n) ↔ Coerces v n := by
  constructor
  · intro h
    cases v with
    | integer => exact Option.some.inj (Except.ok.inj h) ▸ .integer _
    | boolean b =>
      obtain rfl := Option.some.inj (Except.ok.inj h)
      cases b with
      | false => exact .boolean false
      | true => exact .boolean true
    | text t =>
      have hread : (Text.readInt t).toOption = some n := Except.ok.inj h
      refine .text (Text.readInt_eq_ok_iff.mp ?_)
      cases heq : Text.readInt t with
      | error e =>
        rw [heq] at hread
        cases hread
      | ok m =>
        rw [heq] at hread
        exact congrArg Except.ok (Option.some.inj hread)
    | float x =>
      cases hint : x.toInt? with
      | error e =>
        rw [integerOf, hint] at h
        cases e <;> cases h
      | ok m =>
        rw [integerOf, hint] at h
        obtain rfl := Option.some.inj (Except.ok.inj h)
        obtain ⟨q, hq, rfl⟩ := Double.toInt?_eq_ok_iff.mp hint
        exact .float hq
    | _ => cases h
  · rintro (n | b | hx | ht)
    · rfl
    · cases b <;> rfl
    · rw [integerOf, Double.toInt?_eq_ok_iff.mpr ⟨_, hx, rfl⟩]
    · rw [integerOf, Text.readInt_eq_ok_iff.mpr ht]
      rfl

/-- Only an infinite number is an error. -/
theorem integerOf_eq_error_iff : (∃ e, integerOf v = .error e) ↔ IsInfinite v := by
  constructor
  · rintro ⟨e, h⟩
    cases v with
    | float x =>
      cases x with
      | infinite negative => exact ⟨negative, rfl⟩
      | _ => cases h
    | _ => cases h
  · rintro ⟨negative, rfl⟩
    exact ⟨.infinite, rfl⟩

/-! ## The two settings -/

/-- The integer of a setting by the document: the one that its value stands for, and the one that holds when nothing is
set if there is no value or it stands for none. -/
inductive InEffect (s : Setting) (entries : Entries) : Int → Prop
  | unset {n : Int} (h : configured s entries = none) (hn : s.default = .integer n) : InEffect s entries n
  | coerced {v : Value} {n : Int} (h : configured s entries = some v) (hv : Coerces v n) : InEffect s entries n
  | replaced {v : Value} {n : Int} (h : configured s entries = some v) (hv : ∀ k, ¬Coerces v k)
    (hn : s.default = .integer n) : InEffect s entries n

section

variable {default : Int} {replaced : Bool}
  (hlookup : settings.lookup s.name = some ((configured s entries).getD s.default))
include hlookup

theorem integerSetting_eq : integerSetting settings s default =
    (integerOf ((configured s entries).getD s.default)).map fun
      | some n => (n, false)
      | none => (default, true) := by
  rw [integerSetting, hlookup, Option.getD_some]
  cases integerOf ((configured s entries).getD s.default) with
  | error e => rfl
  | ok n? => cases n? <;> rfl

variable (hdefault : s.default = .integer default)
include hdefault

/-- The integer of a setting is found, unless the document has an infinite number in its place. -/
theorem exists_integerSetting_iff :
    (∃ r, integerSetting settings s default = .ok r) ↔ ∀ v, configured s entries = some v → ¬IsInfinite v := by
  have hok : (∃ r, integerSetting settings s default = .ok r) ↔
      ¬IsInfinite ((configured s entries).getD s.default) := by
    rw [integerSetting_eq hlookup, ← integerOf_eq_error_iff]
    cases integerOf ((configured s entries).getD s.default) with
    | error e => simp [Except.map]
    | ok n? => simp [Except.map]
  rw [hok]
  cases configured s entries with
  | none =>
    refine iff_of_true ?_ (by rintro v ⟨⟩)
    rintro ⟨negative, heq⟩
    rw [Option.getD_none, hdefault] at heq
    cases heq
  | some v => simp

/-- The integer that is found is the one in effect. -/
theorem inEffect_of_integerSetting (h : integerSetting settings s default = .ok (n, replaced)) :
    InEffect s entries n := by
  rw [integerSetting_eq hlookup] at h
  cases hconfigured : configured s entries with
  | none =>
    rw [hconfigured, Option.getD_none, hdefault] at h
    exact .unset hconfigured ((Prod.mk.inj (Except.ok.inj h)).1 ▸ hdefault)
  | some v =>
    rw [hconfigured, Option.getD_some] at h
    cases hinteger : integerOf v with
    | error e =>
      rw [hinteger] at h
      cases h
    | ok n? =>
      rw [hinteger] at h
      cases n? with
      | some m =>
        obtain rfl := (Prod.mk.inj (Except.ok.inj h)).1
        exact .coerced hconfigured (integerOf_eq_ok_iff.mp hinteger)
      | none =>
        obtain rfl := (Prod.mk.inj (Except.ok.inj h)).1
        refine .replaced hconfigured (fun k hk => ?_) hdefault
        rw [integerOf_eq_ok_iff.mpr hk] at hinteger
        cases hinteger

end

/-- Of what the settings for the export are made. -/
theorem exportSettingsOf_eq_ok {found : ExportSettings} (h : exportSettingsOf settings = .ok found) :
    ∃ sizeReplaced timeoutReplaced,
      integerSetting settings .maxTextSize defaultMaxTextSize = .ok (found.maxTextSize, sizeReplaced) ∧
      integerSetting settings .timeout Export.defaultTimeout = .ok (found.timeout, timeoutReplaced) ∧
      found.entries = setKey Setting.timeout.name (.integer found.timeout)
        (setKey Setting.maxTextSize.name (.integer found.maxTextSize) settings) := by
  obtain ⟨⟨size, sizeReplaced⟩, hsize, h⟩ := exists_of_bind_eq_ok h
  obtain ⟨⟨timeout, timeoutReplaced⟩, htimeout, h⟩ := exists_of_bind_eq_ok h
  obtain rfl := Except.ok.inj h
  exact ⟨sizeReplaced, timeoutReplaced, hsize, htimeout, rfl⟩

theorem exists_exportSettingsOf {size timeout : Int × Bool}
    (hsize : integerSetting settings .maxTextSize defaultMaxTextSize = .ok size)
    (htimeout : integerSetting settings .timeout Export.defaultTimeout = .ok timeout) :
    ∃ found, exportSettingsOf settings = .ok found := by
  rw [exportSettingsOf, hsize]
  change ∃ found, (integerSetting settings .timeout Export.defaultTimeout >>= _) = _
  rw [htimeout]
  exact ⟨_, rfl⟩

/-- **The settings for the export are integers**, whatever the document that is loaded says. They are found unless the
document has an infinite number in the place of one of them. Each of them is then the integer of the value that the
document has in its place, and the one that holds when nothing is set if there is none or it stands for no integer. -/
theorem exportSettings_inEffect (hload : load d home = .ok loaded) :
    ((∃ found, exportSettings d home = .ok found) ↔
      ∀ s ∈ [Setting.maxTextSize, .timeout], ∀ v, configured s loaded.entries = some v → ¬IsInfinite v) ∧
    ∀ found, exportSettings d home = .ok found →
      found.entries.lookup Setting.maxTextSize.name = some (.integer found.maxTextSize) ∧
      found.entries.lookup Setting.timeout.name = some (.integer found.timeout) ∧
      InEffect .maxTextSize loaded.entries found.maxTextSize ∧ InEffect .timeout loaded.entries found.timeout := by
  have hgroup : exportSettings d home = exportSettingsOf (groupOf Setting.exportGroup loaded.entries) := by
    rw [exportSettings, group, hload]
    rfl
  have hkeys := keysDistinct_of_load hload
  have hsize := lookup_groupOf_eq hkeys .maxTextSize
  have htimeout := lookup_groupOf_eq hkeys .timeout
  rw [hgroup]
  constructor
  · rw [List.forall_mem_cons, List.forall_mem_singleton, ← exists_integerSetting_iff hsize rfl,
      ← exists_integerSetting_iff htimeout rfl]
    constructor
    · rintro ⟨found, h⟩
      obtain ⟨_, _, hs, ht, -⟩ := exportSettingsOf_eq_ok h
      exact ⟨⟨_, hs⟩, ⟨_, ht⟩⟩
    · rintro ⟨⟨size, hs⟩, ⟨timeout, ht⟩⟩
      exact exists_exportSettingsOf hs ht
  · intro found h
    obtain ⟨_, _, hs, ht, hentries⟩ := exportSettingsOf_eq_ok h
    refine ⟨?_, ?_, inEffect_of_integerSetting hsize rfl hs, inEffect_of_integerSetting htimeout rfl ht⟩
    · rw [hentries, lookup_setKey_of_ne (by decide), lookup_setKey_self]
    · rw [hentries, lookup_setKey_self]

/-- Settings of other kinds: a truth value and a list. -/
def looseExportSections : List (Text × Entries) :=
  [(Setting.exportGroup, [(Setting.maxTextSize.name, .boolean true), (Setting.timeout.name, .list [.text "soon"])])]

/-- The disk with these settings. -/
def looseExportDisk : Disk :=
  homeDisk (some (Utf8.encode (Document.unlines (Document.documentLines looseExportSections))))

theorem keeps_looseExportSections : homeOfDisk.Keeps looseExportDisk looseExportSections where
  simple := by
    refine ⟨by decide, List.forall_mem_singleton.mpr (isWord_group .timeout), List.forall_mem_singleton.mpr
      ⟨by decide, ?_, ?_⟩⟩
    · exact List.forall_mem_cons.mpr ⟨isWord_name .maxTextSize, List.forall_mem_singleton.mpr (isWord_name .timeout)⟩
    · have hsoon : Document.IsSimple (.list [.text "soon"]) := @Document.IsSimple.list ["soon"] (by decide)
      exact List.forall_mem_cons.mpr ⟨.boolean true, List.forall_mem_singleton.mpr hsoon⟩
  stored := Or.inr (isReady_homeDisk _)

/-- The truth value counts as one, and the list as the value that holds when nothing is set. -/
theorem exportSettings_loose : ∃ found,
    load looseExportDisk homeOfDisk = .ok ⟨Document.documentOf looseExportSections, false⟩ ∧
    exportSettings looseExportDisk homeOfDisk = .ok found ∧ found.maxTextSize = 1 ∧ found.timeout = 120 ∧
      InEffect .maxTextSize (Document.documentOf looseExportSections) found.maxTextSize ∧
      InEffect .timeout (Document.documentOf looseExportSections) found.timeout := by
  have hload := keeps_looseExportSections.load
  obtain ⟨-, hfound⟩ := exportSettings_inEffect hload
  have hsettings : ∃ found, exportSettings looseExportDisk homeOfDisk = .ok found ∧ found.maxTextSize = 1 ∧
      found.timeout = 120 := by
    rw [exportSettings, group, hload]
    exact ⟨_, rfl, rfl, rfl⟩
  obtain ⟨found, hsettings, hsize, htimeout⟩ := hsettings
  obtain ⟨-, -, heffect⟩ := hfound found hsettings
  exact ⟨found, hload, hsettings, hsize, htimeout, heffect⟩

/-- The lines of a document with an infinite number. -/
def infiniteLines : List Text := ["[export]", "max_text_size = inf"]

/-- The disk with this document. -/
def infiniteDisk : Disk := homeDisk (some (Utf8.encode (Document.unlines infiniteLines)))

/-- The document is loaded. -/
theorem load_infiniteDisk : load infiniteDisk homeOfDisk =
    .ok ⟨[(Setting.exportGroup, .table [(Setting.maxTextSize.name, .float (.infinite false))])], false⟩ := by
  have hstands : StandsFor "inf" (.float (.infinite false)) := by
    have hblank : Text.isBlank 'i' = false ∧ Document.isMark 'i' = false ∧ Text.isBlank 'f' = false := by decide
    refine ⟨by decide, by decide, ?_, ?_, by decide, by rfl⟩
    · rintro c ⟨⟩
      exact ⟨hblank.1, hblank.2.1⟩
    · rintro c ⟨⟩
      exact hblank.2.2
  have hlines : infiniteLines =
      ['[' :: Setting.exportGroup ++ [']'], Document.valueLine Setting.maxTextSize.name "inf"] := by decide
  have hgroup : Document.IsWord Setting.exportGroup := isWord_group .maxTextSize
  have hread := Document.read_table hgroup (isWord_name .maxTextSize) hstands (List.all_eq_true.mp (by decide))
  rw [← hlines] at hread
  exact load_of_read (isReady_homeDisk _).holds (by decide) hread

/-- **An infinite number is not replaced** by the value that holds when nothing is set. -/
theorem not_exportSettings_infinite :
    (∃ loaded, load infiniteDisk homeOfDisk = .ok loaded) ∧
      ∀ found, exportSettings infiniteDisk homeOfDisk ≠ .ok found := by
  refine ⟨⟨_, load_infiniteDisk⟩, fun found h => ?_⟩
  rw [exportSettings, group, load_infiniteDisk] at h
  cases h

end ImportChart.Settings
