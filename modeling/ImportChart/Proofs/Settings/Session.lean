import ImportChart.Proofs.Settings.Kept
import Mathlib.Data.List.Induction

/-!
# Settings over a run of calls

- `Session`: the disk after some calls, with what was answered when each setting was set last;
- `Session.Agrees`: the disk keeps exactly these values; every call keeps it so (`Agrees.call`), and so does a run of
  calls (`agrees_run`);
- `run_effective`: after every run of calls the settings in effect are the values that were answered last.
-/

namespace ImportChart.Settings

open Document (Value Entries IsSimple IsSimpleDocument documentOf)

variable {d d' : Disk} {home : Home} {setting : Setting} {sections : List (Text × Entries)} {key raw : Text}

/-! ## Calls -/

/-- A call that changes settings. -/
inductive Call where
  | set (key raw : Text)
  | reset

/-- Where a list is set, its items have no characters that need to be escaped. -/
def Call.IsPlain : Call → Prop
  | .set key raw => ∀ setting ∈ Setting.all, setting.key = key → isList setting = true → IsItemText raw
  | .reset => True

instance : DecidablePred Call.IsPlain
  | .set key raw =>
    inferInstanceAs (Decidable (∀ setting ∈ Setting.all, setting.key = key → isList setting = true → IsItemText raw))
  | .reset => inferInstanceAs (Decidable True)

/-- What a call to set has to answer: the value that the text stands for, or why there is none. -/
def answer (key raw : Text) : Except SettingsError Value :=
  match Setting.ofKey? key with
  | none => .error (.unknownKey key)
  | some setting => setting.parse raw

theorem isRejection_of_answer {e : SettingsError} (h : answer key raw = .error e) : e.isRejection = true := by
  unfold answer at h
  split at h
  · rw [← Except.error.inj h]
    rfl
  · exact isRejection_of_parse h

/-! ## Sessions -/

/-- A disk after some calls, with the value that was answered when each setting was set last since the last reset. -/
structure Session where
  disk : Disk
  last : Setting → Option Value

namespace Session

/-- Nothing has been set. -/
def start (d : Disk) : Session := ⟨d, fun _ => none⟩

/-- Go on with a call. -/
def call (home : Home) (s : Session) : Call → Session
  | .set key raw =>
    match set s.disk home key raw with
    | (.ok value, d) => ⟨d, fun setting => if setting.key = key then some value else s.last setting⟩
    | (.error _, d) => { s with disk := d }
  | .reset =>
    match reset s.disk home with
    | (.ok _, d) => start d
    | (.error _, d) => { s with disk := d }

/-- Go on with calls. -/
def run (home : Home) (s : Session) (calls : List Call) : Session := calls.foldl (call home) s

theorem run_concat (home : Home) (s : Session) (calls : List Call) (c : Call) :
    run home s (calls ++ [c]) = (run home s calls).call home c := by
  rw [run, List.foldl_append]
  rfl

/-- The value of a setting: what was answered last, or the one that holds when nothing is set. -/
def value (s : Session) (setting : Setting) : Value := (s.last setting).getD setting.default

/-- The disk keeps what was answered last, in some tables. -/
structure Agrees (home : Home) (s : Session) (sections : List (Text × Entries)) : Prop where
  keeps : home.Keeps s.disk sections
  last : ∀ setting, s.last setting = valueIn sections setting
  parsed : ∀ setting value, s.last setting = some value → ∃ raw, setting.parse raw = .ok value

end Session

/-! ## One call -/

theorem mem_all (setting : Setting) : setting ∈ Setting.all := by cases setting <;> decide

theorem ofKey?_eq_some (h : Setting.ofKey? key = some setting) : setting.key = key := by
  unfold Setting.ofKey? at h
  simpa using List.find?_some h

/-- **A call to set that is accepted is kept**, and one that is not changes nothing. -/
theorem set_keeps (hhome : home.IsRooted) (hkeeps : home.Keeps d sections) (hplain : (Call.set key raw).IsPlain) :
    (∃ setting value d', Setting.ofKey? key = some setting ∧ setting.parse raw = .ok value ∧
        set d home key raw = (.ok value, d') ∧ home.Keeps d' (withValue setting value sections)) ∨
      ∃ e, answer key raw = .error e ∧ set d home key raw = (.error e, d) := by
  cases hkey : Setting.ofKey? key with
  | none =>
    refine Or.inr ⟨.unknownKey key, ?_, ?_⟩
    · rw [answer, hkey]
    · rw [set, hkey]
  | some setting =>
    cases hparse : setting.parse raw with
    | error e =>
      refine Or.inr ⟨e, ?_, ?_⟩
      · rw [answer, hkey]
        exact hparse
      · rw [set, hkey]
        simp only [hparse]
    | ok value =>
      have hsimple := isSimple_of_parse hparse (hplain setting (mem_all setting) (ofKey?_eq_some hkey))
      obtain ⟨d', hsave, hkeeps'⟩ := hkeeps.save hhome (isSimpleDocument_withValue hkeeps.simple setting hsimple)
      refine Or.inl ⟨setting, value, d', rfl, hparse, ?_, hkeeps'⟩
      rw [set, hkey]
      simp only [hparse, hkeeps.load, setIn_documentOf, hsave]

namespace Session

variable {s : Session}

/-- A call to set answers what it has to. -/
theorem Agrees.set_eq_answer (hhome : home.IsRooted) (h : Agrees home s sections)
    (hplain : (Call.set key raw).IsPlain) : (set s.disk home key raw).1 = answer key raw := by
  rcases set_keeps hhome h.keeps hplain with ⟨setting, value, d', hkey, hparse, hset, -⟩ | ⟨e, hanswer, hset⟩
  · rw [hset, answer, hkey]
    exact hparse.symm
  · rw [hset, hanswer]

/-- **Every call keeps the disk in agreement with what was answered.** -/
theorem Agrees.call (hhome : home.IsRooted) (h : Agrees home s sections) {c : Call} (hplain : c.IsPlain) :
    ∃ sections', Agrees home (s.call home c) sections' := by
  cases c with
  | set key raw =>
    rcases set_keeps hhome h.keeps hplain with ⟨setting, value, d', hkey, hparse, hset, hkeeps⟩ | ⟨e, -, hset⟩
    · have hcall : s.call home (.set key raw) =
          ⟨d', fun other => if other.key = key then some value else s.last other⟩ := by
        rw [Session.call, hset]
      have hother (other : Setting) : other.key = key ↔ other = setting := by
        rw [← ofKey?_eq_some hkey]
        exact key_injective.eq_iff
      refine ⟨withValue setting value sections, hcall ▸ hkeeps, fun other => ?_, fun other found hfound => ?_⟩
      · simp only [hcall, hother, valueIn_withValue, h.last]
      · simp only [hcall, hother] at hfound
        split_ifs at hfound with heq
        · exact ⟨raw, heq ▸ Option.some.inj hfound ▸ hparse⟩
        · exact h.parsed other found hfound
    · have hcall : s.call home (.set key raw) = s := by rw [Session.call, hset]
      refine ⟨sections, ?_⟩
      rw [hcall]
      exact h
  | reset =>
    obtain ⟨removed, d', hreset, hkeeps⟩ := h.keeps.reset hhome
    have hcall : s.call home .reset = start d' := by rw [Session.call, hreset]
    exact ⟨[], hcall ▸ ⟨hkeeps, fun _ => rfl, fun _ _ hnone => by cases hnone⟩⟩

/-- **A run of calls keeps the disk in agreement with what was answered.** -/
theorem agrees_run (hhome : home.IsRooted) (hnew : home.IsNew d) {calls : List Call} (hplain : ∀ c ∈ calls, c.IsPlain) :
    ∃ sections, Agrees home (run home (start d) calls) sections := by
  induction calls using List.reverseRecOn with
  | nil =>
    exact ⟨[], ⟨Document.isSimpleDocument_nil, Or.inl ⟨rfl, hnew⟩⟩, fun _ => rfl, fun _ _ hnone => by cases hnone⟩
  | append_singleton calls c ih =>
    obtain ⟨hcalls, hc⟩ := List.forall_mem_append.mp hplain
    obtain ⟨sections, hagrees⟩ := ih hcalls
    rw [run_concat]
    exact hagrees.call hhome (hc c (List.mem_singleton.mpr rfl))

/-! ## The settings in effect -/

/-- **The settings in effect are the values that were answered last.** -/
theorem Agrees.group (h : Agrees home s sections) (setting : Setting) :
    ∃ entries, group s.disk home setting.group = .ok entries ∧
      entries.lookup setting.name = some (s.value setting) := by
  refine ⟨groupOf setting.group (documentOf sections), ?_, ?_⟩
  · rw [Settings.group, h.keeps.load]
    rfl
  · rw [lookup_groupOf h.keeps.simple, value, h.last]

/-- The integer settings are integers. -/
theorem Agrees.value_integer (h : Agrees home s sections) {setting : Setting}
    (hinteger : setting = .maxTextSize ∨ setting = .timeout) :
    ∃ n, s.value setting = .integer n := by
  have hparse (raw : Text) : setting.parse raw = Setting.parseInteger raw := by rcases hinteger with rfl | rfl <;> rfl
  cases hlast : s.last setting with
  | none =>
    rw [value, hlast]
    rcases hinteger with rfl | rfl
    · exact ⟨_, rfl⟩
    · exact ⟨_, rfl⟩
  | some found =>
    obtain ⟨raw, hfound⟩ := h.parsed setting found hlast
    obtain ⟨n, -, -, rfl⟩ := parseInteger_eq_ok ((hparse raw).symm.trans hfound)
    exact ⟨n, by rw [value, hlast, Option.getD_some]⟩

/-- **The settings for the export are the integers that were answered last**, and none of them is replaced. -/
theorem Agrees.exportSettings (h : Agrees home s sections) :
    ∃ e, exportSettings s.disk home = .ok e ∧ s.value .maxTextSize = .integer e.maxTextSize ∧
      s.value .timeout = .integer e.timeout ∧ e.replaced = [] ∧
      e.entries.lookup Setting.maxTextSize.name = some (.integer e.maxTextSize) ∧
      e.entries.lookup Setting.timeout.name = some (.integer e.timeout) := by
  obtain ⟨size, hsize⟩ : ∃ n, s.value .maxTextSize = .integer n := h.value_integer (Or.inl rfl)
  obtain ⟨timeout, htimeout⟩ : ∃ n, s.value .timeout = .integer n := h.value_integer (Or.inr rfl)
  obtain ⟨entries, hgroup, hlookupSize⟩ := h.group .maxTextSize
  have hlookupTimeout : entries.lookup Setting.timeout.name = some (s.value .timeout) := by
    obtain ⟨entries', hgroup', hlookup⟩ := h.group .timeout
    have hsame : entries = entries' := Except.ok.inj (hgroup.symm.trans hgroup')
    exact hsame ▸ hlookup
  have hgroup : Settings.group s.disk home Setting.exportGroup = .ok entries := hgroup
  rw [hsize] at hlookupSize
  rw [htimeout] at hlookupTimeout
  have hexport : Settings.exportSettings s.disk home = .ok {
      entries :=
        setKey Setting.timeout.name (.integer timeout) (setKey Setting.maxTextSize.name (.integer size) entries)
      maxTextSize := size
      timeout
      replaced := [] } := by
    rw [Settings.exportSettings, hgroup]
    simp [exportSettingsOf, integerSetting, hlookupSize, hlookupTimeout, integerOf, bind, Except.bind, pure,
      Except.pure]
  refine ⟨_, hexport, hsize, htimeout, rfl, ?_, lookup_setKey_self _ _ _⟩
  rw [lookup_setKey_of_ne (by decide)]
  exact lookup_setKey_self _ _ _

end Session

/-- **After every run of calls the settings in effect are the values that were answered last**, since the last reset, or
else the ones that hold when nothing is set; the integers for the export are among them. A call to set answers the value
that its text stands for, and refuses only a key that is not known and a text that stands for no value. -/
theorem run_effective (hhome : home.IsRooted) (hnew : home.IsNew d) {calls : List Call}
    (hplain : ∀ c ∈ calls, c.IsPlain) :
    let s := Session.run home (Session.start d) calls
    (∀ setting, ∃ entries, group s.disk home setting.group = .ok entries ∧
      entries.lookup setting.name = some ((s.last setting).getD setting.default)) ∧
    (∃ e, exportSettings s.disk home = .ok e ∧ e.replaced = [] ∧
      (s.last .maxTextSize).getD Setting.maxTextSize.default = .integer e.maxTextSize ∧
      (s.last .timeout).getD Setting.timeout.default = .integer e.timeout ∧
      e.entries.lookup Setting.maxTextSize.name = some (.integer e.maxTextSize) ∧
      e.entries.lookup Setting.timeout.name = some (.integer e.timeout)) ∧
    (∀ key raw, (Call.set key raw).IsPlain → (set s.disk home key raw).1 = answer key raw ∧
      ∀ e, (set s.disk home key raw).1 = .error e → e.isRejection = true) ∧
    ∃ removed, (reset s.disk home).1 = .ok removed := by
  obtain ⟨sections, hagrees⟩ := Session.agrees_run hhome hnew hplain
  obtain ⟨e, hexport, hsize, htimeout, hreplaced, hentries⟩ := hagrees.exportSettings
  obtain ⟨removed, d', hreset, -⟩ := hagrees.keeps.reset hhome
  refine ⟨hagrees.group, ⟨e, hexport, hreplaced, hsize, htimeout, hentries⟩, fun key raw hset => ?_, removed,
    by rw [hreset]⟩
  have hanswer := hagrees.set_eq_answer hhome hset
  exact ⟨hanswer, fun e he => isRejection_of_answer (hanswer.symm.trans he)⟩

/-! ## What was answered last -/

/-- What was answered last for a setting, after one more call. -/
def remember (setting : Setting) (last : Option Value) : Call → Option Value
  | .reset => none
  | .set key raw => if key = setting.key then (setting.parse raw).toOption.or last else last

/-- What was answered when a setting was set last, by the calls alone. -/
def lastAnswer (setting : Setting) (calls : List Call) : Option Value := calls.foldl (remember setting) none

/-- **What was answered last depends on the calls alone.** -/
theorem last_run (hhome : home.IsRooted) (hnew : home.IsNew d) {calls : List Call} (hplain : ∀ c ∈ calls, c.IsPlain)
    (setting : Setting) : (Session.run home (Session.start d) calls).last setting = lastAnswer setting calls := by
  induction calls using List.reverseRecOn with
  | nil => rfl
  | append_singleton calls c ih =>
    obtain ⟨hcalls, hc⟩ := List.forall_mem_append.mp hplain
    obtain ⟨sections, hagrees⟩ := Session.agrees_run hhome hnew hcalls
    have hconcat : lastAnswer setting (calls ++ [c]) = remember setting (lastAnswer setting calls) c := by
      rw [lastAnswer, List.foldl_append]
      rfl
    rw [Session.run_concat, hconcat, ← ih hcalls]
    generalize Session.run home (Session.start d) calls = s at hagrees
    cases c with
    | set key raw =>
      have hfound (heq : key = setting.key) : Setting.ofKey? key = some setting := heq ▸ Setting.ofKey?_key setting
      rcases set_keeps hhome hagrees.keeps (hc _ (List.mem_singleton.mpr rfl)) with
        ⟨found, value, d', hkey, hparse, hset, -⟩ | ⟨e, hanswer, hset⟩
      · simp only [Session.call, hset, remember, eq_comm (a := key)]
        split_ifs with heq
        · obtain rfl := Option.some.inj (hkey.symm.trans (hfound heq.symm))
          rw [hparse]
          rfl
        · rfl
      · simp only [Session.call, hset, remember]
        split_ifs with heq
        · rw [answer, hfound heq] at hanswer
          have hparse : setting.parse raw = .error e := hanswer
          rw [hparse]
          rfl
        · rfl
    | reset =>
      obtain ⟨removed, d', hreset, -⟩ := hagrees.keeps.reset hhome
      simp only [Session.call, hreset]
      rfl

/-- Settings that are set, refused, reset and set again. -/
def mixedCalls : List Call :=
  [.set "export.timeout" "30", .set "export.colour" "red", .reset, .set "scan.extra_ignores" "/vendor/, *.min.js",
    .set "export.timeout" "0", .set "export.timeout" " 4_5 ", .set "scan.include_extensionless" "No"]

/-- The settings in effect after `mixedCalls`, which begin without a file. -/
theorem run_effective_mixedCalls :
    ∃ entries, group (Session.run homeOfDisk (Session.start (homeDisk none)) mixedCalls).disk homeOfDisk
        Setting.exportGroup = .ok entries ∧ entries.lookup Setting.timeout.name = some (.integer 45) := by
  have hnew : homeOfDisk.IsNew (homeDisk none) := (isReady_homeDisk none).isNew isRooted_homeOfDisk
  have hplain : ∀ c ∈ mixedCalls, c.IsPlain := by decide
  have hlast : lastAnswer .timeout mixedCalls = some (.integer 45) := by rfl
  obtain ⟨entries, hgroup, hlookup⟩ := (run_effective isRooted_homeOfDisk hnew hplain).1 .timeout
  rw [last_run isRooted_homeOfDisk hnew hplain, hlast] at hlookup
  exact ⟨entries, hgroup, hlookup⟩

end ImportChart.Settings
