import ImportChart.Proofs.Settings.Kept

/-!
# What a setting that is not changed leaves behind

Setting a value can fail before the file is opened for writing and after it. The file is emptied when it is opened, so
that a document that cannot be written, or not as a whole, costs all settings that were there.

- `Home.Opens`: the file can be opened to be written;
- `FailsToSave`: how a `save` fails (`failsToSave`);
- `Intends`: the document that a `set` is to write;
- `set_error`: a failed `set` leaves the file as it was, unless it failed after the file was opened; then the file holds
  a beginning of the new document.
-/

namespace ImportChart

/-- Whether an error is one of writing the file: it cannot be written, or there is no text for it. -/
def SettingsError.isSaving : SettingsError → Bool
  | .writing _ | .unwritable _ => true
  | _ => false

namespace Settings

open Document (Value Entries)

variable {d d' : Disk} {home : Home} {entries : Entries} {e : SettingsError}

theorem entry?_eq_ok {p : Text} {entry : Entry} (h : (d.entry? p).toOption = some entry) : d.entry? p = .ok entry := by
  cases hentry : d.entry? p with
  | error c =>
    rw [hentry] at h
    cases h
  | ok found =>
    rw [hentry] at h
    exact congrArg Except.ok (Option.some.inj h)

/-- The file of the settings can be opened to be written, once its folder is made. -/
def Home.Opens (home : Home) (d : Disk) : Prop :=
  ∃ made opened, d.ensureFolder home.folder = (.ok (), made) ∧ made.openToWrite home.file = .ok opened

theorem Home.IsReady.opens {content : Option Bytes} (hhome : home.IsRooted) (h : home.IsReady d content) :
    home.Opens d := by
  obtain ⟨above, _, _, _, _, _, hopen⟩ := h.openToWrite_file
  exact ⟨d, _, h.ensureFolder hhome, hopen⟩

/-- How saving a document fails. -/
inductive FailsToSave (home : Home) (d : Disk) (entries : Entries) : SettingsError → Disk → Prop
  /-- The file is not opened, and is as it was. -/
  | unopened {e : SettingsError} {after : Disk} (closed : ¬home.Opens d)
      (same : (after.entry? home.file).toOption = (d.entry? home.file).toOption) : FailsToSave home d entries e after
  /-- There is no text for the document, and the file is empty. -/
  | unwritten {cause : Document.WriteError} {access : Access} {after : Disk} (opens : home.Opens d)
      (noText : Document.write entries = .error cause) (entry : after.entry? home.file = .ok (.file [] access))
      (rights : ∀ old before, d.entry? home.file = .ok (.file old before) → before = access) :
      FailsToSave home d entries (.writing cause) after
  /-- There is no room for all of the text, and the file holds what there is room for. -/
  | cutShort {t : Text} {left : Bytes} {access : Access} {after : Disk} (opens : home.Opens d)
      (text : Document.write entries = .ok t) (entry : after.entry? home.file = .ok (.file left access))
      (isPrefix : left <+: Utf8.encode t) (unfinished : left ≠ Utf8.encode t)
      (rights : ∀ old before, d.entry? home.file = .ok (.file old before) → before = access) :
      FailsToSave home d entries (.unwritable home.file) after

/-- **How saving fails.** -/
theorem failsToSave (hhome : home.IsRooted) (hroot : d.root.IsFolderAt [])
    (hsave : save d home entries = (.error e, d')) : FailsToSave home d entries e d' := by
  obtain ⟨slashes, cs, hs, hcs, hfolder⟩ := hhome
  have hensure := Disk.toOption_entry?_ensureFolder hs hcs (List.forall_mem_singleton.mpr isComponent_fileName)
    (List.cons_ne_nil _ _) hroot
  rw [← hfolder, ← Home.file_eq hs hcs hfolder] at hensure
  unfold save at hsave
  split at hsave
  · next hmade =>
    obtain ⟨-, rfl⟩ := Prod.mk.inj hsave
    rw [hmade] at hensure
    refine .unopened ?_ hensure.2
    rintro ⟨made, opened, hmade', -⟩
    rw [hmade] at hmade'
    cases hmade'
  next made hmade =>
  rw [hmade] at hensure
  obtain ⟨hroot', hsame⟩ := hensure
  split at hsave
  · next hopen =>
    obtain ⟨-, rfl⟩ := Prod.mk.inj hsave
    obtain ⟨rfl, hrefused⟩ := Disk.write_nil_error hroot' hopen
    refine .unopened ?_ hsame
    rintro ⟨made', opened, hmade', hopened⟩
    obtain rfl := (Prod.mk.inj (hmade.symm.trans hmade')).2
    rw [hrefused] at hopened
    cases hopened
  next opened hopen =>
  obtain ⟨names, access, hempty⟩ := Disk.wrote_of_write hroot' hopen
  have hopens : home.Opens d := ⟨made, _, hmade, hempty.opened⟩
  have hrights {bytes : Bytes} {after : Disk} (hwrote : made.Wrote home.file names access bytes after) (old : Bytes)
      (before : Access) (hold : d.entry? home.file = .ok (.file old before)) : before = access :=
    hwrote.access_eq (entry?_eq_ok (hsame.trans (congrArg Except.toOption hold)))
  split at hsave
  · next hnoText =>
    obtain ⟨he, rfl⟩ := Prod.mk.inj hsave
    rw [← Except.error.inj he]
    exact .unwritten hopens hnoText hempty.entry? (hrights hempty)
  next t htext =>
  split at hsave
  · next hfill =>
    obtain ⟨he, rfl⟩ := Prod.mk.inj hsave
    rw [← Except.error.inj he]
    rcases Disk.write_error (hempty.changed.isFolderAt hroot') hfill with ⟨-, hrefused⟩ | ⟨_, _, hholds, -, hwrote⟩
    · -- a file that was opened can be opened again
      rw [hempty.reopen] at hrefused
      cases hrefused
    · obtain ⟨rfl, rfl⟩ := Prod.mk.inj (Except.ok.inj (hempty.reopen.symm.trans hwrote.opened))
      have hboth := hempty.trans hwrote
      exact .cutShort hopens htext hboth.entry? (Access.fit_isPrefix _ _) (Access.fit_ne_of_not_holds hholds)
        (hrights hboth)
  · cases hsave

/-! ## Before the file is opened -/

/-- What is not accepted is not even tried to be written. -/
theorem isSaving_of_isRejection (h : e.isRejection = true) : e.isSaving = false := by
  cases e with
  | writing _ | unwritable _ => cases h
  | _ => rfl

theorem isSaving_of_load (h : load d home = .error e) : e.isSaving = false := by
  unfold load at h
  split at h
  · cases h
  · rw [← Except.error.inj h]
    rfl
  · split at h
    · cases h
    · unfold ofContent at h
      split at h
      · rw [← Except.error.inj h]
        rfl
      · split at h
        · cases h
        · cases h
        · rw [← Except.error.inj h]
          rfl

theorem isSaving_of_setIn {group name : Text} {value : Value} (h : setIn group name value entries = .error e) :
    e.isSaving = false := by
  unfold setIn at h
  split at h
  · cases h
  · rw [← Except.error.inj h]
    rfl

/-- The document that a set is to write. -/
def Intends (d : Disk) (home : Home) (key raw : Text) (new : Entries) : Prop :=
  ∃ s value loaded, Setting.ofKey? key = some s ∧ s.parse raw = .ok value ∧ load d home = .ok loaded ∧
    setIn s.group s.name value loaded.entries = .ok new

/-- A set that fails does so before anything is done, or in saving its document. -/
theorem set_error_cases {key raw : Text} (h : set d home key raw = (.error e, d')) :
    (d' = d ∧ e.isSaving = false) ∨ ∃ new, Intends d home key raw new ∧ save d home new = (.error e, d') := by
  unfold set at h
  split at h
  · obtain ⟨he, rfl⟩ := Prod.mk.inj h
    exact Or.inl ⟨rfl, Except.error.inj he ▸ rfl⟩
  next s hkey =>
  split at h
  · next hparse =>
    obtain ⟨he, rfl⟩ := Prod.mk.inj h
    exact Or.inl ⟨rfl, Except.error.inj he ▸ isSaving_of_isRejection (isRejection_of_parse hparse)⟩
  next value hparse =>
  split at h
  · next hload =>
    obtain ⟨he, rfl⟩ := Prod.mk.inj h
    exact Or.inl ⟨rfl, Except.error.inj he ▸ isSaving_of_load hload⟩
  next loaded hload =>
  split at h
  · next hset =>
    obtain ⟨he, rfl⟩ := Prod.mk.inj h
    exact Or.inl ⟨rfl, Except.error.inj he ▸ isSaving_of_setIn hset⟩
  next new hset =>
  split at h
  · next hsave =>
    obtain ⟨he, rfl⟩ := Prod.mk.inj h
    exact Or.inr ⟨new, ⟨s, value, loaded, hkey, hparse, hload, hset⟩, Except.error.inj he ▸ hsave⟩
  · cases h

/-- A file with some content is as it was if it had this content. -/
theorem same_iff_of_entry {left : Bytes} {access : Access} (hentry : d'.entry? home.file = .ok (.file left access))
    (hrights : ∀ old before, d.entry? home.file = .ok (.file old before) → before = access) :
    (d'.entry? home.file).toOption = (d.entry? home.file).toOption ↔
      ∃ before, d.entry? home.file = .ok (.file left before) := by
  constructor
  · intro hsame
    rw [hentry] at hsame
    exact ⟨access, entry?_eq_ok hsame.symm⟩
  · rintro ⟨before, hold⟩
    rw [hentry, hold, hrights left before hold]

/-- **What a failed set leaves behind.** The file is as it was, unless it could be opened and the failure is one of
writing it. Then it is empty if there is no text for the new document, and otherwise holds a part of this text, from its
beginning and not all; so it is as it was only if it had this content before. -/
theorem set_error (hhome : home.IsRooted) (hroot : d.root.isFolder = true) {key raw : Text}
    (hset : set d home key raw = (.error e, d')) :
    (¬(home.Opens d ∧ e.isSaving = true) → (d'.entry? home.file).toOption = (d.entry? home.file).toOption) ∧
    (home.Opens d ∧ e.isSaving = true → ∃ new left access, Intends d home key raw new ∧
      d'.entry? home.file = .ok (.file left access) ∧
      ((d'.entry? home.file).toOption = (d.entry? home.file).toOption ↔
        ∃ before, d.entry? home.file = .ok (.file left before)) ∧
      match Document.write new with
      | .error cause => e = .writing cause ∧ left = []
      | .ok t => e = .unwritable home.file ∧ left <+: Utf8.encode t ∧ left ≠ Utf8.encode t) := by
  rcases set_error_cases hset with ⟨rfl, hsaving⟩ | ⟨new, hintends, hsave⟩
  · refine ⟨fun _ => rfl, fun ⟨_, h⟩ => ?_⟩
    rw [hsaving] at h
    cases h
  cases failsToSave hhome (Entry.isFolderAt_nil hroot) hsave with
  | unopened hclosed hsame => exact ⟨fun _ => hsame, fun ⟨hopens, _⟩ => absurd hopens hclosed⟩
  | unwritten hopens hnoText hentry hrights =>
    refine ⟨fun h => absurd ⟨hopens, rfl⟩ h, fun _ => ⟨new, [], _, hintends, hentry, ?_, ?_⟩⟩
    · exact same_iff_of_entry hentry hrights
    · rw [hnoText]
      exact ⟨rfl, rfl⟩
  | cutShort hopens htext hentry hbegins hne hrights =>
    refine ⟨fun h => absurd ⟨hopens, rfl⟩ h, fun _ => ⟨new, _, _, hintends, hentry, ?_, ?_⟩⟩
    · exact same_iff_of_entry hentry hrights
    · rw [htext]
      exact ⟨rfl, hbegins, hne⟩

/-! ## A document that cannot be written -/

/-- **A list that cannot be written costs all settings that are kept**, if it is the first setting of its group. -/
theorem set_unwritable (hhome : home.IsRooted) {sections : List (Text × Entries)} (hkeeps : home.Keeps d sections)
    (hnew : Setting.scanGroup ∉ sections.map (·.1)) {raw : Text} {cause : Document.WriteError}
    (herror : Document.writeValue (.list ((Setting.parseItems raw).map .text)) = .error cause) :
    ∃ d', set d home Setting.extraIgnores.key raw = (.error (.writing cause), d') ∧ home.IsReady d' (some []) := by
  have hwith : withValue .extraIgnores (.list ((Setting.parseItems raw).map .text)) sections =
      sections ++ [(Setting.scanGroup, [(Setting.extraIgnores.name, .list ((Setting.parseItems raw).map .text))])] := by
    have hlookup : sections.lookup Setting.extraIgnores.group = none := lookup_eq_none_iff_notMem.mpr hnew
    rw [withValue, hlookup]
    exact setKey_of_notMem hnew _
  have hwrite := Document.write_error hkeeps.simple (isWord_group .extraIgnores) hnew (isWord_name .extraIgnores)
    (Document.hasTable_texts _) herror
  obtain ⟨d', hsave, hready⟩ := hkeeps.save_error hhome (hwith ▸ hwrite)
  refine ⟨d', ?_, hready⟩
  rw [set, Setting.ofKey?_key]
  simp only [Setting.parse, hkeeps.load, setIn_documentOf, hsave]

/-- The delete character is shown as a code with nothing before it, and such a text is not written. -/
theorem writeValue_delete :
    Document.writeValue (.list ((Setting.parseItems ['\x7f']).map .text)) = .error .cutShort := by
  have hitems : (Setting.parseItems ['\x7f']).map Value.text = [.text ['\x7f']] := by rfl
  have hshown : Document.shownInside ['\x7f'] = ['\\', 'x', '7', 'f'] := by
    have hquoted : (['\x7f'] : Text).flatMap (Text.quotedChar (Text.quoteMark ['\x7f'])) = ['\\', 'x', '7', 'f'] := by
      decide
    rw [Document.shownInside, hquoted]
    simp [Text.replaceAll, Text.quoteMark]
  have hpieces : Text.splitOnPart "\\x" ['\\', 'x', '7', 'f'] = [[], ['7', 'f']] := by decide
  have htext : Document.writeText ['\x7f'] = .error .cutShort := by
    rw [Document.writeText, hshown, hpieces, Document.joinCodes]
    rfl
  rw [hitems, Document.writeValue, Document.writeValues, Document.writeValue, htext]
  rfl

/-- A file with one setting. -/
def timeoutContent : Bytes := Utf8.encode "[export]\ntimeout = 30\n"

/-- The disk with this file. -/
def timeoutDisk : Disk := homeDisk (some timeoutContent)

theorem isReady_timeoutDisk : homeOfDisk.IsReady timeoutDisk (some timeoutContent) := isReady_homeDisk _

theorem keeps_timeoutDisk :
    homeOfDisk.Keeps timeoutDisk [(Setting.exportGroup, [(Setting.timeout.name, .integer 30)])] where
  simple :=
    ⟨by decide, List.forall_mem_singleton.mpr (isWord_group .timeout), List.forall_mem_singleton.mpr
      ⟨by simp, List.forall_mem_singleton.mpr (isWord_name .timeout),
        List.forall_mem_singleton.mpr (.integer (by decide) (by decide))⟩⟩
  stored := by
    have htext : Document.unlines
        (Document.documentLines [(Setting.exportGroup, [(Setting.timeout.name, .integer 30)])]) =
          "[export]\ntimeout = 30\n" := by rfl
    rw [htext]
    exact Or.inr isReady_timeoutDisk

/-- A failed set empties the file with the setting `timeout`. -/
theorem not_unchanged_delete :
    ∃ e d', set timeoutDisk homeOfDisk Setting.extraIgnores.key ['\x7f'] = (.error e, d') ∧
      (d'.entry? homeOfDisk.file).toOption ≠ (timeoutDisk.entry? homeOfDisk.file).toOption := by
  obtain ⟨d', hset, hready⟩ :=
    set_unwritable isRooted_homeOfDisk keeps_timeoutDisk (by decide) writeValue_delete
  have hcontent : timeoutContent.isEmpty = false := by decide
  refine ⟨_, d', hset, fun hsame => ?_⟩
  rw [hready.entry?_file, isReady_timeoutDisk.entry?_file] at hsame
  rw [← (Entry.file.inj (Option.some.inj hsame)).1] at hcontent
  cases hcontent

/-- A failed set that empties the file leaves it there. -/
theorem set_error_delete :
    ∃ d', homeOfDisk.IsRooted ∧ timeoutDisk.root.isFolder = true ∧
      set timeoutDisk homeOfDisk Setting.extraIgnores.key ['\x7f'] = (.error (.writing .cutShort), d') ∧
      homeOfDisk.Opens timeoutDisk ∧
      ∃ new access, Intends timeoutDisk homeOfDisk Setting.extraIgnores.key ['\x7f'] new ∧
        d'.entry? homeOfDisk.file = .ok (.file [] access) ∧
        ((d'.entry? homeOfDisk.file).toOption = (timeoutDisk.entry? homeOfDisk.file).toOption ↔
          ∃ before, timeoutDisk.entry? homeOfDisk.file = .ok (.file [] before)) := by
  obtain ⟨d', hset, -⟩ := set_unwritable isRooted_homeOfDisk keeps_timeoutDisk (by decide) writeValue_delete
  have hopens := isReady_timeoutDisk.opens isRooted_homeOfDisk
  obtain ⟨-, hlate⟩ := set_error isRooted_homeOfDisk rfl hset
  obtain ⟨new, left, access, hintends, hentry, hsame, hleft⟩ := hlate ⟨hopens, rfl⟩
  obtain rfl : left = [] := by
    split at hleft
    · exact hleft.2
    · cases hleft.1
  exact ⟨d', isRooted_homeOfDisk, rfl, hset, hopens, new, access, hintends, hentry, hsame⟩

end Settings

end ImportChart
