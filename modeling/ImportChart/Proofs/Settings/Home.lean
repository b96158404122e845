import ImportChart.Proofs.Tree.Files
import ImportChart.Settings.Store

/-!
# The folder of the settings

- `Home.IsRooted`: the folder of the settings is given by an absolute path without `..`;
- `Home.IsReady`: the folder is there and may be changed, and in it the file with a content, or nothing under its name;
  writing and removing the file lead from one such disk to another (`IsReady.write`, `IsReady.remove`);
- `Home.IsNew`: there is no file with settings, and there can be one.
-/

namespace ImportChart.Settings

open Path (IsRoot IsComponent rooted)

variable {d d' : Disk} {home : Home} {content : Option Bytes} {bytes : Bytes}

/-- The folder of a home is given by an absolute path without `..`. -/
def Home.IsRooted (h : Home) : Prop :=
  ∃ slashes cs, IsRoot slashes ∧ (∀ c ∈ cs, IsComponent c) ∧ h.folder = rooted slashes cs

/-- The name of the file with the settings. -/
def fileName : Text := "config.toml"

theorem isComponent_fileName : IsComponent fileName := by decide

/-- The file is in the folder. -/
theorem Home.file_eq {slashes : Text} {cs : List Text} (hs : IsRoot slashes) (hcs : ∀ c ∈ cs, IsComponent c)
    (hfolder : home.folder = rooted slashes cs) : home.file = rooted slashes (cs ++ [fileName]) := by
  rw [Home.file, hfolder]
  exact Path.under_rooted hs hcs isComponent_fileName

/-- The place of the file in a folder. -/
def placeOf (above : List Text) : Option Bytes → Place
  | none => .free (above ++ [fileName])
  | some bytes => .occupied (above ++ [fileName]) (.file bytes true)

/-- The folder is there, and in it the file with a content, or nothing under its name. The file and the folder may be
written, and there is room for every file. -/
structure Home.IsReady (home : Home) (d : Disk) (content : Option Bytes) : Prop where
  root : d.root.IsFolderAt []
  found : ∃ above entries folder, d.place? home.folder = .ok (.occupied above (.folder entries folder)) ∧
    folder.write = true ∧ folder.room = none ∧ d.locate true home.file = .ok (placeOf above content)

/-- There is no file with settings, and there can be one once its folder is made. -/
structure Home.IsNew (home : Home) (d : Disk) : Prop where
  absent : d.probe home.file = .ok none
  made : ∃ d', d.ensureFolder home.folder = (.ok (), d') ∧ home.IsReady d' none

namespace Home.IsReady

/-- The file can be opened, and there is room for every content. -/
theorem openToWrite_file (h : home.IsReady d content) : ∃ above entries folder,
    d.place? home.folder = .ok (.occupied above (.folder entries folder)) ∧ folder.write = true ∧ folder.room = none ∧
      d.openToWrite home.file = .ok (above ++ [fileName], true) := by
  obtain ⟨hroot, above, entries, folder, hplace, hwrite, hroom, hlocate⟩ := h
  have haccess : d.root.accessAt (above ++ [fileName]).dropLast = folder := by
    rw [List.dropLast_concat, Entry.accessAt, Disk.get?_of_locate hroot hplace]
  refine ⟨above, entries, folder, hplace, hwrite, hroom, Disk.openToWrite_eq_ok_iff.mpr ?_⟩
  cases content with
  | some old => exact Or.inl ⟨old, hlocate, rfl⟩
  | none => exact Or.inr ⟨hlocate, haccess ▸ hwrite, by rw [haccess, Access.inside, hroom]⟩

/-- **The file is written.** -/
theorem write (h : home.IsReady d content) (bytes : Bytes) :
    ∃ d', d.write home.file bytes = (.ok (), d') ∧ home.IsReady d' (some bytes) := by
  obtain ⟨above, entries, folder, hplace, hwrite, hroom, hopen⟩ := h.openToWrite_file
  obtain ⟨d', hwritten, hwrote⟩ := Disk.exists_wrote_of_holds h.root hopen (Access.holds_of_room rfl bytes)
  obtain ⟨entries', hplace'⟩ := hwrote.changed.place?_folder h.root hplace
  exact ⟨d', hwritten, hwrote.changed.isFolderAt h.root, above, entries', folder, hplace', hwrite, hroom, hwrote.found⟩

/-- **The file is removed.** -/
theorem remove (hhome : home.IsRooted) (h : home.IsReady d (some bytes)) :
    ∃ d', d.remove home.file = .ok d' ∧ home.IsReady d' none := by
  obtain ⟨hroot, above, entries, folder, hplace, hwrite, hroom, hlocate⟩ := h
  obtain ⟨slashes, cs, hs, hcs, hfolder⟩ := hhome
  have hfile := Home.file_eq hs hcs hfolder
  rw [hfolder] at hplace
  rw [hfile] at hlocate
  obtain ⟨d', hremove, hchanged, hlocate'⟩ :=
    Disk.remove_file hs hcs isComponent_fileName (by decide) hroot hplace hwrite hlocate
  obtain ⟨entries', hplace'⟩ := hchanged.place?_folder hroot hplace
  rw [← hfolder] at hplace'
  rw [← hfile] at hremove hlocate'
  exact ⟨d', hremove, hchanged.isFolderAt hroot, above, entries', folder, hplace', hwrite, hroom, hlocate'⟩

/-- The folder is left as it is. -/
theorem ensureFolder (hhome : home.IsRooted) (h : home.IsReady d content) :
    d.ensureFolder home.folder = (.ok (), d) := by
  obtain ⟨hroot, above, entries, folder, hplace, -⟩ := h
  obtain ⟨slashes, cs, hs, hcs, hfolder⟩ := hhome
  have hentry : d.entry? home.folder = .ok (.folder entries folder) := by rw [Disk.entry?, hplace]
  rw [hfolder] at hentry ⊢
  exact Disk.ensureFolder_of_folder hs hcs hroot hentry

theorem probe_none (h : home.IsReady d none) : d.probe home.file = .ok none := by
  obtain ⟨-, above, entries, folder, -, -, -, hlocate⟩ := h
  have hentry : d.entry? home.file = .error .missing := by
    rw [Disk.entry?, Disk.place?, Disk.locate_of_making hlocate]
    rfl
  rw [Disk.probe, hentry]
  rfl

theorem entry?_file (h : home.IsReady d (some bytes)) : d.entry? home.file = .ok (.file bytes true) := by
  obtain ⟨-, above, entries, folder, -, -, -, hlocate⟩ := h
  exact Disk.entry?_of_locate hlocate

theorem probe_some (h : home.IsReady d (some bytes)) : d.probe home.file = .ok (some (.file bytes true)) :=
  Disk.probe_eq_some_iff.mpr h.entry?_file

theorem read (h : home.IsReady d (some bytes)) : d.read home.file = .ok bytes :=
  Disk.read_eq_ok_iff.mpr ⟨_, h.entry?_file, rfl⟩

/-- Where there is no file, there can be one. -/
theorem isNew (hhome : home.IsRooted) (h : home.IsReady d none) : home.IsNew d :=
  ⟨h.probe_none, d, h.ensureFolder hhome, h⟩

end Home.IsReady

/-! ## A disk with a home -/

/-- The entries of a folder with a file of settings or nothing. -/
def homeEntries (content : Option Bytes) : List (Text × Entry) :=
  content.toList.map fun bytes => (fileName, .file bytes true)

/-- A disk with a folder for settings, and in it the file with a content or nothing. -/
def homeDisk (content : Option Bytes) : Disk := ⟨.folder [("home", .folder (homeEntries content) true)] true, "/"⟩

/-- The folder of `homeDisk`. -/
def homeOfDisk : Home := ⟨"/home"⟩

theorem isRooted_homeOfDisk : homeOfDisk.IsRooted := ⟨"/", ["home"], Or.inl rfl, by decide, rfl⟩

theorem isReady_homeDisk (content : Option Bytes) : homeOfDisk.IsReady (homeDisk content) content := by
  have hs : IsRoot "/" := Or.inl rfl
  have hhome : Disk.follow (homeDisk content).root false Disk.maxLinks [] ["home"] =
      .ok (.occupied ["home"] (.folder (homeEntries content) true)) :=
    Disk.follow_last rfl (Disk.stays_eq_false (by decide)) (by decide) (by decide) (by rintro l ⟨⟩)
  have hplace : (homeDisk content).place? homeOfDisk.folder =
      .ok (.occupied ["home"] (.folder (homeEntries content) true)) := by
    have hcs : ∀ c ∈ (["home"] : List Text), IsComponent c := by decide
    exact (Disk.place?_rooted hs hcs (by decide) (by decide)).trans hhome
  have hlocate : (homeDisk content).locate true homeOfDisk.file = .ok (placeOf ["home"] content) := by
    have hcs : ∀ c ∈ ([("home" : Text), fileName] : List Text), IsComponent c := by decide
    obtain ⟨-, links, hbelow⟩ := Disk.follow_append hhome
    refine (Disk.locate_rooted hs hcs).trans ?_
    rw [if_neg (by decide), if_neg (by decide)]
    refine (hbelow true [fileName] (by decide)).trans ?_
    rw [Disk.follow_last rfl (Disk.stays_eq_false isComponent_fileName) (by decide) (by decide)]
    · cases content <;> rfl
    · intro l
      cases content <;> rintro ⟨⟩
  exact ⟨⟨_, _, rfl⟩, ["home"], _, true, hplace, rfl, rfl, hlocate⟩

end ImportChart.Settings
