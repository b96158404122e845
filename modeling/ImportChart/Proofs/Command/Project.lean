import ImportChart.Proofs.Command.Effect
import ImportChart.Proofs.Tree.Resolved

/-!
# The folder of a project

- `IsProject`: a path leads to a folder into which a diagram and a page can be written;
- `IsProject.locate`: the places of the two files; `exists_write_flow` and `exists_write_page` write them, the page if
  it can be opened;
- `IsProject.of_changedAt`: the folder stays one when its diagram is written;
- `ends_existingFolder`: a command finds the folder.
-/

namespace ImportChart.Command

open Disk (ChangedAt placeAt)
open Path (IsRoot IsComponent rooted)

variable {d d' : Disk} {path folder name : Text} {above : List Text}

/-- A path leads to a folder into which a diagram and a page can be written. -/
structure IsProject (d : Disk) (path folder : Text) (above : List Text) : Prop where
  root : d.root.IsFolderAt []
  /-- The folder is the path with its links resolved. -/
  resolve : d.resolve path = .ok folder
  /-- It may be changed, and there is room for every file in it. -/
  found : ∃ entries access, d.place? folder = .ok (.occupied above (.folder entries access)) ∧
    access.write = true ∧ access.search = true ∧ access.room = none
  /-- If there is a page, it is a plain file, and there is room in it. -/
  page : ∀ e, d.root.get? (above ++ [Scan.pageFile]) = some e → ∃ content access, e = .file content access ∧
    access.room = none
  short : (Utf8.encode (Path.under folder Scan.pageFile)).length ≤ Disk.maxPathBytes
  /-- Nothing in the path begins a tag. -/
  untagged : '[' ∉ folder

/-- The folder has a page, whatever else is in it. -/
def HasPage (d : Disk) (folder page : Text) : Prop :=
  ∃ access, d.entry? (Path.under folder Scan.pageFile) = .ok (.file (Utf8.encode page) access)

/-- The page of a folder can be opened to be written. A page that is there may be protected from that. -/
def OpensPage (d : Disk) (folder : Text) : Prop :=
  ∃ opened, d.openToWrite (Path.under folder Scan.pageFile) = .ok opened

theorem isEntryName_of_mem (h : name ∈ [Scan.flowFile, Scan.pageFile]) : IsEntryName name := by
  have hall : ∀ name ∈ [Scan.flowFile, Scan.pageFile], IsEntryName name := by decide
  exact hall name h

namespace IsProject

/-- The folder is a rooted path, and what is under it is one component longer. -/
theorem exists_rooted (h : IsProject d path folder above) :
    ∃ cs, (∀ c ∈ cs, IsComponent c) ∧ folder = rooted "/" cs ∧
      ∀ {name}, IsComponent name → Path.under folder name = rooted "/" (cs ++ [name]) := by
  obtain ⟨cs, hcs, rfl⟩ := Disk.exists_rooted_of_resolve h.resolve
  exact ⟨cs, hcs, rfl, fun hname => Path.under_rooted (Or.inl rfl) hcs hname⟩

/-- The path of the diagram is no longer than that of the page. -/
theorem length_under_le (h : IsProject d path folder above) (hname : name ∈ [Scan.flowFile, Scan.pageFile]) :
    (Utf8.encode (Path.under folder name)).length ≤ Disk.maxPathBytes := by
  obtain ⟨cs, -, -, hunder⟩ := h.exists_rooted
  have hpage : IsEntryName Scan.pageFile := isEntryName_of_mem (List.mem_cons_of_mem _ List.mem_cons_self)
  have hlength : (Utf8.encode name).length ≤ (Utf8.encode Scan.pageFile).length := by
    have hall : ∀ name ∈ [Scan.flowFile, Scan.pageFile],
        (Utf8.encode name).length ≤ (Utf8.encode Scan.pageFile).length := by decide
    exact hall name hname
  have hshort := h.short
  rw [hunder hpage.1, Path.rooted_concat, Utf8.encode, List.flatMap_append, List.length_append] at hshort
  rw [hunder (isEntryName_of_mem hname).1, Path.rooted_concat, Utf8.encode, List.flatMap_append, List.length_append]
  exact Nat.le_trans (Nat.add_le_add_left hlength _) hshort

/-- **The place of a file in the folder**, if its name is not that of a link. -/
theorem locate {making : Bool} (h : IsProject d path folder above) (hname : name ∈ [Scan.flowFile, Scan.pageFile])
    (hlink : ∀ l, d.root.get? (above ++ [name]) ≠ some (.link l)) :
    d.locate making (Path.under folder name) = .ok (placeAt d.root (above ++ [name])) := by
  obtain ⟨cs, hcs, hfolder, hunder⟩ := h.exists_rooted
  obtain ⟨entries, access, hplace, -, hsearch, -⟩ := h.found
  have hshort := h.length_under_le hname
  have hentry := isEntryName_of_mem hname
  rw [hunder hentry.1] at hshort ⊢
  rw [hfolder] at hplace
  exact Disk.locate_name (Or.inl rfl) hcs hentry hshort h.root hplace hsearch hlink

/-- The path of the page has nothing that begins a tag, either. -/
theorem untagged_page (h : IsProject d path folder above) : '[' ∉ Path.under folder Scan.pageFile := by
  obtain ⟨cs, -, hfolder, hunder⟩ := h.exists_rooted
  have hpage : IsEntryName Scan.pageFile := isEntryName_of_mem (List.mem_cons_of_mem _ List.mem_cons_self)
  rw [hunder hpage.1]
  intro hmem
  rcases Path.mem_rooted_append hmem with hmem | hmem | ⟨c, hc, hmem⟩
  · exact h.untagged (hfolder ▸ hmem)
  · exact absurd hmem (by decide)
  · rw [List.mem_singleton.mp hc] at hmem
    exact absurd hmem (by decide)

/-- The place of the page. -/
theorem locate_page {making : Bool} (h : IsProject d path folder above) :
    d.locate making (Path.under folder Scan.pageFile) = .ok (placeAt d.root (above ++ [Scan.pageFile])) := by
  refine h.locate (List.mem_cons_of_mem _ List.mem_cons_self) fun l hl => ?_
  obtain ⟨content, access, heq, -⟩ := h.page _ hl
  cases heq

/-- The rights of the folder. -/
theorem accessAt (h : IsProject d path folder above) :
    (d.root.accessAt above).write = true ∧ (d.root.accessAt above).room = none := by
  obtain ⟨entries, access, hplace, hwrite, -, hroom⟩ := h.found
  have haccess : d.root.accessAt above = access := by rw [Entry.accessAt, Disk.get?_of_locate h.root hplace]
  exact ⟨haccess ▸ hwrite, haccess ▸ hroom⟩

/-- **The page is written** if it can be opened, where nothing was or in the place of the old one. -/
theorem exists_write_page (h : IsProject d path folder above) (hopens : OpensPage d folder) (page : Text) :
    ∃ d', d.write (Path.under folder Scan.pageFile) (Utf8.encode page) = (.ok (), d') ∧ HasPage d' folder page := by
  obtain ⟨⟨names, access⟩, hopen⟩ := hopens
  have hlocate : d.locate true _ = _ := h.locate_page
  have hroom : access.room = none := by
    have hnames {place : Place} (hplace : d.locate true (Path.under folder Scan.pageFile) = .ok place) :
        place.names = above ++ [Scan.pageFile] := by
      rw [Except.ok.inj (hplace.symm.trans hlocate), Disk.names_placeAt]
    rcases Disk.openToWrite_eq_ok_iff.mp hopen with ⟨old, hplace, -⟩ | ⟨hplace, -, rfl⟩
    · obtain rfl : names = _ := hnames hplace
      obtain ⟨content, access', heq, hroom⟩ := h.page _ (Disk.get?_of_locate h.root hplace)
      rw [(Entry.file.inj heq).2]
      exact hroom
    · obtain rfl : names = _ := hnames hplace
      rw [List.dropLast_concat]
      exact h.accessAt.2
  obtain ⟨d', hwrite, hwrote⟩ :=
    Disk.exists_wrote_of_holds h.root hopen (Access.holds_of_room hroom (Utf8.encode page))
  exact ⟨d', hwrite, access, hwrote.entry?⟩

/-- Otherwise nothing is done. -/
theorem exists_write_page_error (hopens : ¬OpensPage d folder) (content : Bytes) :
    ∃ f, d.write (Path.under folder Scan.pageFile) content = (.error f, d) := by
  cases hopen : d.openToWrite (Path.under folder Scan.pageFile) with
  | ok opened => exact absurd ⟨opened, hopen⟩ hopens
  | error f => exact ⟨f, by rw [Disk.write, hopen]⟩

section

variable (h : IsProject d path folder above) (hnew : d.root.get? (above ++ [Scan.flowFile]) = none)
include h hnew

/-- Where there is no diagram, none is found. -/
theorem probe_flow : d.probe (Path.under folder Scan.flowFile) = .ok none := by
  have hplace : d.place? (Path.under folder Scan.flowFile) = .ok (placeAt d.root (above ++ [Scan.flowFile])) :=
    h.locate List.mem_cons_self (by simp [hnew])
  rw [placeAt, hnew] at hplace
  rw [Disk.probe, Disk.entry?, hplace]
  rfl

/-- **The diagram is written where nothing was**, and nothing else changes. -/
theorem exists_write_flow (content : Bytes) :
    ∃ d', d.write (Path.under folder Scan.flowFile) content = (.ok (), d') ∧ ChangedAt (above ++ [Scan.flowFile]) d d' ∧
      ChangedAt (above ++ [Scan.flowFile]) d' d ∧
      d'.root.get? (above ++ [Scan.flowFile]) = some (.file content true) ∧
      d'.entry? (Path.under folder Scan.flowFile) = .ok (.file content true) := by
  have hlocate : d.locate true _ = _ := h.locate List.mem_cons_self (by simp [hnew])
  rw [placeAt, hnew] at hlocate
  obtain ⟨hwritable, hroom⟩ := h.accessAt
  have hopen : d.openToWrite (Path.under folder Scan.flowFile) = .ok (above ++ [Scan.flowFile], true) := by
    refine Disk.openToWrite_eq_ok_iff.mpr (Or.inr ?_)
    rw [List.dropLast_concat, Access.inside, hroom]
    exact ⟨hlocate, hwritable, rfl⟩
  obtain ⟨d', hwrite, hwrote⟩ := Disk.exists_wrote_of_holds h.root hopen (Access.holds_of_room rfl content)
  have hget : d'.root.get? (above ++ [Scan.flowFile]) = some (.file content true) :=
    Disk.get?_of_locate (hwrote.changed.isFolderAt h.root) hwrote.found
  exact ⟨d', hwrite, hwrote.changed, hwrote.changed.symm (Entry.not_isFolderAt_of_get? hget (by simp)), hget,
    hwrote.entry?⟩

end

section

variable (h : IsProject d path folder above) (hchanged : ChangedAt (above ++ [Scan.flowFile]) d d')
include h hchanged

/-- The page stays what it is when the diagram is written. -/
theorem get?_page_eq : d'.root.get? (above ++ [Scan.pageFile]) = d.root.get? (above ++ [Scan.pageFile]) := by
  refine hchanged.same.get?_eq ?_ ?_
  · intro heq
    exact absurd (List.append_cancel_left heq) (by decide)
  · rintro ⟨entries, access, hget⟩
    obtain ⟨content, access', heq, -⟩ := h.page _ hget
    cases heq

variable (hback : ChangedAt (above ++ [Scan.flowFile]) d' d)
include hback

/-- **The folder stays that of a project** when its diagram is written. -/
theorem of_changedAt : IsProject d' path folder above where
  root := hchanged.isFolderAt h.root
  resolve := (hchanged.resolve_eq hback h.root path).trans h.resolve
  found := by
    obtain ⟨entries, access, hplace, hrights⟩ := h.found
    obtain ⟨entries', hplace'⟩ := hchanged.place?_folder h.root hplace
    exact ⟨entries', access, hplace', hrights⟩
  page := by
    rw [h.get?_page_eq hchanged]
    exact h.page
  short := h.short
  untagged := h.untagged

theorem entry?_page_eq : d'.entry? (Path.under folder Scan.pageFile) = d.entry? (Path.under folder Scan.pageFile) := by
  have hplace : d.place? (Path.under folder Scan.pageFile) = _ := h.locate_page
  have hplace' : d'.place? (Path.under folder Scan.pageFile) = _ := (h.of_changedAt hchanged hback).locate_page
  rw [placeAt, h.get?_page_eq hchanged, ← placeAt] at hplace'
  rw [Disk.entry?, Disk.entry?, hplace, hplace']

/-- Whether the page can be opened does not change. -/
theorem opensPage_iff : OpensPage d' folder ↔ OpensPage d folder := by
  have hlocate : d.locate true (Path.under folder Scan.pageFile) = _ := h.locate_page
  have hlocate' : d'.locate true (Path.under folder Scan.pageFile) = _ := (h.of_changedAt hchanged hback).locate_page
  have haccess : d'.root.accessAt above = d.root.accessAt above := hchanged.same.accessAt_eq (by simp)
  have hsame : d'.openToWrite (Path.under folder Scan.pageFile) = d.openToWrite (Path.under folder Scan.pageFile) := by
    rw [placeAt, h.get?_page_eq hchanged, ← placeAt] at hlocate'
    rw [Disk.openToWrite, Disk.openToWrite, hlocate, hlocate', placeAt]
    cases d.root.get? (above ++ [Scan.pageFile]) with
    | none => simp only [List.dropLast_concat, haccess]
    | some e => cases e <;> rfl
  rw [OpensPage, OpensPage, hsame]

end

end IsProject

/-- A command finds the folder of a project. -/
theorem ends_existingFolder {m : Machine} (h : IsProject m.disk path folder above) :
    Ends (existingFolder path) m folder m := by
  obtain ⟨entries, access, hplace, -⟩ := h.found
  refine (ends_disk m).bind ?_
  simp only [h.resolve, Disk.entry?_of_place? hplace]
  exact ends_pure folder m

end ImportChart.Command
