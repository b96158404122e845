import ImportChart.Proofs.Scan.Walk
import ImportChart.Proofs.Tree.Glance

/-!
# Files that a scan does not see

A scan passes over the files that are written into the scanned folder. Whether they are there, and what is in them,
makes no difference to it.

- `collectFile_congr`, `walk_congr`: what a walk collects depends on what looks at its paths show;
- `ScannedAlike`: two disks are the same for a scan, and for every path that does not lead to one of the files;
- `IsScanned.withoutFile`: taking away one of the files leaves the disk the same for a scan, and so does taking away all
  of them (`IsScanned.withoutFiles`);
- `scannedAlike_of_withoutFiles`: hence disks are the same for a scan that differ in these files only.
-/

namespace ImportChart.Scan

open Path (IsRoot IsComponent rooted)

variable {d d' : Disk} {policy : Policy} {path folder prefixName name slashes : Text} {above cs names : List Text}
  {t e : Entry} {entries entries' : List (Text × Entry)} {access : Access}

/-! ## One entry -/

theorem isSubfolder_eq_isFolder (he : e.Unlinked) (d : Disk) (path : Text) : isSubfolder d path e = e.isFolder := by
  cases he <;> rfl

/-- What an entry contributes, read off a look at its path. -/
theorem collectFile_eq_glance (he : e.Unlinked) : collectFile d policy folder prefixName name e =
    if e.isFolder || policy.ignores (entryName prefixName name) false || !policy.reads name then .ok {}
    else
      match d.glance (entryPath folder name) with
      | .error cause => if cause.isFault then .error ⟨cause, entryPath folder name⟩ else .ok {}
      | .ok (.file content access) =>
        match if access.read then Utf8.readText content else none with
        | some t => .ok { files := [⟨entryPath folder name, entryName prefixName name, t, (Text.lines t).length⟩] }
        | none => .ok { skipped := [entryPath folder name] }
      | _ => .ok {} := by
  simp only [collectFile, isSubfolder_eq_isFolder he]
  split
  · rfl
  · unfold Disk.probe readRecord Disk.read Disk.entry? Disk.glance
    cases d.place? (entryPath folder name) with
    | error cause =>
      cases cause with
      | denied => cases ‹Refusal› <;> rfl
      | _ => rfl
    | ok place =>
      cases place with
      | free => rfl
      | occupied names e =>
        cases e with
        | file content access =>
          dsimp only [Entry.surface]
          cases access.read with
          | false => rfl
          | true => cases htext : Utf8.readText content <;> simp [htext]
        | link => rfl
        | folder => rfl

/-- What an entry contributes depends on what a look at its path shows. -/
theorem collectFile_congr (he : e.Unlinked)
    (h : d'.glance (entryPath folder name) = d.glance (entryPath folder name)) :
    collectFile d' policy folder prefixName name e = collectFile d policy folder prefixName name e := by
  rw [collectFile_eq_glance he, collectFile_eq_glance he, h]

theorem lists_congr (h : d'.glance path = d.glance path) : d'.lists path = d.lists path := by
  rw [Disk.lists_eq_glance, Disk.lists_eq_glance, h]

theorem collectFiles_congr
    (h : ∀ p ∈ entries,
      collectFile d' policy folder prefixName p.1 p.2 = collectFile d policy folder prefixName p.1 p.2) :
    collectFiles d' policy folder prefixName entries = collectFiles d policy folder prefixName entries := by
  induction entries with
  | nil => rfl
  | cons p entries ih =>
    obtain ⟨hp, hentries⟩ := List.forall_mem_cons.mp h
    rw [collectFiles, collectFiles, hp, ih hentries]

theorem walkSubfolders_congr
    (h : ∀ p ∈ entries, walk d' policy (entryPath folder p.1) (entryName prefixName p.1) p.2 =
      walk d policy (entryPath folder p.1) (entryName prefixName p.1) p.2) :
    walkSubfolders d' policy folder prefixName entries = walkSubfolders d policy folder prefixName entries := by
  induction entries with
  | nil => rfl
  | cons p entries ih =>
    obtain ⟨hp, hentries⟩ := List.forall_mem_cons.mp h
    rw [walkSubfolders_cons, walkSubfolders_cons, hp, ih hentries]

/-- **What a walk collects depends on what the looks at the paths below its folder show**, if there are no links. -/
theorem walk_congr (ht : t.Proper) (hlinks : t.Unlinked)
    (h : ∀ names, (∀ c ∈ names, IsComponent c) → d'.glance (pathOf folder names) = d.glance (pathOf folder names)) :
    walk d' policy folder prefixName t = walk d policy folder prefixName t := by
  induction ht generalizing folder prefixName with
  | file => rfl
  | link => rfl
  | @folder entries access hnames _ _ ih =>
    have hbelow := Entry.unlinked_of_folder hlinks
    have hlists : d'.lists folder = d.lists folder := lists_congr (h [] (List.forall_mem_nil _))
    have hfiles : ∀ p ∈ entries,
        collectFile d' policy folder prefixName p.1 p.2 = collectFile d policy folder prefixName p.1 p.2 := by
      intro p hp
      exact collectFile_congr (hbelow p hp) (h [p.1] (List.forall_mem_singleton.mpr (hnames p hp).1))
    have hwalk : ∀ p ∈ entries, walk d' policy (entryPath folder p.1) (entryName prefixName p.1) p.2 =
        walk d policy (entryPath folder p.1) (entryName prefixName p.1) p.2 := by
      intro p hp
      refine ih p hp (hbelow p hp) fun names hcomponents => ?_
      exact h (p.1 :: names) (List.forall_mem_cons.mpr ⟨(hnames p hp).1, hcomponents⟩)
    rw [walk, walk, hlists, collectFiles_congr hfiles, walkSubfolders_congr hwalk]

/-! ## Entries that are passed over -/

/-- An entry that contributes nothing as a file can be taken away. -/
theorem collectFiles_filter
    (h : ∀ p ∈ entries, p.1 = name → collectFile d policy folder prefixName p.1 p.2 = .ok {}) :
    collectFiles d policy folder prefixName (entries.filter (·.1 ≠ name)) =
      collectFiles d policy folder prefixName entries := by
  induction entries with
  | nil => rfl
  | cons p entries ih =>
    obtain ⟨hp, hentries⟩ := List.forall_mem_cons.mp h
    by_cases hname : p.1 = name
    · rw [List.filter_cons_of_neg (by simpa using hname), ih hentries, collectFiles, hp hname]
      cases collectFiles d policy folder prefixName entries <;> rfl
    · rw [List.filter_cons_of_pos (by simpa using hname), collectFiles, collectFiles, ih hentries]

/-- A file contributes no subfolder. -/
theorem walkSubfolders_filter (h : ∀ p ∈ entries, p.1 = name → p.2.isFolder = false) :
    walkSubfolders d policy folder prefixName (entries.filter (·.1 ≠ name)) =
      walkSubfolders d policy folder prefixName entries := by
  induction entries with
  | nil => rfl
  | cons p entries ih =>
    obtain ⟨hp, hentries⟩ := List.forall_mem_cons.mp h
    by_cases hname : p.1 = name
    · rw [List.filter_cons_of_neg (by simpa using hname), ih hentries, walkSubfolders_cons, hp hname]
      cases walkSubfolders d policy folder prefixName entries <;> rfl
    · rw [List.filter_cons_of_pos (by simpa using hname), walkSubfolders_cons, walkSubfolders_cons, ih hentries]

/-- A name of a file that is left out in the scanned folder is left out there. -/
theorem ignores_rootFile (h : name ∈ policy.rootFiles) : policy.ignores (entryName [] name) false = true := by
  have hname : entryName [] name = name := rfl
  simp [Policy.ignores, Policy.ignoresName, hname, h]

/-! ## The scanned folder -/

/-- A path leads to a folder to be scanned, which names lead to and in which there are no links. -/
structure IsScanned (d : Disk) (path : Text) (above : List Text) : Prop where
  here : Path.isAbsolute d.here = true
  root : d.root.isFolder = true
  folder : ∃ entries access,
    d.place? (Path.absolute d.here path) = .ok (.occupied above (.folder entries access)) ∧
      (Entry.folder entries access).Proper ∧ (Entry.folder entries access).Unlinked

/-- The disk without a file that names lead to, or the same disk if there is no such file. -/
def withoutFile (d : Disk) (names : List Text) : Disk :=
  match d.root.get? names with
  | some (.file _ _) => { d with root := d.root.erase names }
  | _ => d

/-- Two disks are the same for a scan of a folder, but for what is at the given names in it. -/
structure ScannedAlike (path : Text) (policy : Policy) (above : List Text) (outputs : List Text) (d d' : Disk) :
    Prop where
  here : d'.here = d.here
  resolve : ∀ p, d'.resolve p = d.resolve p
  collect : collect d' path policy = collect d path policy
  leadsAt : ∀ p names, d'.LeadsAt p names ↔ d.LeadsAt p names
  isFile : ∀ p, (∀ name ∈ outputs, ¬d.LeadsAt p (above ++ [name])) → d'.isFile p = d.isFile p

namespace ScannedAlike

variable {outputs : List Text} {d'' : Disk}

theorem refl (path : Text) (policy : Policy) (above outputs : List Text) (d : Disk) :
    ScannedAlike path policy above outputs d d :=
  ⟨rfl, fun _ => rfl, rfl, fun _ _ => Iff.rfl, fun _ _ => rfl⟩

theorem symm (h : ScannedAlike path policy above outputs d d') : ScannedAlike path policy above outputs d' d where
  here := h.here.symm
  resolve p := (h.resolve p).symm
  collect := h.collect.symm
  leadsAt p names := (h.leadsAt p names).symm
  isFile p hp := (h.isFile p fun name hname hleads => hp name hname ((h.leadsAt p _).mpr hleads)).symm

theorem trans (h : ScannedAlike path policy above outputs d d') (h' : ScannedAlike path policy above outputs d' d'') :
    ScannedAlike path policy above outputs d d'' where
  here := h'.here.trans h.here
  resolve p := (h'.resolve p).trans (h.resolve p)
  collect := h'.collect.trans h.collect
  leadsAt p names := (h'.leadsAt p names).trans (h.leadsAt p names)
  isFile p hp :=
    (h'.isFile p fun name hname hleads => hp name hname ((h.leadsAt p _).mp hleads)).trans (h.isFile p hp)

theorem mono (h : ScannedAlike path policy above outputs d d') {more : List Text}
    (hmore : ∀ name ∈ outputs, name ∈ more) : ScannedAlike path policy above more d d' :=
  { h with isFile := fun p hp => h.isFile p fun name hname => hp name (hmore name hname) }

end ScannedAlike

/-! ## One file taken away -/

/-- A look at a path below the folder shows the same after a file directly in it is taken away, but for the path of this
file. -/
theorem glance_below {d' : Disk} (hs : IsRoot slashes) (hcs : ∀ c ∈ cs, IsComponent c) (hroot : d.root.IsFolderAt [])
    (hplace : d.place? (rooted slashes cs) = .ok (.occupied above (.folder entries access)))
    (hlinks : (Entry.folder entries access).Unlinked) (hchanged : Disk.ChangedAt (above ++ [name]) d d')
    (hback : Disk.ChangedAt (above ++ [name]) d' d) (hnames : ∀ c ∈ names, IsComponent c) (hne : names ≠ [name]) :
    d'.glance (pathOf (rooted slashes cs) names) = d.glance (pathOf (rooted slashes cs) names) := by
  have hget := Disk.get?_of_locate hroot hplace
  have hpath : pathOf (rooted slashes cs) names = rooted slashes (cs ++ names) := Path.foldl_join_rooted hs hnames hcs
  rw [hpath]
  refine hchanged.glance_eq hback hroot ?_
  rintro ⟨place, hbelow, hplaceNames⟩
  rw [Disk.names_of_place?_append hs hcs hnames hplace hget hlinks hbelow] at hplaceNames
  exact hne (List.append_cancel_left hplaceNames)

/-- A walk passes over a file that is left out by its place. -/
theorem walk_filter {folder : Text} (ht : (Entry.folder entries access).Proper)
    (hlinks : (Entry.folder entries access).Unlinked) (hpolicy : name ∈ policy.rootFiles)
    (hfile : ∀ p ∈ entries, p.1 = name → p.2.isFolder = false)
    (hglance : ∀ names, names ≠ [name] → (∀ c ∈ names, IsComponent c) →
      d'.glance (pathOf folder names) = d.glance (pathOf folder names)) :
    walk d' policy folder [] (.folder (entries.filter (·.1 ≠ name)) access) =
      walk d policy folder [] (.folder entries access) := by
  have hbelow := Entry.unlinked_of_folder hlinks
  obtain ⟨hcomponents, hproper⟩ : (∀ p ∈ entries, IsComponent p.1) ∧ ∀ p ∈ entries, p.2.Proper := by
    cases ht with
    | folder hnames _ hproper => exact ⟨fun p hp => (hnames p hp).1, hproper⟩
  have hlists : d'.lists folder = d.lists folder :=
    lists_congr (hglance [] (List.cons_ne_nil _ _).symm (List.forall_mem_nil _))
  have hskipped : ∀ p ∈ entries, p.1 = name → collectFile d policy folder [] p.1 p.2 = .ok {} := by
    intro p hp hname
    rw [collectFile_eq_glance (hbelow p hp), hname, ignores_rootFile hpolicy]
    simp
  have hothers : ∀ p ∈ entries.filter (·.1 ≠ name), p ∈ entries ∧ ∀ rest, p.1 :: rest ≠ [name] := by
    intro p hp
    obtain ⟨hp, hname⟩ := List.mem_filter.mp hp
    exact ⟨hp, fun rest heq => of_decide_eq_true hname (List.cons.inj heq).1⟩
  have hfiles : ∀ p ∈ entries.filter (·.1 ≠ name),
      collectFile d' policy folder [] p.1 p.2 = collectFile d policy folder [] p.1 p.2 := by
    intro p hp
    obtain ⟨hp, hne⟩ := hothers p hp
    exact collectFile_congr (hbelow p hp)
      (hglance [p.1] (hne []) (List.forall_mem_singleton.mpr (hcomponents p hp)))
  have hwalk : ∀ p ∈ entries.filter (·.1 ≠ name), walk d' policy (entryPath folder p.1) (entryName [] p.1) p.2 =
      walk d policy (entryPath folder p.1) (entryName [] p.1) p.2 := by
    intro p hp
    obtain ⟨hp, hne⟩ := hothers p hp
    refine walk_congr (hproper p hp) (hbelow p hp) fun names hnames => ?_
    exact hglance (p.1 :: names) (hne names) (List.forall_mem_cons.mpr ⟨hcomponents p hp, hnames⟩)
  rw [walk, walk, hlists, ← collectFiles_filter hskipped, ← walkSubfolders_filter hfile, collectFiles_congr hfiles,
    walkSubfolders_congr hwalk]

theorem collect_of_place? {d : Disk} {path : Text}
    (h : d.place? (Path.absolute d.here path) = .ok (.occupied above (.folder entries access))) :
    collect d path policy =
      (walk d policy (Path.absolute d.here path) [] (.folder entries access)).mapError .fault := by
  have hprobe : d.probe (Path.absolute d.here path) = .ok (some (.folder entries access)) :=
    Disk.probe_eq_some_iff.mpr (Disk.entry?_of_place? h)
  simp only [collect, hprobe]
  cases walk d policy (Path.absolute d.here path) [] (.folder entries access) <;> rfl

/-- What a name in a folder leads to is the only entry with this name. -/
theorem eq_of_get?_concat {root : Entry} (hproper : (Entry.folder entries access).Proper)
    (habove : root.get? above = some (.folder entries access)) (hget : root.get? (above ++ [name]) = some e) :
    ∀ p ∈ entries, p.1 = name → p.2 = e := by
  intro p hp hname
  have hchild : Entry.find? name entries = some e := by
    rw [Entry.get?_append, habove] at hget
    simpa [Entry.get?, Entry.child?] using hget
  cases hproper with
  | folder _ hordered _ =>
    have hfind : Entry.find? p.1 entries = some p.2 := Entry.find?_eq_some_of_mem hordered hp
    rw [hname, hchild] at hfind
    exact (Option.some.inj hfind).symm

/-- **A scan does not see that a file is taken away** that is left out by its place, and no path shows it but those that
lead to it. -/
theorem IsScanned.withoutFile (h : IsScanned d path above) (hpolicy : name ∈ policy.rootFiles) :
    IsScanned (withoutFile d (above ++ [name])) path above ∧
      ScannedAlike path policy above [name] d (withoutFile d (above ++ [name])) := by
  unfold Scan.withoutFile
  split
  · next content _ hget =>
    obtain ⟨hhere, hfolder, entries, access, hplace, hproper, hlinks⟩ := h
    have hroot := Entry.isFolderAt_nil hfolder
    have habove := Disk.get?_of_locate hroot hplace
    have hfile : ∀ p ∈ entries, p.1 = name → p.2.isFolder = false := by
      intro p hp hname
      rw [eq_of_get?_concat hproper habove hget p hp hname]
      rfl
    have hchanged := Disk.changedAt_erase hget
    have hback := hchanged.symm (Entry.not_isFolderAt_of_get? (Entry.get?_erase_self ⟨_, _, habove⟩ name) (by simp))
    have hkept := Entry.get?_erase_above habove name
    generalize d.root.erase (above ++ [name]) = root' at hchanged hback hkept ⊢
    have hroot' := hchanged.isFolderAt hroot
    have hplace' := hchanged.locate hroot hplace
    rw [Disk.placeAt, Place.names, hkept] at hplace'
    refine ⟨⟨hhere, ?_, _, _, hplace', hproper.filter _, hlinks.filter _⟩, rfl, ?_, ?_, ?_, ?_⟩
    · obtain ⟨_, _, hfolder'⟩ := hroot'
      rw [Option.some.inj hfolder']
      rfl
    · exact hchanged.resolve_eq hback hroot
    · obtain ⟨slashes, cs, hs, hcs, hpath⟩ := Path.exists_rooted hhere path
      rw [collect_of_place? hplace', collect_of_place? hplace]
      rw [hpath] at hplace ⊢
      rw [walk_filter hproper hlinks hpolicy hfile fun names hne hnames =>
        glance_below hs hcs hroot hplace hlinks hchanged hback hnames hne]
    · exact fun p names => ⟨hback.leadsAt hroot', hchanged.leadsAt hroot⟩
    · intro p hp
      rw [Disk.isFile_eq_glance, Disk.isFile_eq_glance, hchanged.glance_eq hback hroot (hp name List.mem_cons_self)]
  · exact ⟨h, .refl _ _ _ _ _⟩

/-! ## All files taken away -/

/-- The disk without the files of the given names in a folder. -/
def withoutFiles (d : Disk) (above outputs : List Text) : Disk :=
  outputs.foldl (fun d name => withoutFile d (above ++ [name])) d

/-- A scan does not see that files are taken away that are left out by their places. -/
theorem IsScanned.withoutFiles {outputs : List Text} (h : IsScanned d path above)
    (hpolicy : ∀ name ∈ outputs, name ∈ policy.rootFiles) :
    ScannedAlike path policy above outputs d (withoutFiles d above outputs) := by
  induction outputs generalizing d with
  | nil => exact .refl _ _ _ _ _
  | cons name outputs ih =>
    obtain ⟨hname, hpolicy⟩ := List.forall_mem_cons.mp hpolicy
    obtain ⟨hstep, halike⟩ := h.withoutFile hname
    have hfirst : ScannedAlike path policy above (name :: outputs) d (Scan.withoutFile d (above ++ [name])) :=
      halike.mono fun other hother => List.mem_cons.mpr (Or.inl (List.mem_singleton.mp hother))
    exact hfirst.trans ((ih hstep hpolicy).mono fun other hother => List.mem_cons_of_mem name hother)

/-- **Disks are the same for a scan if they are the same once the files are taken away** that are left out by their
places. -/
theorem scannedAlike_of_withoutFiles {outputs : List Text} (h : IsScanned d path above) (h' : IsScanned d' path above)
    (hpolicy : ∀ name ∈ outputs, name ∈ policy.rootFiles)
    (hsame : withoutFiles d' above outputs = withoutFiles d above outputs) :
    ScannedAlike path policy above outputs d d' := by
  have hd' := h'.withoutFiles hpolicy
  rw [hsame] at hd'
  exact (h.withoutFiles hpolicy).trans hd'.symm

end ImportChart.Scan
