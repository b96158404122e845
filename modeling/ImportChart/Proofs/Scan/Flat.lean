import ImportChart.Proofs.Scan.Walk
import ImportChart.Proofs.Text.Utf8

/-!
# A scan collects the files that a flat filter finds

`collect_eq_filter` says how a scan ends without a word about the walk. Everything that the policy keeps is asked for by
its path. If all of it is answered, the scan finds the files below the folder whose own paths the policy keeps, from the
top and each of them once; if not, it breaks off with the fault.

- `Scannable`: the folders that can be scanned, with what a file system holds to;
- `IsRegular`: files, and links to files;
- `FlatScan`: what a scan finds, and what becomes of it;
- `Answered`: everything that is asked for is answered, which is exactly when a scan ends with files
  (`exists_collect_eq_ok_iff`);
- `Scanned`: both ways to end.
-/

namespace ImportChart.Scan

open Path (IsRoot IsComponent joinComponents rooted)

variable {d : Disk} {policy : Policy} {root slashes : Text} {cs names : List Text} {c : Collection} {tree e : Entry}

/-- A folder of the disk at a path, with names such as a file system holds. -/
structure Scannable (d : Disk) (root : Text) (tree : Entry) : Prop where
  /-- The current folder is known by its full path. -/
  here : Path.isAbsolute d.here = true
  leads : d.entry? (Path.absolute d.here root) = .ok tree
  isFolder : tree.isFolder = true
  proper : tree.Proper

/-- Whether an entry is a regular file, a link being what it leads to. -/
def IsRegular (d : Disk) (path : Text) : Entry → Prop
  | .file _ _ => True
  | .link _ => d.isFile path = true
  | .folder _ _ => False

/-- What a scan of a tree finds, as a filter of all that is there: `found` are the names that lead, through real folders
that can be listed, to a regular file whose own path the policy keeps. They come from the top, each folder's files
before its subfolders, and each of them once. Every one of them has its record if its bytes can be read and are those
of a text, and is skipped otherwise. -/
structure FlatScan (d : Disk) (policy : Policy) (root : Text) (tree : Entry) (found : List (List Text))
    (c : Collection) : Prop extends Gathers d root found c where
  mem_iff : ∀ names, names ∈ found ↔
    ∃ e, d.Reaches root tree names e ∧ IsRegular d (pathOf root names) e ∧ policy.Keeps names
  ordered : found.Pairwise Before
  nodup : found.Nodup
  /-- A file has a record if it can be read and its bytes are a text. -/
  isSome_record_iff : ∀ names, (record d root names).isSome = true ↔
    ∃ text, d.read (pathOf root names) = .ok (Utf8.encode text)
  /-- What is read of a file of the tree is its own content. -/
  read_eq : ∀ names ∈ found, ∀ content access, d.Reaches root tree names (.file content access) →
    d.read (pathOf root names) = if access.read then .ok content else .error ⟨.noRight, pathOf root names⟩

/-- Whatever is reached and the policy keeps, it is no fault to ask for it by its path. -/
def Answered (d : Disk) (policy : Policy) (root : Text) (tree : Entry) : Prop :=
  ∀ names e, d.Reaches root tree names e → policy.Keeps names → ∃ found, d.probe (pathOf root names) = .ok found

/-- How the scan of a tree ends. -/
inductive Scanned (d : Disk) (policy : Policy) (root : Text) (tree : Entry) : Except ScanError Collection → Prop
  | ok {c : Collection} {found : List (List Text)} (answered : Answered d policy root tree)
      (flat : FlatScan d policy root tree found c) : Scanned d policy root tree (.ok c)
  /-- Something that the policy keeps cannot be asked for, as a right is missing or its path is too long. -/
  | fault {names : List Text} {e : Entry} {cause : Cause} (reach : d.Reaches root tree names e)
      (keeps : policy.Keeps names) (fault : d.entry? (pathOf root names) = .error cause)
      (isFault : cause.isFault = true) : Scanned d policy root tree (.error (.fault ⟨cause, pathOf root names⟩))

/-- A file has a record if it can be read and its bytes are those of a text. -/
theorem isSome_record_iff (d : Disk) (root : Text) (names : List Text) :
    (record d root names).isSome = true ↔ ∃ text, d.read (pathOf root names) = .ok (Utf8.encode text) := by
  rw [record]
  split
  · next content hread =>
    rw [hread, Option.isSome_map, Utf8.readText, Option.isSome_map, Option.isSome_iff_exists]
    constructor
    · rintro ⟨text, htext⟩
      exact ⟨text, by rw [Utf8.decode_eq_some_iff.mp htext]⟩
    · rintro ⟨text, htext⟩
      exact ⟨text, Utf8.decode_eq_some_iff.mpr (Except.ok.inj htext).symm⟩
  · next fault hread => simp [hread]

/-- A walk asks for all that the policy keeps, but for links to folders, which are no fault. -/
theorem answered_iff (ht : tree.Proper) : Answered d policy root tree ↔
    ∀ q ∈ d.leaves root tree, Asked d policy root q → ∃ found, d.probe (pathOf root q.1) = .ok found := by
  constructor
  · intro h q hq hasked
    exact h q.1 q.2 ((Disk.mem_leaves_iff ht).mp hq) hasked.2
  · intro h names e hreach hkeeps
    cases hsub : isSubfolder d (pathOf root names) e with
    | false => exact h (names, e) ((Disk.mem_leaves_iff ht).mpr hreach) ⟨hsub, hkeeps⟩
    | true =>
      cases e with
      | folder => cases hreach.isFolder_eq_false
      | file => cases hsub
      | link target =>
        rw [isSubfolder] at hsub
        split at hsub
        · next hentry => exact ⟨_, Disk.probe_eq_some_iff.mpr hentry⟩
        · cases hsub

namespace Scannable

theorem exists_eq_folder (h : Scannable d root tree) : ∃ entries access, tree = .folder entries access := by
  have hfolder := h.isFolder
  cases tree <;> simp [Entry.isFolder] at hfolder ⊢

/-- A scan is a walk of the folder. -/
theorem collect_eq (h : Scannable d root tree) (policy : Policy) : collect d root policy =
    match walk d policy (pathOf (Path.absolute d.here root) []) (joinComponents []) tree with
    | .ok c => .ok c
    | .error f => .error (.fault f) := by
  obtain ⟨entries, access, rfl⟩ := h.exists_eq_folder
  simp only [collect, Disk.probe_eq_some_iff.mpr h.leads]
  rfl

/-- What a file of the tree is looked up as, if it is no fault to ask for it. -/
theorem entry?_eq {content : Bytes} {access : Access} {found : Option Entry} (h : Scannable d root tree)
    (hreach : d.Reaches (Path.absolute d.here root) tree names (.file content access))
    (hprobe : d.probe (pathOf (Path.absolute d.here root) names) = .ok found) :
    d.entry? (pathOf (Path.absolute d.here root) names) = .ok (.file content access) := by
  obtain ⟨slashes, cs, hroot, hcs, heq⟩ := Path.exists_rooted h.here root
  have hlead : d.LeadsTo slashes cs tree := ⟨hroot, hcs, heq ▸ h.leads, h.isFolder⟩
  have hnames := hreach.isEntryName h.proper
  have hpath : pathOf (Path.absolute d.here root) names = rooted slashes (cs ++ names) := by
    rw [heq]
    exact Path.foldl_join_rooted hroot (fun c hc => (hnames c hc).1) hcs
  have hlookup := hlead.lookup_file hnames hreach.ne_nil (hreach.get?_eq h.proper)
  rw [← hpath] at hlookup
  refine hlookup.resolve_right fun hfault => ?_
  obtain ⟨cause, hentry, hfault⟩ := hfault
  rw [Disk.probe_eq_error_iff.mpr ⟨cause, hentry, hfault, rfl⟩] at hprobe
  cases hprobe

/-- The names of the leaves that are picked are those of the regular files that the policy keeps. -/
theorem mem_picked_iff (h : Scannable d root tree) (hanswered : Answered d policy (Path.absolute d.here root) tree) :
    names ∈ (((d.leaves (Path.absolute d.here root) tree).map Prod.fst).filter fun names =>
        Picked d policy (Path.absolute d.here root) names) ↔
      ∃ e, d.Reaches (Path.absolute d.here root) tree names e ∧
        IsRegular d (pathOf (Path.absolute d.here root) names) e ∧ policy.Keeps names := by
  rw [List.mem_filter, List.mem_map, decide_eq_true_eq]
  constructor
  · rintro ⟨⟨⟨names, e⟩, hleaf, rfl⟩, hkeeps, hfile⟩
    have hreach := (Disk.mem_leaves_iff h.proper).mp hleaf
    refine ⟨e, hreach, ?_, hkeeps⟩
    cases e with
    | file => trivial
    | link => exact hfile
    | folder => cases hreach.isFolder_eq_false
  · rintro ⟨e, hreach, hregular, hkeeps⟩
    refine ⟨⟨(names, e), (Disk.mem_leaves_iff h.proper).mpr hreach, rfl⟩, hkeeps, ?_⟩
    cases e with
    | file content access =>
      obtain ⟨found, hprobe⟩ := hanswered names _ hreach hkeeps
      exact Disk.isFile_iff.mpr ⟨content, access, h.entry?_eq hreach hprobe⟩
    | link => exact hregular
    | folder => cases hregular

end Scannable

/-- **A scan ends with files exactly if everything that it asks for is answered.** -/
theorem exists_collect_eq_ok_iff (h : Scannable d root tree) (policy : Policy) :
    (∃ c, collect d root policy = .ok c) ↔ Answered d policy (Path.absolute d.here root) tree := by
  rw [answered_iff h.proper, ← exists_walk_eq_ok_iff h.proper, h.collect_eq]
  split
  · next hwalk => simp [hwalk]
  · next hwalk => simp [hwalk]

/-- **A scan collects what a flat filter finds**, for every tree and every policy, unless something that the policy
keeps cannot be asked for. -/
theorem collect_eq_filter (h : Scannable d root tree) (policy : Policy) :
    Scanned d policy (Path.absolute d.here root) tree (collect d root policy) := by
  have hwalked := walked_tree d policy (Path.absolute d.here root) h.proper
  rw [h.collect_eq]
  cases hwalk : walk d policy (pathOf (Path.absolute d.here root) []) (joinComponents []) tree with
  | error f =>
    rw [hwalk] at hwalked
    cases hwalked with
    | error hmem hasked hfault =>
      obtain ⟨cause, hentry, hcause, rfl⟩ := Disk.probe_eq_error_iff.mp hfault
      exact .fault ((Disk.mem_leaves_iff h.proper).mp hmem) hasked.2 hentry hcause
  | ok c =>
    rw [hwalk] at hwalked
    cases hwalked with
    | ok hasked hgathers =>
      have hanswered := (answered_iff h.proper).mpr hasked
      have hordered : ((d.leaves (Path.absolute d.here root) tree).map Prod.fst).Pairwise Before :=
        List.pairwise_map.mpr (Disk.pairwise_leaves h.proper)
      refine .ok hanswered ⟨hgathers, fun names => h.mem_picked_iff hanswered, hordered.sublist List.filter_sublist,
        (Disk.nodup_leaves h.proper).sublist List.filter_sublist, isSome_record_iff d _, ?_⟩
      intro names hnames content access hreach
      obtain ⟨-, -, -, hkeeps⟩ := (h.mem_picked_iff hanswered).mp hnames
      obtain ⟨found, hprobe⟩ := hanswered names _ hreach hkeeps
      rw [Disk.read, h.entry?_eq hreach hprobe]

/-! ## A folder of every kind of entry -/

/-- A folder with files that can be read and decoded and files that cannot, links of every kind, and subfolders. -/
def mixedFolder : Entry :=
  .folder [("a.ts", .file (Utf8.encode "import './b'\n") true), ("bad.txt", .file [0xFF] true),
    ("link.ts", .link "src/b.ts"), ("node_modules", .folder [("c.ts", .file [] true)] true),
    ("secret", .file [] false), ("src", .folder [("b.ts", .file [] true), ("up", .link "..")] true),
    ("vault", .folder [] false)] true

/-- A disk with this folder. -/
def mixedDisk : Disk := ⟨.folder [("p", mixedFolder)] true, "/"⟩

theorem proper_mixedFolder : mixedFolder.Proper := by
  refine .folder (by decide) (by decide) ?_
  simp only [List.forall_mem_cons]
  refine ⟨.file _ _, .file _ _, .link _, ?_, .file _ _, ?_, ?_, by simp⟩
  · exact .folder (by decide) (by decide) (by simp [Entry.Proper.file])
  · exact .folder (by decide) (by decide) (by simp [Entry.Proper.file, Entry.Proper.link])
  · exact .folder (by decide) (by decide) (by simp)

theorem scannable_mixedFolder : Scannable mixedDisk "p" mixedFolder where
  here := rfl
  leads := by
    have hpath : Path.absolute mixedDisk.here "p" = "/p" := by decide
    rw [hpath]
    cbv
  isFolder := rfl
  proper := proper_mixedFolder

/-- What is reached in it. -/
def mixedNames : List (List Text) :=
  [["a.ts"], ["bad.txt"], ["link.ts"], ["secret"], ["node_modules", "c.ts"], ["src", "b.ts"], ["src", "up"]]

theorem map_leaves_mixedFolder : (mixedDisk.leaves "/p" mixedFolder).map Prod.fst = mixedNames := by
  have hlists : mixedDisk.lists "/p" = true ∧ mixedDisk.lists "/p/node_modules" = true ∧
      mixedDisk.lists "/p/src" = true ∧ mixedDisk.lists "/p/vault" = false := ⟨by cbv, by cbv, by cbv, by cbv⟩
  have hpaths : entryPath "/p" "node_modules" = "/p/node_modules" ∧ entryPath "/p" "src" = "/p/src" ∧
      entryPath "/p" "vault" = "/p/vault" := by decide +kernel
  simp only [mixedFolder, Disk.leaves, Disk.leavesBelow, hlists, hpaths, if_true]
  rfl

/-- Nothing in this folder is a fault to ask for. -/
theorem answered_mixedFolder (policy : Policy) :
    Answered mixedDisk policy (Path.absolute mixedDisk.here "p") mixedFolder := by
  have hpath : Path.absolute mixedDisk.here "p" = "/p" := by decide
  have hprobe : mixedNames.all (fun names => (mixedDisk.probe (pathOf "/p" names)).isOk) = true := by cbv
  intro names e hreach _
  rw [hpath] at hreach ⊢
  have hmem : names ∈ mixedNames :=
    map_leaves_mixedFolder ▸ List.mem_map_of_mem (f := Prod.fst) ((Disk.mem_leaves_iff proper_mixedFolder).mpr hreach)
  have hanswer := List.all_eq_true.mp hprobe names hmem
  cases hfound : mixedDisk.probe (pathOf "/p" names) with
  | ok found => exact ⟨found, rfl⟩
  | error => rw [hfound] at hanswer; cases hanswer

/-- A scan of this folder. -/
theorem collect_eq_filter_mixed :
    Scannable mixedDisk "p" mixedFolder ∧
      ∃ c found, collect mixedDisk "p" {} = .ok c ∧
        FlatScan mixedDisk {} (Path.absolute mixedDisk.here "p") mixedFolder found c := by
  obtain ⟨c, hcollect⟩ := (exists_collect_eq_ok_iff scannable_mixedFolder {}).mpr (answered_mixedFolder {})
  have hscanned := collect_eq_filter scannable_mixedFolder {}
  rw [hcollect] at hscanned
  cases hscanned with
  | ok _ hflat => exact ⟨scannable_mixedFolder, c, _, hcollect, hflat⟩

/-- A folder with a link into one whose names may not be looked up. -/
def shutFolder : Entry :=
  .folder [("link.ts", .link "vault/x.ts"), ("note.ts", .file [] true),
    ("vault", .folder [("x.ts", .file [] true)] { read := false, search := false })] true

/-- A disk with this folder. -/
def shutDisk : Disk := ⟨.folder [("p", shutFolder)] true, "/"⟩

/-- The link leads to a file and the policy keeps it, but a scan of this folder breaks off: the link is not skipped, and
the file beside it is not collected. -/
theorem not_collect_shutDisk : Scannable shutDisk "p" shutFolder ∧
    collect shutDisk "p" {} = .error (.fault ⟨.noRight, "/p/link.ts"⟩) := by
  have hpath : Path.absolute shutDisk.here "p" = "/p" := by decide
  have hroot : shutDisk.entry? "/p" = .ok shutFolder := by cbv
  have hproper : shutFolder.Proper := by
    refine .folder (by decide) (by decide) ?_
    simp only [List.forall_mem_cons]
    exact ⟨.link _, .file _ _, .folder (by decide) (by decide) (by simp [Entry.Proper.file]), by simp⟩
  refine ⟨⟨rfl, hpath ▸ hroot, rfl, hproper⟩, ?_⟩
  have hlists : shutDisk.lists "/p" = true := by cbv
  have hkept : entryPath "/p" "link.ts" = "/p/link.ts" ∧
      ({} : Policy).ignores (entryName [] "link.ts") false = false ∧ ({} : Policy).reads "link.ts" = true := by
    decide +kernel
  obtain ⟨hname, hignores, hreads⟩ := hkept
  have hentry : shutDisk.entry? "/p/link.ts" = .error .noRight := by cbv
  have hlink : collectFile shutDisk {} "/p" [] "link.ts" (.link "vault/x.ts") = .error ⟨.noRight, "/p/link.ts"⟩ :=
    collectFile_of_fault hname rfl hentry rfl hignores hreads
  have hprobe : shutDisk.probe "/p" = .ok (some shutFolder) := Disk.probe_eq_some_iff.mpr hroot
  simp only [collect, hpath, hprobe, shutFolder, walk, hlists, collectFiles, hlink, if_true]
  rfl

end ImportChart.Scan
