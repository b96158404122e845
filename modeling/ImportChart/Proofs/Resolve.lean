import ImportChart.Proofs.Path.Relative
import ImportChart.Proofs.Scan.Walk
import ImportChart.Resolve

/-!
# Imports between files of a scan

A file of a scan names another one by the way to it, or by its path. Both are resolved to that file, at any depth
below the root. An ending that is tried may be left out unless there is a file at a path that is tried before.

- `exists_rooted_of_collect`: collected files are files at rooted paths;
- `resolveImport_eq_some_of_isFile`: what is named in full is found, whatever else there is;
- `resolveImport_iff_isFirst`: what is named without its ending is found if nothing is found before it;
- `resolveImport_collected`: both for every two files of a scan.
-/

namespace ImportChart

open Path (IsRoot IsComponent rooted relative)

variable {d : Disk} {origin target path bare ending : Text} {extensions : List Text}

/-! ## The paths that are tried -/

/-- What is named in full is the first path that is tried. -/
theorem resolveImport_eq_some_of_isFile (hrelative : isRelativeImport target = true)
    (hbase : Path.absolute d.here (Path.join (Path.parent origin) target) = path) (hfile : d.isFile path = true)
    (extensions : List Text) : resolveImport d origin target extensions = some path := by
  rw [resolveImport, if_pos hrelative, candidates, hbase, List.cons_append, List.find?_cons_of_pos hfile]

/-- No path is a file that is tried before the one with the given ending. -/
def IsFirst (d : Disk) (bare ending : Text) (extensions : List Text) : Prop :=
  d.isFile bare = false ∧ ∀ other ∈ extensions.takeWhile (· ≠ ending), d.isFile (bare ++ other) = false

/-- The paths that are tried before the one with the given ending, this one, and those after it. -/
theorem candidates_eq_append (hbase : Path.absolute d.here (Path.join (Path.parent origin) target) = bare)
    (hmem : ending ∈ extensions) :
    ∃ others, candidates d.here origin target extensions =
      (bare :: (extensions.takeWhile (· ≠ ending)).map (bare ++ ·)) ++ (bare ++ ending) :: others := by
  obtain ⟨after, hafter⟩ : ∃ after, extensions.dropWhile (· ≠ ending) = ending :: after := by
    cases hdrop : extensions.dropWhile (· ≠ ending) with
    | nil => exact absurd (List.dropWhile_eq_nil_iff.mp hdrop ending hmem) (by simp)
    | cons first after =>
      have hfirst := List.head?_dropWhile_not (· ≠ ending) extensions
      rw [hdrop] at hfirst
      exact ⟨after, by simpa using hfirst⟩
  have hsplit : extensions = extensions.takeWhile (· ≠ ending) ++ ending :: after := by
    rw [← hafter, List.takeWhile_append_dropWhile]
  refine ⟨after.map (bare ++ ·) ++ extensions.map fun e => Path.join bare (("index" : Text) ++ e), ?_⟩
  have hmap : extensions.map (bare ++ ·) =
      (extensions.takeWhile (· ≠ ending)).map (bare ++ ·) ++ (bare ++ ending) :: after.map (bare ++ ·) := by
    conv_lhs => rw [hsplit]
    rw [List.map_append, List.map_cons]
  rw [candidates, hbase, hmap]
  simp only [List.cons_append, List.append_assoc]

/-- **What is named without its ending is found if and only if no path before it is a file.** -/
theorem resolveImport_iff_isFirst (hrelative : isRelativeImport target = true)
    (hbase : Path.absolute d.here (Path.join (Path.parent origin) target) = bare)
    (hfile : d.isFile (bare ++ ending) = true) (hne : ending ≠ []) (hmem : ending ∈ extensions) :
    resolveImport d origin target extensions = some (bare ++ ending) ↔ IsFirst d bare ending extensions := by
  obtain ⟨others, hcandidates⟩ := candidates_eq_append hbase hmem
  rw [resolveImport, if_pos hrelative, hcandidates, List.find?_append, List.find?_cons_of_pos hfile]
  -- the path itself is not among those before it
  have hother : bare ++ ending ∉ bare :: (extensions.takeWhile (· ≠ ending)).map (bare ++ ·) := by
    intro h
    rcases List.mem_cons.mp h with h | h
    · exact hne (List.append_right_eq_self.mp h)
    · obtain ⟨other, hother, heq⟩ := List.mem_map.mp h
      have hkept := List.mem_takeWhile_imp hother
      rw [List.append_cancel_left heq] at hkept
      simp at hkept
  have hnone : (bare :: (extensions.takeWhile (· ≠ ending)).map (bare ++ ·)).find? d.isFile = none ↔
      IsFirst d bare ending extensions := by
    rw [List.find?_eq_none, List.forall_mem_cons, List.forall_mem_map, IsFirst]
    simp only [Bool.not_eq_true]
  rw [← hnone]
  constructor
  · intro h
    cases hfind : (bare :: (extensions.takeWhile (· ≠ ending)).map (bare ++ ·)).find? d.isFile with
    | none => rfl
    | some found =>
      rw [hfind, Option.some_or, Option.some.injEq] at h
      exact absurd (h ▸ List.mem_of_find?_eq_some hfind) hother
  · intro h
    rw [h, Option.none_or]

/-! ## Files of a scan -/

/-- **Collected files are files, each in a folder at or below the scanned one.** -/
theorem exists_rooted_of_collect {root : Text} {policy : Scan.Policy} {c : Scan.Collection}
    (hhere : Path.isAbsolute d.here = true) (hdisk : d.root.Proper) (h : Scan.collect d root policy = .ok c) :
    ∃ slashes, IsRoot slashes ∧ ∀ file ∈ c.files, d.isFile file.path = true ∧
      ∃ folder name, (∀ c ∈ folder ++ [name], IsComponent c) ∧ file.path = rooted slashes (folder ++ [name]) := by
  obtain ⟨tree, hentry, hwalk⟩ := Scan.walk_of_collect h
  have ht : tree.Proper := Disk.proper_of_leads hdisk hentry
  have hgathers := Scan.gathers_walk ht hwalk
  obtain ⟨slashes, cs, hroot, hcs, heq⟩ := Path.exists_rooted hhere root
  refine ⟨slashes, hroot, fun file hfile => ?_⟩
  rw [hgathers.files] at hfile
  obtain ⟨names, hmem, hrecord⟩ := List.mem_filterMap.mp hfile
  obtain ⟨hleaf, hpicked⟩ := List.mem_filter.mp hmem
  obtain ⟨q, hq, rfl⟩ := List.mem_map.mp hleaf
  have hpicked : Scan.Picked d policy (Path.absolute d.here root) q.1 := by simpa using hpicked
  have hnames : ∀ c ∈ q.1, IsComponent c := fun c hc => (((Disk.mem_leaves_iff ht).mp hq).isEntryName ht c hc).1
  have hpath : file.path = rooted slashes (cs ++ q.1) := by
    rw [(Scan.path_name_of_record hrecord).1, heq]
    exact Path.foldl_join_rooted hroot hnames hcs
  refine ⟨(Scan.path_name_of_record hrecord).1 ▸ hpicked.2, cs ++ q.1.dropLast,
    q.1.getLast (Disk.ne_nil_of_mem_leaves hq), ?_⟩
  rw [List.append_assoc, List.dropLast_append_getLast]
  exact ⟨List.forall_mem_append.mpr ⟨hcs, hnames⟩, hpath⟩

theorem isRelativeImport_relative (origin target : Text) : isRelativeImport (relative origin target) = true := by
  rw [isRelativeImport, relative, Path.head?_climb_append]
  rfl

theorem isRelativeImport_of_isAbsolute (h : Path.isAbsolute target = true) : isRelativeImport target = true := by
  rw [isRelativeImport, ← Path.isAbsolute, h, Bool.or_true]

/-- A part of a name that is not made of points alone is a name. -/
theorem isComponent_of_append {stem : Text} (h : IsComponent (stem ++ ending)) (hother : ∃ x ∈ stem, x ≠ '.') :
    IsComponent stem := by
  obtain ⟨x, hx, hne⟩ := hother
  refine ⟨List.ne_nil_of_mem hx, ?_, ?_, fun hslash => h.2.2.2 (List.mem_append_left _ hslash)⟩
  · rintro rfl
    exact hne (List.mem_singleton.mp hx)
  · rintro rfl
    exact hne ((List.mem_cons.mp hx).elim id List.mem_singleton.mp)

/-- **Every file of a scan can be imported by every one of them.** The way to it and its path lead to it. They do so
without its ending, where something other than points is left of its name, if and only if no path that is tried before
is a file. -/
theorem resolveImport_collected {root : Text} {policy : Scan.Policy} {c : Scan.Collection} {G F : Scan.SourceFile}
    (hhere : Path.isAbsolute d.here = true) (hdisk : d.root.Proper) (h : Scan.collect d root policy = .ok c)
    (hG : G ∈ c.files) (hF : F ∈ c.files) (extensions : List Text) :
    resolveImport d G.path (relative G.path F.path) extensions = some F.path ∧
      resolveImport d G.path F.path extensions = some F.path ∧
      ∀ stem ending, Path.baseName F.path = stem ++ ending → ending ≠ [] → ending ∈ extensions →
        (∃ x ∈ stem, x ≠ '.') →
        ∃ way bare, relative G.path F.path = way ++ ending ∧ F.path = bare ++ ending ∧
          (resolveImport d G.path way extensions = some F.path ↔ IsFirst d bare ending extensions) ∧
          (resolveImport d G.path bare extensions = some F.path ↔ IsFirst d bare ending extensions) := by
  obtain ⟨slashes, hroot, hfiles⟩ := exists_rooted_of_collect hhere hdisk h
  obtain ⟨-, above, origin, horigin, hGpath⟩ := hfiles G hG
  obtain ⟨hfile, folder, name, htarget, hFpath⟩ := hfiles F hF
  rw [hGpath]
  rw [hFpath] at hfile ⊢
  refine ⟨?_, ?_, ?_⟩
  · exact resolveImport_eq_some_of_isFile (isRelativeImport_relative _ _)
      (Path.absolute_join_relative d.here hroot horigin htarget) hfile extensions
  · have habsolute := Path.isAbsolute_rooted hroot (folder ++ [name])
    exact resolveImport_eq_some_of_isFile (isRelativeImport_of_isAbsolute habsolute)
      (by rw [Path.join_of_isAbsolute habsolute, Path.absolute_rooted _ hroot htarget]) hfile extensions
  · intro stem ending hbase hne hmem hother
    have hname : name = stem ++ ending := (Path.baseName_rooted hroot (htarget name (by simp))).symm.trans hbase
    subst hname
    have hstem : ∀ c ∈ folder ++ [stem], IsComponent c := by
      rw [List.forall_mem_append, List.forall_mem_singleton] at htarget ⊢
      exact ⟨htarget.1, isComponent_of_append htarget.2 hother⟩
    have hbare : rooted slashes (folder ++ [stem ++ ending]) = rooted slashes (folder ++ [stem]) ++ ending := by
      rw [rooted, rooted, Path.joinComponents_concat_append, List.append_assoc]
    have habsolute := Path.isAbsolute_rooted hroot (folder ++ [stem])
    refine ⟨_, _, Path.relative_append hroot horigin hstem htarget, hbare, ?_, ?_⟩
    · rw [hbare] at hfile ⊢
      exact resolveImport_iff_isFirst (isRelativeImport_relative _ _)
        (Path.absolute_join_relative d.here hroot horigin hstem) hfile hne hmem
    · rw [hbare] at hfile ⊢
      exact resolveImport_iff_isFirst (isRelativeImport_of_isAbsolute habsolute)
        (by rw [Path.join_of_isAbsolute habsolute, Path.absolute_rooted _ hroot hstem]) hfile hne hmem

/-- A folder with a file and a folder, which has another file. -/
def nestedFolder : Entry := .folder [("a.js", .file [] true), ("lib", .folder [("b.ts", .file [] true)] true)] true

/-- A disk with this folder. -/
def nestedDisk : Disk := ⟨.folder [("p", nestedFolder)] true, "/"⟩

/-- The records of both files. -/
def nestedFiles : List Scan.SourceFile := [⟨"/p/a.js", "a.js", "", 0⟩, ⟨"/p/lib/b.ts", "lib/b.ts", "", 0⟩]

theorem collect_nested : Scan.collect nestedDisk "p" {} = .ok ⟨nestedFiles, [], []⟩ := by
  have hpath : Path.absolute nestedDisk.here "p" = "/p" := by decide
  have hroot : nestedDisk.probe "/p" = .ok (some nestedFolder) := by cbv
  have hlists : nestedDisk.lists "/p" = true ∧ nestedDisk.lists "/p/lib" = true := ⟨by cbv, by cbv⟩
  have hlib : Scan.entryPath "/p" "lib" = "/p/lib" ∧ Scan.entryName [] "lib" = "lib" ∧
      ({} : Scan.Policy).ignores "lib" true = false ∧
      Scan.collectFile nestedDisk {} "/p" [] "lib" (.folder [("b.ts", .file [] true)] true) = .ok {} := by
    exact ⟨by decide +kernel, by decide +kernel, by decide +kernel, rfl⟩
  have hfirst : Scan.collectFile nestedDisk {} "/p" [] "a.js" (.file [] true) =
      .ok { files := [⟨"/p/a.js", "a.js", "", 0⟩] } :=
    Scan.collectFile_of_text (by decide +kernel) (by cbv) (by decide +kernel) (by decide +kernel) (by cbv)
  have hsecond : Scan.collectFile nestedDisk {} "/p/lib" "lib" "b.ts" (.file [] true) =
      .ok { files := [⟨"/p/lib/b.ts", "lib/b.ts", "", 0⟩] } :=
    Scan.collectFile_of_text (by decide +kernel) (by cbv) (by decide +kernel) (by decide +kernel) (by cbv)
  simp only [Scan.collect, hpath, hroot, hlists, nestedFolder, Scan.walk, Scan.collectFiles, Scan.walkSubfolders,
    Entry.isFolder, Bool.false_and, Bool.true_and, hlib, hfirst, hsecond, Bool.not_false, if_true]
  rfl

theorem proper_nestedDisk : nestedDisk.root.Proper := by
  refine .folder (by decide) (by decide) ?_
  rw [List.forall_mem_singleton]
  refine .folder (by decide) (by decide) ?_
  rw [List.forall_mem_cons, List.forall_mem_singleton]
  refine ⟨.file _ _, .folder (by decide) (by decide) ?_⟩
  rw [List.forall_mem_singleton]
  exact .file _ _

/-- From the folder below, the file above is found with its ending and without it. -/
theorem resolveImport_collected_nested :
    Path.isAbsolute nestedDisk.here = true ∧ nestedDisk.root.Proper ∧
      Scan.collect nestedDisk "p" {} = .ok ⟨nestedFiles, [], []⟩ ∧
      relative "/p/lib/b.ts" "/p/a.js" = "../a.js" ∧
      resolveImport nestedDisk "/p/lib/b.ts" "../a.js" sourceExtensions = some "/p/a.js" ∧
      resolveImport nestedDisk "/p/lib/b.ts" "/p/a.js" sourceExtensions = some "/p/a.js" ∧
      resolveImport nestedDisk "/p/lib/b.ts" "../a" sourceExtensions = some "/p/a.js" ∧
      resolveImport nestedDisk "/p/lib/b.ts" "/p/a" sourceExtensions = some "/p/a.js" := by
  have hrelative : relative "/p/lib/b.ts" "/p/a.js" = "../a.js" := by decide +kernel
  obtain ⟨hway, habsolute, hbare⟩ := resolveImport_collected rfl proper_nestedDisk collect_nested
    (List.mem_cons_of_mem _ List.mem_cons_self) List.mem_cons_self sourceExtensions
  obtain ⟨way, bare, hwayEq, hbareEq, hwayIff, hbareIff⟩ := hbare "a" ".js" (by decide +kernel) (by decide)
    (by decide) ⟨'a', by decide, by decide⟩
  have hwayIs : way = "../a" := List.append_cancel_right (hwayEq.symm.trans hrelative)
  have hbareIs : bare = "/p/a" := List.append_cancel_right (hbareEq.symm.trans rfl)
  subst hwayIs hbareIs
  have hbefore : sourceExtensions.takeWhile (· ≠ (".js" : Text)) = [(".ts" : Text)] := by decide +kernel
  have hfirst : IsFirst nestedDisk "/p/a" ".js" sourceExtensions := by
    rw [IsFirst, hbefore, List.forall_mem_singleton]
    exact ⟨by cbv, by cbv⟩
  exact ⟨rfl, proper_nestedDisk, collect_nested, hrelative, hrelative ▸ hway, habsolute, hwayIff.mpr hfirst,
    hbareIff.mpr hfirst⟩

end ImportChart
