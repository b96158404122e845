import ImportChart.Proofs.Diagram.Recovery
import ImportChart.Proofs.Scan.Flat
import ImportChart.Proofs.Scan.Outputs
import Mathlib.Data.List.Find

/-!
# A run does not read what runs have written

A run writes its files into the folder that it scans. The next run gives the same result as if they were not there, as
long as no import leads to one of them.

- `resolveImport_congr`, `Graph.assemble_congr`: what a graph depends on beside the collected files;
- `generateFlow_congr`: runs over disks that are the same for a scan, and in which imports are resolved alike;
- `generateFlow_outputs`: runs over disks that differ in the written files only;
- `not_generateFlow_outputs_doubled`: a path to such a file with two slashes at its beginning, which is another path and
  leads there all the same.
-/

namespace ImportChart

open Scan (SourceFile ScannedAlike IsScanned withoutFiles)

variable {d d' : Disk} {root path origin target : Text} {policy : Scan.Policy} {above extensions outputs : List Text}
  {files : List SourceFile} {found : List Source.Declarations}

/-! ## Imports -/

/-- How an import is resolved depends on which of its candidates are files. -/
theorem resolveImport_congr (hhere : d'.here = d.here)
    (h : isRelativeImport target = true → ∀ candidate ∈ candidates d.here origin target extensions,
      d'.isFile candidate = d.isFile candidate) :
    resolveImport d' origin target extensions = resolveImport d origin target extensions := by
  rw [resolveImport, resolveImport, hhere]
  split
  · next hrelative => exact List.find?_congr (h hrelative)
  · rfl

namespace Graph

/-- The graph of files depends on how their imports are resolved. -/
theorem assemble_congr (hhere : d'.here = d.here) (maxSymbols : Int)
    (h : ∀ e ∈ entries files found, ∀ target ∈ e.found.imports,
      resolveImport d' e.file.path target extensions = resolveImport d e.file.path target extensions) :
    assemble d' files found maxSymbols extensions = assemble d files found maxSymbols extensions := by
  have himports : ∀ (a : Assembly) (byPath : List (Text × Text)),
      a.addImports d' extensions byPath (entries files found) =
        a.addImports d extensions byPath (entries files found) := by
    intro a byPath
    rw [Assembly.addImports_eq_foldl, Assembly.addImports_eq_foldl]
    refine List.foldl_ext _ _ _ fun a o ho => ?_
    obtain ⟨he, htarget⟩ := mem_occurrences.mp ho
    rw [Assembly.addImport, Assembly.addImport, h o.1 he o.2 htarget]
  simp only [assemble, allocate_files]
  rw [← entries, himports, hhere]

/-- The entry of a file of a project has the declarations in its content. -/
theorem found_of_mem_entries {e : FileEntry}
    (he : e ∈ entries files (files.map fun f => Source.extract f.content)) :
    e.file ∈ files ∧ e.found = Source.extract e.file.content := by
  have hlen : files.length = (files.map fun f => Source.extract f.content).length := (List.length_map _).symm
  have hmem := List.mem_map_of_mem (f := fun e : FileEntry => (e.file, e.found)) he
  rw [entries, (map_fileEntries (length_fileNodes files) hlen).2, zip_map_self] at hmem
  obtain ⟨f, hf, heq⟩ := List.mem_map.mp hmem
  obtain ⟨rfl, hfound⟩ := Prod.mk.inj heq
  exact ⟨hf, hfound.symm⟩

end Graph

/-! ## Runs -/

/-- The flow of collected files depends on how their imports are resolved. -/
theorem ofFiles_congr (hhere : d'.here = d.here) (root : Text)
    (h : ∀ file ∈ files, ∀ target ∈ (Source.extract file.content).imports,
      resolveImport d' file.path target sourceExtensions = resolveImport d file.path target sourceExtensions) :
    Flow.ofFiles d' root files = Flow.ofFiles d root files := by
  have hgraph :
      Graph.assemble d' files (files.map fun f => Source.extract f.content) maxSymbolsPerKind sourceExtensions =
        Graph.assemble d files (files.map fun f => Source.extract f.content) maxSymbolsPerKind sourceExtensions := by
    refine Graph.assemble_congr hhere _ fun e he target htarget => ?_
    obtain ⟨hfile, hfound⟩ := Graph.found_of_mem_entries he
    rw [hfound] at htarget
    exact h e.file hfile target htarget
  simp only [Flow.ofFiles, hgraph]

/-- No relative import of a file that is collected leads to one of the given names in the scanned folder. -/
def Unread (d : Disk) (path : Text) (policy : Scan.Policy) (above outputs : List Text) : Prop :=
  ∀ c, Scan.collect d path policy = .ok c → ∀ file ∈ c.files, ∀ target ∈ (Source.extract file.content).imports,
    isRelativeImport target = true → ∀ candidate ∈ candidates d.here file.path target sourceExtensions,
      ∀ name ∈ outputs, ¬d.LeadsAt candidate (above ++ [name])

/-- **Runs over disks that are the same for a scan give the same result**, if no import leads to where they differ. -/
theorem generateFlow_congr (halike : ScannedAlike path policy above outputs d d')
    (hresolve : d.resolve (Path.plain root) = .ok path) (hunread : Unread d path policy above outputs) :
    generateFlow d' root policy = generateFlow d root policy := by
  unfold generateFlow
  rw [halike.resolve, hresolve]
  dsimp only
  rw [halike.collect]
  cases hcollect : Scan.collect d path policy with
  | error e => rfl
  | ok c =>
    dsimp only
    rw [ofFiles_congr halike.here path fun file hfile target htarget => ?_]
    refine resolveImport_congr halike.here fun hrelative candidate hcandidate => ?_
    exact halike.isFile candidate (hunread c hcollect file hfile target htarget hrelative candidate hcandidate)

/-- The graph of a run is that of the files that it has collected. -/
theorem graph_of_generateFlow {c : Scan.Collection} {flow : Flow} (hresolve : d.resolve (Path.plain root) = .ok path)
    (hcollect : Scan.collect d path policy = .ok c) (hne : c.files ≠ []) (h : generateFlow d root policy = .ok flow) :
    flow.graph = projectGraph d c.files := by
  have hempty : c.files.isEmpty = false := List.isEmpty_eq_false_iff.mpr hne
  cases hbackbone : (projectGraph d c.files).backbone with
  | ok backbone =>
    rw [generateFlow_eq hresolve hcollect hne hbackbone] at h
    rw [← Except.ok.inj h]
  | error e =>
    rw [projectGraph] at hbackbone
    simp [generateFlow, hresolve, hcollect, Flow.ofFiles, hempty, hbackbone] at h

/-- A run gives a result exactly if its scan ends. -/
theorem exists_generateFlow_eq_ok_iff (hhere : Path.isAbsolute d.here = true) (hdisk : d.root.Proper)
    (hresolve : d.resolve (Path.plain root) = .ok path) (policy : Scan.Policy) :
    (∃ flow, generateFlow d root policy = .ok flow) ↔ ∃ c, Scan.collect d path policy = .ok c := by
  constructor
  · rintro ⟨flow, hflow⟩
    cases hcollect : Scan.collect d path policy with
    | ok c => exact ⟨c, rfl⟩
    | error e => simp [generateFlow, hresolve, hcollect] at hflow
  · rintro ⟨c, hcollect⟩
    by_cases hne : c.files = []
    · refine ⟨⟨path, [], {}, [], [], [.collecting]⟩, ?_⟩
      simp [generateFlow, hresolve, hcollect, Flow.ofFiles, hne]
    · obtain ⟨flow, _, hflow, -⟩ := generateFlow_of_collect hhere hdisk hresolve hcollect hne
      exact ⟨flow, hflow⟩

/-- **A run does not read what runs have written.** Over disks that differ only in whether the written files are in the
scanned folder and in what is in them, the result is the same, if the policy leaves these files out and no import leads
to one of them; and there is one exactly if the scan ends. -/
theorem generateFlow_outputs (hscanned : IsScanned d path above) (hscanned' : IsScanned d' path above)
    (hresolve : d.resolve (Path.plain root) = .ok path)
    (hpolicy : ∀ name ∈ Scan.outputFiles, name ∈ policy.rootFiles)
    (hsame : withoutFiles d' above Scan.outputFiles = withoutFiles d above Scan.outputFiles)
    (hunread : Unread d path policy above Scan.outputFiles) :
    generateFlow d' root policy = generateFlow d root policy ∧
      (d.root.Proper →
        ((∃ flow, generateFlow d root policy = .ok flow) ↔ ∃ c, Scan.collect d path policy = .ok c)) := by
  have halike := Scan.scannedAlike_of_withoutFiles hscanned hscanned' hpolicy hsame
  exact ⟨generateFlow_congr halike hresolve hunread,
    fun hdisk => exists_generateFlow_eq_ok_iff hscanned.here hdisk hresolve policy⟩

/-! ## A sample -/

/-- The disk with one file in a folder, after a run has written its diagram there. -/
def drawnDisk (content : Text) : Disk :=
  ⟨.folder [("p", .folder [("a", .file (Utf8.encode content) true), (Scan.flowFile, .file [] true)] true)] true, "/"⟩

theorem absolute_noteFolder : Path.absolute "/" "/p" = "/p" := by decide

theorem place?_noteDisk (content : Text) : (noteDisk content).place? "/p" =
    .ok (.occupied ["p"] (.folder [("a", .file (Utf8.encode content) true)] true)) := by cbv

theorem isScanned_noteDisk (content : Text) : IsScanned (noteDisk content) "/p" ["p"] where
  here := rfl
  root := rfl
  folder := by
    have hplace := place?_noteDisk content
    have hproper := Disk.proper_of_leads (proper_noteDisk content) (Disk.entry?_of_place? hplace)
    rw [← absolute_noteFolder] at hplace
    exact ⟨_, _, hplace, hproper, .folder (List.forall_mem_singleton.mpr (.file _ _))⟩

theorem proper_drawnDisk (content : Text) : (drawnDisk content).root.Proper := by
  have hnames : IsEntryName "p" ∧ IsEntryName "a" ∧ IsEntryName Scan.flowFile := by decide
  refine .folder (List.forall_mem_singleton.mpr hnames.1) (List.pairwise_singleton _ _)
    (List.forall_mem_singleton.mpr ?_)
  refine .folder ?_ ?_ ?_
  · exact List.forall_mem_cons.mpr ⟨hnames.2.1, List.forall_mem_singleton.mpr hnames.2.2⟩
  · have hordered : ("a" : Text) < Scan.flowFile := by decide
    exact List.pairwise_pair.mpr hordered
  · exact List.forall_mem_cons.mpr ⟨.file _ _, List.forall_mem_singleton.mpr (.file _ _)⟩

theorem isScanned_drawnDisk (content : Text) : IsScanned (drawnDisk content) "/p" ["p"] where
  here := rfl
  root := rfl
  folder := by
    have hplace : (drawnDisk content).place? "/p" = .ok (.occupied ["p"]
        (.folder [("a", .file (Utf8.encode content) true), (Scan.flowFile, .file [] true)] true)) := by cbv
    have hproper := Disk.proper_of_leads (proper_drawnDisk content) (Disk.entry?_of_place? hplace)
    rw [← absolute_noteFolder] at hplace
    exact ⟨_, _, hplace, hproper,
      .folder (List.forall_mem_cons.mpr ⟨.file _ _, List.forall_mem_singleton.mpr (.file _ _)⟩)⟩

/-- The diagram is all that the two disks differ in. -/
theorem withoutFiles_drawnDisk (content : Text) :
    withoutFiles (drawnDisk content) ["p"] Scan.outputFiles =
      withoutFiles (noteDisk content) ["p"] Scan.outputFiles := by rfl

/-- An import of a file beside the one that has it. -/
def besideText : Text := "import \"./b\""

/-- The candidates of this import, by their names in the folder. -/
def besideNames : List (List Text) :=
  [["b"], ["b.ts"], ["b.js"], ["b.tsx"], ["b.jsx"], ["b", "index.ts"], ["b", "index.js"], ["b", "index.tsx"],
    ["b", "index.jsx"]]

/-- None of them leads to a file that a run writes. -/
theorem unread_beside : Unread (noteDisk besideText) "/p" {} ["p"] Scan.outputFiles := by
  have htext : Utf8.readText (Utf8.encode besideText) = some besideText := Utf8.readText_encode (by decide)
  have himports : (Source.extract besideText).imports = [("./b" : Text)] := by cbv
  have hcandidates : candidates "/" "/p/a" "./b" sourceExtensions =
      besideNames.map fun names => Path.rooted "/" ([("p" : Text)] ++ names) := by cbv
  intro c hcollect file hfile target htarget _ candidate hcandidate name hname
  rw [collect_noteDisk htext] at hcollect
  obtain rfl := Except.ok.inj hcollect
  obtain rfl := List.mem_singleton.mp hfile
  rw [noteFile, himports] at htarget
  obtain rfl := List.mem_singleton.mp htarget
  rw [noteFile] at hcandidate
  obtain ⟨names, hnames, rfl⟩ := List.mem_map.mp (hcandidates ▸ hcandidate)
  have hcomponents : ∀ names ∈ besideNames, ∀ c ∈ names, Path.IsComponent c := by decide
  have hothers : ∀ names ∈ besideNames, ∀ name ∈ Scan.outputFiles, names ≠ [name] := by decide
  rintro ⟨place, hplace, hleads⟩
  rw [Disk.names_of_place?_append (Or.inl rfl) (by decide) (hcomponents names hnames) (place?_noteDisk besideText) rfl
    (.folder (List.forall_mem_singleton.mpr (.file _ _))) hplace] at hleads
  exact hothers names hnames name hname (List.append_cancel_left hleads)

/-- A run after a run, with an import that leads to no file. -/
theorem generateFlow_outputs_beside :
    IsScanned (noteDisk besideText) "/p" ["p"] ∧ IsScanned (drawnDisk besideText) "/p" ["p"] ∧
      (noteDisk besideText).resolve (Path.plain "p") = .ok "/p" ∧
      (∀ name ∈ Scan.outputFiles, name ∈ ({} : Scan.Policy).rootFiles) ∧
      withoutFiles (drawnDisk besideText) ["p"] Scan.outputFiles =
        withoutFiles (noteDisk besideText) ["p"] Scan.outputFiles ∧
      Unread (noteDisk besideText) "/p" {} ["p"] Scan.outputFiles ∧
      generateFlow (drawnDisk besideText) "p" {} = generateFlow (noteDisk besideText) "p" {} ∧
      ∃ flow, generateFlow (noteDisk besideText) "p" {} = .ok flow := by
  have hresolve : (noteDisk besideText).resolve (Path.plain "p") = .ok "/p" := by cbv
  have hpolicy : ∀ name ∈ Scan.outputFiles, name ∈ ({} : Scan.Policy).rootFiles := fun _ h => h
  obtain ⟨hsame, hresult⟩ := generateFlow_outputs (isScanned_noteDisk _) (isScanned_drawnDisk _) hresolve hpolicy
    (withoutFiles_drawnDisk _) unread_beside
  have htext : Utf8.readText (Utf8.encode besideText) = some besideText := Utf8.readText_encode (by decide)
  exact ⟨isScanned_noteDisk _, isScanned_drawnDisk _, hresolve, hpolicy, withoutFiles_drawnDisk _, unread_beside, hsame,
    (hresult (proper_noteDisk _)).mpr ⟨_, collect_noteDisk htext⟩⟩

/-- An import of the diagram by its path with two slashes at the beginning. -/
def doubledText : Text := "import \"//p/wholeflow.mmd\""

/-- The packages of the one file in the folder. -/
theorem mem_packages_noteFile (d : Disk) (content package : Text) :
    package ∈ (projectGraph d [noteFile content]).externals.map (·.1) ↔
      package ∈ (Source.extract content).imports ∧ package.head? ≠ some '.' ∧
        resolveImport d "/p/a" package sourceExtensions = none := by
  have hnames : ([noteFile content].map (·.name)).Nodup := List.nodup_singleton _
  rw [projectGraph, Graph.mem_externals_iff d _ _ rfl hnames]
  simp [noteFile]

/-- **A path with two slashes at its beginning is another path, and leads to the same file.** None of the written files
is among the candidates of an import; still a run that finds the diagram has no package where one that does not find it
has one. -/
theorem not_generateFlow_outputs_doubled :
    IsScanned (noteDisk doubledText) "/p" ["p"] ∧ IsScanned (drawnDisk doubledText) "/p" ["p"] ∧
      (noteDisk doubledText).resolve (Path.plain "p") = .ok "/p" ∧
      (∀ name ∈ Scan.outputFiles, name ∈ ({} : Scan.Policy).rootFiles) ∧
      withoutFiles (drawnDisk doubledText) ["p"] Scan.outputFiles =
        withoutFiles (noteDisk doubledText) ["p"] Scan.outputFiles ∧
      ∃ flow flow', generateFlow (noteDisk doubledText) "p" {} = .ok flow ∧
        generateFlow (drawnDisk doubledText) "p" {} = .ok flow' ∧
        (∀ file ∈ flow.files ++ flow'.files, ∀ target ∈ (Source.extract file.content).imports,
          ∀ candidate ∈ candidates "/" file.path target sourceExtensions, ∀ name ∈ Scan.outputFiles,
            candidate ≠ Path.join "/p" name) ∧
        flow'.graph ≠ flow.graph := by
  have htext : Utf8.readText (Utf8.encode doubledText) = some doubledText := Utf8.readText_encode (by decide)
  have himports : (Source.extract doubledText).imports = [("//p/wholeflow.mmd" : Text)] := by cbv
  have hresolve : (noteDisk doubledText).resolve (Path.plain "p") = .ok "/p" := by cbv
  have hresolve' : (drawnDisk doubledText).resolve (Path.plain "p") = .ok "/p" := by cbv
  have hpolicy : ∀ name ∈ Scan.outputFiles, name ∈ ({} : Scan.Policy).rootFiles := fun _ h => h
  have halike := Scan.scannedAlike_of_withoutFiles (isScanned_noteDisk doubledText) (isScanned_drawnDisk doubledText)
    hpolicy (withoutFiles_drawnDisk doubledText)
  have hcollect := collect_noteDisk htext
  have hcollect' := halike.collect.trans hcollect
  have hne : [noteFile doubledText] ≠ [] := List.cons_ne_nil _ _
  obtain ⟨flow, -, hflow, hfiles, -⟩ := generateFlow_of_collect rfl (proper_noteDisk _) hresolve hcollect hne
  obtain ⟨flow', -, hflow', hfiles', -⟩ := generateFlow_of_collect rfl (proper_drawnDisk _) hresolve' hcollect' hne
  have hgraph := graph_of_generateFlow hresolve hcollect hne hflow
  have hgraph' := graph_of_generateFlow hresolve' hcollect' hne hflow'
  have hcandidates : ∀ candidate ∈ candidates "/" "/p/a" "//p/wholeflow.mmd" sourceExtensions,
      ∀ name ∈ Scan.outputFiles, candidate ≠ Path.join "/p" name := by decide
  refine ⟨isScanned_noteDisk _, isScanned_drawnDisk _, hresolve, hpolicy, withoutFiles_drawnDisk _, flow, flow', hflow,
    hflow', ?_, fun heq => ?_⟩
  · intro file hfile target htarget
    have hnote : file = noteFile doubledText := by simpa [hfiles, hfiles'] using hfile
    rw [hnote, noteFile, himports] at htarget
    rw [hnote, noteFile, List.mem_singleton.mp htarget]
    exact hcandidates
  · -- the diagram is found where it is, and counts as a file outside the project
    have hfound : resolveImport (drawnDisk doubledText) "/p/a" "//p/wholeflow.mmd" sourceExtensions =
        some "//p/wholeflow.mmd" := by cbv
    have hmissing : resolveImport (noteDisk doubledText) "/p/a" "//p/wholeflow.mmd" sourceExtensions = none := by cbv
    have hpackage := (mem_packages_noteFile (noteDisk doubledText) doubledText "//p/wholeflow.mmd").mpr
      ⟨by rw [himports]; exact List.mem_singleton_self _, by decide, hmissing⟩
    rw [← hgraph, ← heq, hgraph', mem_packages_noteFile, hfound] at hpackage
    cases hpackage.2.2

end ImportChart
