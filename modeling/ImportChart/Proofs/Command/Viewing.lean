import ImportChart.Proofs.Command.Drawing
import ImportChart.Proofs.Document.Hexadecimal
import ImportChart.Proofs.Flow.Outputs
import ImportChart.Proofs.Settings.Integers
import ImportChart.Proofs.Settings.Unmoved

/-!
# Two ways to a page

A page is written for a folder without a diagram, or the diagram is written first and the page from it.

- `Agree`: what the two ways have in common;
- `view_after_generate`: they agree, for every folder of a project in which there is no diagram, and for all settings
  that are loaded;
- `not_view_after_generate`: a greatest text size that cannot be written and a page that is protected from writing, for
  which the second way leaves the diagram behind.
-/

namespace ImportChart.Command

open Settings (ScanRules ExportSettings Home Loaded homeOfDisk homeEntries)
open Disk (ChangedAt)

variable {m : Machine} {d : Disk} {places : Places} {path folder diagram : Text} {above generating viewing : List Text}
  {rules : ScanRules} {settings : ExportSettings} {flow : Flow}

/-- The way to a page without a diagram in the folder, and the way on which the diagram is drawn into the folder before
it is viewed. -/
structure Agree (m : Machine) (rules : ScanRules) (settings : ExportSettings) (folder : Text)
    (direct drawn viewed : Response × Machine) : Prop where
  exitCode : viewed.1.exitCode = direct.1.exitCode
  /-- The page is written if files are found, the greatest text size can be written and the page can be opened. -/
  succeeds : direct.1.exitCode = 0 ↔
    (∃ flow, Draws m.disk rules folder flow) ∧ Text.isWritable settings.maxTextSize = true ∧ OpensPage m.disk folder
  /-- The pages show the same diagram, but for the line feed at its end. -/
  pages : direct.1.exitCode = 0 → ∃ flow body, Draws m.disk rules folder flow ∧ flow.diagram = body ++ ['\n'] ∧
    HasPage direct.2.disk folder (Page.render flow.diagram (pageTitle folder) settings.maxTextSize) ∧
    HasPage viewed.2.disk folder (Page.render body (pageTitle folder) settings.maxTextSize)
  /-- No page is written on either way. -/
  unpaged : direct.1.exitCode ≠ 0 → direct.2 = m ∧ viewed.2 = drawn.2 ∧
    Disk.entry? drawn.2.disk (Path.under folder Scan.pageFile) = m.disk.entry? (Path.under folder Scan.pageFile)
  /-- Nor is a diagram, if the greatest text size can be written and the page can be opened. -/
  undrawn : direct.1.exitCode ≠ 0 → Text.isWritable settings.maxTextSize = true → OpensPage m.disk folder → drawn.2 = m

/-- A diagram without carriage returns has a document without them. -/
theorem return_notMem_wrap (h : '\r' ∉ diagram) : '\r' ∉ Fence.wrap diagram := by
  have hkept : '\r' ∉ Text.dropEndWhile (· == '\n') diagram := by
    intro hmem
    rw [Text.dropEndWhile, List.mem_reverse] at hmem
    exact h (List.mem_reverse.mp ((List.dropWhile_suffix _).subset hmem))
  simp [Fence.wrap, Fence.ticks, Fence.closing, hkept]

section

variable (hproject : IsProject m.disk path folder above)
  (hnew : m.disk.root.get? (above ++ [Scan.flowFile]) = none)
  (hview : Invocation.ofArguments viewing = some (.view path Scan.flowFile Scan.pageFile false))
  (hgenerate : Invocation.ofArguments generating = some (.generate path none []))
  (hrules : Settings.scanRules m.disk places.home [] = .ok rules)
  (hsettings : Settings.exportSettings m.disk places.home = .ok settings)
include hproject hnew hview hgenerate hrules

/-- Without files both ways end where they began. -/
theorem agree_of_not_draws (hdraws : ∀ flow, ¬Draws m.disk rules folder flow) :
    Agree m rules settings folder (run places viewing m) (run places generating m)
      (run places viewing (run places generating m).2) := by
  have hdiagram : Stops (diagramToView places folder Scan.flowFile) m :=
    stops_diagramToView (hproject.probe_flow hnew) hrules hdraws
  obtain ⟨-, hdrawn⟩ := run_of_stops hgenerate (stops_generate hproject hrules hdraws)
  obtain ⟨hcode, hdirect⟩ := run_of_stops hview (stops_view_of_diagram hproject hdiagram)
  rw [hdrawn]
  refine ⟨rfl, ?_, ?_, fun _ => ⟨hdirect, hdirect.trans hdrawn.symm, by rw [hdrawn]⟩, fun _ _ _ => hdrawn⟩
  · rw [hcode]
    refine iff_of_false (by decide) ?_
    rintro ⟨⟨flow, hflow⟩, -⟩
    exact hdraws flow hflow
  · rw [hcode]
    rintro ⟨⟩

include hsettings

/-- With files the diagram is drawn, and comes back from the file. -/
theorem agree_of_draws (hhere : Path.isAbsolute m.disk.here = true) (hproper : m.disk.root.Proper)
    (hdraws : Draws m.disk rules folder flow) (hmarker : ¬Fence.closing <:+: flow.diagram)
    (hreturn : '\r' ∉ flow.diagram) :
    Agree m rules settings folder (run places viewing m) (run places generating m)
      (run places viewing (run places generating m).2) := by
  obtain ⟨body, hbody, hhead, hunwrap⟩ :=
    exists_body_of_generateFlow hhere hproper hdraws.generated hdraws.files hmarker
  obtain ⟨d₁, hwrite, hchanged, hback, hget, hentry⟩ :=
    hproject.exists_write_flow hnew (Utf8.encode flow.document)
  have hdrawn := run_of_leaves hgenerate (leaves_generate hproject hrules hdraws hwrite)
  rw [hdrawn]
  -- the second way begins on a disk with the diagram and with the settings of before
  have hproject₁ : IsProject (m.withDisk d₁).disk path folder above := hproject.of_changedAt hchanged hback
  have hsettings₁ : Settings.exportSettings (m.withDisk d₁).disk places.home = .ok settings := by
    rw [← hsettings, Settings.exportSettings, Settings.exportSettings]
    congr 1
    exact Settings.group_eq_of_fence hchanged hback hproject.root hnew hget _
  have hdiagram := ends_diagramToView_scan (hproject.probe_flow hnew) hrules hdraws
  have hblank : Text.isBlankText (Fence.unwrap flow.document) = false := by
    obtain ⟨cs, rfl⟩ := List.head?_eq_some_iff.mp hhead
    rw [hunwrap]
    rfl
  have hdiagram₁ : Ends (diagramToView places folder Scan.flowFile) (m.withDisk d₁) body (m.withDisk d₁) := by
    rw [← hunwrap]
    exact ends_diagramToView_file hentry (return_notMem_wrap hreturn) hblank
  have hopens₁ : OpensPage (m.withDisk d₁).disk folder ↔ OpensPage m.disk folder :=
    hproject.opensPage_iff hchanged hback
  by_cases hpaged : Text.isWritable settings.maxTextSize = true ∧ OpensPage m.disk folder
  · obtain ⟨hsize, hopens⟩ := hpaged
    obtain ⟨d₂, hends, hpage⟩ := ends_view hproject hdiagram hsettings hsize hopens
    obtain ⟨d₃, hends₁, hpage₁⟩ := ends_view hproject₁ hdiagram₁ hsettings₁ hsize (hopens₁.mpr hopens)
    obtain ⟨hcode, hdirect⟩ := run_of_ends hview hends
    obtain ⟨hcode₁, hviewed⟩ := run_of_ends hview hends₁
    refine ⟨hcode₁.trans hcode.symm, iff_of_true hcode ⟨⟨flow, hdraws⟩, hsize, hopens⟩,
      fun _ => ⟨flow, body, hdraws, hbody, ?_, ?_⟩, fun hne => absurd hcode hne, fun hne => absurd hcode hne⟩
    · rw [hdirect]
      exact hpage
    · rw [hviewed]
      exact hpage₁
  · obtain ⟨hstops, hstops₁⟩ : Stops (view places path Scan.flowFile Scan.pageFile false) m ∧
        Stops (view places path Scan.flowFile Scan.pageFile false) (m.withDisk d₁) := by
      cases hsize : Text.isWritable settings.maxTextSize with
      | true =>
        have hopens : ¬OpensPage m.disk folder := fun hopens => hpaged ⟨hsize, hopens⟩
        exact ⟨stops_view_of_page hproject hdiagram hsettings hsize hopens,
          stops_view_of_page hproject₁ hdiagram₁ hsettings₁ hsize (mt hopens₁.mp hopens)⟩
      | false =>
        exact ⟨stops_view_of_size hproject hdiagram hsettings hsize,
          stops_view_of_size hproject₁ hdiagram₁ hsettings₁ hsize⟩
    obtain ⟨hcode, hdirect⟩ := run_of_stops hview hstops
    obtain ⟨hcode₁, hviewed⟩ := run_of_stops hview hstops₁
    refine ⟨hcode₁.trans hcode.symm, ?_, ?_, fun _ => ⟨hdirect, ?_, ?_⟩,
      fun _ hsize hopens => absurd ⟨hsize, hopens⟩ hpaged⟩
    · rw [hcode]
      exact iff_of_false (by decide) fun h => hpaged h.2
    · rw [hcode]
      rintro ⟨⟩
    · rw [hviewed, hdrawn]
    · rw [hdrawn]
      exact hproject.entry?_page_eq hchanged hback

/-- **The page of a folder shows the same diagram whether or not this is drawn into the folder before it is viewed.**
This holds for every folder of a project in which there is no diagram and for all settings that are loaded, if the
diagram has neither the marker of the end of a fence nor a carriage return. If no page is written on one of the two
ways, none is on the other, and no diagram either, but for a greatest text size that has too many digits to be written
and for a page that cannot be opened. -/
theorem view_after_generate (hhere : Path.isAbsolute m.disk.here = true) (hproper : m.disk.root.Proper)
    (hdiagram : ∀ flow, Draws m.disk rules folder flow → ¬Fence.closing <:+: flow.diagram ∧ '\r' ∉ flow.diagram) :
    Agree m rules settings folder (run places viewing m) (run places generating m)
      (run places viewing (run places generating m).2) := by
  by_cases hdraws : ∃ flow, Draws m.disk rules folder flow
  · obtain ⟨flow, hdraws⟩ := hdraws
    obtain ⟨hmarker, hreturn⟩ := hdiagram flow hdraws
    exact agree_of_draws hproject hnew hview hgenerate hrules hsettings hhere hproper hdraws hmarker hreturn
  · exact agree_of_not_draws hproject hnew hview hgenerate hrules (not_exists.mp hdraws)

end

/-! ## A sample -/

/-- A page with some rights, or none. -/
def pageEntries (page : Option Access) : List (Text × Entry) :=
  page.toList.map fun access => (Scan.pageFile, .file [] access)

/-- A disk with a folder for settings, and the folder of a project with one empty file and perhaps a page. -/
def projectDisk (content : Option Bytes) (page : Option Access) : Disk :=
  ⟨.folder [("home", .folder (homeEntries content) true),
    ("p", .folder (("a", .file [] true) :: pageEntries page) true)] true, "/"⟩

/-- A machine with this disk. -/
def projectMachine (content : Option Bytes) (page : Option Access) : Machine := ⟨projectDisk content page, [], [], []⟩

/-- The folder for settings, and none for exports. -/
def projectPlaces : Places := ⟨homeOfDisk, []⟩

/-- The rules for scans that hold when nothing is set. -/
def defaultRules : ScanRules := ⟨[], Scan.textExtensions, true⟩

/-- View the project without opening the page. -/
def viewArguments : List Text := ["view", "p", "--no-open"]

/-- Draw the project. -/
def generateArguments : List Text := ["generate", "p"]

theorem ofArguments_viewArguments :
    Invocation.ofArguments viewArguments = some (.view "p" Scan.flowFile Scan.pageFile false) := by decide +kernel

theorem ofArguments_generateArguments :
    Invocation.ofArguments generateArguments = some (.generate "p" none []) := by decide +kernel

theorem proper_projectDisk (content : Option Bytes) (page : Option Access) :
    (projectDisk content page).root.Proper := by
  have hnames : IsEntryName "home" ∧ IsEntryName "p" ∧ IsEntryName "a" ∧ IsEntryName Scan.pageFile ∧
      IsEntryName Settings.fileName := by decide
  obtain ⟨hhome, hp, ha, hpage, hfile⟩ := hnames
  have hordered : ("home" : Text) < ("p" : Text) ∧ ("a" : Text) < Scan.pageFile := by decide
  refine .folder (List.forall_mem_cons.mpr ⟨hhome, List.forall_mem_singleton.mpr hp⟩)
    (List.pairwise_pair.mpr hordered.1) (List.forall_mem_cons.mpr ⟨?_, List.forall_mem_singleton.mpr ?_⟩)
  · cases content with
    | none => exact .folder (List.forall_mem_nil _) .nil (List.forall_mem_nil _)
    | some bytes =>
      exact .folder (List.forall_mem_singleton.mpr hfile) (List.pairwise_singleton _ _)
        (List.forall_mem_singleton.mpr (.file _ _))
  · cases page with
    | none =>
      exact .folder (List.forall_mem_singleton.mpr ha) (List.pairwise_singleton _ _)
        (List.forall_mem_singleton.mpr (.file _ _))
    | some access =>
      exact .folder (List.forall_mem_cons.mpr ⟨ha, List.forall_mem_singleton.mpr hpage⟩)
        (List.pairwise_pair.mpr hordered.2)
        (List.forall_mem_cons.mpr ⟨.file _ _, List.forall_mem_singleton.mpr (.file _ _)⟩)

theorem isProject_projectDisk (content : Option Bytes) {page : Option Access}
    (hroom : ∀ access ∈ page, access.room = none) : IsProject (projectDisk content page) "p" "/p" ["p"] where
  root := ⟨_, _, rfl⟩
  resolve := by cbv
  found := by
    have hplace : (projectDisk content page).place? "/p" =
        .ok (.occupied ["p"] (.folder (("a", .file [] true) :: pageEntries page) true)) := by cbv
    exact ⟨_, _, hplace, rfl, rfl, rfl⟩
  page := by
    intro e he
    cases page with
    | none => cases he
    | some access =>
      obtain rfl := Option.some.inj he
      exact ⟨[], access, rfl, hroom access rfl⟩
  short := by decide
  untagged := by decide

/-- There is no diagram in the folder. -/
theorem get?_flow_projectDisk (content : Option Bytes) (page : Option Access) :
    (projectDisk content page).root.get? ([("p" : Text)] ++ [Scan.flowFile]) = none := by cases page <;> rfl

/-- The file of the settings has the content. -/
theorem holds_projectDisk (content : Option Bytes) (page : Option Access) :
    homeOfDisk.Holds (projectDisk content page) content := by
  have hfile : homeOfDisk.file = "/home/config.toml" := by decide
  cases content with
  | none =>
    change (projectDisk none page).probe homeOfDisk.file = .ok none
    rw [hfile]
    cbv
  | some bytes =>
    have hentry : Disk.entry? (projectDisk (some bytes) page) homeOfDisk.file = .ok (.file bytes true) := by
      rw [hfile]
      cbv
    exact Disk.read_eq_ok_iff.mpr ⟨_, hentry, rfl⟩

/-- Settings without a group for scans leave the rules as they are. -/
theorem scanRules_of_load {home : Home} {loaded : Loaded} (hload : Settings.load d home = .ok loaded)
    (hnone : loaded.entries.lookup Setting.scanGroup = none) : Settings.scanRules d home [] = .ok defaultRules := by
  have hgroup : Settings.group d home Setting.scanGroup = .ok (Setting.defaults Setting.scanGroup) := by
    rw [Settings.group, hload, Except.map, Settings.groupOf, hnone]
  rw [Settings.scanRules, hgroup]
  rfl

/-- The graph of the one file in the folder. -/
def noteGraph : Graph where
  files := [⟨"a", "a", .file, none⟩]
  symbols := [("a", [⟨"a_file", "a (0 lines)", .fallback, some "a"⟩])]

theorem projectGraph_noteFile (hhere : d.here = "/") : projectGraph d [noteFile []] = noteGraph := by
  have hfile : noteFile [] = ⟨"/p/a", "a", [], 0⟩ := by cbv
  have hfound : Source.extract [] = ⟨[], [], []⟩ := by cbv
  have hgraph : (Graph.assemble (noteDisk []) [⟨"/p/a", "a", [], 0⟩] [⟨[], [], []⟩] maxSymbolsPerKind
      sourceExtensions).graph = noteGraph := by decide +kernel
  have hsame : Graph.assemble d [⟨"/p/a", "a", [], 0⟩] [⟨[], [], []⟩] maxSymbolsPerKind sourceExtensions =
      Graph.assemble (noteDisk []) [⟨"/p/a", "a", [], 0⟩] [⟨[], [], []⟩] maxSymbolsPerKind sourceExtensions := by
    -- without imports the disk does not matter
    refine Graph.assemble_congr hhere _ fun e he target htarget => ?_
    rw [List.mem_singleton.mp he] at htarget
    cases htarget
  rw [projectGraph, hfile, List.map_singleton, hfound, hsame, hgraph]

theorem collect_projectDisk (content : Option Bytes) (page : Option Access) :
    Scan.collect (projectDisk content page) "/p" defaultRules.policy = .ok ⟨[noteFile []], [], []⟩ := by
  have hpolicy : defaultRules.policy = {} := by decide
  have hhere : Path.absolute (projectDisk content page).here "/p" = "/p" := absolute_noteFolder
  have hroot : (projectDisk content page).probe "/p" =
      .ok (some (.folder (("a", .file [] true) :: pageEntries page) true)) := by cbv
  have hlists : (projectDisk content page).lists "/p" = true := by cbv
  have hentry : Disk.entry? (projectDisk content page) "/p/a" = .ok (.file [] true) := by cbv
  have hkept : Scan.entryPath "/p" "a" = "/p/a" ∧ ({} : Scan.Policy).ignores (Scan.entryName [] "a") false = false ∧
      ({} : Scan.Policy).reads "a" = true ∧
      ({} : Scan.Policy).ignores (Scan.entryName [] Scan.pageFile) false = true := by decide +kernel
  obtain ⟨hpath, hignores, hreads, hpage⟩ := hkept
  have htext : Utf8.readText [] = some [] := Utf8.readText_encode List.not_mem_nil
  have hrest : Scan.collectFiles (projectDisk content page) {} "/p" [] (pageEntries page) = .ok {} ∧
      Scan.walkSubfolders (projectDisk content page) {} "/p" [] (pageEntries page) = .ok {} := by
    cases page with
    | none => exact ⟨rfl, rfl⟩
    | some access =>
      refine ⟨?_, rfl⟩
      simp only [pageEntries, Option.toList_some, List.map_singleton, Scan.collectFiles, Scan.collectFile, hpage,
        Bool.or_true, Bool.true_or, if_true]
      rfl
  rw [hpolicy]
  simp only [Scan.collect, hhere, hroot, Scan.walk, hlists, if_true, Scan.collectFiles, Scan.walkSubfolders, hrest,
    Scan.collectFile_of_text hpath hentry hignores hreads htext]
  rfl

/-- A scan of the folder finds the file. -/
theorem exists_draws_projectDisk (content : Option Bytes) (page : Option Access) :
    ∃ flow, Draws (projectDisk content page) defaultRules "/p" flow ∧
      flow.diagram = Diagram.render noteGraph ["a"] maxBackboneFiles := by
  have hresolve : (projectDisk content page).resolve (Path.plain "/p") = .ok "/p" := by cbv
  have hgraph : projectGraph (projectDisk content page) [noteFile []] = noteGraph := projectGraph_noteFile rfl
  have hbackbone : noteGraph.backbone = .ok ["a"] := by rfl
  have hflow := generateFlow_eq hresolve (collect_projectDisk content page) (List.cons_ne_nil _ _)
    (hgraph ▸ hbackbone)
  exact ⟨_, ⟨rfl, hflow, rfl⟩, by rw [hgraph]⟩

/-- Its diagram has neither the marker of the end of a fence nor a carriage return. -/
theorem unmarked_projectDisk {content : Option Bytes} {page : Option Access}
    (h : Draws (projectDisk content page) defaultRules "/p" flow) :
    ¬Fence.closing <:+: flow.diagram ∧ '\r' ∉ flow.diagram := by
  obtain ⟨flow', hdraws, hdiagram⟩ := exists_draws_projectDisk content page
  obtain rfl := Except.ok.inj (h.generated.symm.trans hdraws.generated)
  rw [hdiagram]
  decide +kernel

/-- The two ways for the folder with one file, where nothing is set. -/
theorem view_after_generate_projectDisk : ∃ settings,
    Path.isAbsolute (projectMachine none none).disk.here = true ∧ (projectMachine none none).disk.root.Proper ∧
    IsProject (projectMachine none none).disk "p" "/p" ["p"] ∧
    (projectMachine none none).disk.root.get? ([("p" : Text)] ++ [Scan.flowFile]) = none ∧
    Invocation.ofArguments viewArguments = some (.view "p" Scan.flowFile Scan.pageFile false) ∧
    Invocation.ofArguments generateArguments = some (.generate "p" none []) ∧
    Settings.scanRules (projectMachine none none).disk projectPlaces.home [] = .ok defaultRules ∧
    Settings.exportSettings (projectMachine none none).disk projectPlaces.home = .ok settings ∧
    (∀ flow, Draws (projectMachine none none).disk defaultRules "/p" flow →
      ¬Fence.closing <:+: flow.diagram ∧ '\r' ∉ flow.diagram) ∧
    Agree (projectMachine none none) defaultRules settings "/p"
      (run projectPlaces viewArguments (projectMachine none none))
      (run projectPlaces generateArguments (projectMachine none none))
      (run projectPlaces viewArguments (run projectPlaces generateArguments (projectMachine none none)).2) ∧
    (run projectPlaces viewArguments (projectMachine none none)).1.exitCode = 0 := by
  have hload : Settings.load (projectMachine none none).disk projectPlaces.home = .ok ⟨[], false⟩ :=
    Settings.load_of_absent (holds_projectDisk none none)
  have hrules := scanRules_of_load hload rfl
  have hsettings : ∃ settings,
      Settings.exportSettings (projectMachine none none).disk projectPlaces.home = .ok settings ∧
        settings.maxTextSize = defaultMaxTextSize := by
    rw [Settings.exportSettings, Settings.group, hload]
    exact ⟨_, rfl, rfl⟩
  obtain ⟨settings, hsettings, hsize⟩ := hsettings
  have hproject : IsProject (projectMachine none none).disk "p" "/p" ["p"] := isProject_projectDisk none (by simp)
  have hproper : (projectMachine none none).disk.root.Proper := proper_projectDisk none none
  have hmarker : ∀ flow, Draws (projectMachine none none).disk defaultRules "/p" flow →
      ¬Fence.closing <:+: flow.diagram ∧ '\r' ∉ flow.diagram := fun _ => unmarked_projectDisk
  have hagree := view_after_generate hproject rfl ofArguments_viewArguments ofArguments_generateArguments hrules
    hsettings rfl hproper hmarker
  refine ⟨settings, rfl, hproper, hproject, rfl, ofArguments_viewArguments, ofArguments_generateArguments, hrules,
    hsettings, hmarker, hagree, hagree.succeeds.mpr ⟨?_, ?_, ?_⟩⟩
  · obtain ⟨flow, hdraws, -⟩ := exists_draws_projectDisk none none
    exact ⟨flow, hdraws⟩
  · rw [hsize]
    decide
  · have hopen : (projectDisk none none).openToWrite "/p/wholeflow.html" = .ok (["p", "wholeflow.html"], true) := by cbv
    exact ⟨_, hopen⟩

/-! ## What stops the page and not the diagram -/

/-- Neither way to the page ends well, and the second one leaves the diagram behind. -/
def LeavesDiagram (m : Machine) : Prop := ∃ settings,
  IsProject m.disk "p" "/p" ["p"] ∧ m.disk.root.get? ([("p" : Text)] ++ [Scan.flowFile]) = none ∧
  Settings.scanRules m.disk projectPlaces.home [] = .ok defaultRules ∧
  Settings.exportSettings m.disk projectPlaces.home = .ok settings ∧
  (∀ flow, Draws m.disk defaultRules "/p" flow → ¬Fence.closing <:+: flow.diagram ∧ '\r' ∉ flow.diagram) ∧
  (run projectPlaces viewArguments m).1.exitCode = 1 ∧
  ∃ document, Disk.entry? (run projectPlaces generateArguments m).2.disk (Path.under "/p" Scan.flowFile) =
    .ok (.file document true)

/-- A page that cannot be written is left out on either way, and the diagram is drawn nevertheless. -/
theorem leavesDiagram_of_stops {content : Option Bytes} {page : Option Access} {settings : ExportSettings}
    (hroom : ∀ access ∈ page, access.room = none)
    (hrules : Settings.scanRules (projectMachine content page).disk projectPlaces.home [] = .ok defaultRules)
    (hsettings : Settings.exportSettings (projectMachine content page).disk projectPlaces.home = .ok settings)
    (hstops : ∀ diagram,
      Ends (diagramToView projectPlaces "/p" Scan.flowFile) (projectMachine content page) diagram
          (projectMachine content page) →
        Stops (view projectPlaces "p" Scan.flowFile Scan.pageFile false) (projectMachine content page)) :
    LeavesDiagram (projectMachine content page) := by
  have hproject : IsProject (projectMachine content page).disk "p" "/p" ["p"] := isProject_projectDisk content hroom
  have hnew : (projectMachine content page).disk.root.get? ([("p" : Text)] ++ [Scan.flowFile]) = none :=
    get?_flow_projectDisk content page
  obtain ⟨flow, hdraws, -⟩ := exists_draws_projectDisk content page
  have hdiagram := ends_diagramToView_scan (hproject.probe_flow hnew) hrules hdraws
  obtain ⟨d, hwrite, -, -, -, hentry⟩ := hproject.exists_write_flow hnew (Utf8.encode flow.document)
  refine ⟨settings, hproject, hnew, hrules, hsettings, fun _ => unmarked_projectDisk,
    (run_of_stops ofArguments_viewArguments (hstops _ hdiagram)).1, ?_⟩
  rw [run_of_leaves ofArguments_generateArguments (leaves_generate hproject hrules hdraws hwrite)]
  exact ⟨_, hentry⟩

/-- The machine with a page that is protected from writing. -/
def protectedMachine : Machine := projectMachine none (some { read := true, write := false })

theorem leavesDiagram_protectedMachine : LeavesDiagram protectedMachine := by
  have hload := Settings.load_of_absent (holds_projectDisk none (some { read := true, write := false }))
  have hsettings : ∃ settings,
      Settings.exportSettings protectedMachine.disk projectPlaces.home = .ok settings ∧
        Text.isWritable settings.maxTextSize = true := by
    rw [Settings.exportSettings, Settings.group, projectPlaces, protectedMachine, projectMachine, hload]
    exact ⟨_, rfl, by decide⟩
  obtain ⟨settings, hsettings, hsize⟩ := hsettings
  have hroom : ∀ access ∈ some ({ read := true, write := false } : Access), access.room = none := by simp
  refine leavesDiagram_of_stops hroom (scanRules_of_load hload rfl) hsettings fun diagram hdiagram => ?_
  refine stops_view_of_page (isProject_projectDisk none hroom) hdiagram hsettings hsize ?_
  have hopen : (projectDisk none (some { read := true, write := false })).openToWrite "/p/wholeflow.html" =
      .error ⟨.noRight, "/p/wholeflow.html"⟩ := by cbv
  rintro ⟨opened, hopened⟩
  exact absurd (hopen.symm.trans hopened) (by simp)

/-- The lines of settings with a greatest text size in base sixteen. -/
def sizeLines (digits : Text) : List Text :=
  ['[' :: Setting.exportGroup ++ [']'], Document.valueLine Setting.maxTextSize.name (Document.hexadecimal digits)]

/-- The machine with these settings. -/
def sizeMachine (digits : Text) : Machine :=
  projectMachine (some (Utf8.encode (Document.unlines (sizeLines digits)))) none

theorem load_sizeMachine {digits : Text} {n : Nat} (halnum : ∀ c ∈ digits, c.isAlphanum = true)
    (hvalue : Document.naturalIn? 16 digits = some n) : Settings.load (sizeMachine digits).disk homeOfDisk =
      .ok ⟨[(Setting.exportGroup, .table [(Setting.maxTextSize.name, .integer n)])], false⟩ := by
  have hchars : ∀ c ∈ Document.hexadecimal digits, Document.isItemChar c = true := by
    intro c hc
    have hc := Document.isAlphanum_hexadecimal halnum c hc
    exact Document.isItemChar_of_isWordChar (by simp [Document.isWordChar, hc])
  have hname := Settings.isWord_name .maxTextSize
  have hread := Document.read_table (Settings.isWord_group .maxTextSize) hname
    (Document.standsFor_hexadecimal halnum hvalue) hchars
  have hreturn : '\r' ∉ Document.unlines (sizeLines digits) := by
    have hheader : '\r' ∉ '[' :: Setting.exportGroup ++ [']'] := by decide
    have hline := Document.notMem_valueLine hname hchars (x := '\r') (by decide) (by decide)
    exact Document.notMem_unlines_of_lines (by decide)
      (List.forall_mem_cons.mpr ⟨hheader, List.forall_mem_singleton.mpr hline⟩)
  exact Settings.load_of_read (holds_projectDisk _ _) hreturn hread

/-- A one and five zeros for each of `k`: a power of sixteen, with more than six times `k` digits in base ten. -/
def powerDigits (k : Nat) : Text := '1' :: List.replicate (5 * k) '0'

/-- Settings with such a number for the greatest text size are loaded, and it cannot be written. -/
theorem exportSettings_power {k : Nat} (hk : Text.maxDigits ≤ 6 * k) :
    Settings.scanRules (sizeMachine (powerDigits k)).disk homeOfDisk [] = .ok defaultRules ∧
      ∃ settings, Settings.exportSettings (sizeMachine (powerDigits k)).disk homeOfDisk = .ok settings ∧
        Text.isWritable settings.maxTextSize = false := by
  have halnum : ∀ c ∈ powerDigits k, c.isAlphanum = true := by
    refine List.forall_mem_cons.mpr ⟨by decide, fun c hc => ?_⟩
    rw [List.eq_of_mem_replicate hc]
    decide
  have hload := load_sizeMachine halnum (Document.naturalIn?_power (5 * k))
  refine ⟨scanRules_of_load hload rfl, ?_⟩
  rw [Settings.exportSettings, Settings.group, hload]
  exact ⟨_, rfl, Text.isWritable_power hk⟩

/-- The machine with one of these numbers that cannot be written. -/
def unwritableMachine : Machine := sizeMachine (powerDigits 717)

/-- **What stops the page does not stop the diagram.** The settings are loaded, and neither way ends well, because the
greatest text size cannot be written or the page is protected from writing; still the second way has written the
diagram. -/
theorem not_view_after_generate : LeavesDiagram unwritableMachine ∧ LeavesDiagram protectedMachine := by
  obtain ⟨hrules, settings, hsettings, hsize⟩ := exportSettings_power (k := 717) (by decide)
  refine ⟨leavesDiagram_of_stops (by simp) hrules hsettings fun diagram hdiagram => ?_, leavesDiagram_protectedMachine⟩
  exact stops_view_of_size (isProject_projectDisk _ (by simp)) hdiagram hsettings hsize

end ImportChart.Command
