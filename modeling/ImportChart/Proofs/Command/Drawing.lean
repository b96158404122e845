import ImportChart.Proofs.Command.Project
import ImportChart.Proofs.Diagram.Recovery
import ImportChart.Proofs.Text.Utf8

/-!
# How drawing and viewing end

- `Draws`: a scan by the rules of the settings finds files and gives a flow;
- `leaves_generate`: then the diagram is written; otherwise nothing is (`stops_generate`);
- `ends_diagramToView_file`, `ends_diagramToView_scan`: a page shows the diagram in the file, or a new one if there is
  no file;
- `ends_view`: the page is written, unless it cannot be opened (`stops_view_of_page`) or the greatest text size has too
  many digits (`stops_view_of_size`).
-/

namespace ImportChart.Command

open Effect
open Markup (IsTagged bracketed)
open Settings (ScanRules ExportSettings)

variable {m : Machine} {places : Places} {path folder diagram t : Text} {above : List Text} {rules : ScanRules}
  {settings : ExportSettings} {flow : Flow} {d : Disk}

/-! ## Lines -/

theorem ends_say_scanning (h : '[' ∉ folder) (m : Machine) :
    Ends (say (("Scanning workspace: [cyan]" : Text) ++ folder ++ "[/cyan]")) m () m := by
  have hline : ("Scanning workspace: [cyan]" : Text) ++ folder ++ "[/cyan]" =
      ("Scanning workspace: " : Text) ++ (bracketed "cyan" ++ (folder ++ bracketed ('/' :: "cyan"))) := by
    simp [bracketed]
  refine ends_say (IsTagged.exists_render ?_) m
  rw [hline]
  exact .plain (by decide) (by decide) (.opening Markup.isStyle_cyan (.last Markup.isStyle_cyan h []))

theorem ends_say_viewer (h : '[' ∉ path) (m : Machine) :
    Ends (say (("[green]✓[/green] Wrote viewer to [cyan]" : Text) ++ path ++ "[/cyan]")) m () m := by
  have hline : ("[green]✓[/green] Wrote viewer to [cyan]" : Text) ++ path ++ "[/cyan]" =
      bracketed "green" ++ (("✓" : Text) ++ (bracketed ('/' :: "green") ++ ((" Wrote viewer to " : Text) ++
        (bracketed "cyan" ++ (path ++ bracketed ('/' :: "cyan")))))) := by
    simp [bracketed]
  refine ends_say (IsTagged.exists_render ?_) m
  rw [hline]
  exact .opening Markup.isStyle_green (.plain (by decide) (by decide) (.closing Markup.isStyle_green
    (.plain (by decide) (by decide) (.opening Markup.isStyle_cyan (.last Markup.isStyle_cyan h [])))))

theorem ends_say_nothingFound (m : Machine) : Ends (say nothingFound) m () m := by
  have hline : nothingFound =
      bracketed "yellow" ++ (("⚠ No files found to analyze." : Text) ++ bracketed ('/' :: "yellow")) := by decide
  refine ends_say (IsTagged.exists_render ?_) m
  rw [hline]
  exact .opening Markup.isStyle_yellow (.last Markup.isStyle_yellow (by decide) [])

/-! ## Scans -/

/-- A scan by the rules of the settings finds files, and this is their flow. -/
structure Draws (d : Disk) (rules : ScanRules) (folder : Text) (flow : Flow) : Prop where
  usable : rules.fails d folder = false
  generated : generateFlow d folder rules.policy = .ok flow
  files : flow.isEmpty = false

theorem ends_flowOf (husable : rules.fails m.disk folder = false)
    (hgenerated : generateFlow m.disk folder rules.policy = .ok flow) : Ends (flowOf rules folder) m flow m := by
  refine (ends_disk m).bind ?_
  simp only [husable, hgenerated, Bool.false_eq_true, if_false]
  exact ends_pure flow m

theorem ends_flowWithFiles (h : Draws m.disk rules folder flow) : Ends (flowWithFiles rules folder) m flow m := by
  refine (ends_flowOf h.usable h.generated).bind ?_
  simp only [h.files, Bool.false_eq_true, if_false]
  exact ends_pure flow m

/-- A scan that finds no files stops the command, and so does one that fails. -/
theorem stops_flowWithFiles (h : ∀ flow, ¬Draws m.disk rules folder flow) : Stops (flowWithFiles rules folder) m := by
  cases husable : rules.fails m.disk folder with
  | true =>
    refine Stops.bind ((ends_disk m).stops ?_) _
    simp only [husable, if_true]
    exact (stops_fail _ m).bind _
  | false =>
    cases hgenerated : generateFlow m.disk folder rules.policy with
    | error e =>
      refine Stops.bind ((ends_disk m).stops ?_) _
      simp only [husable, hgenerated, Bool.false_eq_true, if_false]
      exact stops_fail _ m
    | ok flow =>
      have hempty : flow.isEmpty = true := by
        by_contra hfiles
        exact h flow ⟨husable, hgenerated, Bool.eq_false_iff.mpr hfiles⟩
      refine (ends_flowOf husable hgenerated).stops ?_
      simp only [hempty, if_true]
      exact (ends_say_nothingFound m).stops ((stops_refused m).bind _)

/-! ## Drawing -/

section

variable (hproject : IsProject m.disk path folder above)
  (hrules : Settings.scanRules m.disk places.home [] = .ok rules)
include hproject hrules

/-- **A flow is written as its document**, whatever is said of it afterwards. -/
theorem leaves_generate (hdraws : Draws m.disk rules folder flow)
    (hwrite : m.disk.write (Path.under folder Scan.flowFile) (Utf8.encode flow.document) = (.ok (), d)) :
    Leaves (generate places path none []) m (m.withDisk d) := by
  refine (ends_existingFolder hproject).leaves ((ends_disk m).leaves ((ends_ofSettings hrules m).leaves ?_))
  refine (ends_say_scanning hproject.untagged m).leaves ((ends_emit _ m).leaves ?_)
  refine (ends_flowWithFiles hdraws).leaves ((ends_writeFile hwrite).leaves ?_)
  exact (leaves_say _ _).bind fun _ => (leaves_say _ _).bind fun _ => leaves_forM fun _ => leaves_say _ _

/-- Without a flow nothing is written. -/
theorem stops_generate (hdraws : ∀ flow, ¬Draws m.disk rules folder flow) :
    Stops (generate places path none []) m := by
  refine (ends_existingFolder hproject).stops ((ends_disk m).stops ((ends_ofSettings hrules m).stops ?_))
  refine (ends_say_scanning hproject.untagged m).stops ((ends_emit _ m).stops ?_)
  exact (stops_flowWithFiles hdraws).bind _

end

/-! ## Viewing -/

theorem ends_existsAt {found : Option Entry} (h : m.disk.probe path = .ok found) :
    Ends (existsAt path) m found.isSome m := by
  refine (ends_disk m).bind ?_
  rw [h]
  exact ends_pure _ m

/-- The diagram in a file is found there. -/
theorem ends_diagramIn (hfile : m.disk.entry? path = .ok (.file (Utf8.encode t) true)) (hreturn : '\r' ∉ t)
    (hblank : Text.isBlankText (Fence.unwrap t) = false) : Ends (diagramIn path) m (Fence.unwrap t) m := by
  have hprobe : m.disk.probe path = .ok (some (.file (Utf8.encode t) true)) := Disk.probe_eq_some_iff.mpr hfile
  have hread : m.disk.read path = .ok (Utf8.encode t) := Disk.read_eq_ok_iff.mpr ⟨_, hfile, rfl⟩
  refine (ends_existsAt hprobe).bind ?_
  simp only [Option.isSome_some, Bool.not_true, Bool.false_eq_true, if_false]
  refine (ends_disk m).bind ?_
  simp only [hread, Utf8.readText_encode hreturn, hblank, Bool.false_eq_true, if_false]
  exact ends_pure _ m

/-- The diagram in the file is shown. -/
theorem ends_diagramToView_file
    (hfile : m.disk.entry? (Path.under folder Scan.flowFile) = .ok (.file (Utf8.encode t) true))
    (hreturn : '\r' ∉ t) (hblank : Text.isBlankText (Fence.unwrap t) = false) :
    Ends (diagramToView places folder Scan.flowFile) m (Fence.unwrap t) m := by
  have hprobe : m.disk.probe (Path.under folder Scan.flowFile) = .ok (some (.file (Utf8.encode t) true)) :=
    Disk.probe_eq_some_iff.mpr hfile
  refine (ends_existsAt hprobe).bind ?_
  simp only [Option.isSome_some, if_true]
  exact ends_diagramIn hfile hreturn hblank

section

variable (hnone : m.disk.probe (Path.under folder Scan.flowFile) = .ok none)
  (hrules : Settings.scanRules m.disk places.home [] = .ok rules)
include hnone hrules

/-- Without a file a new diagram is shown. -/
theorem ends_diagramToView_scan (hdraws : Draws m.disk rules folder flow) :
    Ends (diagramToView places folder Scan.flowFile) m flow.diagram m := by
  refine (ends_existsAt hnone).bind ?_
  simp only [Option.isSome_none, Bool.false_eq_true, if_false]
  refine (ends_disk m).bind ((ends_ofSettings hrules m).bind ((ends_flowWithFiles hdraws).bind ?_))
  exact ends_pure _ m

theorem stops_diagramToView (hdraws : ∀ flow, ¬Draws m.disk rules folder flow) :
    Stops (diagramToView places folder Scan.flowFile) m := by
  refine (ends_existsAt hnone).stops ?_
  simp only [Option.isSome_none, Bool.false_eq_true, if_false]
  exact (ends_disk m).stops ((ends_ofSettings hrules m).stops ((stops_flowWithFiles hdraws).bind _))

end

/-- The title of the page of a folder. -/
def pageTitle (folder : Text) : Text := ("Code Flowchart: " : Text) ++ Path.lastComponent folder

section

variable (hproject : IsProject m.disk path folder above)
include hproject

/-- Without a diagram no page is written. -/
theorem stops_view_of_diagram (hdiagram : Stops (diagramToView places folder Scan.flowFile) m) :
    Stops (view places path Scan.flowFile Scan.pageFile false) m :=
  (ends_existingFolder hproject).stops (hdiagram.bind _)

variable (hdiagram : Ends (diagramToView places folder Scan.flowFile) m diagram m)
  (hsettings : Settings.exportSettings m.disk places.home = .ok settings)
include hdiagram hsettings

section

variable (hsize : Text.isWritable settings.maxTextSize = true)
include hsize

/-- **The page of a diagram is written**, if it can be opened. -/
theorem ends_view (hopens : OpensPage m.disk folder) :
    ∃ d, Ends (view places path Scan.flowFile Scan.pageFile false) m () (m.withDisk d) ∧
      HasPage d folder (Page.render diagram (pageTitle folder) settings.maxTextSize) := by
  obtain ⟨d, hwrite, hpage⟩ :=
    hproject.exists_write_page hopens (Page.render diagram (pageTitle folder) settings.maxTextSize)
  refine ⟨d, ?_, hpage⟩
  refine (ends_existingFolder hproject).bind (hdiagram.bind ?_)
  refine (ends_disk m).bind ((ends_ofSettings hsettings m).bind ?_)
  simp only [hsize, Bool.not_true, Bool.false_eq_true, if_false]
  refine (ends_writeFile hwrite).bind ((ends_say_viewer hproject.untagged_page _).bind ?_)
  exact ends_pure () _

/-- A page that cannot be opened is not written. -/
theorem stops_view_of_page (hopens : ¬OpensPage m.disk folder) :
    Stops (view places path Scan.flowFile Scan.pageFile false) m := by
  obtain ⟨f, hwrite⟩ := IsProject.exists_write_page_error hopens
    (Utf8.encode (Page.render diagram (pageTitle folder) settings.maxTextSize))
  refine (ends_existingFolder hproject).stops (hdiagram.stops ?_)
  refine (ends_disk m).stops ((ends_ofSettings hsettings m).stops ?_)
  simp only [hsize, Bool.not_true, Bool.false_eq_true, if_false]
  exact (stops_writeFile hwrite).bind _

end

/-- A greatest text size with too many digits is not written on a page. -/
theorem stops_view_of_size (hsize : Text.isWritable settings.maxTextSize = false) :
    Stops (view places path Scan.flowFile Scan.pageFile false) m := by
  refine (ends_existingFolder hproject).stops (hdiagram.stops ?_)
  refine (ends_disk m).stops ((ends_ofSettings hsettings m).stops ?_)
  simp only [hsize, Bool.not_false, if_true]
  exact (stops_fail _ m).bind _

end

end ImportChart.Command
