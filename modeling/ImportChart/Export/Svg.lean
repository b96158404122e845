import ImportChart.Export.Machine
import ImportChart.Scan.Policy
import ImportChart.Text.Blank
import ImportChart.Text.Numeral

/-!
# Rendering a diagram to SVG

The renderer is a program that can be started in several ways. `exportSvg` writes the diagram to a file, makes a scratch
file and fills it with the renderer's settings, and tries the strategies in order until one succeeds. When all
strategies fail, the error lists all attempts.

The scratch file is removed on every way out on which strategies have been tried. It is not removed if it was made and
could not be filled: then it stays with what was written until then.
-/

namespace ImportChart.Export

/-- How long the renderer may run, in seconds, unless the settings say otherwise. -/
def defaultTimeout : Int := 120

/-! ## Strategies -/

/-- The words that start the renderer. -/
inductive Launcher where
  /-- The renderer cannot be started in this way. -/
  | absent
  | words (argv : List Text)
  /-- The strategy does not say how. -/
  | undefined
  /-- The disk could not be searched for it. -/
  | fault (f : Fault)
  deriving DecidableEq, Repr

/-- A way of finding the renderer. -/
structure Strategy where
  name : Text
  /-- How the renderer is started, given the words that name its files. -/
  launcher : Machine → List Text → Launcher

namespace Strategy

/-- The renderer among the packages of a project. -/
def projectBinary (project : Text) : Strategy where
  name := "local mmdc"
  launcher m files :=
    let path := Path.under project "node_modules/.bin/mmdc"
    match m.disk.probe path with
    | .ok (some (.file _ _)) => .words (path :: files)
    | .ok _ => .absent
    | .error f => .fault f

/-- The renderer among the installed programs. -/
def installedBinary : Strategy where
  name := "mmdc on PATH"
  launcher m files :=
    match m.find? "mmdc" with
    | some path => .words (path :: files)
    | none => .absent

/-- The renderer started by the package manager, which may fetch it first. -/
def packageManager : Strategy where
  name := "npm exec"
  launcher m files :=
    match m.find? "npm" with
    | some path => .words ([path, "exec", "--yes", "--package=@mermaid-js/mermaid-cli", "--", "mmdc"] ++ files)
    | none => .absent

/-- A strategy with fixed words in front of the files; none if it is unavailable. -/
def fixed (name : Text) (argv : Option (List Text)) : Strategy where
  name
  launcher _ files :=
    match argv with
    | some ws => .words (ws ++ files)
    | none => .absent

/-- A strategy that does not say how to start the renderer. -/
def unspecified : Strategy := ⟨"base", fun _ _ => .undefined⟩

/-- The strategies in the order in which they are tried. -/
def defaults (project : Text) : List Strategy := [projectBinary project, installedBinary, packageManager]

end Strategy

/-! ## Attempts -/

/-- A strategy that failed: the words that were run, if any, and why it failed. -/
structure Attempt where
  strategy : Text
  argv : List Text
  reason : Text
  deriving DecidableEq, Repr

/-- The reason of an attempt without words to run. -/
def notAvailable : Text := "not available"

/-- Why a run failed, from how it ended; none if it succeeded. A failed run is described by the last line of its
error channel, or of its output if the error channel is empty. -/
def failureReason? (timeout : Int) : Outcome → Option Text
  | .expired => some (("timed out after " : Text) ++ Text.ofInt timeout ++ "s")
  | .refused reason => some reason
  | .exited code output errors =>
    if code = 0 then none
    else
      let tail := match (Text.lines (Text.trim (if errors.isEmpty then output else errors))).getLast? with
        | some line => (": " : Text) ++ line
        | none => []
      some (("exited with code " : Text) ++ Text.ofInt code ++ tail)

/-- Why a diagram is not exported. -/
inductive ExportError where
  /-- The diagram has no character but blanks. -/
  | blank
  /-- A file could not be written. -/
  | fault (f : Fault)
  /-- The greatest text size has too many digits to be written. -/
  | sizeTooLong
  /-- A strategy does not say how to start the renderer. -/
  | undefinedStrategy
  /-- All strategies failed. -/
  | unavailable (attempts : List Attempt)
  deriving DecidableEq, Repr

/-- The text of an error. -/
def ExportError.message : ExportError → Text
  | .blank => "No mermaid content to render"
  | .fault f => f.message
  | .sizeTooLong => Text.tooManyDigits
  | .undefinedStrategy => []
  | .unavailable attempts =>
    let detail : Text := match attempts with
      | [] => "no strategies configured"
      | _ => Text.joinWith "; " (attempts.map fun a => a.strategy ++ ": " ++ a.reason)
    ("Mermaid CLI rendering failed (" : Text) ++ detail ++ ")"

/-! ## Export -/

/-- What is to be exported. -/
structure Request where
  diagram : Text
  /-- The folder that the files are written to. -/
  folder : Text
  rawName : Text := Scan.rawFlowFile
  svgName : Text := Scan.svgFile
  maxTextSize : Int
  strategies : List Strategy
  timeout : Int := defaultTimeout
  /-- Where the settings of the renderer are kept during the export. -/
  scratch : Text

namespace Request

/-- The file that keeps the diagram. -/
def rawPath (r : Request) : Text := Path.under r.folder r.rawName

/-- The file that the renderer is to write. -/
def svgPath (r : Request) : Text := Path.under r.folder r.svgName

/-- What stands before the number in the settings of the renderer. -/
def settingsHead : Text := "\x7b\"maxTextSize\": "

/-- The settings of the renderer. -/
def settings (r : Request) : Text := settingsHead ++ Text.ofInt r.maxTextSize ++ "\x7d"

/-- The words that name the three files. -/
def arguments (r : Request) : List Text := ["-i", r.rawPath, "-o", r.svgPath, "-c", r.scratch]

end Request

/-- A finished export. -/
structure Exported where
  svgPath : Text
  rawPath : Text
  /-- The strategy that succeeded. -/
  strategy : Text
  /-- The strategies that failed before it. -/
  attempts : List Attempt
  deriving DecidableEq, Repr

/-- Try strategies in order, given the attempts so far. -/
def tryAll (r : Request) (m : Machine) (attempts : List Attempt) :
    List Strategy → Except ExportError Exported × Machine
  | [] => (.error (.unavailable attempts), m)
  | s :: rest =>
    match s.launcher m r.arguments with
    | .undefined => (.error .undefinedStrategy, m)
    | .fault f => (.error (.fault f), m)
    | .absent => tryAll r m (attempts ++ [⟨s.name, [], notAvailable⟩]) rest
    | .words argv =>
      let (outcome, m) := m.run argv r.folder r.timeout
      match failureReason? r.timeout outcome with
      | none => (.ok ⟨r.svgPath, r.rawPath, s.name, attempts⟩, m)
      | some reason => tryAll r m (attempts ++ [⟨s.name, argv, reason⟩]) rest

/-- Make the scratch file and fill it with the settings of the renderer. They are written piece by piece, so that before
a number that cannot be written the file holds what stands in front of it. -/
def writeScratch (r : Request) (d : Disk) : Except ExportError Unit × Disk :=
  match d.write r.scratch [] with
  | (.error f, d) => (.error (.fault f), d)
  | (.ok (), made) =>
    let writable := Text.isWritable r.maxTextSize
    match made.write r.scratch (Utf8.encode (if writable then r.settings else Request.settingsHead)) with
    | (.error f, d) => (.error (.fault f), d)
    | (.ok (), d) => (if writable then .ok () else .error .sizeTooLong, d)

/-- Remove the scratch file, if it is there. -/
def removeScratch (r : Request) (m : Machine) : Machine :=
  match m.disk.remove r.scratch with
  | .ok d => m.withDisk d
  | .error _ => m

/-- Export a diagram. -/
def exportSvg (m : Machine) (r : Request) : Except ExportError Exported × Machine :=
  if Text.isBlankText r.diagram then (.error .blank, m)
  else
    match m.disk.write r.rawPath (Utf8.encode r.diagram) with
    | (.error f, d) => (.error (.fault f), m.withDisk d)
    | (.ok (), d) =>
      match writeScratch r d with
      | (.error e, d) => (.error e, m.withDisk d)
      | (.ok (), d) =>
        let (result, m) := tryAll r (m.withDisk d) [] r.strategies
        (result, removeScratch r m)

end ImportChart.Export
