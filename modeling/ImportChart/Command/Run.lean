import ImportChart.Command.Arguments
import ImportChart.Diagram.Page
import ImportChart.Document.Shown
import ImportChart.Markup.Line
import ImportChart.Settings.Effective

/-!
# Running a command

A command reads and changes the disk of a machine and shows lines. It ends well, or it stops: with an exit code after
it has said why, with a message on wrong arguments, or with a failure that it does not handle.

- `Command`: the commands as functions on a `Session`;
- `run`: from arguments to a `Response` and the machine afterwards.
-/

namespace ImportChart.Command

open Document (Value)

/-! ## Sessions -/

/-- A failure that a command does not handle. -/
inductive Failure where
  | settings (e : SettingsError)
  | flow (e : FlowError)
  | exporting (e : Export.ExportError)
  | fault (f : Fault)
  /-- A file is not in UTF-8. -/
  | undecodable
  /-- A pattern that is not a text is looked for in a path. -/
  | patternNotText
  /-- A line has a tag that cannot be shown. -/
  | markup (f : Markup.LineFault)
  /-- A value has no text. -/
  | unwritable (e : Document.WriteError)
  deriving DecidableEq, Repr

/-- How a command stops before its end. -/
inductive Stop where
  /-- The command has said why. -/
  | refused
  /-- The arguments are wrong. -/
  | usage (message : Option Text)
  | failed (f : Failure)
  deriving DecidableEq, Repr

/-- The table of the settings. -/
structure Table where
  title : Text
  columns : List Text
  rows : List (List Text)
  deriving DecidableEq, Repr

/-- A machine with what a command has shown so far. -/
structure Session where
  machine : Machine
  shown : Text := []
  table : Option Table := none
  /-- The pages that were opened. -/
  opened : List Text := []

/-- A step of a command. -/
abbrev Effect := ExceptT Stop (StateM Session)

/-- Where the program keeps its own files: the settings, and the settings of the renderer during an export. -/
structure Places where
  home : Settings.Home
  scratch : Text

namespace Effect

/-- The disk. -/
def disk : Effect Disk := return (← get).machine.disk

/-- Change the disk. -/
def setDisk (d : Disk) : Effect Unit := modify fun s => { s with machine := s.machine.withDisk d }

/-- Stop with a failure. -/
def fail {α : Type} (f : Failure) : Effect α := throw (.failed f)

/-- Show a text as it is. -/
def emit (t : Text) : Effect Unit := modify fun s => { s with shown := s.shown ++ t }

/-- Show a line with style tags. -/
def say (line : Text) : Effect Unit :=
  match Markup.render line with
  | .ok t => emit (t ++ ['\n'])
  | .error f => fail (.markup f)

/-- The result of something done with the settings. -/
def ofSettings {α : Type} (r : Except SettingsError α) : Effect α :=
  match r with
  | .ok a => return a
  | .error e => fail (.settings e)

/-- Write a file. If it cannot be written to its end, what has been written stays. -/
def writeFile (path : Text) (content : Text) : Effect Unit := do
  let (result, d) := (← disk).write path (Utf8.encode content)
  setDisk d
  match result with
  | .ok () => return ()
  | .error f => fail (.fault f)

end Effect

open Effect

/-! ## Parts of commands -/

/-- The folder that a path leads to, with its links resolved; anything else is a wrong argument. -/
def existingFolder (path : Text) : Effect Text := do
  let d ← disk
  match d.resolve path with
  | .error _ => throw (.usage none)
  | .ok folder =>
    match d.entry? folder with
    | .ok (.folder _ _) => return folder
    | _ => throw (.usage none)

/-- What is said when a scan finds nothing. -/
def nothingFound : Text := "[yellow]⚠ No files found to analyze.[/yellow]"

/-- The flow of a folder by the rules of the settings. -/
def flowOf (rules : Settings.ScanRules) (folder : Text) : Effect Flow := do
  let d ← disk
  if rules.fails d folder then fail .patternNotText
  match generateFlow d folder rules.policy with
  | .ok flow => return flow
  | .error e => fail (.flow e)

/-- The flow of a folder, which has to have files. -/
def flowWithFiles (rules : Settings.ScanRules) (folder : Text) : Effect Flow := do
  let flow ← flowOf rules folder
  if flow.isEmpty then do
    say nothingFound
    throw .refused
  return flow

/-- Whether there is something at a path. -/
def existsAt (path : Text) : Effect Bool := do
  match (← disk).probe path with
  | .ok e => return e.isSome
  | .error f => fail (.fault f)

/-- The diagram in a file. -/
def diagramIn (path : Text) : Effect Text := do
  let name := Path.lastComponent path
  if !(← existsAt path) then do
    say (("[red]✗[/red] " : Text) ++ name ++ " not found. Run [cyan]cflow generate[/cyan] first.")
    throw .refused
  match (← disk).read path with
  | .error f => fail (.fault f)
  | .ok content =>
    match Utf8.readText content with
    | none => fail .undecodable
    | some t =>
      let diagram := Fence.unwrap t
      if Text.isBlankText diagram then do
        say (("[red]✗[/red] No mermaid content found in " : Text) ++ name)
        throw .refused
      return diagram

/-! ## Commands -/

/-- What is said of an identifier that could not be the preferred one. -/
def collisionLine (c : Ident.Collision) : Text :=
  ("[yellow]⚠[/yellow] '" : Text) ++ Markup.escape c.label ++ "' renamed to " ++ c.assigned ++ " (clashes with '" ++
    Markup.escape c.holder ++ "')"

/-- What is said of the size of a graph. -/
def countsLine (g : Graph) : Text :=
  ("Files: " : Text) ++ Text.ofNat g.files.length ++ " | Imports: " ++ Text.ofNat g.importEdges.length ++
    " | External: " ++ Text.ofNat g.externals.length

/-- Scan a folder and write its diagram. -/
def generate (places : Places) (path : Text) (output : Option Text) (ignores : List Text) : Effect Unit := do
  let folder ← existingFolder path
  let rules ← ofSettings (Settings.scanRules (← disk) places.home ignores)
  let target := match output with
    | some file => Path.plain file
    | none => Path.under folder Scan.flowFile
  say (("Scanning workspace: [cyan]" : Text) ++ folder ++ "[/cyan]")
  emit "\n"
  let flow ← flowWithFiles rules folder
  writeFile target flow.document
  say (("[green]✓[/green] Wrote flow to [cyan]" : Text) ++ target ++ "[/cyan]")
  say (countsLine flow.graph)
  flow.graph.collisions.forM fun c => say (collisionLine c)

/-- Say that the renderer could not be run, and why. -/
def reportAttempts (attempts : List Export.Attempt) : Effect Unit := do
  say "[red]✗ Failed to run Mermaid CLI.[/red]"
  attempts.forM fun a => say (("  [dim]" : Text) ++ a.strategy ++ ":[/dim] " ++ a.reason)
  say "Install it locally, for example:"
  say "  [cyan]npm install -D @mermaid-js/mermaid-cli[/cyan]"

/-- Render the diagram of a folder. -/
def exportDiagram (places : Places) (path input output : Text) (maxTextSize : Option Int) : Effect Unit := do
  let folder ← existingFolder path
  let diagram ← diagramIn (Path.under folder input)
  let settings ← ofSettings (Settings.exportSettings (← disk) places.home)
  let (result, machine) := Export.exportSvg (← get).machine {
    diagram, folder
    svgName := output
    maxTextSize := maxTextSize.getD settings.maxTextSize
    strategies := Export.Strategy.defaults folder
    timeout := settings.timeout
    scratch := places.scratch }
  modify fun s => { s with machine }
  match result with
  | .ok done =>
    say (("[green]✓[/green] Generated SVG: [cyan]" : Text) ++ done.svgPath ++ "[/cyan] (via " ++ done.strategy ++ ")")
  | .error (.unavailable attempts) => do
    reportAttempts attempts
    throw .refused
  | .error e => fail (.exporting e)

/-- A byte in an address: a letter, a digit or one of five other characters as it is, any other in percent form. -/
def addressByte (b : UInt8) : Text :=
  let c := Char.ofNat b.toNat
  if c.isAlphanum || c ∈ (['_', '.', '-', '~', '/'] : List Char) then [c]
  else ['%', (Nat.digitChar (b.toNat / 16)).toUpper, (Nat.digitChar (b.toNat % 16)).toUpper]

/-- The address of a file. -/
def address (path : Text) : Text := ("file://" : Text) ++ (Utf8.encode path).flatMap addressByte

/-- The diagram that a page shows: the one in the file, or a new one if there is no file. -/
def diagramToView (places : Places) (folder input : Text) : Effect Text := do
  let file := Path.under folder input
  if ← existsAt file then diagramIn file
  else
    let rules ← ofSettings (Settings.scanRules (← disk) places.home [])
    return (← flowWithFiles rules folder).diagram

/-- Write the page with the diagram of a folder. -/
def view (places : Places) (path input output : Text) (opens : Bool) : Effect Unit := do
  let folder ← existingFolder path
  let diagram ← diagramToView places folder input
  let settings ← ofSettings (Settings.exportSettings (← disk) places.home)
  if !Text.isWritable settings.maxTextSize then fail (.unwritable .tooManyDigits)
  let title := ("Code Flowchart: " : Text) ++ Path.lastComponent folder
  let target := Path.under folder output
  writeFile target (Page.render diagram title settings.maxTextSize)
  say (("[green]✓[/green] Wrote viewer to [cyan]" : Text) ++ target ++ "[/cyan]")
  if opens then modify fun s => { s with opened := s.opened ++ [address target] }

/-- The text of a setting in the table. -/
def cellOf (v : Value) : Effect Text :=
  let text : Document.Writing Text := match v with
    | .list items => do
      let joined := Text.joinWith ", " (← items.mapM Value.shown)
      return (if joined.isEmpty then ['-'] else joined)
    | v => v.shown
  match text with
  | .ok t => return t
  | .error e => fail (.unwritable e)

/-- Show the settings. -/
def showSettings (places : Places) : Effect Unit := do
  let rows ← Setting.groups.mapM fun group => do
    let entries ← ofSettings (Settings.group (← disk) places.home group)
    entries.mapM fun (name, value) => do return [group ++ '.' :: name, ← cellOf value]
  modify fun s => { s with table := some {
    title := ("CodeFlow config (" : Text) ++ places.home.file ++ ")"
    columns := ["Key", "Value"]
    rows := rows.flatten } }

/-- The message on a setting that is not changed, if the fault lies in the arguments or in what the file says. -/
def usageMessage? : SettingsError → Option Text
  | .unknownKey key =>
    some (("Unknown key '" : Text) ++ key ++ "'. Known keys: " ++ Text.joinWith ", " (Setting.all.map Setting.key))
  | .notBoolean raw => some (SettingsError.notBoolean raw).message
  | .notInteger raw e => some (SettingsError.notInteger raw e).message
  | .notPositive raw => some (SettingsError.notPositive raw).message
  | .undecodable f => some f.message
  | .document .tooManyDigits => some (SettingsError.document .tooManyDigits).message
  | .writing .tooManyDigits => some (Document.WriteError.tooManyDigits).message
  | .writing .distantOffset => some (Document.WriteError.distantOffset).message
  | _ => none

/-- Change a setting. -/
def setSetting (places : Places) (key raw : Text) : Effect Unit := do
  let (result, d) := Settings.set (← disk) places.home key raw
  setDisk d
  match result with
  | .error e =>
    match usageMessage? e with
    | some message => throw (.usage (some message))
    | none => fail (.settings e)
  | .ok value =>
    match value.shown with
    | .ok stored => say (("[green]✓[/green] " : Text) ++ key ++ " = " ++ stored)
    | .error e => fail (.unwritable e)

/-- Go back to the settings that hold when nothing is set. -/
def resetSettings (places : Places) : Effect Unit := do
  let (result, d) := Settings.reset (← disk) places.home
  setDisk d
  if ← ofSettings result then say "[green]✓[/green] Config reset to defaults." else say "Already using defaults."

/-- The text of the version. -/
def versionText : Text := "CodeFlow CLI v0.3.0\n"

/-- The command of an invocation. -/
def command (places : Places) : Invocation → Effect Unit
  | .version => emit versionText
  | .generate path output ignores => generate places path output ignores
  | .exportSvg path input output maxTextSize => exportDiagram places path input output maxTextSize
  | .view path input output opens => view places path input output opens
  | .showSettings => showSettings places
  | .setSetting key value => setSetting places key value
  | .resetSettings => resetSettings places

/-! ## Responses -/

/-- How a run of the program ended, and what it showed. -/
structure Response where
  stop : Option Stop
  shown : Text
  table : Option Table
  opened : List Text

/-- The exit code: 2 for wrong arguments, 1 for any other stop. -/
def Response.exitCode (r : Response) : Nat :=
  match r.stop with
  | none => 0
  | some (.usage _) => 2
  | some _ => 1

/-- Run the program with arguments. -/
def run (places : Places) (arguments : List Text) (m : Machine) : Response × Machine :=
  match Invocation.ofArguments arguments with
  | none => (⟨some (.usage none), [], none, []⟩, m)
  | some invocation =>
    let (result, s) := (command places invocation).run.run { machine := m }
    (⟨match result with
      | .ok () => none
      | .error stop => some stop, s.shown, s.table, s.opened⟩, s.machine)

end ImportChart.Command
