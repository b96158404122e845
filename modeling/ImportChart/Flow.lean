import ImportChart.Diagram.Fence
import ImportChart.Diagram.Render
import ImportChart.Graph.Build

/-!
# From a folder to a diagram

`generateFlow` collects the files of a folder, extracts their declarations, builds the graph, orders its backbone and
renders the diagram. A folder without files to read is no error: the result has no files and no diagram.
-/

namespace ImportChart

/-- The greatest size of a diagram text that the drawing script accepts, unless the settings say otherwise. -/
def defaultMaxTextSize : Int := 200000

/-- The stages of a run, each reported when it begins. -/
inductive Stage where
  | collecting
  | extracting
  | building
  | ordering
  | rendering
  deriving DecidableEq, Repr

/-- What is shown while a stage runs. -/
def Stage.title : Stage → Text
  | .collecting => "Collecting files"
  | .extracting => "Extracting symbols"
  | .building => "Building dependency graph"
  | .ordering => "Ordering backbone"
  | .rendering => "Rendering diagram"

/-- The result of a run. -/
structure Flow where
  /-- The scanned folder, links resolved. -/
  root : Text
  files : List Scan.SourceFile
  graph : Graph
  backbone : List Text
  diagram : Text
  stages : List Stage

namespace Flow

/-- Whether there was nothing to read. -/
def isEmpty (f : Flow) : Bool := f.files.isEmpty

/-- The text of the file that keeps the diagram. -/
def document (f : Flow) : Text := Fence.wrap f.diagram

/-- The flow of collected files. -/
def ofFiles (d : Disk) (root : Text) (files : List Scan.SourceFile) : Except OrderError Flow :=
  if files.isEmpty then .ok ⟨root, [], {}, [], [], [.collecting]⟩
  else
    let found := files.map fun f => Source.extract f.content
    let graph := (Graph.assemble d files found maxSymbolsPerKind sourceExtensions).graph
    match graph.backbone with
    | .error e => .error e
    | .ok backbone =>
      .ok ⟨root, files, graph, backbone, Diagram.render graph backbone maxBackboneFiles,
        [.collecting, .extracting, .building, .ordering, .rendering]⟩

end Flow

/-- Why a run ends without a result. -/
inductive FlowError where
  | scan (e : Scan.ScanError)
  | order (e : OrderError)
  deriving DecidableEq, Repr

/-- The flow of a folder. -/
def generateFlow (d : Disk) (root : Text) (policy : Scan.Policy) : Except FlowError Flow :=
  match d.resolve (Path.plain root) with
  | .error f => .error (.scan (.fault f))
  | .ok root =>
    match Scan.collect d root policy with
    | .error e => .error (.scan e)
    | .ok c =>
      match Flow.ofFiles d root c.files with
      | .error e => .error (.order e)
      | .ok flow => .ok flow

end ImportChart
