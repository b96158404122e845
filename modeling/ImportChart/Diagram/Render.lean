import ImportChart.Graph.Backbone

/-!
# The diagram of a graph

A graph is written as a flowchart, one statement a line: the two anchors, a box for each file with its symbols in it,
the packages, the edges, the backbone as a chain of dotted edges, and the edges that tie the graph to the anchors.
-/

namespace ImportChart.Diagram

/-- The anchor that leads to the files that nothing imports. -/
def startId : Text := "Start"

/-- The anchor that the files lead to that import no file. -/
def endId : Text := "End"

/-- One step of indentation. -/
def indent : Text := "    "

/-- The escape for a double quotation mark inside a label. -/
def quoteEscape : Text := "#quot;"

/-- A label in double quotation marks. -/
def quotedLabel (label : Text) : Text :=
  '"' :: label.flatMap (fun c => if c == '"' then quoteEscape else [c]) ++ ['"']

/-- The statement that gives a node its label. -/
def nodeLine (node : Node) : Text := node.id ++ '[' :: quotedLabel node.label ++ [']']

/-- The lines of a file with its symbols. -/
def fileLines (symbols : List (Text × List Node)) (node : Node) : List Text :=
  (indent ++ "subgraph " ++ nodeLine node) ::
    ((symbols.lookup node.id).getD []).map (fun s => indent ++ indent ++ nodeLine s) ++ [indent ++ "end"]

/-- The line of a solid edge. -/
def edgeLine (src dst : Text) : Text := indent ++ src ++ " --> " ++ dst

/-- The line of a dotted edge. -/
def chainLine (src dst : Text) : Text := indent ++ src ++ " -.-> " ++ dst

/-- The dotted edges between neighbours. -/
def chainLines (chain : List Text) : List Text := List.zipWith chainLine chain (chain.drop 1)

/-- The lines of a diagram. -/
def lines (g : Graph) (backbone : List Text) (maxBackbone : Int) : List Text :=
  (["flowchart TD", indent ++ startId ++ "([Start])", indent ++ endId ++ "([End])"] : List Text) ++
    g.files.flatMap (fileLines g.symbols) ++
    g.externals.map (fun e => indent ++ nodeLine e.2) ++
    g.edges.map (fun e => edgeLine e.src e.dst) ++
    chainLines (takeLimit maxBackbone backbone) ++
    (if g.files.isEmpty then [edgeLine startId endId] else []) ++
    g.entryIds.map (edgeLine startId) ++
    g.leafIds.map fun id => edgeLine id endId

/-- The text of a diagram. -/
def render (g : Graph) (backbone : List Text) (maxBackbone : Int) : Text :=
  (lines g backbone maxBackbone).flatMap (· ++ ['\n'])

end ImportChart.Diagram
