import ImportChart.Graph.Basic
import ImportChart.Resolve
import ImportChart.Scan.Collect
import ImportChart.Source.Extract

/-!
# Building the graph of a project

Identifiers are given first to the files, then to the symbols of each file, then to the packages as they are met, so
that no import can change the identifier of a file or symbol. An import leads to one of four things: a file of the
project, a file outside it, a package, or nothing; `Assembly` keeps all four.
-/

namespace ImportChart

open Ident (Allocator)
open Scan (SourceFile)
open Source (Declarations)

/-- How many functions, and how many classes, of a file are drawn. -/
def maxSymbolsPerKind : Int := 8

namespace Graph

/-! ## Symbols -/

/-- The distinct names in the order of their first appearance, after those already seen; the search stops when there
are `limit` of them, which a limit of zero or less never is. -/
def distinctNames (limit : Int) (seen : List Text) : List Text → List Text
  | [] => seen
  | name :: names =>
    if seen.contains name then distinctNames limit seen names
    else if ((seen.length + 1 : Nat) : Int) = limit then seen ++ [name]
    else distinctNames limit (seen ++ [name]) names

/-- What is asked of the allocator for one node. -/
structure Request where
  kind : NodeKind
  /-- The label that the identifier is made from. -/
  key : Text
  /-- The label that is drawn. -/
  label : Text
  deriving DecidableEq, Repr

/-- The request for a function of a file. -/
def functionRequest (file : SourceFile) (name : Text) : Request :=
  ⟨.function, file.name ++ "_fn_" ++ name, ("fn: " : Text) ++ name⟩

/-- The request for a class of a file. -/
def classRequest (file : SourceFile) (name : Text) : Request :=
  ⟨.classType, file.name ++ "_class_" ++ name, ("class: " : Text) ++ name⟩

/-- The request that stands in for the symbols of a file without any. -/
def fallbackRequest (file : SourceFile) : Request :=
  ⟨.fallback, file.name ++ "_file", Path.baseName file.name ++ " (" ++ Text.ofInt file.lineCount ++ " lines)"⟩

/-- The requests for the symbols of a file. -/
def symbolRequests (maxSymbols : Int) (file : SourceFile) (found : Declarations) : List Request :=
  let requests := (distinctNames maxSymbols [] found.functions).map (functionRequest file) ++
    (distinctNames maxSymbols [] found.classes).map (classRequest file)
  if requests.isEmpty then [fallbackRequest file] else requests

/-- Make the nodes for a list of requests. -/
def allocateNodes (parent : Option Text) (ids : Allocator NodeKind) :
    List Request → List Node × Allocator NodeKind
  | [] => ([], ids)
  | r :: rs =>
    let (id, ids) := ids.allocate r.kind r.key
    let (nodes, ids) := allocateNodes parent ids rs
    (⟨id, r.label, r.kind, parent⟩ :: nodes, ids)

/-- A file with its node and its declarations. -/
structure FileEntry where
  file : SourceFile
  node : Node
  found : Declarations

/-- Make the nodes for the symbols of all files. -/
def allocateSymbols (maxSymbols : Int) (ids : Allocator NodeKind) :
    List FileEntry → List (Text × List Node) × Allocator NodeKind
  | [] => ([], ids)
  | e :: es =>
    let (nodes, ids) := allocateNodes (some e.node.id) ids (symbolRequests maxSymbols e.file e.found)
    let (others, ids) := allocateSymbols maxSymbols ids es
    ((e.node.id, nodes) :: others, ids)

/-! ## Imports -/

/-- What the imports have led to so far. -/
structure Assembly where
  ids : Allocator NodeKind
  externals : List (Text × Node) := []
  edges : List Edge := []
  incoming : Tally := []
  outgoing : Tally := []
  /-- Imports of files outside the project: the name of the importing file, and the path. -/
  outside : List (Text × Text) := []
  /-- Relative imports that lead nowhere: the name of the importing file, and the import. -/
  dropped : List (Text × Text) := []

/-- An edge between two files. -/
def Assembly.addFileEdge (a : Assembly) (src dst : Text) : Assembly :=
  { a with
    edges := a.edges ++ [⟨src, dst, .imports⟩]
    outgoing := a.outgoing.increment src
    incoming := a.incoming.increment dst }

/-- An edge to a package, which gets a node if it has none. -/
def Assembly.addExternalEdge (a : Assembly) (src package : Text) : Assembly :=
  match a.externals.lookup package with
  | some node => { a with edges := a.edges ++ [⟨src, node.id, .external⟩] }
  | none =>
    let (id, ids) := a.ids.allocate .external (("ext_" : Text) ++ package)
    { a with
      ids
      externals := a.externals ++ [(package, ⟨id, package, .external, none⟩)]
      edges := a.edges ++ [⟨src, id, .external⟩] }

/-- What one import adds; `byPath` gives the identifier of a file of the project by its path. -/
def Assembly.addImport (d : Disk) (extensions : List Text) (byPath : List (Text × Text)) (e : FileEntry)
    (a : Assembly) (target : Text) : Assembly :=
  match resolveImport d e.file.path target extensions with
  | some path =>
    match byPath.lookup path with
    | some dst => a.addFileEdge e.node.id dst
    | none => { a with outside := a.outside ++ [(e.file.name, path)] }
  | none =>
    if target.head? == some '.' then { a with dropped := a.dropped ++ [(e.file.name, target)] }
    else a.addExternalEdge e.node.id target

/-- What all imports of all files add. -/
def Assembly.addImports (d : Disk) (extensions : List Text) (byPath : List (Text × Text)) (a : Assembly)
    (entries : List FileEntry) : Assembly :=
  entries.foldl (fun a e => e.found.imports.foldl (Assembly.addImport d extensions byPath e) a) a

/-! ## The graph -/

/-- A graph with the imports that are not in it. -/
structure Built where
  graph : Graph
  outside : List (Text × Text)
  dropped : List (Text × Text)

/-- Why no graph can be built. -/
inductive BuildError where
  /-- There are not as many declarations as files. -/
  | lengthMismatch
  deriving DecidableEq, Repr

/-- The text of an error. -/
def BuildError.message : BuildError → Text
  | .lengthMismatch => "files and extractions must have the same length"

/-- The requests for the files. -/
def fileRequests (files : List SourceFile) : List Request := files.map fun f => ⟨.file, f.name, f.name⟩

/-- The identifiers of the files by their paths; of two files with one path the later counts. -/
def pathTable (here : Text) (files : List SourceFile) (nodes : List Node) : List (Text × Text) :=
  (List.zipWith (fun f n => (Path.absolute here f.path, n.id)) files nodes).reverse

/-- Put the files, their nodes and their declarations together. -/
def fileEntries (files : List SourceFile) (nodes : List Node) (found : List Declarations) : List FileEntry :=
  List.zipWith (fun (f, n) x => ⟨f, n, x⟩) (files.zip nodes) found

/-- The graph of files with as many declarations. -/
def assemble (d : Disk) (files : List SourceFile) (found : List Declarations) (maxSymbols : Int)
    (extensions : List Text) : Built :=
  let (nodes, ids) := allocateNodes none {} (fileRequests files)
  let entries := fileEntries files nodes found
  let (symbols, ids) := allocateSymbols maxSymbols ids entries
  let a := Assembly.addImports d extensions (pathTable d.here files nodes) { ids } entries
  { graph :=
      { files := nodes
        symbols := symbols.foldl (fun m (id, nodes) => setKey id nodes m) []
        externals := a.externals
        edges := a.edges
        incoming := a.incoming
        outgoing := a.outgoing
        collisions := a.ids.collisions }
    outside := a.outside
    dropped := a.dropped }

/-- The graph of a project. -/
def build (d : Disk) (files : List SourceFile) (found : List Declarations) (maxSymbols : Int)
    (extensions : List Text) : Except BuildError Built :=
  if files.length ≠ found.length then .error .lengthMismatch
  else .ok (assemble d files found maxSymbols extensions)

end Graph

end ImportChart
