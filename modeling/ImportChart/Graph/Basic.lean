import ImportChart.Ident.Allocator
import ImportChart.Keyed

/-!
# Dependency graphs

The files of a project, the symbols that each declares, the packages that they import from, and the edges between
them.

- `Tally`: how often something was counted, with `count_increment`;
- `Graph`, with the two kinds of edges that it tells apart.
-/

namespace ImportChart

/-! ## Counting -/

/-- How often each text was counted. -/
abbrev Tally := List (Text × Nat)

namespace Tally

/-- How often a text was counted. -/
def count (t : Tally) (key : Text) : Nat := (t.lookup key).getD 0

/-- Count a text once more. -/
def increment (t : Tally) (key : Text) : Tally := setKey key (count t key + 1) t

/-- Count a text once less. -/
def decrement (t : Tally) (key : Text) : Tally := setKey key (count t key - 1) t

/-- Counting a text once more adds one to it and leaves the others. -/
theorem count_increment (t : Tally) (key other : Text) :
    count (increment t key) other = count t other + if other = key then 1 else 0 := by
  by_cases h : other = key
  · subst h; simp [count, increment, lookup_setKey_self]
  · simp [count, increment, lookup_setKey_of_ne h, h]

/-- Counting a text once less takes one from it and leaves the others. -/
theorem count_decrement (t : Tally) (key other : Text) :
    count (decrement t key) other = count t other - if other = key then 1 else 0 := by
  by_cases h : other = key
  · subst h; simp [count, decrement, lookup_setKey_self]
  · simp [count, decrement, lookup_setKey_of_ne h, h]

end Tally

/-! ## Graphs -/

/-- What a node stands for. -/
inductive NodeKind where
  | file
  | function
  | classType
  /-- The node that stands in for the symbols of a file that declares none. -/
  | fallback
  | external
  deriving DecidableEq, Repr

/-- A node of the diagram. -/
structure Node where
  id : Text
  label : Text
  kind : NodeKind
  /-- The file that a symbol belongs to. -/
  parent : Option Text
  deriving DecidableEq, Repr

/-- What an edge stands for. -/
inductive EdgeKind where
  /-- A file imports a file. -/
  | imports
  /-- A file imports a package. -/
  | external
  /-- An edge that is drawn and counts for nothing. -/
  | other (name : Text)
  deriving DecidableEq, Repr

/-- An edge between the nodes with two identifiers. -/
structure Edge where
  src : Text
  dst : Text
  kind : EdgeKind
  deriving DecidableEq, Repr

/-- The dependencies of a project. -/
structure Graph where
  /-- The files in the order of the scan. -/
  files : List Node := []
  /-- The symbols of each file, by its identifier. -/
  symbols : List (Text × List Node) := []
  /-- The packages in the order in which they are first imported, by name. -/
  externals : List (Text × Node) := []
  edges : List Edge := []
  /-- How many imports lead to a file. -/
  incoming : Tally := []
  /-- How many imports lead from a file to a file. -/
  outgoing : Tally := []
  collisions : List Ident.Collision := []
  deriving DecidableEq, Repr

namespace Graph

/-- The identifiers of the files. -/
def fileIds (g : Graph) : List Text := g.files.map Node.id

/-- The edges between files. -/
def importEdges (g : Graph) : List Edge := g.edges.filter (·.kind == .imports)

/-- The edges to packages. -/
def externalEdges (g : Graph) : List Edge := g.edges.filter (·.kind == .external)

/-- The files that no file imports. -/
def entryIds (g : Graph) : List Text := g.fileIds.filter fun id => g.incoming.count id == 0

/-- The files that import no file. -/
def leafIds (g : Graph) : List Text := g.fileIds.filter fun id => g.outgoing.count id == 0

/-- Count the import edges anew. -/
def withTallies (g : Graph) : Graph :=
  { g with
    incoming := g.importEdges.foldl (fun t e => t.increment e.dst) []
    outgoing := g.importEdges.foldl (fun t e => t.increment e.src) [] }

end Graph

end ImportChart
