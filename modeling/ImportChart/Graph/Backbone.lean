import ImportChart.Graph.Basic

/-!
# The backbone of a graph

The backbone lists every file once, importers before what they import. A file is listed when all imports that lead to
it are released; files that are free at the same time keep the order of the scan. Files on a cycle of imports, or
behind one, are never free; they follow at the end.
-/

namespace ImportChart

/-- How many files of the backbone are drawn as a chain. -/
def maxBackboneFiles : Int := 200

/-- Why a graph has no backbone. -/
inductive OrderError where
  /-- An import edge begins or ends at a file that is not in the graph. -/
  | unknownFile (id : Text)
  deriving DecidableEq, Repr

namespace Graph

/-- The first end of an import edge that is no file of the graph. -/
def unknownEnd? (g : Graph) : Option Text :=
  g.importEdges.findSome? fun e =>
    if !g.fileIds.contains e.src then some e.src
    else if !g.fileIds.contains e.dst then some e.dst
    else none

/-- The files that a file imports, once for each import. -/
def successors (g : Graph) (id : Text) : List Text := (g.importEdges.filter (·.src = id)).map Edge.dst

/-- How many imports lead to each file. -/
def indegrees (g : Graph) : Tally := g.importEdges.foldl (fun t e => t.increment e.dst) []

/-- Release one import of each of the given files: what is still pending, and the files that have become free. -/
def release (pending : Tally) : List Text → Tally × List Text
  | [] => (pending, [])
  | id :: ids =>
    let (rest, freed) := release (pending.decrement id) ids
    (rest, if pending.count id = 1 then id :: freed else freed)

/-- List the files of a queue and those that become free through them. -/
def drain (g : Graph) : (fuel : Nat) → (pending : Tally) → (queue : List Text) → List Text
  | 0, _, _ => []
  | _ + 1, _, [] => []
  | fuel + 1, pending, id :: queue =>
    let (pending, freed) := release pending (g.successors id)
    id :: g.drain fuel pending (queue ++ freed)

/-- The files that are free at some time; each import frees at most one. -/
def freed (g : Graph) : List Text :=
  let pending := g.indegrees
  g.drain (g.files.length + g.edges.length) pending (g.fileIds.filter fun id => pending.count id == 0)

/-- The backbone of a graph. -/
def backbone (g : Graph) : Except OrderError (List Text) :=
  match g.unknownEnd? with
  | some id => .error (.unknownFile id)
  | none =>
    let order := g.freed
    if order.length < g.files.length then .ok (order ++ g.fileIds.filter fun id => !order.contains id)
    else .ok order

end Graph

/-- The beginning of a list: `limit` members, or all but the last `-limit` if it is negative. -/
def takeLimit {α : Type} (limit : Int) (xs : List α) : List α :=
  if 0 ≤ limit then xs.take limit.toNat else xs.take (xs.length - (-limit).toNat)

end ImportChart
