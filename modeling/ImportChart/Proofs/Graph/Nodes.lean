import ImportChart.Graph.Build
import ImportChart.Proofs.Ident.Allocation

/-!
# The nodes of a graph and the requests for them

All identifiers of a graph come from one run of the allocator: first the files are asked for, then the symbols of
each file, then the packages in the order in which they are met.

- `ids_allocateNodes`, `ids_allocateSymbols`: a pass over requests is a run of the allocator;
- `addImport_cases`: what one import can do, and `addImports_induction`: what every import keeps, all of them keep;
- `Named`: the invariant of the imports, among which only new packages get identifiers;
- `ids_nodes_assemble`: the identifiers of all nodes are the answers of one run, if the names of files are distinct.
-/

namespace ImportChart.Graph

open Ident (Allocator)
open Scan (SourceFile)
open Source (Declarations)

variable {d : Disk} {files : List SourceFile} {found : List Declarations} {maxSymbols : Int}
  {extensions : List Text} {byPath : List (Text × Text)} {ids : Allocator NodeKind} {a : Assembly}

/-- The nodes of a graph: the files, the symbols of each, and the packages. -/
def nodes (g : Graph) : List Node := g.files ++ g.symbols.flatMap (·.2) ++ g.externals.map (·.2)

/-! ## Files and symbols -/

/-- The pair that a request asks the allocator for. -/
def Request.pair (r : Request) : NodeKind × Text := (r.kind, r.key)

/-- The identifiers of the nodes for requests are the answers of a run. -/
theorem ids_allocateNodes (parent : Option Text) (ids : Allocator NodeKind) (rs : List Request) :
    (allocateNodes parent ids rs).1.map Node.id = (ids.run (rs.map Request.pair)).1 := by
  induction rs generalizing ids with
  | nil => rfl
  | cons r rs ih => simp only [allocateNodes, List.map_cons, ih]; rfl

theorem snd_allocateNodes (parent : Option Text) (ids : Allocator NodeKind) (rs : List Request) :
    (allocateNodes parent ids rs).2 = (ids.run (rs.map Request.pair)).2 := by
  induction rs generalizing ids with
  | nil => rfl
  | cons r rs ih => simp only [allocateNodes, List.map_cons, ih]; rfl

/-- Besides their identifiers, the nodes for requests have what the requests say. -/
theorem map_allocateNodes (parent : Option Text) (ids : Allocator NodeKind) (rs : List Request) :
    (allocateNodes parent ids rs).1.map (fun n => (n.kind, n.label, n.parent)) =
      rs.map fun r => (r.kind, r.label, parent) := by
  induction rs generalizing ids with
  | nil => rfl
  | cons r rs ih => simp only [allocateNodes, List.map_cons, ih]

theorem kinds_allocateNodes (parent : Option Text) (ids : Allocator NodeKind) (rs : List Request) :
    (allocateNodes parent ids rs).1.map Node.kind = (rs.map Request.pair).map (·.1) := by
  have h := congrArg (List.map fun t : NodeKind × Text × Option Text => t.1) (map_allocateNodes parent ids rs)
  rw [List.map_map, List.map_map] at h
  rw [List.map_map]
  exact h

/-- The pairs that are asked for the symbols of a file. -/
def symbolPairs (maxSymbols : Int) (file : SourceFile) (found : Declarations) : List (NodeKind × Text) :=
  (symbolRequests maxSymbols file found).map Request.pair

/-- The identifiers of the symbols of all files are the answers of a run. -/
theorem ids_allocateSymbols (maxSymbols : Int) (ids : Allocator NodeKind) (es : List FileEntry) :
    ((allocateSymbols maxSymbols ids es).1.flatMap (·.2)).map Node.id =
      (ids.run (es.flatMap fun e => symbolPairs maxSymbols e.file e.found)).1 := by
  induction es generalizing ids with
  | nil => rfl
  | cons e es ih =>
    simp only [allocateSymbols, List.flatMap_cons, List.map_append, ids_allocateNodes, snd_allocateNodes, ih,
      Allocator.run_append, symbolPairs]

theorem snd_allocateSymbols (maxSymbols : Int) (ids : Allocator NodeKind) (es : List FileEntry) :
    (allocateSymbols maxSymbols ids es).2 =
      (ids.run (es.flatMap fun e => symbolPairs maxSymbols e.file e.found)).2 := by
  induction es generalizing ids with
  | nil => rfl
  | cons e es ih =>
    simp only [allocateSymbols, List.flatMap_cons, snd_allocateNodes, ih, Allocator.run_append, symbolPairs]

theorem kinds_allocateSymbols (maxSymbols : Int) (ids : Allocator NodeKind) (es : List FileEntry) :
    ((allocateSymbols maxSymbols ids es).1.flatMap (·.2)).map Node.kind =
      (es.flatMap fun e => symbolPairs maxSymbols e.file e.found).map (·.1) := by
  induction es generalizing ids with
  | nil => rfl
  | cons e es ih =>
    simp only [allocateSymbols, List.flatMap_cons, List.map_append, kinds_allocateNodes, ih, symbolPairs]

theorem keys_allocateSymbols (maxSymbols : Int) (ids : Allocator NodeKind) (es : List FileEntry) :
    (allocateSymbols maxSymbols ids es).1.map (·.1) = es.map (·.node.id) := by
  induction es generalizing ids with
  | nil => rfl
  | cons e es ih => simp only [allocateSymbols, List.map_cons, ih]

theorem parent_of_mem_allocateSymbols {maxSymbols : Int} :
    ∀ {ids : Allocator NodeKind} {es : List FileEntry}, ∀ p ∈ (allocateSymbols maxSymbols ids es).1,
      ∀ n ∈ p.2, n.parent = some p.1
  | _, [], p, hp => by simp [allocateSymbols] at hp
  | ids, e :: es, p, hp => by
    simp only [allocateSymbols, List.mem_cons] at hp
    rcases hp with rfl | hp
    · intro n hn
      have hmap := List.mem_map_of_mem (f := fun n : Node => (n.kind, n.label, n.parent)) hn
      rw [map_allocateNodes] at hmap
      obtain ⟨r, -, hr⟩ := List.mem_map.mp hmap
      exact (congrArg (fun t => t.2.2) hr).symm
    · exact parent_of_mem_allocateSymbols p hp

/-! ## Imports -/

namespace Assembly

/-- **What one import does**: it leads to a file of the project, to a file outside it, to nothing or to a package. -/
theorem addImport_cases (d : Disk) (extensions : List Text) (byPath : List (Text × Text)) (e : FileEntry)
    (a : Assembly) (target : Text) :
    (∃ path dst, resolveImport d e.file.path target extensions = some path ∧ byPath.lookup path = some dst ∧
        a.addImport d extensions byPath e target = a.addFileEdge e.node.id dst) ∨
      (∃ path, resolveImport d e.file.path target extensions = some path ∧ byPath.lookup path = none ∧
        a.addImport d extensions byPath e target = { a with outside := a.outside ++ [(e.file.name, path)] }) ∨
      (resolveImport d e.file.path target extensions = none ∧ target.head? = some '.' ∧
        a.addImport d extensions byPath e target = { a with dropped := a.dropped ++ [(e.file.name, target)] }) ∨
      (resolveImport d e.file.path target extensions = none ∧ target.head? ≠ some '.' ∧
        a.addImport d extensions byPath e target = a.addExternalEdge e.node.id target) := by
  unfold addImport
  cases hresolve : resolveImport d e.file.path target extensions with
  | some path =>
    cases hlookup : byPath.lookup path with
    | some dst => exact Or.inl ⟨path, dst, rfl, hlookup, by simp only [hlookup]⟩
    | none => exact Or.inr (Or.inl ⟨path, rfl, hlookup, by simp only [hlookup]⟩)
  | none =>
    by_cases hdot : target.head? = some '.'
    · exact Or.inr (Or.inr (Or.inl ⟨rfl, hdot, by simp [hdot]⟩))
    · exact Or.inr (Or.inr (Or.inr ⟨rfl, hdot, by simp [hdot]⟩))

theorem addExternalEdge_of_lookup {src package : Text} {node : Node} (h : a.externals.lookup package = some node) :
    a.addExternalEdge src package = { a with edges := a.edges ++ [⟨src, node.id, .external⟩] } := by
  simp only [addExternalEdge, h]

theorem addExternalEdge_of_new {src package : Text} (h : a.externals.lookup package = none) :
    a.addExternalEdge src package =
      let id := (a.ids.allocate .external (("ext_" : Text) ++ package)).1
      { a with
        ids := (a.ids.allocate .external (("ext_" : Text) ++ package)).2
        externals := a.externals ++ [(package, ⟨id, package, .external, none⟩)]
        edges := a.edges ++ [⟨src, id, .external⟩] } := by
  simp only [addExternalEdge, h]

/-- What every import keeps is kept by all of them. -/
theorem addImports_induction {P : Assembly → Prop} {entries : List FileEntry} (h : P a)
    (hstep : ∀ e ∈ entries, ∀ target ∈ e.found.imports, ∀ a, P a → P (a.addImport d extensions byPath e target)) :
    P (a.addImports d extensions byPath entries) :=
  List.foldlRecOn entries _ h fun _ hb e he =>
    List.foldlRecOn e.found.imports _ hb fun c hc target htarget => hstep e he target htarget c hc

/-- The pair that is asked for a package. -/
def packagePair (package : Text) : NodeKind × Text := (.external, ("ext_" : Text) ++ package)

/-- The packages that were met got their identifiers in a run behind `ids`. -/
structure Named (ids : Allocator NodeKind) (a : Assembly) : Prop where
  ids_eq : a.ids = (ids.run (a.externals.map fun p => packagePair p.1)).2
  ids_nodes : a.externals.map (·.2.id) = (ids.run (a.externals.map fun p => packagePair p.1)).1
  kinds : ∀ p ∈ a.externals, p.2.kind = .external
  nodup : (a.externals.map (·.1)).Nodup

theorem Named.addExternalEdge (h : a.Named ids) (src package : Text) : (a.addExternalEdge src package).Named ids := by
  cases hlookup : a.externals.lookup package with
  | some node => rw [addExternalEdge_of_lookup hlookup]; exact ⟨h.ids_eq, h.ids_nodes, h.kinds, h.nodup⟩
  | none =>
    have hnew := lookup_eq_none_iff_notMem.mp hlookup
    rw [addExternalEdge_of_new hlookup]
    refine ⟨?_, ?_, ?_, ?_⟩
    · simp only [List.map_append, List.map_singleton, Allocator.run_append, ← h.ids_eq]
      rfl
    · simp only [List.map_append, List.map_singleton, Allocator.run_append, ← h.ids_eq, h.ids_nodes]
      rfl
    · intro p hp
      rcases List.mem_append.mp hp with hp | hp
      · exact h.kinds p hp
      · rw [List.mem_singleton.mp hp]
    · rw [List.map_append, List.map_singleton, ← List.concat_eq_append]
      exact h.nodup.concat hnew

theorem Named.addImport (h : a.Named ids) (e : FileEntry) (target : Text) :
    (a.addImport d extensions byPath e target).Named ids := by
  rcases addImport_cases d extensions byPath e a target with
    ⟨path, dst, -, -, heq⟩ | ⟨path, -, -, heq⟩ | ⟨-, -, heq⟩ | ⟨-, -, heq⟩
  · rw [heq]; exact ⟨h.ids_eq, h.ids_nodes, h.kinds, h.nodup⟩
  · rw [heq]; exact ⟨h.ids_eq, h.ids_nodes, h.kinds, h.nodup⟩
  · rw [heq]; exact ⟨h.ids_eq, h.ids_nodes, h.kinds, h.nodup⟩
  · rw [heq]; exact h.addExternalEdge _ _

theorem named_addImports (d : Disk) (extensions : List Text) (byPath : List (Text × Text)) (ids : Allocator NodeKind)
    (entries : List FileEntry) : (addImports d extensions byPath { ids } entries).Named ids :=
  addImports_induction ⟨rfl, rfl, by simp, List.nodup_nil⟩ fun e _ target _ _ h => h.addImport e target

end Assembly

/-! ## The whole graph -/

/-- The nodes of files. -/
def fileNodes (files : List SourceFile) : List Node :=
  (allocateNodes none ({} : Allocator NodeKind) (fileRequests files)).1

/-- The files of a graph, with their nodes and declarations. -/
def entries (files : List SourceFile) (found : List Declarations) : List FileEntry :=
  fileEntries files (fileNodes files) found

/-- The pairs that are asked for the files. -/
def filePairs (files : List SourceFile) : List (NodeKind × Text) := files.map fun f => (.file, f.name)

/-- The pairs that are asked for all nodes of a graph, given its packages. -/
def requestedPairs (files : List SourceFile) (found : List Declarations) (maxSymbols : Int) (packages : List Text) :
    List (NodeKind × Text) :=
  filePairs files ++ (files.zip found).flatMap (fun p => symbolPairs maxSymbols p.1 p.2) ++
    packages.map Assembly.packagePair

theorem ids_fileNodes (files : List SourceFile) :
    (fileNodes files).map Node.id = (({} : Allocator NodeKind).run (filePairs files)).1 := by
  rw [fileNodes, ids_allocateNodes, fileRequests, List.map_map]
  rfl

/-- The node of a file is labelled with the name of the file. -/
theorem map_fileNodes (files : List SourceFile) :
    (fileNodes files).map (fun n => (n.kind, n.label, n.parent)) = files.map fun f => (.file, f.name, none) := by
  rw [fileNodes, map_allocateNodes, fileRequests, List.map_map]
  rfl

theorem labels_fileNodes (files : List SourceFile) : (fileNodes files).map Node.label = files.map (·.name) := by
  have h := congrArg (List.map fun t : NodeKind × Text × Option Text => t.2.1) (map_fileNodes files)
  rwa [List.map_map, List.map_map] at h

theorem kind_of_mem_fileNodes {files : List SourceFile} : ∀ n ∈ fileNodes files, n.kind = .file := by
  intro n hn
  have h := List.mem_map_of_mem (f := fun n : Node => (n.kind, n.label, n.parent)) hn
  rw [map_fileNodes] at h
  obtain ⟨f, -, hf⟩ := List.mem_map.mp h
  exact (congrArg Prod.fst hf).symm

theorem length_fileNodes (files : List SourceFile) : (fileNodes files).length = files.length := by
  rw [← List.length_map Node.id, ids_fileNodes, Allocator.length_run, filePairs, List.length_map]

theorem nodup_ids_fileNodes (hnames : (files.map (·.name)).Nodup) : ((fileNodes files).map Node.id).Nodup := by
  rw [ids_fileNodes, Allocator.nodup_run_iff Allocator.consistent_empty, filePairs]
  refine List.Nodup.of_map Prod.snd ?_
  rwa [List.map_map]

theorem zip_map_self {α β : Type} (f : α → β) (l : List α) : l.zip (l.map f) = l.map fun a => (a, f a) := by
  have hzip : (l.map id).zip (l.map f) = _ := List.zip_map'
  rwa [List.map_id] at hzip

/-- The entries put files, nodes and declarations together without losing any. -/
theorem map_fileEntries : ∀ {files : List SourceFile} {nodes : List Node} {found : List Declarations},
    nodes.length = files.length → files.length = found.length →
      (fileEntries files nodes found).map (·.node) = nodes ∧
        (fileEntries files nodes found).map (fun e => (e.file, e.found)) = files.zip found
  | [], [], [], _, _ => ⟨rfl, rfl⟩
  | f :: files, n :: nodes, x :: found, hnodes, hfound => by
    obtain ⟨ihnodes, ihzip⟩ := map_fileEntries (Nat.succ.inj hnodes) (Nat.succ.inj hfound)
    exact ⟨congrArg (n :: ·) ihnodes, congrArg ((f, x) :: ·) ihzip⟩

theorem ids_entries (hlen : files.length = found.length) :
    (entries files found).map (·.node.id) = (fileNodes files).map Node.id := by
  have hnodes := (map_fileEntries (length_fileNodes files) hlen).1
  exact (List.map_map ..).symm.trans (congrArg (List.map Node.id) hnodes)

theorem flatMap_entries (hlen : files.length = found.length) (maxSymbols : Int) :
    ((entries files found).flatMap fun e => symbolPairs maxSymbols e.file e.found) =
      (files.zip found).flatMap fun p => symbolPairs maxSymbols p.1 p.2 := by
  rw [← (map_fileEntries (length_fileNodes files) hlen).2, List.flatMap_map]
  rfl

/-- The allocator behind the symbols of all files. -/
def symbolAllocator (files : List SourceFile) (found : List Declarations) (maxSymbols : Int) : Allocator NodeKind :=
  (({} : Allocator NodeKind).run
    (filePairs files ++ (files.zip found).flatMap fun p => symbolPairs maxSymbols p.1 p.2)).2

/-- The symbols of all files, each list under the identifier of its file. -/
def fileSymbols (files : List SourceFile) (found : List Declarations) (maxSymbols : Int) : List (Text × List Node) :=
  (allocateSymbols maxSymbols (({} : Allocator NodeKind).run (filePairs files)).2 (entries files found)).1

/-- The first pass gives the nodes of the files. -/
theorem allocate_files (files : List SourceFile) :
    allocateNodes none ({} : Allocator NodeKind) (fileRequests files) =
      (fileNodes files, (({} : Allocator NodeKind).run (filePairs files)).2) := by
  refine Prod.ext rfl ?_
  rw [snd_allocateNodes, fileRequests, List.map_map]
  rfl

theorem allocate_symbols (hlen : files.length = found.length) (maxSymbols : Int) :
    allocateSymbols maxSymbols (({} : Allocator NodeKind).run (filePairs files)).2 (entries files found) =
      (fileSymbols files found maxSymbols, symbolAllocator files found maxSymbols) := by
  refine Prod.ext rfl ?_
  rw [snd_allocateSymbols, flatMap_entries hlen, symbolAllocator, Allocator.run_append]

theorem keys_fileSymbols (hlen : files.length = found.length) (maxSymbols : Int) :
    (fileSymbols files found maxSymbols).map (·.1) = (fileNodes files).map Node.id := by
  rw [fileSymbols, keys_allocateSymbols, ids_entries hlen]

/-- What the imports of a project add to its files and symbols. -/
def imported (d : Disk) (files : List SourceFile) (found : List Declarations) (maxSymbols : Int)
    (extensions : List Text) : Assembly :=
  Assembly.addImports d extensions (pathTable d.here files (fileNodes files))
    { ids := symbolAllocator files found maxSymbols } (entries files found)

/-- A graph of files and their symbols, with what the imports add. -/
def Assembly.toGraph (a : Assembly) (files : List Node) (symbols : List (Text × List Node)) : Graph where
  files
  symbols
  externals := a.externals
  edges := a.edges
  incoming := a.incoming
  outgoing := a.outgoing
  collisions := a.ids.collisions

/-- The symbols of a file by its identifier; of two files with one identifier the later counts. -/
def symbolTable (symbols : List (Text × List Node)) : List (Text × List Node) :=
  symbols.foldl (fun m p => setKey p.1 p.2 m) []

/-- **The parts of a graph**: the nodes of its files, the symbols of each file, and what the imports add. -/
theorem assemble_eq_toGraph (d : Disk) (maxSymbols : Int) (extensions : List Text)
    (hlen : files.length = found.length) : assemble d files found maxSymbols extensions =
      let a := imported d files found maxSymbols extensions
      ⟨a.toGraph (fileNodes files) (symbolTable (fileSymbols files found maxSymbols)), a.outside, a.dropped⟩ := by
  simp only [assemble, allocate_files]
  rw [← entries, allocate_symbols hlen]
  rfl

/-- The parts of a graph of files with distinct names: no symbols of a file replace those of another one. -/
theorem assemble_eq (d : Disk) (maxSymbols : Int) (extensions : List Text) (hlen : files.length = found.length)
    (hnames : (files.map (·.name)).Nodup) :
    assemble d files found maxSymbols extensions =
      let a := imported d files found maxSymbols extensions
      ⟨a.toGraph (fileNodes files) (fileSymbols files found maxSymbols), a.outside, a.dropped⟩ := by
  have hkeys : (fileSymbols files found maxSymbols).map (·.1) |>.Nodup := by
    rw [keys_fileSymbols hlen]
    exact nodup_ids_fileNodes hnames
  have htable : symbolTable (fileSymbols files found maxSymbols) = fileSymbols files found maxSymbols :=
    foldl_setKey_of_nodup [] (fileSymbols files found maxSymbols) hkeys
  rw [assemble_eq_toGraph d maxSymbols extensions hlen, htable]

theorem ids_fileSymbols (hlen : files.length = found.length) (maxSymbols : Int) :
    ((fileSymbols files found maxSymbols).flatMap (·.2)).map Node.id =
      ((({} : Allocator NodeKind).run (filePairs files)).2.run
        ((files.zip found).flatMap fun p => symbolPairs maxSymbols p.1 p.2)).1 := by
  rw [fileSymbols, ids_allocateSymbols, flatMap_entries hlen]

/-- The packages get their identifiers behind the files and symbols. -/
theorem named_imported (d : Disk) (files : List SourceFile) (found : List Declarations) (maxSymbols : Int)
    (extensions : List Text) :
    (imported d files found maxSymbols extensions).Named (symbolAllocator files found maxSymbols) :=
  Assembly.named_addImports ..

/-- **The identifiers of all nodes are the answers of one run** over the files, the symbols and the packages. -/
theorem ids_nodes_assemble (d : Disk) (maxSymbols : Int) (extensions : List Text) (hlen : files.length = found.length)
    (hnames : (files.map (·.name)).Nodup) :
    let g := (assemble d files found maxSymbols extensions).graph
    g.nodes.map Node.id =
      (({} : Allocator NodeKind).run (requestedPairs files found maxSymbols (g.externals.map (·.1)))).1 := by
  rw [assemble_eq d maxSymbols extensions hlen hnames]
  simp only [nodes, Assembly.toGraph, List.map_append, List.map_map]
  rw [ids_fileNodes, ids_fileSymbols hlen, requestedPairs, Allocator.run_append, List.map_map]
  congr 1
  · rw [Allocator.run_append]
  · exact (named_imported d files found maxSymbols extensions).ids_nodes

theorem kinds_nodes_assemble (d : Disk) (maxSymbols : Int) (extensions : List Text)
    (hlen : files.length = found.length) (hnames : (files.map (·.name)).Nodup) :
    let g := (assemble d files found maxSymbols extensions).graph
    g.nodes.map Node.kind = (requestedPairs files found maxSymbols (g.externals.map (·.1))).map (·.1) := by
  have hexternals := (named_imported d files found maxSymbols extensions).kinds
  rw [assemble_eq d maxSymbols extensions hlen hnames]
  simp only [nodes, Assembly.toGraph, requestedPairs, List.map_append, List.map_map]
  congr 1
  · congr 1
    · rw [fileNodes, kinds_allocateNodes, fileRequests, List.map_map, filePairs, List.map_map, List.map_map]
      rfl
    · rw [fileSymbols, kinds_allocateSymbols, flatMap_entries hlen]
  · exact List.map_congr_left hexternals

end ImportChart.Graph
