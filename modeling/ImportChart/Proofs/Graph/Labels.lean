import ImportChart.Proofs.Graph.Imports
import ImportChart.Proofs.Graph.WellFormed
import ImportChart.Proofs.Ident.Usable

/-!
# The words and labels of a graph

The words of a graph are the identifiers of its nodes and the ends of its edges; all of them can be used in a diagram.
Its labels come from elsewhere: from the names of files, from declarations, and from the imports of packages.

- `usable_nodes`, `ends_of_mem_edges`: the words;
- `labels_nodes_assemble`: the labels of all nodes;
- `mem_externals_iff`: the packages are the imports that are neither resolved nor relative.
-/

namespace ImportChart.Graph

open Ident (Allocator IsUsable)
open Scan (SourceFile)
open Source (Declarations)

variable {d : Disk} {files : List SourceFile} {found : List Declarations} {maxSymbols : Int}
  {extensions : List Text} {byPath : List (Text × Text)} {a : Assembly}

/-! ## Words -/

/-- **The identifiers of all nodes can be used in a diagram.** -/
theorem usable_nodes (d : Disk) (maxSymbols : Int) (extensions : List Text) (hlen : files.length = found.length)
    (hnames : (files.map (·.name)).Nodup) :
    ∀ n ∈ (assemble d files found maxSymbols extensions).graph.nodes, IsUsable n.id := by
  intro n hn
  have hid := List.mem_map_of_mem (f := Node.id) hn
  rw [ids_nodes_assemble d maxSymbols extensions hlen hnames] at hid
  exact Allocator.usable_run (by simp) _ _ hid

/-- What the imports add leads from files to files and packages. -/
theorem ends_of_mem_imported (d : Disk) (maxSymbols : Int) (extensions : List Text)
    (hlen : files.length = found.length) :
    ∀ e ∈ (imported d files found maxSymbols extensions).edges, e.src ∈ (fileNodes files).map Node.id ∧
      (e.dst ∈ (fileNodes files).map Node.id ∨
        ∃ p ∈ (imported d files found maxSymbols extensions).externals, p.2.id = e.dst) := by
  have hcounted : (imported d files found maxSymbols extensions).Counted d extensions
      (pathTable d.here files (fileNodes files)) (occurrences (entries files found)) := Assembly.counted_addImports ..
  intro e he
  rw [hcounted.edges, List.mem_filterMap] at he
  obtain ⟨o, ho, hedge⟩ := he
  have hsrc : o.1.node.id ∈ (fileNodes files).map Node.id := by
    rw [← ids_entries hlen]
    exact List.mem_map_of_mem (mem_occurrences.mp ho).1
  unfold edgeOf at hedge
  split at hedge
  · obtain ⟨dst, hlookup, rfl⟩ := Option.map_eq_some_iff.mp hedge
    exact ⟨hsrc, Or.inl (mem_of_mem_pathTable (mem_of_lookup_eq_some hlookup))⟩
  · split at hedge
    · cases hedge
    · obtain ⟨node, hlookup, rfl⟩ := Option.map_eq_some_iff.mp hedge
      exact ⟨hsrc, Or.inr ⟨_, mem_of_lookup_eq_some hlookup, rfl⟩⟩

/-- **Edges lead from nodes to nodes.** -/
theorem ends_of_mem_edges (d : Disk) (maxSymbols : Int) (extensions : List Text) (hlen : files.length = found.length)
    (hnames : (files.map (·.name)).Nodup) :
    let g := (assemble d files found maxSymbols extensions).graph
    ∀ e ∈ g.edges, (∃ n ∈ g.nodes, n.id = e.src) ∧ ∃ n ∈ g.nodes, n.id = e.dst := by
  rw [assemble_eq d maxSymbols extensions hlen hnames]
  intro g e he
  have hfile : ∀ {id : Text}, id ∈ (fileNodes files).map Node.id → ∃ n ∈ g.nodes, n.id = id := by
    intro id hid
    obtain ⟨n, hn, hid⟩ := List.mem_map.mp hid
    exact ⟨n, List.mem_append_left _ (List.mem_append_left _ hn), hid⟩
  obtain ⟨hsrc, hdst | ⟨p, hp, hid⟩⟩ := ends_of_mem_imported d maxSymbols extensions hlen e he
  · exact ⟨hfile hsrc, hfile hdst⟩
  · exact ⟨hfile hsrc, p.2, List.mem_append_right _ (List.mem_map_of_mem hp), hid⟩

/-! ## Labels -/

/-- The labels that are asked for the symbols of a file. -/
def symbolLabels (maxSymbols : Int) (file : SourceFile) (found : Declarations) : List Text :=
  (symbolRequests maxSymbols file found).map Request.label

theorem labels_allocateSymbols (maxSymbols : Int) (ids : Allocator NodeKind) (es : List FileEntry) :
    ((allocateSymbols maxSymbols ids es).1.flatMap (·.2)).map Node.label =
      es.flatMap fun e => symbolLabels maxSymbols e.file e.found := by
  induction es generalizing ids with
  | nil => rfl
  | cons e es ih =>
    have hlabels (parent : Option Text) (rs : List Request) :
        (allocateNodes parent ids rs).1.map Node.label = rs.map Request.label := by
      have h := congrArg (List.map fun t : NodeKind × Text × Option Text => t.2.1) (map_allocateNodes parent ids rs)
      rwa [List.map_map, List.map_map] at h
    simp only [allocateSymbols, List.flatMap_cons, List.map_append, hlabels, ih, symbolLabels]

/-- Every package is labelled with its name, and it is an import that is neither resolved nor relative. -/
def Assembly.NamesImports (d : Disk) (extensions : List Text) (es : List FileEntry) (a : Assembly) : Prop :=
  ∀ p ∈ a.externals, p.2.label = p.1 ∧
    ∃ o ∈ occurrences es, o.2 = p.1 ∧ referent d extensions o = none ∧ o.2.head? ≠ some '.'

theorem Assembly.NamesImports.addImport {es : List FileEntry} (h : a.NamesImports d extensions es) {e : FileEntry}
    {target : Text} (he : e ∈ es) (htarget : target ∈ e.found.imports) :
    (a.addImport d extensions byPath e target).NamesImports d extensions es := by
  rcases addImport_cases d extensions byPath e a target with
    ⟨_, _, -, -, heq⟩ | ⟨_, -, -, heq⟩ | ⟨-, -, heq⟩ | ⟨hnone, hdot, heq⟩
  · rw [heq]
    exact h
  · rw [heq]
    exact h
  · rw [heq]
    exact h
  · rw [heq]
    cases hlookup : a.externals.lookup target with
    | some node =>
      rw [addExternalEdge_of_lookup hlookup]
      exact h
    | none =>
      rw [addExternalEdge_of_new hlookup]
      intro p hp
      rcases List.mem_append.mp hp with hp | hp
      · exact h p hp
      · rw [List.mem_singleton.mp hp]
        exact ⟨rfl, (e, target), mem_occurrences.mpr ⟨he, htarget⟩, rfl, hnone, hdot⟩

/-- **All packages that are met are named by imports.** -/
theorem Assembly.namesImports_addImports (d : Disk) (extensions : List Text) (byPath : List (Text × Text))
    (ids : Allocator NodeKind) (es : List FileEntry) :
    (Assembly.addImports d extensions byPath { ids } es).NamesImports d extensions es := by
  have hempty : ({ ids } : Assembly).NamesImports d extensions es := by
    intro p hp
    cases hp
  exact addImports_induction hempty fun e he target htarget _ h => h.addImport he htarget

/-- **The packages are the imports that are neither resolved nor relative.** -/
theorem mem_externals_iff (d : Disk) (maxSymbols : Int) (extensions : List Text) (hlen : files.length = found.length)
    (hnames : (files.map (·.name)).Nodup) {package : Text} :
    package ∈ (assemble d files found maxSymbols extensions).graph.externals.map (·.1) ↔
      ∃ p ∈ files.zip found, package ∈ p.2.imports ∧ package.head? ≠ some '.' ∧
        resolveImport d p.1.path package extensions = none := by
  have hcounted : (imported d files found maxSymbols extensions).Counted d extensions
      (pathTable d.here files (fileNodes files)) (occurrences (entries files found)) := Assembly.counted_addImports ..
  have hzip := (map_fileEntries (length_fileNodes files) hlen).2
  rw [assemble_eq d maxSymbols extensions hlen hnames, ← hzip]
  constructor
  · intro hpackage
    obtain ⟨p, hp, rfl⟩ := List.mem_map.mp hpackage
    obtain ⟨-, o, ho, hname, hreferent, hdot⟩ := Assembly.namesImports_addImports _ _ _ _ _ p hp
    obtain ⟨hfile, htarget⟩ := mem_occurrences.mp ho
    rw [← hname]
    exact ⟨(o.1.file, o.1.found), List.mem_map_of_mem hfile, htarget, hdot, hreferent⟩
  · rintro ⟨p, hp, hpackage, hdot, hresolve⟩
    obtain ⟨e, he, rfl⟩ := List.mem_map.mp hp
    exact hcounted.met (e, package) (mem_occurrences.mpr ⟨he, hpackage⟩) hresolve hdot

/-- **The labels of all nodes**: the names of the files, what is asked for their symbols, and the names of the
packages. -/
theorem labels_nodes_assemble (d : Disk) (maxSymbols : Int) (extensions : List Text)
    (hlen : files.length = found.length) (hnames : (files.map (·.name)).Nodup) :
    let g := (assemble d files found maxSymbols extensions).graph
    g.nodes.map Node.label = files.map (·.name) ++
      (files.zip found).flatMap (fun p => symbolLabels maxSymbols p.1 p.2) ++ g.externals.map (·.1) := by
  have hzip := (map_fileEntries (length_fileNodes files) hlen).2
  have hexternals := Assembly.namesImports_addImports d extensions (pathTable d.here files (fileNodes files))
    (symbolAllocator files found maxSymbols) (entries files found)
  rw [assemble_eq d maxSymbols extensions hlen hnames]
  simp only [nodes, Assembly.toGraph, List.map_append, List.map_map]
  rw [labels_fileNodes, fileSymbols, labels_allocateSymbols, ← hzip, List.flatMap_map]
  congr 1
  exact List.map_congr_left fun p hp => (hexternals p hp).1

end ImportChart.Graph
