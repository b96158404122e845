import ImportChart.Proofs.Graph.Labels

/-!
# A graph is drawn from its identifiers

The identifiers of a graph are given step by step. Once all of them are given, the graph can be told without the steps:
every node and every edge is what its file, symbol or package says, with the identifier that its pair of a kind and a
label has at the end.

- `Drawing`: the parts of a graph, given the identifier of every pair;
- `drawing_assemble`: the graph of a project is drawn with the identifiers that the allocator has at the end;
- `sights`: the edges as they are seen, by the labels of their ends. Identifiers play no part in them.
-/

namespace ImportChart.Graph

open Ident (Allocator)
open Scan (SourceFile)
open Source (Declarations)

variable {d : Disk} {files : List SourceFile} {found : List Declarations} {maxSymbols : Int}
  {extensions : List Text} {ids last : Allocator NodeKind}

/-- The identifier of a pair, for pairs that have one. -/
def identOf (ids : Allocator NodeKind) (pair : NodeKind × Text) : Text := (ids.get? pair.1 pair.2).getD []

/-! ## Nodes -/

variable (ident : NodeKind × Text → Text)

/-- The node of a file. -/
def fileNode (file : SourceFile) : Node := ⟨ident (.file, file.name), file.name, .file, none⟩

/-- The node for a request. -/
def requestNode (parent : Option Text) (r : Request) : Node := ⟨ident r.pair, r.label, r.kind, parent⟩

/-- The symbols of a file, under its identifier. -/
def symbolNodes (maxSymbols : Int) (p : SourceFile × Declarations) : Text × List Node :=
  (ident (.file, p.1.name),
    (symbolRequests maxSymbols p.1 p.2).map (requestNode ident (some (ident (.file, p.1.name)))))

/-- The node of a package, under its name. -/
def packageNode (package : Text) : Text × Node :=
  (package, ⟨ident (Assembly.packagePair package), package, .external, none⟩)

variable {ident}

/-- The nodes for requests are drawn with the identifiers that the allocator has later on. -/
theorem allocateNodes_eq (parent : Option Text) (ids : Allocator NodeKind) (rs : List Request)
    (h : (allocateNodes parent ids rs).2.assigned <+: last.assigned) :
    (allocateNodes parent ids rs).1 = rs.map (requestNode (identOf last) parent) := by
  induction rs generalizing ids with
  | nil => rfl
  | cons r rs ih =>
    simp only [allocateNodes] at h ⊢
    rw [ih _ h, List.map_cons]
    have hprefix : (ids.allocate r.kind r.key).2.assigned <+: last.assigned := by
      rw [snd_allocateNodes] at h
      exact (Allocator.prefix_run _ _).trans h
    have hident : last.get? r.kind r.key = some (ids.allocate r.kind r.key).1 :=
      hprefix.lookup_eq_some (Allocator.get?_allocate ids r.kind r.key)
    rw [requestNode, identOf, Request.pair, hident, Option.getD_some]

theorem allocateSymbols_eq (maxSymbols : Int) (ids : Allocator NodeKind) (es : List FileEntry)
    (h : (allocateSymbols maxSymbols ids es).2.assigned <+: last.assigned) :
    (allocateSymbols maxSymbols ids es).1 = es.map fun e => (e.node.id,
      (symbolRequests maxSymbols e.file e.found).map (requestNode (identOf last) (some e.node.id))) := by
  induction es generalizing ids with
  | nil => rfl
  | cons e es ih =>
    simp only [allocateSymbols] at h ⊢
    have hprefix : (allocateNodes (some e.node.id) ids (symbolRequests maxSymbols e.file e.found)).2.assigned <+:
        last.assigned := by
      rw [snd_allocateSymbols] at h
      exact (Allocator.prefix_run _ _).trans h
    rw [ih _ h, allocateNodes_eq _ _ _ hprefix, List.map_cons]

/-! ## Edges -/

/-- An edge as it is seen: the label of the file that it leads from, the label of the file or package that it leads to,
and its kind. -/
structure Sight where
  src : Text
  dst : Text
  kind : EdgeKind
  deriving DecidableEq, Repr

/-- What is seen of an import of a file: nothing if it leads out of the project, or if it is relative and leads
nowhere. -/
def sightOf (d : Disk) (extensions : List Text) (entries : List (SourceFile × Declarations)) (file : SourceFile)
    (target : Text) : Option Sight :=
  match resolveImport d file.path target extensions with
  | some path =>
    (entries.find? fun p => Path.absolute d.here p.1.path = path).map fun p => ⟨file.name, p.1.name, .imports⟩
  | none => if target.head? = some '.' then none else some ⟨file.name, target, .external⟩

/-- What is seen of the imports of all files. -/
def sights (d : Disk) (extensions : List Text) (entries : List (SourceFile × Declarations)) : List Sight :=
  entries.flatMap fun p => p.2.imports.filterMap (sightOf d extensions entries p.1)

variable (ident)

/-- The edge that is seen. -/
def sightEdge (s : Sight) : Edge :=
  ⟨ident (.file, s.src), ident (if s.kind = .external then Assembly.packagePair s.dst else (.file, s.dst)), s.kind⟩

/-- A graph whose parts are what the files, their declarations and the packages say, with the identifiers of their
pairs. -/
structure Drawing (d : Disk) (extensions : List Text) (maxSymbols : Int) (entries : List (SourceFile × Declarations))
    (g : Graph) : Prop where
  files : g.files = entries.map fun p => fileNode ident p.1
  symbols : g.symbols = entries.map (symbolNodes ident maxSymbols)
  externals : g.externals = (g.externals.map (·.1)).map (packageNode ident)
  edges : g.edges = (sights d extensions entries).map (sightEdge ident)

/-! ## The whole graph -/

section

variable {ps : List (SourceFile × Declarations)} {ident}

/-- The table of paths finds the file that has a path. -/
theorem lookup_pathTable {here : Text} (hpaths : (ps.map fun p => Path.absolute here p.1.path).Nodup) (path : Text) :
    (pathTable here (ps.map (·.1)) ((ps.map (·.1)).map (fileNode ident))).lookup path =
      (ps.find? fun p => Path.absolute here p.1.path = path).map fun p => ident (.file, p.1.name) := by
  have htable : pathTable here (ps.map (·.1)) ((ps.map (·.1)).map (fileNode ident)) =
      (ps.map fun p => (Path.absolute here p.1.path, ident (.file, p.1.name))).reverse := by
    simp [pathTable, List.zipWith_map, List.zipWith_self, fileNode]
  have hkeys : ((ps.map fun p => (Path.absolute here p.1.path, ident (.file, p.1.name))).reverse.map (·.1)).Nodup := by
    rw [List.map_reverse, List.nodup_reverse, List.map_map]
    exact hpaths
  rw [htable]
  cases hfound : ps.find? fun p => Path.absolute here p.1.path = path with
  | some p =>
    have hpath : Path.absolute here p.1.path = path := by simpa using List.find?_some hfound
    rw [Option.map_some, lookup_eq_some_iff_mem hkeys, List.mem_reverse, List.mem_map]
    exact ⟨p, List.mem_of_find?_eq_some hfound, by rw [hpath]⟩
  | none =>
    rw [Option.map_none, lookup_eq_none_iff_notMem, List.map_reverse, List.mem_reverse, List.map_map]
    intro hmem
    obtain ⟨p, hp, hpath⟩ := List.mem_map.mp hmem
    exact List.find?_eq_none.mp hfound p hp (decide_eq_true hpath)

theorem fileEntries_map (node : SourceFile → Node) (ps : List (SourceFile × Declarations)) :
    fileEntries (ps.map (·.1)) ((ps.map (·.1)).map node) (ps.map (·.2)) = ps.map fun p => ⟨p.1, node p.1, p.2⟩ := by
  induction ps with
  | nil => rfl
  | cons p ps ih => exact congrArg (⟨p.1, node p.1, p.2⟩ :: ·) ih

end

namespace Assembly

variable {a : Assembly} {es : List FileEntry} {byPath : List (Text × Text)}

/-- A package has nothing but its identifier and its name. -/
theorem bare_addImports (d : Disk) (extensions : List Text) (byPath : List (Text × Text)) (ids : Allocator NodeKind)
    (es : List FileEntry) :
    ∀ p ∈ (addImports d extensions byPath { ids } es).externals, p.2 = ⟨p.2.id, p.1, .external, none⟩ := by
  have hstep : ∀ e ∈ es, ∀ target ∈ e.found.imports, ∀ a : Assembly,
      (∀ p ∈ a.externals, p.2 = ⟨p.2.id, p.1, .external, none⟩) →
        ∀ p ∈ (a.addImport d extensions byPath e target).externals, p.2 = ⟨p.2.id, p.1, .external, none⟩ := by
    intro e _ target _ a ha
    rcases addImport_cases d extensions byPath e a target with
      ⟨_, _, -, -, heq⟩ | ⟨_, -, -, heq⟩ | ⟨-, -, heq⟩ | ⟨-, -, heq⟩
    · rw [heq]
      exact ha
    · rw [heq]
      exact ha
    · rw [heq]
      exact ha
    · rw [heq]
      cases hlookup : a.externals.lookup target with
      | some node =>
        rw [addExternalEdge_of_lookup hlookup]
        exact ha
      | none =>
        rw [addExternalEdge_of_new hlookup]
        intro p hp
        rcases List.mem_append.mp hp with hp | hp
        · exact ha p hp
        · rw [List.mem_singleton.mp hp]
  exact addImports_induction (by simp) hstep

/-- The packages are drawn with the identifiers that the allocator has behind all imports. -/
theorem externals_addImports (d : Disk) (extensions : List Text) (byPath : List (Text × Text))
    (ids : Allocator NodeKind) (es : List FileEntry) :
    let a := addImports d extensions byPath { ids } es
    a.externals = (a.externals.map (·.1)).map (packageNode (identOf a.ids)) := by
  intro a
  have hnamed : a.Named ids := named_addImports ..
  have hbare := bare_addImports d extensions byPath ids es
  have hids : a.externals.map (fun p => some p.2.id) =
      a.externals.map fun p => a.ids.get? (packagePair p.1).1 (packagePair p.1).2 := by
    have hsome := congrArg (List.map some) hnamed.ids_nodes
    rwa [Allocator.map_some_run, ← hnamed.ids_eq, List.map_map, List.map_map] at hsome
  rw [List.map_map]
  refine (List.map_id _).symm.trans (List.map_congr_left fun p hp => ?_)
  have hid : some p.2.id = a.ids.get? (packagePair p.1).1 (packagePair p.1).2 := List.map_inj_left.mp hids p hp
  refine Prod.ext rfl ?_
  rw [Function.comp_apply, packageNode, identOf, ← hid, Option.getD_some]
  exact hbare p hp

end Assembly

section

variable {ps : List (SourceFile × Declarations)} {p : SourceFile × Declarations} {target : Text}
  {externals : List (Text × Node)} {ident}

theorem lookup_packages : ∀ {names : List Text}, target ∈ names →
    (names.map (packageNode ident)).lookup target = some (packageNode ident target).2
  | name :: names, h => by
    by_cases heq : target = name
    · simp [packageNode, heq]
    · have hlookup := lookup_packages ((List.mem_cons.mp h).resolve_left heq)
      simpa [packageNode, List.lookup_cons, beq_false_of_ne heq] using hlookup

/-- An import of a file leads to the edge that is seen, if its package has been met. -/
theorem edgeOf_eq (hpaths : (ps.map fun p => Path.absolute d.here p.1.path).Nodup)
    (hexternals : externals = (externals.map (·.1)).map (packageNode ident))
    (hmet : resolveImport d p.1.path target extensions = none → target.head? ≠ some '.' →
      target ∈ externals.map (·.1)) :
    edgeOf d extensions (pathTable d.here (ps.map (·.1)) ((ps.map (·.1)).map (fileNode ident))) externals
        (⟨p.1, fileNode ident p.1, p.2⟩, target) =
      (sightOf d extensions ps p.1 target).map (sightEdge ident) := by
  unfold edgeOf referent sightOf
  cases hresolve : resolveImport d p.1.path target extensions with
  | some path =>
    simp only [lookup_pathTable hpaths, Option.map_map]
    rfl
  | none =>
    by_cases hdot : target.head? = some '.'
    · simp only [if_pos hdot, Option.map_none]
    · have hlookup : externals.lookup target = some (packageNode ident target).2 := by
        rw [hexternals]
        exact lookup_packages (hmet hresolve hdot)
      simp only [if_neg hdot, hlookup, Option.map_some]
      rfl

end

/-- **The graph of a project is drawn with the identifiers that the allocator has at the end.** -/
theorem drawing_assemble (d : Disk) (maxSymbols : Int) (extensions : List Text)
    {ps : List (SourceFile × Declarations)} (hnames : (ps.map (·.1.name)).Nodup)
    (hpaths : (ps.map fun p => Path.absolute d.here p.1.path).Nodup) :
    Drawing (identOf (imported d (ps.map (·.1)) (ps.map (·.2)) maxSymbols extensions).ids) d extensions maxSymbols ps
      (assemble d (ps.map (·.1)) (ps.map (·.2)) maxSymbols extensions).graph := by
  have hlen : (ps.map (·.1)).length = (ps.map (·.2)).length := by rw [List.length_map, List.length_map]
  have hnames' : ((ps.map (·.1)).map (·.name)).Nodup := by rwa [List.map_map]
  have hnamed := named_imported d (ps.map (·.1)) (ps.map (·.2)) maxSymbols extensions
  have hcounted : (imported d (ps.map (·.1)) (ps.map (·.2)) maxSymbols extensions).Counted d extensions
      (pathTable d.here (ps.map (·.1)) (fileNodes (ps.map (·.1))))
      (occurrences (entries (ps.map (·.1)) (ps.map (·.2)))) :=
    Assembly.counted_addImports ..
  have hexternals : (imported d (ps.map (·.1)) (ps.map (·.2)) maxSymbols extensions).externals =
      ((imported d (ps.map (·.1)) (ps.map (·.2)) maxSymbols extensions).externals.map (·.1)).map
        (packageNode (identOf (imported d (ps.map (·.1)) (ps.map (·.2)) maxSymbols extensions).ids)) :=
    Assembly.externals_addImports ..
  rw [assemble_eq d maxSymbols extensions hlen hnames']
  generalize imported d (ps.map (·.1)) (ps.map (·.2)) maxSymbols extensions = a at hnamed hcounted hexternals ⊢
  -- the allocator only grows behind the symbols, and before them it only grows behind the files
  have hsymbols : (symbolAllocator (ps.map (·.1)) (ps.map (·.2)) maxSymbols).assigned <+: a.ids.assigned := by
    rw [hnamed.ids_eq]
    exact Allocator.prefix_run _ _
  have hfiles : (({} : Allocator NodeKind).run (filePairs (ps.map (·.1)))).2.assigned <+: a.ids.assigned := by
    refine List.IsPrefix.trans ?_ hsymbols
    rw [symbolAllocator, Allocator.run_append]
    exact Allocator.prefix_run _ _
  have hnodes : fileNodes (ps.map (·.1)) = (ps.map (·.1)).map (fileNode (identOf a.ids)) := by
    rw [← congrArg Prod.snd (allocate_files (ps.map (·.1)))] at hfiles
    rw [fileNodes, allocateNodes_eq none {} _ hfiles, fileRequests, List.map_map]
    rfl
  have hentries : entries (ps.map (·.1)) (ps.map (·.2)) = ps.map fun p => ⟨p.1, fileNode (identOf a.ids) p.1, p.2⟩ := by
    rw [entries, hnodes, fileEntries_map]
  refine ⟨hnodes.trans (List.map_map ..), ?_, hexternals, ?_⟩
  · have hlast := congrArg (·.2.assigned) (allocate_symbols hlen maxSymbols)
    refine (allocateSymbols_eq maxSymbols _ _ (hlast ▸ hsymbols)).trans ?_
    rw [hentries, List.map_map]
    rfl
  · refine hcounted.edges.trans ?_
    have hoccurrences : occurrences (entries (ps.map (·.1)) (ps.map (·.2))) =
        ps.flatMap fun p => p.2.imports.map fun target => (⟨p.1, fileNode (identOf a.ids) p.1, p.2⟩, target) := by
      rw [hentries, occurrences, List.flatMap_map]
    rw [hoccurrences, List.filterMap_flatMap, sights, List.map_flatMap]
    refine List.flatMap_congr fun p hp => ?_
    rw [List.filterMap_map, List.map_filterMap]
    refine List.filterMap_congr fun target htarget => ?_
    rw [hnodes]
    refine edgeOf_eq hpaths hexternals fun hresolve hdot => ?_
    refine hcounted.met (⟨p.1, fileNode (identOf a.ids) p.1, p.2⟩, target) ?_ hresolve hdot
    rw [hentries]
    exact mem_occurrences.mpr ⟨List.mem_map_of_mem hp, htarget⟩

end ImportChart.Graph
