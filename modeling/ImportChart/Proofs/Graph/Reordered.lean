import ImportChart.Proofs.Graph.Drawn
import ImportChart.Proofs.Graph.Distinct
import ImportChart.Proofs.Ident.Clashes

/-!
# Graphs of one project in different orders

The files of a project come in the order of the scan. Another order gives a graph whose parts come in another order and
may have other identifiers, and nothing else.

- `label?`: the labels read off the identifiers, which tell files and packages apart (`Labelled`);
- `Alike`: two graphs that show the same;
- `build_reordered`: one project in two orders gives graphs that are alike.
-/

namespace ImportChart.Graph

open Ident (Allocator)
open Scan (SourceFile)
open Source (Declarations)

variable {d : Disk} {extensions : List Text} {maxSymbols : Int} {ps ps' : List (SourceFile × Declarations)}
  {ident ident' : NodeKind × Text → Text} {g g' : Graph}

/-! ## What a graph shows -/

/-- The label of the node with an identifier. -/
def label? (g : Graph) (id : Text) : Option Text := (g.nodes.find? (·.id = id)).map Node.label

/-- An edge with the labels of its ends in place of their identifiers. -/
def seen (g : Graph) (e : Edge) : Option Text × Option Text × EdgeKind := (g.label? e.src, g.label? e.dst, e.kind)

/-- The labels of files and packages can be read off their identifiers, and edges lead from labels to labels. -/
structure Labelled (g : Graph) : Prop where
  files : ∀ n ∈ g.files, g.label? n.id = some n.label
  externals : ∀ p ∈ g.externals, p.2.label = p.1 ∧ g.label? p.2.id = some p.1
  ends : ∀ e ∈ g.edges, (g.label? e.src).isSome ∧ (g.label? e.dst).isSome

/-- Two graphs that show the same. -/
structure Alike (g g' : Graph) : Prop where
  files : (g.files.map Node.label).Perm (g'.files.map Node.label)
  /-- The symbols of a file come in one order. -/
  symbols : ∀ n ∈ g.files, ∀ n' ∈ g'.files, n.label = n'.label → ∃ ms ms', g.symbols.lookup n.id = some ms ∧
    g'.symbols.lookup n'.id = some ms' ∧ ms.map (fun m => (m.kind, m.label)) = ms'.map fun m => (m.kind, m.label)
  externals : (g.externals.map (·.1)).Perm (g'.externals.map (·.1))
  edges : (g.edges.map g.seen).Perm (g'.edges.map g'.seen)
  entries : (g.entryIds.map g.label?).Perm (g'.entryIds.map g'.label?)
  leaves : (g.leafIds.map g.label?).Perm (g'.leafIds.map g'.label?)
  collisions : g.collisions = [] ↔ g'.collisions = []
  /-- Without clashes the nodes are the same. -/
  nodes : g.collisions = [] →
    g.files.Perm g'.files ∧ g.symbols.Perm g'.symbols ∧ g.externals.Perm g'.externals

/-! ## Labels -/

/-- A node that shares its identifier with no other node is found by it. -/
theorem label?_eq (hnodes : g.nodes.Pairwise fun m n =>
      m.id = n.id → m.kind = n.kind ∧ (m.kind = .function ∨ m.kind = .classType)) {n : Node} (hn : n ∈ g.nodes)
    (hkind : n.kind = .file ∨ n.kind = .external) : g.label? n.id = some n.label := by
  have hsymm : Std.Symm fun m n : Node =>
      m.id = n.id → m.kind = n.kind ∧ (m.kind = .function ∨ m.kind = .classType) := by
    refine ⟨fun m n h hid => ?_⟩
    obtain ⟨hkinds, hsymbol⟩ := h hid.symm
    exact ⟨hkinds.symm, hkinds ▸ hsymbol⟩
  cases hfound : g.nodes.find? (·.id = n.id) with
  | none => exact absurd (decide_eq_true rfl) (List.find?_eq_none.mp hfound n hn)
  | some m =>
    have hid : m.id = n.id := by simpa using List.find?_some hfound
    have heq : n = m := by
      by_contra hne
      obtain ⟨-, hsymbol⟩ := hnodes.forall hn (List.mem_of_find?_eq_some hfound) hne hid.symm
      rcases hkind with hkind | hkind <;> rcases hsymbol with hsymbol | hsymbol <;> cases hkind.symm.trans hsymbol
    rw [label?, hfound, heq]
    rfl

/-- **The labels of files and packages can be read off their identifiers.** -/
theorem labelled_assemble (d : Disk) (maxSymbols : Int) (extensions : List Text) {files : List SourceFile}
    {found : List Declarations} (hlen : files.length = found.length) (hnames : (files.map (·.name)).Nodup) :
    (assemble d files found maxSymbols extensions).graph.Labelled := by
  have hnodes := pairwise_nodes_assemble d maxSymbols extensions hlen hnames
  have hfit := wellFormed_assemble d maxSymbols extensions hlen hnames
  have hends := ends_of_mem_edges d maxSymbols extensions hlen hnames
  have hpackages : ∀ p ∈ (assemble d files found maxSymbols extensions).graph.externals,
      p.2 = ⟨p.2.id, p.1, .external, none⟩ := by
    rw [assemble_eq d maxSymbols extensions hlen hnames]
    exact fun p hp => Assembly.bare_addImports _ _ _ _ _ p hp
  generalize (assemble d files found maxSymbols extensions).graph = g at hnodes hfit hends hpackages
  have hsome : ∀ {id : Text}, (∃ n ∈ g.nodes, n.id = id) → (g.label? id).isSome := by
    rintro id ⟨n, hn, rfl⟩
    rw [label?, Option.isSome_map, List.find?_isSome]
    exact ⟨n, hn, decide_eq_true rfl⟩
  refine ⟨fun n hn => ?_, fun p hp => ?_, fun e he => ⟨hsome (hends e he).1, hsome (hends e he).2⟩⟩
  · refine label?_eq hnodes (List.mem_append_left _ (List.mem_append_left _ hn)) ?_
    exact Or.inl (hfit.kinds n hn)
  · have hlabel : p.2.label = p.1 := by rw [hpackages p hp]
    have hkind : p.2.kind = .external := by rw [hpackages p hp]
    refine ⟨hlabel, ?_⟩
    rw [← hlabel]
    exact label?_eq hnodes (List.mem_append_right _ (List.mem_map_of_mem hp)) (Or.inr hkind)

/-! ## What is seen does not depend on the order -/

/-- A file is found by its path. -/
theorem find?_path_iff {here path : Text} {p : SourceFile × Declarations}
    (hpaths : (ps.map fun p => Path.absolute here p.1.path).Nodup) :
    ps.find? (fun p => Path.absolute here p.1.path = path) = some p ↔
      p ∈ ps ∧ Path.absolute here p.1.path = path := by
  constructor
  · intro h
    exact ⟨List.mem_of_find?_eq_some h, by simpa using List.find?_some h⟩
  · rintro ⟨hp, hpath⟩
    cases hfound : ps.find? fun p => Path.absolute here p.1.path = path with
    | none => exact absurd (decide_eq_true hpath) (List.find?_eq_none.mp hfound p hp)
    | some q =>
      have hqpath : Path.absolute here q.1.path = path := by simpa using List.find?_some hfound
      rw [List.inj_on_of_nodup_map hpaths (List.mem_of_find?_eq_some hfound) hp (hqpath.trans hpath.symm)]

/-- **What is seen of the imports does not depend on the order of the files**, but for the order in which it is seen. -/
theorem perm_sights (d : Disk) (extensions : List Text) (hperm : ps.Perm ps')
    (hpaths : (ps.map fun p => Path.absolute d.here p.1.path).Nodup) :
    (sights d extensions ps).Perm (sights d extensions ps') := by
  have hpaths' := (hperm.map fun p => Path.absolute d.here p.1.path).nodup_iff.mp hpaths
  have hfind (path : Text) : (ps.find? fun p => Path.absolute d.here p.1.path = path) =
      ps'.find? fun p => Path.absolute d.here p.1.path = path := by
    ext p
    rw [find?_path_iff hpaths, find?_path_iff hpaths', hperm.mem_iff]
  have hsight : sightOf d extensions ps = sightOf d extensions ps' := by
    funext file target
    simp only [sightOf, hfind]
  rw [sights, sights, hsight]
  exact hperm.flatMap_right _

/-- The files that are not seen at one end of an import do not depend on the order. -/
theorem perm_filter_sights {seen seen' : List Sight} (hperm : ps.Perm ps') (hseen : seen.Perm seen')
    (point : Sight → Text) :
    ((ps.filter fun p => ∀ s ∈ seen, s.kind = .imports → point s ≠ p.1.name).map fun p => some p.1.name).Perm
      ((ps'.filter fun p => ∀ s ∈ seen', s.kind = .imports → point s ≠ p.1.name).map fun p => some p.1.name) := by
  simp only [hseen.mem_iff]
  exact (hperm.filter _).map _

/-- What is seen leads from a file to a file or to a package. -/
theorem ends_of_mem_sights {s : Sight} (h : s ∈ sights d extensions ps) : s.src ∈ ps.map (·.1.name) ∧
    ((s.kind = .imports ∧ s.dst ∈ ps.map (·.1.name)) ∨
      (s.kind = .external ∧ ∃ p ∈ ps, s.dst ∈ p.2.imports ∧ s.dst.head? ≠ some '.' ∧
        resolveImport d p.1.path s.dst extensions = none)) := by
  obtain ⟨p, hp, hs⟩ := List.mem_flatMap.mp h
  obtain ⟨target, htarget, hsight⟩ := List.mem_filterMap.mp hs
  unfold sightOf at hsight
  split at hsight
  · next path hresolve =>
    obtain ⟨q, hq, rfl⟩ := Option.map_eq_some_iff.mp hsight
    exact ⟨List.mem_map_of_mem hp, Or.inl ⟨rfl, List.mem_map_of_mem (List.mem_of_find?_eq_some hq)⟩⟩
  · next hresolve =>
    split at hsight
    · cases hsight
    · next hdot =>
      obtain rfl := Option.some.inj hsight
      exact ⟨List.mem_map_of_mem hp, Or.inr ⟨rfl, p, hp, htarget, hdot, hresolve⟩⟩

/-- The edge for an import that is seen leads to the file that is seen. -/
theorem dst_sightEdge : ∀ s ∈ sights d extensions ps, s.kind = .imports →
    (sightEdge ident s).dst = ident (.file, s.dst) ∧ s.dst ∈ ps.map (·.1.name) := by
  intro s hs hkind
  obtain ⟨-, ⟨-, hdst⟩ | ⟨hexternal, -⟩⟩ := ends_of_mem_sights hs
  · exact ⟨by simp [sightEdge, hkind], hdst⟩
  · cases hkind.symm.trans hexternal

/-- It leads from the file that is seen. -/
theorem src_sightEdge : ∀ s ∈ sights d extensions ps, s.kind = .imports →
    (sightEdge ident s).src = ident (.file, s.src) ∧ s.src ∈ ps.map (·.1.name) :=
  fun _ hs _ => ⟨rfl, (ends_of_mem_sights hs).1⟩

/-! ## What a drawing shows -/

namespace Drawing

section

variable (h : Drawing ident d extensions maxSymbols ps g) (hlabelled : g.Labelled)

include h hlabelled

theorem label?_file {name : Text} (hname : name ∈ ps.map (·.1.name)) : g.label? (ident (.file, name)) = some name := by
  obtain ⟨p, hp, rfl⟩ := List.mem_map.mp hname
  have hnode : fileNode ident p.1 ∈ g.files := h.files ▸ List.mem_map_of_mem hp
  exact hlabelled.files _ hnode

theorem label?_package {package : Text} (hpackage : package ∈ g.externals.map (·.1)) :
    g.label? (ident (Assembly.packagePair package)) = some package := by
  have hnode : packageNode ident package ∈ g.externals := h.externals ▸ List.mem_map_of_mem hpackage
  exact (hlabelled.externals _ hnode).2

/-- The edges show what is seen of the imports. -/
theorem map_seen (hpackages : ∀ s ∈ sights d extensions ps, s.kind = .external → s.dst ∈ g.externals.map (·.1)) :
    g.edges.map g.seen = (sights d extensions ps).map fun s => (some s.src, some s.dst, s.kind) := by
  rw [h.edges, List.map_map]
  refine List.map_congr_left fun s hs => ?_
  obtain ⟨hsrc, ⟨hkind, hdst⟩ | ⟨hkind, -⟩⟩ := ends_of_mem_sights hs
  · simp only [Function.comp_apply, seen, sightEdge, hkind, reduceCtorEq, if_false, h.label?_file hlabelled hsrc,
      h.label?_file hlabelled hdst]
  · simp only [Function.comp_apply, seen, sightEdge, hkind, if_true, h.label?_file hlabelled hsrc,
      h.label?_package hlabelled (hpackages s hs hkind)]

/-- The files at which no import ends, or begins, are those at which none is seen to. -/
theorem map_filter_fileIds (tip : Edge → Text) (point : Sight → Text)
    (htip : ∀ s ∈ sights d extensions ps, s.kind = .imports →
      tip (sightEdge ident s) = ident (.file, point s) ∧ point s ∈ ps.map (·.1.name)) :
    (g.fileIds.filter fun id => ∀ e ∈ g.importEdges, tip e ≠ id).map g.label? =
      (ps.filter fun p => ∀ s ∈ sights d extensions ps, s.kind = .imports → point s ≠ p.1.name).map
        fun p => some p.1.name := by
  have hids : g.fileIds = ps.map fun p => ident (.file, p.1.name) := by
    rw [fileIds, h.files, List.map_map]
    rfl
  have hfilter : ∀ p ∈ ps, decide (∀ e ∈ g.importEdges, tip e ≠ ident (.file, p.1.name)) =
      decide (∀ s ∈ sights d extensions ps, s.kind = .imports → point s ≠ p.1.name) := by
    intro p hp
    rw [decide_eq_decide, importEdges, h.edges]
    constructor
    · intro hedges s hs hkind heq
      refine hedges (sightEdge ident s) (List.mem_filter.mpr ⟨List.mem_map_of_mem hs, beq_iff_eq.mpr hkind⟩) ?_
      rw [(htip s hs hkind).1, heq]
    · intro hsights e he heq
      obtain ⟨he, hkind⟩ := List.mem_filter.mp he
      obtain ⟨s, hs, rfl⟩ := List.mem_map.mp he
      obtain ⟨hpoint, hname⟩ := htip s hs (eq_of_beq hkind)
      -- the identifiers of two files with different labels differ
      have hlabel := congrArg g.label? (hpoint.symm.trans heq)
      rw [h.label?_file hlabelled hname, h.label?_file hlabelled (List.mem_map_of_mem hp)] at hlabel
      exact hsights s hs (eq_of_beq hkind) (Option.some.inj hlabel)
  rw [hids, List.filter_map, List.map_map]
  refine (congrArg (List.map _) (List.filter_congr hfilter)).trans (List.map_congr_left fun p hp => ?_)
  exact h.label?_file hlabelled (List.mem_map_of_mem (List.mem_of_mem_filter hp))

end

/-- The symbols of a file are found by its identifier. -/
theorem lookup_symbols (h : Drawing ident d extensions maxSymbols ps g) (hids : g.fileIds.Nodup)
    {p : SourceFile × Declarations} (hp : p ∈ ps) :
    g.symbols.lookup (ident (.file, p.1.name)) = some (symbolNodes ident maxSymbols p).2 := by
  have hkeys : (g.symbols.map (·.1)).Nodup := by
    rw [fileIds, h.files, List.map_map] at hids
    rw [h.symbols, List.map_map]
    exact hids
  rw [lookup_eq_some_iff_mem hkeys, h.symbols]
  exact List.mem_map_of_mem hp

theorem map_symbolNodes (ident : NodeKind × Text → Text) (maxSymbols : Int) (p : SourceFile × Declarations) :
    (symbolNodes ident maxSymbols p).2.map (fun n => (n.kind, n.label)) =
      (symbolRequests maxSymbols p.1 p.2).map fun r => (r.kind, r.label) := by
  rw [symbolNodes, List.map_map]
  rfl

/-- Drawings of the same files and packages have the same nodes, if all identifiers are the same. -/
theorem perm_nodes (h : Drawing ident d extensions maxSymbols ps g)
    (h' : Drawing ident' d extensions maxSymbols ps' g') (hperm : ps.Perm ps')
    (hpackages : (g.externals.map (·.1)).Perm (g'.externals.map (·.1)))
    (hfiles : ∀ p ∈ ps, ident (.file, p.1.name) = ident' (.file, p.1.name))
    (hsymbols : ∀ p ∈ ps, ∀ pair ∈ symbolPairs maxSymbols p.1 p.2, ident pair = ident' pair)
    (hexternals : ∀ package ∈ g.externals.map (·.1),
      ident (Assembly.packagePair package) = ident' (Assembly.packagePair package)) :
    g.files.Perm g'.files ∧ g.symbols.Perm g'.symbols ∧ g.externals.Perm g'.externals := by
  refine ⟨?_, ?_, ?_⟩
  · have hsame : g.files = ps.map fun p => fileNode ident' p.1 := by
      rw [h.files]
      exact List.map_congr_left fun p hp => by rw [fileNode, fileNode, hfiles p hp]
    rw [hsame, h'.files]
    exact hperm.map _
  · have hsame : g.symbols = ps.map (symbolNodes ident' maxSymbols) := by
      rw [h.symbols]
      refine List.map_congr_left fun p hp => ?_
      rw [symbolNodes, symbolNodes, hfiles p hp]
      refine congrArg (Prod.mk _) (List.map_congr_left fun r hr => ?_)
      rw [requestNode, requestNode, hsymbols p hp _ (List.mem_map_of_mem hr)]
    rw [hsame, h'.symbols]
    exact hperm.map _
  · have hsame : g.externals = (g.externals.map (·.1)).map (packageNode ident') := by
      conv_lhs => rw [h.externals]
      exact List.map_congr_left fun package hp => by rw [packageNode, packageNode, hexternals package hp]
    rw [hsame, h'.externals]
    exact hpackages.map _

end Drawing

/-! ## Two orders -/

/-- What is asked of the allocator for a project and its packages. -/
def projectPairs (maxSymbols : Int) (ps : List (SourceFile × Declarations)) (packages : List Text) :
    List (NodeKind × Text) := requestedPairs (ps.map (·.1)) (ps.map (·.2)) maxSymbols packages

theorem zip_map_pair (ps : List (SourceFile × Declarations)) : (ps.map (·.1)).zip (ps.map (·.2)) = ps := by
  rw [List.zip_map']
  exact List.map_id _

theorem length_pair (ps : List (SourceFile × Declarations)) : (ps.map (·.1)).length = (ps.map (·.2)).length := by
  rw [List.length_map, List.length_map]

theorem projectPairs_eq (maxSymbols : Int) (ps : List (SourceFile × Declarations)) (packages : List Text) :
    projectPairs maxSymbols ps packages = (ps.map fun p => (.file, p.1.name)) ++
      ps.flatMap (fun p => symbolPairs maxSymbols p.1 p.2) ++ packages.map Assembly.packagePair := by
  rw [projectPairs, requestedPairs, filePairs, List.map_map, zip_map_pair]
  rfl

theorem perm_projectPairs (maxSymbols : Int) {packages packages' : List Text} (hperm : ps.Perm ps')
    (hpackages : packages.Perm packages') :
    (projectPairs maxSymbols ps packages).Perm (projectPairs maxSymbols ps' packages') := by
  rw [projectPairs_eq, projectPairs_eq]
  exact ((hperm.map _).append (hperm.flatMap_right _)).append (hpackages.map _)

/-- The graph of a project, given with its files and their declarations in pairs. -/
def graphOf (d : Disk) (maxSymbols : Int) (extensions : List Text) (ps : List (SourceFile × Declarations)) : Graph :=
  (assemble d (ps.map (·.1)) (ps.map (·.2)) maxSymbols extensions).graph

/-- The identifiers behind all imports of a project. -/
def idsOf (d : Disk) (maxSymbols : Int) (extensions : List Text) (ps : List (SourceFile × Declarations)) :
    Allocator NodeKind := (imported d (ps.map (·.1)) (ps.map (·.2)) maxSymbols extensions).ids

section

variable (d : Disk) (maxSymbols : Int) (extensions : List Text)

/-- The clashes of a graph are those of one run over all that is asked for. -/
theorem collisions_graphOf (hnames : (ps.map (·.1.name)).Nodup) :
    idsOf d maxSymbols extensions ps = (({} : Allocator NodeKind).run
        (projectPairs maxSymbols ps ((graphOf d maxSymbols extensions ps).externals.map (·.1)))).2 ∧
      (graphOf d maxSymbols extensions ps).collisions = (idsOf d maxSymbols extensions ps).collisions := by
  have hnames' : ((ps.map (·.1)).map (·.name)).Nodup := by rwa [List.map_map]
  have hnamed := named_imported d (ps.map (·.1)) (ps.map (·.2)) maxSymbols extensions
  rw [graphOf, assemble_eq d maxSymbols extensions (length_pair ps) hnames']
  refine ⟨?_, rfl⟩
  rw [projectPairs, requestedPairs, Allocator.run_append, List.map_map]
  exact hnamed.ids_eq

theorem mem_packages_graphOf (hnames : (ps.map (·.1.name)).Nodup) {package : Text} :
    package ∈ (graphOf d maxSymbols extensions ps).externals.map (·.1) ↔
      ∃ p ∈ ps, package ∈ p.2.imports ∧ package.head? ≠ some '.' ∧
        resolveImport d p.1.path package extensions = none := by
  have hnames' : ((ps.map (·.1)).map (·.name)).Nodup := by rwa [List.map_map]
  rw [graphOf, mem_externals_iff d maxSymbols extensions (length_pair ps) hnames', zip_map_pair]

/-- The packages do not depend on the order of the files. -/
theorem perm_packages_graphOf (hperm : ps.Perm ps') (hnames : (ps.map (·.1.name)).Nodup) :
    ((graphOf d maxSymbols extensions ps).externals.map (·.1)).Perm
      ((graphOf d maxSymbols extensions ps').externals.map (·.1)) := by
  have hnames' := (hperm.map (·.1.name)).nodup_iff.mp hnames
  have hnodup {ps : List (SourceFile × Declarations)} (hnames : (ps.map (·.1.name)).Nodup) :
      ((graphOf d maxSymbols extensions ps).externals.map (·.1)).Nodup :=
    nodup_packages d maxSymbols extensions (length_pair ps) (by rwa [List.map_map])
  rw [List.perm_ext_iff_of_nodup (hnodup hnames) (hnodup hnames')]
  intro package
  rw [mem_packages_graphOf d maxSymbols extensions hnames, mem_packages_graphOf d maxSymbols extensions hnames']
  simp only [hperm.mem_iff]

/-- Without clashes all that is asked for has the identifier that it prefers. -/
theorem identOf_idsOf (hnames : (ps.map (·.1.name)).Nodup)
    (hcollisions : (graphOf d maxSymbols extensions ps).collisions = []) {pair : NodeKind × Text}
    (hpair : pair ∈ projectPairs maxSymbols ps ((graphOf d maxSymbols extensions ps).externals.map (·.1))) :
    identOf (idsOf d maxSymbols extensions ps) pair = Ident.preferred pair.2 := by
  obtain ⟨hids, hgraph⟩ := collisions_graphOf d maxSymbols extensions hnames
  rw [hgraph, hids] at hcollisions
  rw [identOf, hids, Allocator.get?_run_of_collisions_eq_nil hcollisions hpair, Option.getD_some]

/-- **Whether there are clashes does not depend on the order of the files.** -/
theorem collisions_graphOf_iff (hperm : ps.Perm ps') (hnames : (ps.map (·.1.name)).Nodup) :
    (graphOf d maxSymbols extensions ps).collisions = [] ↔ (graphOf d maxSymbols extensions ps').collisions = [] := by
  have hpairs := perm_projectPairs maxSymbols hperm (perm_packages_graphOf d maxSymbols extensions hperm hnames)
  obtain ⟨hids, hgraph⟩ := collisions_graphOf d maxSymbols extensions hnames
  obtain ⟨hids', hgraph'⟩ := collisions_graphOf d maxSymbols extensions ((hperm.map (·.1.name)).nodup_iff.mp hnames)
  rw [hgraph, hgraph', hids, hids', Allocator.collisions_run_eq_nil_iff, Allocator.collisions_run_eq_nil_iff]
  simp only [hpairs.mem_iff]

theorem drawing_graphOf (hnames : (ps.map (·.1.name)).Nodup)
    (hpaths : (ps.map fun p => Path.absolute d.here p.1.path).Nodup) :
    Drawing (identOf (idsOf d maxSymbols extensions ps)) d extensions maxSymbols ps
      (graphOf d maxSymbols extensions ps) :=
  drawing_assemble d maxSymbols extensions hnames hpaths

theorem labelled_graphOf (hnames : (ps.map (·.1.name)).Nodup) : (graphOf d maxSymbols extensions ps).Labelled :=
  labelled_assemble d maxSymbols extensions (length_pair ps) (by rwa [List.map_map])

theorem wellFormed_graphOf (hnames : (ps.map (·.1.name)).Nodup) :
    (graphOf d maxSymbols extensions ps).WellFormed (ps.map (·.1.name)) := by
  have hfit := wellFormed_assemble d maxSymbols extensions (length_pair ps) (by rwa [List.map_map])
  rwa [List.map_map] at hfit

/-- What is seen to lead to a package leads to one of the graph. -/
theorem external_mem_packages (hnames : (ps.map (·.1.name)).Nodup) : ∀ s ∈ sights d extensions ps,
    s.kind = .external → s.dst ∈ (graphOf d maxSymbols extensions ps).externals.map (·.1) := by
  intro s hs hkind
  obtain ⟨-, ⟨himports, -⟩ | ⟨-, hmet⟩⟩ := ends_of_mem_sights hs
  · cases hkind.symm.trans himports
  · exact (mem_packages_graphOf d maxSymbols extensions hnames).mpr hmet

/-- **The graphs of one project in two orders are alike.** -/
theorem alike_graphOf (hperm : ps.Perm ps') (hnames : (ps.map (·.1.name)).Nodup)
    (hpaths : (ps.map fun p => Path.absolute d.here p.1.path).Nodup) :
    Alike (graphOf d maxSymbols extensions ps) (graphOf d maxSymbols extensions ps') := by
  have hnames' := (hperm.map (·.1.name)).nodup_iff.mp hnames
  have hpaths' := (hperm.map fun p => Path.absolute d.here p.1.path).nodup_iff.mp hpaths
  have hdrawing := drawing_graphOf d maxSymbols extensions hnames hpaths
  have hdrawing' := drawing_graphOf d maxSymbols extensions hnames' hpaths'
  have hlabelled := labelled_graphOf d maxSymbols extensions hnames
  have hlabelled' := labelled_graphOf d maxSymbols extensions hnames'
  have hfit := wellFormed_graphOf d maxSymbols extensions hnames
  have hfit' := wellFormed_graphOf d maxSymbols extensions hnames'
  have hsights := perm_sights d extensions hperm hpaths
  have hpackages := perm_packages_graphOf d maxSymbols extensions hperm hnames
  refine ⟨?_, ?_, hpackages, ?_, ?_, ?_, collisions_graphOf_iff d maxSymbols extensions hperm hnames, ?_⟩
  · rw [hfit.labels, hfit'.labels]
    exact hperm.map _
  · intro n hn n' hn' hlabel
    rw [hdrawing.files] at hn
    rw [hdrawing'.files] at hn'
    obtain ⟨p, hp, rfl⟩ := List.mem_map.mp hn
    obtain ⟨p', hp', rfl⟩ := List.mem_map.mp hn'
    obtain rfl := List.inj_on_of_nodup_map hnames hp (hperm.mem_iff.mpr hp') hlabel
    refine ⟨_, _, hdrawing.lookup_symbols hfit.joined.nodup hp, hdrawing'.lookup_symbols hfit'.joined.nodup hp', ?_⟩
    rw [Drawing.map_symbolNodes, Drawing.map_symbolNodes]
  · rw [hdrawing.map_seen hlabelled (external_mem_packages d maxSymbols extensions hnames),
      hdrawing'.map_seen hlabelled' (external_mem_packages d maxSymbols extensions hnames')]
    exact hsights.map _
  · rw [hfit.entries, hfit'.entries, hdrawing.map_filter_fileIds hlabelled Edge.dst Sight.dst dst_sightEdge,
      hdrawing'.map_filter_fileIds hlabelled' Edge.dst Sight.dst dst_sightEdge]
    exact perm_filter_sights hperm hsights _
  · rw [hfit.leaves, hfit'.leaves, hdrawing.map_filter_fileIds hlabelled Edge.src Sight.src src_sightEdge,
      hdrawing'.map_filter_fileIds hlabelled' Edge.src Sight.src src_sightEdge]
    exact perm_filter_sights hperm hsights _
  · intro hcollisions
    have hcollisions' := (collisions_graphOf_iff d maxSymbols extensions hperm hnames).mp hcollisions
    have hident : ∀ pair ∈ projectPairs maxSymbols ps ((graphOf d maxSymbols extensions ps).externals.map (·.1)),
        identOf (idsOf d maxSymbols extensions ps) pair = identOf (idsOf d maxSymbols extensions ps') pair := by
      intro pair hpair
      have hpair' := (perm_projectPairs maxSymbols hperm hpackages).mem_iff.mp hpair
      rw [identOf_idsOf d maxSymbols extensions hnames hcollisions hpair,
        identOf_idsOf d maxSymbols extensions hnames' hcollisions' hpair']
    simp only [projectPairs_eq, List.mem_append] at hident
    refine hdrawing.perm_nodes hdrawing' hperm hpackages ?_ ?_ ?_
    · exact fun p hp => hident _ (Or.inl (Or.inl (List.mem_map_of_mem hp)))
    · exact fun p hp pair hpair => hident _ (Or.inl (Or.inr (List.mem_flatMap.mpr ⟨p, hp, hpair⟩)))
    · exact fun package hpackage => hident _ (Or.inr (List.mem_map_of_mem hpackage))

end

/-- **One project in two orders gives graphs that are alike**: they have the same files, symbols, packages, edges,
entries and leaves, told by their labels, and if one of them is without clashes, so is the other, and their nodes are
the same. -/
theorem build_reordered (d : Disk) {ps ps' : List (SourceFile × Declarations)} (maxSymbols : Int)
    (extensions : List Text) (hperm : ps.Perm ps') (hnames : (ps.map (·.1.name)).Nodup)
    (hpaths : (ps.map fun p => Path.absolute d.here p.1.path).Nodup) :
    ∃ built built', build d (ps.map (·.1)) (ps.map (·.2)) maxSymbols extensions = .ok built ∧
      build d (ps'.map (·.1)) (ps'.map (·.2)) maxSymbols extensions = .ok built' ∧
      built.graph.Labelled ∧ built'.graph.Labelled ∧ Alike built.graph built'.graph := by
  have hnames' := (hperm.map (·.1.name)).nodup_iff.mp hnames
  refine ⟨assemble d (ps.map (·.1)) (ps.map (·.2)) maxSymbols extensions,
    assemble d (ps'.map (·.1)) (ps'.map (·.2)) maxSymbols extensions, by simp [build], by simp [build], ?_, ?_, ?_⟩
  · exact labelled_graphOf d maxSymbols extensions hnames
  · exact labelled_graphOf d maxSymbols extensions hnames'
  · exact alike_graphOf d maxSymbols extensions hperm hnames hpaths

/-- Two files whose names prefer one identifier. -/
def clashDisk : Disk := ⟨.folder [("p", .folder [("a.ts", .file [] true), ("a_ts", .file [] true)] true)] true, "/"⟩

/-- The first file of `clashDisk` imports the second one and a package. -/
def clashProject : List (SourceFile × Declarations) :=
  [(⟨"/p/a.ts", "a.ts", "", 0⟩, { imports := ["./a_ts", "react"], functions := ["f"] }),
    (⟨"/p/a_ts", "a_ts", "", 0⟩, {})]

/-- The files of `clashProject` swap their identifiers with their order, and the graphs are alike. -/
theorem build_reordered_clash :
    clashProject.Perm clashProject.reverse ∧ (clashProject.map (·.1.name)).Nodup ∧
      (clashProject.map fun p => Path.absolute clashDisk.here p.1.path).Nodup ∧
      ∃ built built',
        build clashDisk (clashProject.map (·.1)) (clashProject.map (·.2)) maxSymbolsPerKind sourceExtensions =
          .ok built ∧
        build clashDisk (clashProject.reverse.map (·.1)) (clashProject.reverse.map (·.2)) maxSymbolsPerKind
          sourceExtensions = .ok built' ∧
        built.graph.Labelled ∧ built'.graph.Labelled ∧ Alike built.graph built'.graph :=
  ⟨(List.reverse_perm _).symm, by decide, by decide,
    build_reordered _ _ _ (List.reverse_perm _).symm (by decide) (by decide)⟩

example : (graphOf clashDisk 8 sourceExtensions clashProject).label? "a_ts" = some "a.ts" ∧
    (graphOf clashDisk 8 sourceExtensions clashProject.reverse).label? "a_ts" = some "a_ts" := by decide

end ImportChart.Graph
