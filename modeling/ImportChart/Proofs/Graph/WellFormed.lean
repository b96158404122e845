import ImportChart.Proofs.Backbone.Order
import ImportChart.Proofs.Graph.Nodes

/-!
# The graph of a project is well-formed

`WellFormed` says how the parts of a graph fit together: nodes, symbols, packages, edges and the two tallies.

- `Sound`: the same for what the imports have added so far; one import keeps it (`Sound.addImport`), and so do all of
  them (`sound_imported`);
- the graph of files with distinct names is well-formed (`build_wellFormed`), so it has a backbone.
-/

namespace ImportChart.Graph

open Ident (Allocator)
open Scan (SourceFile)
open Source (Declarations)

variable {d : Disk} {files : List SourceFile} {found : List Declarations} {maxSymbols : Int}
  {extensions : List Text} {byPath : List (Text × Text)} {fileIds : List Text} {a : Assembly} {src dst : Text}

/-- How the parts of a graph of files with the given names fit together. -/
structure WellFormed (g : Graph) (names : List Text) : Prop where
  /-- There is one node for each file, in order and labelled with its name. -/
  labels : g.files.map Node.label = names
  kinds : ∀ n ∈ g.files, n.kind = .file
  /-- Identifiers of files are distinct, and imports only join files. -/
  joined : g.Joined
  external_ends : ∀ e ∈ g.externalEdges, e.src ∈ g.fileIds ∧ ∃ p ∈ g.externals, p.2.id = e.dst
  /-- Every package is imported. -/
  external_met : ∀ p ∈ g.externals, ∃ e ∈ g.externalEdges, e.dst = p.2.id
  /-- Symbols are kept for exactly the files, in their order. -/
  symbol_keys : g.symbols.map (·.1) = g.fileIds
  symbol_parent : ∀ p ∈ g.symbols, ∀ n ∈ p.2, n.parent = some p.1
  incoming_file : ∀ id ∈ g.fileIds, g.incoming.count id = g.importEdges.countP fun e => e.dst = id
  outgoing_file : ∀ id ∈ g.fileIds, g.outgoing.count id = g.importEdges.countP fun e => e.src = id
  incoming_other : ∀ id, id ∉ g.fileIds → g.incoming.count id = 0
  outgoing_other : ∀ id, id ∉ g.fileIds → g.outgoing.count id = 0
  entries : g.entryIds = g.fileIds.filter fun id => ∀ e ∈ g.importEdges, e.dst ≠ id
  leaves : g.leafIds = g.fileIds.filter fun id => ∀ e ∈ g.importEdges, e.src ≠ id
  backbone_ok : ∃ order, g.backbone = .ok order

/-! ## What the imports add -/

namespace Assembly

/-- What the imports have added so far fits together with the identifiers of the files. -/
structure Sound (fileIds : List Text) (a : Assembly) : Prop where
  import_ends : ∀ e ∈ a.edges, e.kind = .imports → e.src ∈ fileIds ∧ e.dst ∈ fileIds
  external_ends : ∀ e ∈ a.edges, e.kind = .external → e.src ∈ fileIds ∧ ∃ p ∈ a.externals, p.2.id = e.dst
  external_met : ∀ p ∈ a.externals, ∃ e ∈ a.edges, e.kind = .external ∧ e.dst = p.2.id
  incoming_eq : ∀ id, a.incoming.count id = a.edges.countP fun e => e.dst = id ∧ e.kind = .imports
  outgoing_eq : ∀ id, a.outgoing.count id = a.edges.countP fun e => e.src = id ∧ e.kind = .imports

theorem Sound.addFileEdge (h : a.Sound fileIds) (hsrc : src ∈ fileIds) (hdst : dst ∈ fileIds) :
    (a.addFileEdge src dst).Sound fileIds where
  import_ends e he hkind := by
    rcases List.mem_append.mp he with he | he
    · exact h.import_ends e he hkind
    · obtain rfl := List.mem_singleton.mp he
      exact ⟨hsrc, hdst⟩
  external_ends e he hkind := by
    rcases List.mem_append.mp he with he | he
    · exact h.external_ends e he hkind
    · obtain rfl := List.mem_singleton.mp he
      cases hkind
  external_met p hp := by
    obtain ⟨e, he, hmet⟩ := h.external_met p hp
    exact ⟨e, List.mem_append_left _ he, hmet⟩
  incoming_eq id := by
    simp only [Assembly.addFileEdge, Tally.count_increment, h.incoming_eq, List.countP_append, List.countP_singleton,
      and_true, decide_eq_true_eq, eq_comm (a := id)]
  outgoing_eq id := by
    simp only [Assembly.addFileEdge, Tally.count_increment, h.outgoing_eq, List.countP_append, List.countP_singleton,
      and_true, decide_eq_true_eq, eq_comm (a := id)]

/-- What an edge to a package does, whether or not the package has a node: it leads to the node of a package, and no
other package is new. -/
theorem addExternalEdge_spec (a : Assembly) (src package : Text) :
    ∃ id, (a.addExternalEdge src package).edges = a.edges ++ [⟨src, id, .external⟩] ∧
      (a.addExternalEdge src package).incoming = a.incoming ∧
      (a.addExternalEdge src package).outgoing = a.outgoing ∧
      (∃ p ∈ (a.addExternalEdge src package).externals, p.2.id = id) ∧
      a.externals ⊆ (a.addExternalEdge src package).externals ∧
      ∀ p ∈ (a.addExternalEdge src package).externals, p ∈ a.externals ∨ p.2.id = id := by
  cases hlookup : a.externals.lookup package with
  | some node =>
    rw [addExternalEdge_of_lookup hlookup]
    exact ⟨node.id, rfl, rfl, rfl, ⟨_, mem_of_lookup_eq_some hlookup, rfl⟩, List.Subset.refl _, fun p hp => Or.inl hp⟩
  | none =>
    rw [addExternalEdge_of_new hlookup]
    refine ⟨_, rfl, rfl, rfl, ⟨_, List.mem_append_right _ List.mem_cons_self, rfl⟩, List.subset_append_left _ _,
      fun p hp => ?_⟩
    rcases List.mem_append.mp hp with hp | hp
    · exact Or.inl hp
    · exact Or.inr (by rw [List.mem_singleton.mp hp])

theorem Sound.addExternalEdge (h : a.Sound fileIds) (hsrc : src ∈ fileIds) (package : Text) :
    (a.addExternalEdge src package).Sound fileIds := by
  obtain ⟨id, hedges, hincoming, houtgoing, hnode, hsub, hnew⟩ := addExternalEdge_spec a src package
  refine ⟨fun e he hkind => ?_, fun e he hkind => ?_, fun p hp => ?_, fun other => ?_, fun other => ?_⟩
  · rw [hedges] at he
    rcases List.mem_append.mp he with he | he
    · exact h.import_ends e he hkind
    · obtain rfl := List.mem_singleton.mp he
      cases hkind
  · rw [hedges] at he
    rcases List.mem_append.mp he with he | he
    · obtain ⟨hsrc, p, hp, hid⟩ := h.external_ends e he hkind
      exact ⟨hsrc, p, hsub hp, hid⟩
    · obtain rfl := List.mem_singleton.mp he
      exact ⟨hsrc, hnode⟩
  · rw [hedges]
    rcases hnew p hp with hp | hid
    · obtain ⟨e, he, hmet⟩ := h.external_met p hp
      exact ⟨e, List.mem_append_left _ he, hmet⟩
    · exact ⟨_, List.mem_append_right _ List.mem_cons_self, rfl, hid.symm⟩
  · rw [hincoming, hedges, h.incoming_eq]
    simp [List.countP_append]
  · rw [houtgoing, hedges, h.outgoing_eq]
    simp [List.countP_append]

theorem Sound.addImport (h : a.Sound fileIds) {e : FileEntry} (hsrc : e.node.id ∈ fileIds)
    (hpaths : ∀ p ∈ byPath, p.2 ∈ fileIds) (target : Text) :
    (a.addImport d extensions byPath e target).Sound fileIds := by
  rcases addImport_cases d extensions byPath e a target with
    ⟨path, dst, -, hlookup, heq⟩ | ⟨path, -, -, heq⟩ | ⟨-, -, heq⟩ | ⟨-, -, heq⟩
  · rw [heq]
    exact h.addFileEdge hsrc (hpaths _ (mem_of_lookup_eq_some hlookup))
  · rw [heq]
    exact ⟨h.import_ends, h.external_ends, h.external_met, h.incoming_eq, h.outgoing_eq⟩
  · rw [heq]
    exact ⟨h.import_ends, h.external_ends, h.external_met, h.incoming_eq, h.outgoing_eq⟩
  · rw [heq]
    exact h.addExternalEdge hsrc target

theorem sound_empty (ids : Allocator NodeKind) (fileIds : List Text) : ({ ids } : Assembly).Sound fileIds := by
  refine ⟨?_, ?_, ?_, fun _ => rfl, fun _ => rfl⟩ <;> simp

end Assembly

theorem mem_of_mem_pathTable {here : Text} {nodes : List Node} {p : Text × Text} (h : p ∈ pathTable here files nodes) :
    p.2 ∈ nodes.map Node.id := by
  rw [pathTable, List.mem_reverse, ← List.map_uncurry_zip_eq_zipWith] at h
  obtain ⟨⟨f, n⟩, hmem, rfl⟩ := List.mem_map.mp h
  exact List.mem_map_of_mem (List.of_mem_zip hmem).2

/-- **What the imports of a project add is sound.** -/
theorem sound_imported (d : Disk) (maxSymbols : Int) (extensions : List Text) (hlen : files.length = found.length) :
    (imported d files found maxSymbols extensions).Sound ((fileNodes files).map Node.id) := by
  refine Assembly.addImports_induction (Assembly.sound_empty _ _) fun e he target _ a ha => ?_
  refine ha.addImport ?_ (fun p hp => mem_of_mem_pathTable hp) target
  rw [← ids_entries hlen]
  exact List.mem_map_of_mem he

/-! ## The whole graph -/

/-- Where edges between files end at files, those that end elsewhere are none. -/
theorem countP_eq_zero_of_notMem {es : List Edge} {tip : Edge → Text} (h : ∀ e ∈ es, tip e ∈ fileIds) {id : Text}
    (hid : id ∉ fileIds) : es.countP (fun e => tip e = id) = 0 := by
  rw [List.countP_eq_zero]
  intro e he hend
  exact hid (of_decide_eq_true hend ▸ h e he)

/-- The files whose tally is zero are those at which no edge ends. -/
theorem filter_count_eq {t : Tally} {es : List Edge} {tip : Edge → Text}
    (h : ∀ id, t.count id = es.countP fun e => tip e = id) (ids : List Text) :
    (ids.filter fun id => t.count id == 0) = ids.filter fun id => ∀ e ∈ es, tip e ≠ id := by
  refine List.filter_congr fun id _ => ?_
  have hzero : t.count id = 0 ↔ ∀ e ∈ es, tip e ≠ id := by
    rw [h, List.countP_eq_zero]
    simp
  exact decide_eq_decide.2 hzero

namespace Assembly

variable {nodes : List Node} {symbols : List (Text × List Node)}

theorem mem_importEdges {e : Edge} (he : e ∈ (a.toGraph nodes symbols).importEdges) :
    e ∈ a.edges ∧ e.kind = .imports := by
  obtain ⟨he, hkind⟩ := List.mem_filter.mp he
  exact ⟨he, eq_of_beq hkind⟩

theorem mem_externalEdges_iff {e : Edge} : e ∈ (a.toGraph nodes symbols).externalEdges ↔
    e ∈ a.edges ∧ e.kind = .external := by
  rw [externalEdges, List.mem_filter, beq_iff_eq]
  rfl

theorem countP_importEdges (a : Assembly) (nodes : List Node) (symbols : List (Text × List Node)) (tip : Edge → Text)
    (id : Text) : (a.toGraph nodes symbols).importEdges.countP (fun e => tip e = id) =
      a.edges.countP fun e => tip e = id ∧ e.kind = .imports := by
  rw [importEdges, List.countP_filter]
  exact List.countP_congr fun e _ => by simp

/-- What is sound makes a well-formed graph, together with files that have distinct identifiers and with their
symbols. -/
theorem Sound.wellFormed (h : a.Sound (nodes.map Node.id)) (hkinds : ∀ n ∈ nodes, n.kind = .file)
    (hnodup : (nodes.map Node.id).Nodup) (hkeys : symbols.map (·.1) = nodes.map Node.id)
    (hparent : ∀ p ∈ symbols, ∀ n ∈ p.2, n.parent = some p.1) :
    (a.toGraph nodes symbols).WellFormed (nodes.map Node.label) := by
  have hincoming (id : Text) : (a.toGraph nodes symbols).incoming.count id =
      (a.toGraph nodes symbols).importEdges.countP fun e => e.dst = id :=
    (h.incoming_eq id).trans (countP_importEdges a nodes symbols Edge.dst id).symm
  have houtgoing (id : Text) : (a.toGraph nodes symbols).outgoing.count id =
      (a.toGraph nodes symbols).importEdges.countP fun e => e.src = id :=
    (h.outgoing_eq id).trans (countP_importEdges a nodes symbols Edge.src id).symm
  have hends (e : Edge) (he : e ∈ (a.toGraph nodes symbols).importEdges) :
      e.src ∈ nodes.map Node.id ∧ e.dst ∈ nodes.map Node.id := by
    obtain ⟨he, hkind⟩ := mem_importEdges he
    exact h.import_ends e he hkind
  have hjoined : (a.toGraph nodes symbols).Joined :=
    ⟨hnodup, fun e he => (hends e he).1, fun e he => (hends e he).2⟩
  exact {
    labels := rfl
    kinds := hkinds
    joined := hjoined
    external_ends := fun e he => by
      obtain ⟨he, hkind⟩ := mem_externalEdges_iff.mp he
      exact h.external_ends e he hkind
    external_met := fun p hp => by
      obtain ⟨e, he, hkind, hdst⟩ := h.external_met p hp
      exact ⟨e, mem_externalEdges_iff.mpr ⟨he, hkind⟩, hdst⟩
    symbol_keys := hkeys
    symbol_parent := hparent
    incoming_file := fun id _ => hincoming id
    outgoing_file := fun id _ => houtgoing id
    incoming_other := fun id hid =>
      (hincoming id).trans (countP_eq_zero_of_notMem (fun e he => (hends e he).2) hid)
    outgoing_other := fun id hid =>
      (houtgoing id).trans (countP_eq_zero_of_notMem (fun e he => (hends e he).1) hid)
    entries := filter_count_eq hincoming _
    leaves := filter_count_eq houtgoing _
    backbone_ok := ⟨_, hjoined.backbone_eq_ok⟩ }

end Assembly

/-- The parts of a graph of files with distinct names fit together. -/
theorem wellFormed_assemble (d : Disk) (maxSymbols : Int) (extensions : List Text) (hlen : files.length = found.length)
    (hnames : (files.map (·.name)).Nodup) :
    (assemble d files found maxSymbols extensions).graph.WellFormed (files.map (·.name)) := by
  rw [assemble_eq d maxSymbols extensions hlen hnames, ← labels_fileNodes]
  refine (sound_imported d maxSymbols extensions hlen).wellFormed kind_of_mem_fileNodes (nodup_ids_fileNodes hnames)
    (keys_fileSymbols hlen maxSymbols) ?_
  exact parent_of_mem_allocateSymbols

/-- **The graph of files with distinct names is well-formed.** -/
theorem build_wellFormed (d : Disk) (files : List SourceFile) (found : List Declarations) (maxSymbols : Int)
    (extensions : List Text) (hlen : files.length = found.length) (hnames : (files.map (·.name)).Nodup) :
    ∃ built, build d files found maxSymbols extensions = .ok built ∧ built.graph.WellFormed (files.map (·.name)) :=
  ⟨assemble d files found maxSymbols extensions, by simp [build, hlen],
    wellFormed_assemble d maxSymbols extensions hlen hnames⟩

/-- Two files beside each other. -/
def pairDisk : Disk := ⟨.folder [("p", .folder [("a.ts", .file [] true), ("b.ts", .file [] true)] true)] true, "/"⟩

/-- The files of `pairDisk`. -/
def pairFiles : List SourceFile := [⟨"/p/a.ts", "a.ts", "", 0⟩, ⟨"/p/b.ts", "b.ts", "", 0⟩]

/-- The first file imports itself, the second one twice, a package, and something that is not there. -/
def pairDeclarations : List Declarations := [{ imports := ["./a", "./b", "react", "./b.ts", "./c"] }, {}]

/-- The graph of `pairFiles` is well-formed. -/
theorem build_wellFormed_pair :
    pairFiles.length = pairDeclarations.length ∧ (pairFiles.map (·.name)).Nodup ∧
      ∃ built, build pairDisk pairFiles pairDeclarations maxSymbolsPerKind sourceExtensions = .ok built ∧
        built.graph.WellFormed (pairFiles.map (·.name)) :=
  ⟨rfl, by decide, build_wellFormed _ _ _ _ _ rfl (by decide)⟩

end ImportChart.Graph
