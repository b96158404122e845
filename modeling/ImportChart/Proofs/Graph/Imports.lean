import ImportChart.Proofs.Graph.Nodes
import ImportChart.Proofs.Scan.Walk
import Mathlib.Data.List.Induction

/-!
# Every import is counted once

Each occurrence of an import in a file leads to one edge, leads to a file outside the project, or is dropped.

- `occurrences`: the imports of all files, each with the file that has it;
- `edgeOf`: the edge that an occurrence leads to;
- `Counted`: what the imports add are these edges and the two lists of what is left out, in the order of the
  occurrences; one import keeps it (`Counted.addImport`), and so do all of them (`counted_imported`);
- `CountsImports`: the numbers of edges between two files and from a file to a package.
-/

namespace ImportChart.Graph

open Ident (Allocator)
open Scan (SourceFile)
open Source (Declarations)

variable {d : Disk} {files : List SourceFile} {found : List Declarations} {maxSymbols : Int}
  {extensions : List Text} {byPath : List (Text × Text)} {a : Assembly} {es done : List FileEntry}

/-- The imports of files, each with the file that has it. -/
def occurrences (es : List FileEntry) : List (FileEntry × Text) :=
  es.flatMap fun e => e.found.imports.map fun target => (e, target)

theorem mem_occurrences {o : FileEntry × Text} : o ∈ occurrences es ↔ o.1 ∈ es ∧ o.2 ∈ o.1.found.imports := by
  rw [occurrences, List.mem_flatMap]
  constructor
  · rintro ⟨e, he, ho⟩
    obtain ⟨target, htarget, rfl⟩ := List.mem_map.mp ho
    exact ⟨he, htarget⟩
  · rintro ⟨he, htarget⟩
    exact ⟨o.1, he, List.mem_map.mpr ⟨o.2, htarget, rfl⟩⟩

/-- The file that an occurrence refers to. -/
def referent (d : Disk) (extensions : List Text) (o : FileEntry × Text) : Option Text :=
  resolveImport d o.1.file.path o.2 extensions

/-- The edge that an occurrence leads to, given the identifiers of files by their paths and the packages. -/
def edgeOf (d : Disk) (extensions : List Text) (byPath : List (Text × Text)) (externals : List (Text × Node))
    (o : FileEntry × Text) : Option Edge :=
  match referent d extensions o with
  | some path => (byPath.lookup path).map fun dst => ⟨o.1.node.id, dst, .imports⟩
  | none =>
    if o.2.head? = some '.' then none
    else (externals.lookup o.2).map fun node => ⟨o.1.node.id, node.id, .external⟩

/-- The file outside the project that an occurrence leads to. -/
def outsideOf (d : Disk) (extensions : List Text) (byPath : List (Text × Text)) (o : FileEntry × Text) :
    Option (Text × Text) :=
  match referent d extensions o with
  | some path => if (byPath.lookup path).isNone then some (o.1.file.name, path) else none
  | none => none

/-- The relative import that leads nowhere. -/
def droppedOf (d : Disk) (extensions : List Text) (o : FileEntry × Text) : Option (Text × Text) :=
  if referent d extensions o = none ∧ o.2.head? = some '.' then some (o.1.file.name, o.2) else none

namespace Assembly

theorem addImports_eq_foldl (a : Assembly) (es : List FileEntry) :
    a.addImports d extensions byPath es =
      (occurrences es).foldl (fun a o => a.addImport d extensions byPath o.1 o.2) a := by
  simp only [addImports, occurrences, List.foldl_flatMap, List.foldl_map]

/-- What has been added so far is what the occurrences so far lead to. -/
structure Counted (d : Disk) (extensions : List Text) (byPath : List (Text × Text)) (done : List (FileEntry × Text))
    (a : Assembly) : Prop where
  edges : a.edges = done.filterMap (edgeOf d extensions byPath a.externals)
  outside : a.outside = done.filterMap (outsideOf d extensions byPath)
  dropped : a.dropped = done.filterMap (droppedOf d extensions)
  /-- Every package that was met has a node. -/
  met : ∀ o ∈ done, referent d extensions o = none → o.2.head? ≠ some '.' → o.2 ∈ a.externals.map (·.1)

variable {done : List (FileEntry × Text)} {o : FileEntry × Text}

/-- A new package changes nothing for the occurrences so far. -/
theorem Counted.edgeOf_concat (h : a.Counted d extensions byPath done) (p : Text × Node) (ho : o ∈ done) :
    edgeOf d extensions byPath (a.externals ++ [p]) o = edgeOf d extensions byPath a.externals o := by
  unfold edgeOf
  split
  · rfl
  · next hreferent =>
    split
    · rfl
    · next hdot =>
      have hmet := h.met o ho hreferent hdot
      have hlookup : (a.externals ++ [p]).lookup o.2 = a.externals.lookup o.2 := by
        rw [List.lookup_append, Option.or_eq_left_of_isSome]
        rw [← Option.ne_none_iff_isSome]
        exact fun hnone => lookup_eq_none_iff_notMem.mp hnone hmet
      rw [hlookup]

theorem filterMap_concat_eq {α β : Type} (f : α → Option β) (xs : List α) (x : α) :
    (xs ++ [x]).filterMap f = xs.filterMap f ++ (f x).toList := by
  cases hx : f x <;> simp [hx]

/-- What leads to one entry of each list more, and changes nothing for the occurrences so far, counts one occurrence
more. -/
theorem Counted.snoc {a' : Assembly} (h : a.Counted d extensions byPath done)
    (hsame : ∀ o ∈ done, edgeOf d extensions byPath a'.externals o = edgeOf d extensions byPath a.externals o)
    (hedges : a'.edges = a.edges ++ (edgeOf d extensions byPath a'.externals o).toList)
    (houtside : a'.outside = a.outside ++ (outsideOf d extensions byPath o).toList)
    (hdropped : a'.dropped = a.dropped ++ (droppedOf d extensions o).toList)
    (hkeys : a.externals.map (·.1) ⊆ a'.externals.map (·.1))
    (hmet : referent d extensions o = none → o.2.head? ≠ some '.' → o.2 ∈ a'.externals.map (·.1)) :
    a'.Counted d extensions byPath (done ++ [o]) where
  edges := by
    rw [hedges, h.edges, filterMap_concat_eq, List.filterMap_congr hsame]
  outside := by
    rw [houtside, h.outside, filterMap_concat_eq]
  dropped := by
    rw [hdropped, h.dropped, filterMap_concat_eq]
  met o' ho' hreferent hdot := by
    rcases List.mem_append.mp ho' with ho' | ho'
    · exact hkeys (h.met o' ho' hreferent hdot)
    · obtain rfl := List.mem_singleton.mp ho'
      exact hmet hreferent hdot

/-- **One import more is counted once.** -/
theorem Counted.addImport (h : a.Counted d extensions byPath done) (o : FileEntry × Text) :
    (a.addImport d extensions byPath o.1 o.2).Counted d extensions byPath (done ++ [o]) := by
  rcases addImport_cases d extensions byPath o.1 a o.2 with
    ⟨path, dst, hpath, hlookup, heq⟩ | ⟨path, hpath, hlookup, heq⟩ | ⟨hnone, hdot, heq⟩ | ⟨hnone, hdot, heq⟩
  · have hreferent : referent d extensions o = some path := hpath
    rw [heq]
    exact h.snoc (fun _ _ => rfl) (by simp [edgeOf, hreferent, hlookup, addFileEdge])
      (by simp [outsideOf, hreferent, hlookup, addFileEdge]) (by simp [droppedOf, hreferent, addFileEdge])
      (List.Subset.refl _) (by simp [hreferent])
  · have hreferent : referent d extensions o = some path := hpath
    rw [heq]
    exact h.snoc (fun _ _ => rfl) (by simp [edgeOf, hreferent, hlookup]) (by simp [outsideOf, hreferent, hlookup])
      (by simp [droppedOf, hreferent]) (List.Subset.refl _) (by simp [hreferent])
  · have hreferent : referent d extensions o = none := hnone
    rw [heq]
    exact h.snoc (fun _ _ => rfl) (by simp [edgeOf, hreferent, hdot]) (by simp [outsideOf, hreferent])
      (by simp [droppedOf, hreferent, hdot]) (List.Subset.refl _) (by simp [hdot])
  · have hreferent : referent d extensions o = none := hnone
    rw [heq]
    cases hlookup : a.externals.lookup o.2 with
    | some node =>
      rw [addExternalEdge_of_lookup hlookup]
      have hmem : o.2 ∈ a.externals.map (·.1) := List.mem_map_of_mem (mem_of_lookup_eq_some hlookup)
      exact h.snoc (fun _ _ => rfl) (by simp [edgeOf, hreferent, hdot, hlookup]) (by simp [outsideOf, hreferent])
        (by simp [droppedOf, hdot]) (List.Subset.refl _) (fun _ _ => hmem)
    | none =>
      rw [addExternalEdge_of_new hlookup]
      have hself : ∀ node : Node, (a.externals ++ [(o.2, node)]).lookup o.2 = some node := by
        intro node
        rw [List.lookup_append, hlookup]
        simp
      exact h.snoc (fun o' ho' => h.edgeOf_concat _ ho') (by simp [edgeOf, hreferent, hdot, hself])
        (by simp [outsideOf, hreferent]) (by simp [droppedOf, hdot])
        (by simp) (by simp)

/-- All imports of files are counted once. -/
theorem counted_addImports (d : Disk) (extensions : List Text) (byPath : List (Text × Text)) (ids : Allocator NodeKind)
    (es : List FileEntry) :
    (addImports d extensions byPath { ids } es).Counted d extensions byPath (occurrences es) := by
  rw [addImports_eq_foldl]
  induction occurrences es using List.reverseRecOn with
  | nil => exact ⟨rfl, rfl, rfl, by simp⟩
  | append_singleton done o ih =>
    rw [List.foldl_append]
    exact ih.addImport o

/-- How many things the imports have led to. -/
def size (a : Assembly) : Nat := a.edges.length + a.outside.length + a.dropped.length

theorem size_addImport (a : Assembly) (e : FileEntry) (target : Text) :
    (a.addImport d extensions byPath e target).size = a.size + 1 := by
  rcases addImport_cases d extensions byPath e a target with
    ⟨_, _, -, -, heq⟩ | ⟨_, -, -, heq⟩ | ⟨-, -, heq⟩ | ⟨-, -, heq⟩
  · simp only [heq, size, addFileEdge, List.length_append, List.length_singleton]
    omega
  · simp only [heq, size, List.length_append, List.length_singleton]
    omega
  · simp only [heq, size, List.length_append, List.length_singleton]
    omega
  · rw [heq]
    cases hlookup : a.externals.lookup target with
    | some node =>
      simp only [addExternalEdge_of_lookup hlookup, size, List.length_append, List.length_singleton]
      omega
    | none =>
      simp only [addExternalEdge_of_new hlookup, size, List.length_append, List.length_singleton]
      omega

/-- **The imports of files lead to as many things as there are imports.** -/
theorem size_addImports (a : Assembly) (es : List FileEntry) :
    (a.addImports d extensions byPath es).size = a.size + (occurrences es).length := by
  rw [addImports_eq_foldl]
  induction occurrences es using List.reverseRecOn with
  | nil => rfl
  | append_singleton done o ih =>
    rw [List.foldl_append, List.foldl_cons, List.foldl_nil, size_addImport, ih, List.length_append]
    rfl

end Assembly

/-! ## Counting -/

/-- What is counted only at one file is counted among the imports of this file. -/
theorem countP_occurrences {G : FileEntry} (hnodup : (es.map (·.node.id)).Nodup) (hG : G ∈ es)
    {p : FileEntry × Text → Bool} (hp : ∀ o, p o = true → o.1.node.id = G.node.id) :
    (occurrences es).countP p = G.found.imports.countP fun target => p (G, target) := by
  induction es with
  | nil => cases hG
  | cons e es ih =>
    rw [List.map_cons, List.nodup_cons] at hnodup
    rw [occurrences, List.flatMap_cons, List.countP_append, ← occurrences]
    rcases List.mem_cons.mp hG with rfl | hG
    · -- the files behind this one have other identifiers
      have hrest : (occurrences es).countP p = 0 := by
        rw [List.countP_eq_zero]
        intro o ho hcounted
        exact hnodup.1 (hp o hcounted ▸ List.mem_map_of_mem (mem_occurrences.mp ho).1)
      rw [hrest, List.countP_map]
      rfl
    · have hne : e.node.id ≠ G.node.id := fun heq => hnodup.1 (heq ▸ List.mem_map_of_mem hG)
      have hfirst : (e.found.imports.map fun target => (e, target)).countP p = 0 := by
        rw [List.countP_eq_zero]
        intro o ho hcounted
        obtain ⟨target, -, rfl⟩ := List.mem_map.mp ho
        exact hne (hp _ hcounted)
      rw [hfirst, ih hnodup.2 hG, Nat.zero_add]

/-- The table of paths of entries. -/
def pathsOf (es : List FileEntry) : List (Text × Text) := (es.map fun e => (e.file.path, e.node.id)).reverse

/-- The table of paths of files in normal form. -/
theorem pathTable_eq {here : Text} : ∀ {files : List SourceFile} {nodes : List Node} {found : List Declarations},
    (∀ f ∈ files, Path.absolute here f.path = f.path) → nodes.length = files.length → files.length = found.length →
      pathTable here files nodes = pathsOf (fileEntries files nodes found)
  | [], [], [], _, _, _ => rfl
  | f :: files, n :: nodes, x :: found, hnormal, hnodes, hfound => by
    have ih := pathTable_eq (fun f hf => hnormal f (List.mem_cons_of_mem _ hf)) (Nat.succ.inj hnodes)
      (Nat.succ.inj hfound)
    rw [pathTable, List.zipWith_cons_cons, List.reverse_cons, ← pathTable, ih, hnormal f List.mem_cons_self]
    simp [pathsOf, fileEntries]

theorem keys_pathsOf (es : List FileEntry) : (pathsOf es).map (·.1) = (es.map (·.file.path)).reverse := by
  rw [pathsOf, List.map_reverse, List.map_map]
  rfl

/-- A file is found by its path and by no other. -/
theorem lookup_pathsOf_iff {F : FileEntry} (hids : (es.map (·.node.id)).Nodup) (hpaths : (es.map (·.file.path)).Nodup)
    (hF : F ∈ es) {path : Text} : (pathsOf es).lookup path = some F.node.id ↔ path = F.file.path := by
  have hkeys : ((pathsOf es).map (·.1)).Nodup := by
    rw [keys_pathsOf]
    exact List.nodup_reverse.mpr hpaths
  rw [lookup_eq_some_iff_mem hkeys, pathsOf, List.mem_reverse, List.mem_map]
  constructor
  · rintro ⟨e, he, heq⟩
    obtain ⟨rfl, hid⟩ := Prod.mk.inj heq
    rw [List.inj_on_of_nodup_map hids he hF hid]
  · rintro rfl
    exact ⟨F, hF, rfl⟩

/-- The edges of a graph are the imports of its files: none is lost, and none is counted twice. -/
structure CountsImports (d : Disk) (extensions : List Text) (es : List FileEntry) (built : Built) : Prop where
  /-- The edges from a file to a file are the imports of the one that are resolved to the path of the other. -/
  import_edges : ∀ G ∈ es, ∀ F ∈ es,
    (built.graph.edges.countP fun e => e.kind = .imports ∧ e.src = G.node.id ∧ e.dst = F.node.id) =
      G.found.imports.countP fun target => resolveImport d G.file.path target extensions = some F.file.path
  /-- The edges from a file to a package are its imports of this name that are not resolved, if the name is none of a
  relative import. -/
  external_edges : ∀ G ∈ es, ∀ package,
    (built.graph.edges.countP fun e => e.kind = .external ∧ e.src = G.node.id ∧
        (built.graph.externals.lookup package).map Node.id = some e.dst) =
      if package.head? = some '.' then 0
      else G.found.imports.countP fun target =>
        target = package ∧ resolveImport d G.file.path target extensions = none
  /-- What is noted as outside are the imports that are resolved to a file outside the project. -/
  outside_length : built.outside.length = (occurrences es).countP fun o =>
    (resolveImport d o.1.file.path o.2 extensions).any fun path => path ∉ es.map (·.file.path)
  /-- What is noted as dropped are the relative imports that are not resolved. -/
  dropped_length : built.dropped.length = (occurrences es).countP fun o =>
    resolveImport d o.1.file.path o.2 extensions = none ∧ o.2.head? = some '.'
  total : built.graph.edges.length + built.outside.length + built.dropped.length = (occurrences es).length

namespace Assembly

/-- The identifiers of packages are distinct. -/
theorem Named.nodup_ids {ids : Allocator NodeKind} (h : a.Named ids) (hids : ids.Consistent) :
    (a.externals.map (·.2.id)).Nodup := by
  rw [h.ids_nodes, Allocator.nodup_run_iff hids]
  refine (List.nodup_map_iff_inj_on (List.Nodup.of_map _ h.nodup)).mpr fun p hp q hq heq => ?_
  have hkey : p.1 = q.1 := List.append_cancel_left (congrArg Prod.snd heq)
  exact List.inj_on_of_nodup_map h.nodup hp hq hkey

variable {done : List (FileEntry × Text)} {o : FileEntry × Text} {G F : FileEntry}

/-- An occurrence leads to an edge to a file if it is resolved to the path of this file. -/
theorem edgeOf_imports (externals : List (Text × Node)) (hids : (es.map (·.node.id)).Nodup)
    (hpaths : (es.map (·.file.path)).Nodup) (hF : F ∈ es) (src : Text) :
    ((edgeOf d extensions (pathsOf es) externals o).map fun e =>
        decide (e.kind = .imports ∧ e.src = src ∧ e.dst = F.node.id)).getD false =
      decide (o.1.node.id = src ∧ referent d extensions o = some F.file.path) := by
  unfold edgeOf
  split
  · next path hreferent =>
    have hfound : (pathsOf es).lookup path = some F.node.id ↔ path = F.file.path :=
      lookup_pathsOf_iff hids hpaths hF
    cases hlookup : (pathsOf es).lookup path <;> simp [hlookup] at hfound <;> simp [hreferent, hfound]
  · next hreferent =>
    split
    · simp [hreferent]
    · cases externals.lookup o.2 <;> simp [hreferent]

/-- An occurrence leads to an edge to a package if it is not resolved and has the name of the package. -/
theorem Counted.edgeOf_external (h : a.Counted d extensions byPath done) (hids : (a.externals.map (·.2.id)).Nodup)
    (ho : o ∈ done) (src package : Text) :
    ((edgeOf d extensions byPath a.externals o).map fun e =>
        decide (e.kind = .external ∧ e.src = src ∧ (a.externals.lookup package).map Node.id = some e.dst)).getD false =
      decide (o.1.node.id = src ∧ package.head? ≠ some '.' ∧ o.2 = package ∧ referent d extensions o = none) := by
  unfold edgeOf
  split
  · next path hreferent => cases byPath.lookup path <;> simp [hreferent]
  · next hreferent =>
    split
    · next hdot =>
      have hno : ¬(package.head? ≠ some '.' ∧ o.2 = package) := by
        rintro ⟨hne, rfl⟩
        exact hne hdot
      have hright : ¬(o.1.node.id = src ∧ package.head? ≠ some '.' ∧ o.2 = package ∧ referent d extensions o = none) :=
        fun hall => hno ⟨hall.2.1, hall.2.2.1⟩
      rw [Option.map_none, Option.getD_none, decide_eq_false hright]
    · next hdot =>
      obtain ⟨p, hp, hkey⟩ := List.mem_map.mp (h.met o ho hreferent hdot)
      cases hnode : a.externals.lookup o.2 with
      | none => exact absurd (hkey ▸ List.mem_map_of_mem hp) (lookup_eq_none_iff_notMem.mp hnode)
      | some node =>
        -- another package has another identifier
        have hpackage : (a.externals.lookup package).map Node.id = some node.id ↔ o.2 = package := by
          constructor
          · intro hsame
            obtain ⟨node', hnode', hid⟩ := Option.map_eq_some_iff.mp hsame
            have hmem := mem_of_lookup_eq_some hnode
            have hmem' := mem_of_lookup_eq_some hnode'
            exact congrArg Prod.fst (List.inj_on_of_nodup_map hids hmem hmem' hid.symm)
          · rintro rfl
            rw [hnode]
            rfl
        have hhead : o.2 = package → package.head? ≠ some '.' := by
          rintro rfl
          exact hdot
        simp only [Option.map_some, Option.getD_some, hpackage, hreferent, true_and, and_true]
        refine decide_eq_decide.mpr (and_congr_right fun _ => ?_)
        exact ⟨fun heq => ⟨hhead heq, heq⟩, fun hboth => hboth.2⟩

/-- An occurrence is noted as outside if it is resolved to a path that no file has. -/
theorem isSome_outsideOf (es : List FileEntry) (o : FileEntry × Text) :
    (outsideOf d extensions (pathsOf es) o).isSome =
      (referent d extensions o).any fun path => path ∉ es.map (·.file.path) := by
  unfold outsideOf
  split
  · next path hreferent =>
    have hnone : ((pathsOf es).lookup path).isNone = decide (path ∉ es.map (·.file.path)) := by
      rw [Bool.eq_iff_iff, Option.isNone_iff_eq_none, decide_eq_true_eq, lookup_eq_none_iff_notMem, keys_pathsOf,
        List.mem_reverse]
    rw [hreferent, Option.any_some, hnone]
    split
    · next hout => rw [hout]; rfl
    · next hin => rw [Bool.eq_false_iff.mpr hin]; rfl
  · next hreferent =>
    rw [hreferent]
    rfl

/-- **What the imports add counts the imports.** -/
theorem Counted.countsImports (h : a.Counted d extensions (pathsOf es) (occurrences es))
    (hexternals : (a.externals.map (·.2.id)).Nodup) (hids : (es.map (·.node.id)).Nodup)
    (hpaths : (es.map (·.file.path)).Nodup) (nodes : List Node) (symbols : List (Text × List Node))
    (hsize : a.size = (occurrences es).length) :
    CountsImports d extensions es ⟨a.toGraph nodes symbols, a.outside, a.dropped⟩ where
  import_edges G hG F hF := by
    show a.edges.countP _ = _
    rw [h.edges, List.countP_filterMap, List.countP_congr fun o _ => by rw [edgeOf_imports _ hids hpaths hF],
      countP_occurrences hids hG fun o ho => (of_decide_eq_true ho).1]
    simp only [true_and]
    rfl
  external_edges G hG package := by
    show (a.edges.countP fun e => e.kind = .external ∧ e.src = G.node.id ∧
      (a.externals.lookup package).map Node.id = some e.dst) = _
    rw [h.edges, List.countP_filterMap, List.countP_congr fun o ho => by rw [h.edgeOf_external hexternals ho],
      countP_occurrences hids hG fun o ho => (of_decide_eq_true ho).1]
    split
    · next hdot => simp [hdot]
    · next hdot =>
      refine List.countP_congr fun target _ => ?_
      rw [decide_eq_true_eq, decide_eq_true_eq]
      exact ⟨fun hall => hall.2.2, fun hboth => ⟨rfl, hdot, hboth⟩⟩
  outside_length := by
    show a.outside.length = _
    rw [h.outside, List.length_filterMap_eq_countP]
    exact List.countP_congr fun o _ => by rw [isSome_outsideOf]; rfl
  dropped_length := by
    show a.dropped.length = _
    rw [h.dropped, List.length_filterMap_eq_countP]
    refine List.countP_congr fun o _ => ?_
    rw [droppedOf, decide_eq_true_eq]
    split
    · next hdropped => exact ⟨fun _ => hdropped, fun _ => rfl⟩
    · next hkept =>
      constructor
      · intro hsome
        cases hsome
      · intro hdropped
        exact absurd hdropped hkept
  total := hsize

end Assembly

theorem files_entries (hlen : files.length = found.length) : (entries files found).map (·.file) = files := by
  have hfst := congrArg (List.map Prod.fst) (map_fileEntries (length_fileNodes files) hlen).2
  rw [List.map_map, List.map_fst_zip (Nat.le_of_eq hlen)] at hfst
  exact hfst

/-- The graph of files with distinct names and distinct paths in normal form counts their imports. -/
theorem countsImports_assemble (d : Disk) (maxSymbols : Int) (extensions : List Text)
    (hlen : files.length = found.length) (hnames : (files.map (·.name)).Nodup) (hpaths : (files.map (·.path)).Nodup)
    (hnormal : ∀ f ∈ files, Path.absolute d.here f.path = f.path) :
    CountsImports d extensions (entries files found) (assemble d files found maxSymbols extensions) := by
  have htable : pathTable d.here files (fileNodes files) = pathsOf (entries files found) :=
    pathTable_eq hnormal (length_fileNodes files) hlen
  have hcounted : (imported d files found maxSymbols extensions).Counted d extensions (pathsOf (entries files found))
      (occurrences (entries files found)) := by
    rw [imported, htable]
    exact Assembly.counted_addImports ..
  have hconsistent : (symbolAllocator files found maxSymbols).Consistent :=
    Allocator.consistent_run Allocator.consistent_empty _
  have hids : ((entries files found).map (·.node.id)).Nodup := by
    rw [ids_entries hlen]
    exact nodup_ids_fileNodes hnames
  have hfiles : ((entries files found).map (·.file.path)).Nodup := by
    rwa [← files_entries hlen, List.map_map] at hpaths
  rw [assemble_eq d maxSymbols extensions hlen hnames]
  refine hcounted.countsImports ((named_imported d files found maxSymbols extensions).nodup_ids hconsistent) hids hfiles
    _ _ ?_
  rw [imported, Assembly.size_addImports]
  exact Nat.zero_add _

/-- **The graph of collected files neither loses nor doubles an import**, for every disk, policy and declarations. -/
theorem build_countsImports (hhere : Path.isAbsolute d.here = true) (hdisk : d.root.Proper) {root : Text}
    {policy : Scan.Policy} {c : Scan.Collection} (hcollect : Scan.collect d root policy = .ok c)
    (hlen : c.files.length = found.length) (maxSymbols : Int) (extensions : List Text) :
    ∃ built, build d c.files found maxSymbols extensions = .ok built ∧
      let es := fileEntries c.files built.graph.files found
      es.map (fun e => (e.file, e.found)) = c.files.zip found ∧ es.map (·.node) = built.graph.files ∧
        CountsImports d extensions es built := by
  obtain ⟨hnames, hpaths, hnormal⟩ := Scan.distinct_of_collect hhere hdisk hcollect
  have hfiles : (assemble d c.files found maxSymbols extensions).graph.files = fileNodes c.files := by
    rw [assemble_eq d maxSymbols extensions hlen hnames]
    rfl
  obtain ⟨hnodes, hzip⟩ := map_fileEntries (length_fileNodes c.files) hlen
  refine ⟨assemble d c.files found maxSymbols extensions, by simp [build, hlen], ?_⟩
  rw [hfiles]
  exact ⟨hzip, hnodes, countsImports_assemble d maxSymbols extensions hlen hnames hpaths hnormal⟩

/-- A folder with two files whose names have no ending. -/
def plainFolder : Entry := .folder [("a", .file [] true), ("b", .file [] true)] true

/-- A disk with this folder. -/
def plainDisk : Disk := ⟨.folder [("p", plainFolder)] true, "/"⟩

/-- The records of its files. -/
def plainFiles : List SourceFile := [⟨"/p/a", "a", "", 0⟩, ⟨"/p/b", "b", "", 0⟩]

/-- The first file imports the second one twice, itself, two packages, and something that is not there. -/
def plainDeclarations : List Declarations :=
  [{ imports := ["./b", "react", "../p/b", "./a", "fs", "react", "./c"] }, {}]

theorem collectFile_plain {name : Text} (hname : name ∈ ([("a" : Text), "b"] : List Text)) :
    Scan.collectFile plainDisk {} "/p" [] name (.file [] true) = .ok { files := [⟨"/p/" ++ name, name, "", 0⟩] } := by
  have hkept : ∀ name ∈ ([("a" : Text), "b"] : List Text), Scan.entryPath "/p" name = "/p/" ++ name ∧
      ({} : Scan.Policy).ignores (Scan.entryName [] name) false = false ∧ ({} : Scan.Policy).reads name = true := by
    decide +kernel
  have hfound : ∀ name ∈ ([("a" : Text), "b"] : List Text), plainDisk.entry? ("/p/" ++ name) = .ok (.file [] true) := by
    simp only [List.forall_mem_cons]
    exact ⟨by cbv, by cbv, by simp⟩
  obtain ⟨hpath, hignores, hreads⟩ := hkept name hname
  exact Scan.collectFile_of_text hpath (hfound name hname) hignores hreads (by cbv)

theorem collect_plain : Scan.collect plainDisk "p" {} = .ok ⟨plainFiles, [], []⟩ := by
  have hpath : Path.absolute plainDisk.here "p" = "/p" := by decide
  have hroot : plainDisk.probe "/p" = .ok (some plainFolder) := by cbv
  have hlists : plainDisk.lists "/p" = true := by cbv
  simp only [Scan.collect, hpath, hroot, plainFolder, Scan.walk, hlists, if_true, Scan.collectFiles]
  rw [collectFile_plain (by simp), collectFile_plain (by simp)]
  rfl

theorem proper_plainDisk : plainDisk.root.Proper := by
  refine .folder (by decide) (by decide) ?_
  simp only [List.forall_mem_singleton]
  exact .folder (by decide) (by decide) (by simp [Entry.Proper.file])

/-- The graph of this folder neither loses nor doubles an import. -/
theorem build_countsImports_plain :
    Path.isAbsolute plainDisk.here = true ∧ plainDisk.root.Proper ∧
      Scan.collect plainDisk "p" {} = .ok ⟨plainFiles, [], []⟩ ∧ plainFiles.length = plainDeclarations.length ∧
      ∃ built, build plainDisk plainFiles plainDeclarations maxSymbolsPerKind sourceExtensions = .ok built ∧
        let es := fileEntries plainFiles built.graph.files plainDeclarations
        es.map (fun e => (e.file, e.found)) = plainFiles.zip plainDeclarations ∧
          es.map (·.node) = built.graph.files ∧ CountsImports plainDisk sourceExtensions es built :=
  ⟨rfl, proper_plainDisk, collect_plain, rfl,
    build_countsImports rfl proper_plainDisk collect_plain rfl maxSymbolsPerKind sourceExtensions⟩

end ImportChart.Graph
