import ImportChart.Proofs.Graph.Nodes
import Mathlib.Data.List.Pairwise

/-!
# When all nodes of a graph have identifiers of their own

The allocator gives two nodes one identifier exactly if the same pair of a kind and a label is asked for twice. The
labels of files and packages are distinct, but the label of a symbol is glued together: the name of its file, a mark
and its own name. `Unambiguous` says that no two files give one label in this way, and it is all that is needed.
It can fail: a file may be named like another file with the mark and the beginning of a symbol behind it.

- `nodup_symbolPairs`, `nodup_flatMap_symbolPairs_iff`: what the symbols of one file, and of all files, ask for;
- `pairwise_requestedPairs_iff`: files and packages do not matter;
- `pairwise_of_run`: nodes share an identifier only if one pair was asked for both.
-/

namespace ImportChart.Graph

open Ident (Allocator)
open Scan (SourceFile)
open Source (Declarations)

variable {files : List SourceFile} {found : List Declarations} {maxSymbols : Int} {file : SourceFile}
  {decls : Declarations} {pair : NodeKind × Text}

/-! ## The symbols that are drawn -/

/-- The functions of a file that are drawn. -/
def drawnFunctions (maxSymbols : Int) (decls : Declarations) : List Text := distinctNames maxSymbols [] decls.functions

/-- The classes of a file that are drawn. -/
def drawnClasses (maxSymbols : Int) (decls : Declarations) : List Text := distinctNames maxSymbols [] decls.classes

theorem nodup_distinctNames (limit : Int) :
    ∀ {seen names : List Text}, seen.Nodup → (distinctNames limit seen names).Nodup
  | _, [], h => h
  | seen, name :: names, h => by
    rw [distinctNames]
    split
    · exact nodup_distinctNames limit h
    · next hnew =>
      have hsnoc : (seen ++ [name]).Nodup := by
        rw [← List.concat_eq_append]
        exact h.concat (by simpa using hnew)
      split
      · exact hsnoc
      · exact nodup_distinctNames limit hsnoc

/-- The key of a symbol: the name of its file, a mark, and its own name. -/
def gluedKey (mark : Text) (file : SourceFile) (name : Text) : Text := file.name ++ mark ++ name

/-- What is asked for the symbols of a file: its functions and classes, or one stand-in if there are none. -/
theorem symbolRequests_eq (maxSymbols : Int) (file : SourceFile) (decls : Declarations) :
    symbolRequests maxSymbols file decls =
      if drawnFunctions maxSymbols decls = [] ∧ drawnClasses maxSymbols decls = [] then [fallbackRequest file]
      else
        (drawnFunctions maxSymbols decls).map (functionRequest file) ++
          (drawnClasses maxSymbols decls).map (classRequest file) := by
  simp only [symbolRequests, List.isEmpty_iff, List.append_eq_nil_iff, List.map_eq_nil_iff]
  rfl

theorem symbolPairs_eq (maxSymbols : Int) (file : SourceFile) (decls : Declarations) :
    symbolPairs maxSymbols file decls =
      if drawnFunctions maxSymbols decls = [] ∧ drawnClasses maxSymbols decls = [] then
        [(.fallback, file.name ++ "_file")]
      else
        (drawnFunctions maxSymbols decls).map (fun name => (.function, gluedKey "_fn_" file name)) ++
          (drawnClasses maxSymbols decls).map fun name => (.classType, gluedKey "_class_" file name) := by
  rw [symbolPairs, symbolRequests_eq]
  split
  · rfl
  · rw [List.map_append]
    exact congrArg₂ _ (List.map_map ..) (List.map_map ..)

theorem function_mem_symbolPairs_iff {key : Text} : (.function, key) ∈ symbolPairs maxSymbols file decls ↔
    ∃ name ∈ drawnFunctions maxSymbols decls, key = gluedKey "_fn_" file name := by
  rw [symbolPairs_eq]
  split
  · next h => simp [h.1]
  · simp [eq_comm]

theorem class_mem_symbolPairs_iff {key : Text} : (.classType, key) ∈ symbolPairs maxSymbols file decls ↔
    ∃ name ∈ drawnClasses maxSymbols decls, key = gluedKey "_class_" file name := by
  rw [symbolPairs_eq]
  split
  · next h => simp [h.2]
  · simp [eq_comm]

theorem eq_of_fallback_mem_symbolPairs {key : Text} (h : (.fallback, key) ∈ symbolPairs maxSymbols file decls) :
    key = file.name ++ "_file" := by
  rw [symbolPairs_eq] at h
  split at h
  · exact congrArg Prod.snd (List.mem_singleton.mp h)
  · simp at h

theorem name_eq_of_fallback_mem {other : SourceFile} {decls' : Declarations} {key : Text}
    (h : (.fallback, key) ∈ symbolPairs maxSymbols file decls)
    (h' : (.fallback, key) ∈ symbolPairs maxSymbols other decls') : file.name = other.name := by
  have hkey := eq_of_fallback_mem_symbolPairs h
  rw [eq_of_fallback_mem_symbolPairs h'] at hkey
  exact (List.append_cancel_right hkey).symm

theorem kind_of_mem_symbolPairs (h : pair ∈ symbolPairs maxSymbols file decls) :
    pair.1 = .function ∨ pair.1 = .classType ∨ pair.1 = .fallback := by
  rw [symbolPairs_eq] at h
  split at h
  · rw [List.mem_singleton.mp h]
    exact Or.inr (Or.inr rfl)
  · rcases List.mem_append.mp h with h | h
    · obtain ⟨name, -, rfl⟩ := List.mem_map.mp h
      exact Or.inl rfl
    · obtain ⟨name, -, rfl⟩ := List.mem_map.mp h
      exact Or.inr (Or.inl rfl)

theorem gluedKey_injective (mark : Text) (file : SourceFile) : Function.Injective (gluedKey mark file) :=
  fun _ _ h => List.append_cancel_left h

theorem nodup_map_gluedKey (kind : NodeKind) (mark : Text) (file : SourceFile) (limit : Int) (names : List Text) :
    ((distinctNames limit [] names).map fun name => (kind, gluedKey mark file name)).Nodup := by
  refine (nodup_distinctNames limit List.nodup_nil).map fun x y h => ?_
  have hkey : gluedKey mark file x = gluedKey mark file y := congrArg Prod.snd h
  exact gluedKey_injective mark file hkey

theorem nodup_symbolPairs (maxSymbols : Int) (file : SourceFile) (decls : Declarations) :
    (symbolPairs maxSymbols file decls).Nodup := by
  rw [symbolPairs_eq]
  split
  · exact List.nodup_singleton _
  · refine List.nodup_append.mpr ⟨nodup_map_gluedKey .., nodup_map_gluedKey .., ?_⟩
    intro p hp q hq heq
    obtain ⟨x, -, rfl⟩ := List.mem_map.mp hp
    obtain ⟨y, -, rfl⟩ := List.mem_map.mp hq
    cases congrArg Prod.fst heq

/-! ## Symbols of different files -/

/-- No two files have symbols with one key. -/
def Unambiguous (mark : Text) (drawn : Declarations → List Text) (entries : List (SourceFile × Declarations)) : Prop :=
  ∀ p ∈ entries, ∀ q ∈ entries, ∀ x ∈ drawn p.2, ∀ y ∈ drawn q.2,
    gluedKey mark p.1 x = gluedKey mark q.1 y → p.1.name = q.1.name

section

variable {kind : NodeKind} {mark : Text} {drawn : Declarations → List Text} {entries : List (SourceFile × Declarations)}

/-- If different files ask for different things, their symbols of one kind have keys that are unambiguous. -/
theorem unambiguous_of_disjoint
    (hmem : ∀ {file decls key}, (kind, key) ∈ symbolPairs maxSymbols file decls ↔
      ∃ name ∈ drawn decls, key = gluedKey mark file name)
    (hdisjoint : ∀ p ∈ entries, ∀ q ∈ entries, p.1.name ≠ q.1.name →
      List.Disjoint (symbolPairs maxSymbols p.1 p.2) (symbolPairs maxSymbols q.1 q.2)) :
    Unambiguous mark drawn entries := by
  intro p hp q hq x hx y hy hkey
  by_contra hne
  apply hdisjoint p hp q hq hne
  · exact hmem.2 ⟨x, hx, rfl⟩
  · exact hmem.2 ⟨y, hy, hkey⟩

/-- Files that ask for one symbol of a kind with unambiguous keys have one name. -/
theorem Unambiguous.name_eq (h : Unambiguous mark drawn entries) {p q : SourceFile × Declarations} {key : Text}
    (hmem : ∀ {file decls key}, (kind, key) ∈ symbolPairs maxSymbols file decls ↔
      ∃ name ∈ drawn decls, key = gluedKey mark file name)
    (hp : p ∈ entries) (hq : q ∈ entries) (hpkey : (kind, key) ∈ symbolPairs maxSymbols p.1 p.2)
    (hqkey : (kind, key) ∈ symbolPairs maxSymbols q.1 q.2) : p.1.name = q.1.name := by
  obtain ⟨x, hx, rfl⟩ := hmem.1 hpkey
  obtain ⟨y, hy, hkey⟩ := hmem.1 hqkey
  exact h p hp q hq x hx y hy hkey

/-- Different files ask for different symbols exactly if their keys are unambiguous. -/
theorem nodup_flatMap_symbolPairs_iff (hnames : (entries.map (·.1.name)).Nodup) :
    (entries.flatMap fun p => symbolPairs maxSymbols p.1 p.2).Nodup ↔
      Unambiguous "_fn_" (drawnFunctions maxSymbols) entries ∧
        Unambiguous "_class_" (drawnClasses maxSymbols) entries := by
  have hpairwise : entries.Pairwise fun p q => p.1.name ≠ q.1.name := List.pairwise_map.mp hnames
  have hwithin : ∀ p ∈ entries, (symbolPairs maxSymbols p.1 p.2).Nodup := fun p _ => nodup_symbolPairs _ _ _
  rw [List.nodup_flatMap, and_iff_right hwithin]
  constructor
  · intro h
    have hdisjoint : ∀ p ∈ entries, ∀ q ∈ entries, p.1.name ≠ q.1.name →
        List.Disjoint (symbolPairs maxSymbols p.1 p.2) (symbolPairs maxSymbols q.1 q.2) := by
      have : Std.Symm (Function.onFun List.Disjoint fun p : SourceFile × Declarations =>
          symbolPairs maxSymbols p.1 p.2) := ⟨fun _ _ hpq _ hq hp => hpq hp hq⟩
      intro p hp q hq hne
      exact h.forall hp hq fun heq => hne (heq ▸ rfl)
    constructor
    · exact unambiguous_of_disjoint function_mem_symbolPairs_iff hdisjoint
    · exact unambiguous_of_disjoint class_mem_symbolPairs_iff hdisjoint
  · rintro ⟨hfunctions, hclasses⟩
    refine hpairwise.imp_of_mem fun {p q} hp hq hne pair hpair hpair' => hne ?_
    obtain ⟨kind, key⟩ := pair
    rcases kind_of_mem_symbolPairs hpair with rfl | rfl | rfl
    · exact hfunctions.name_eq function_mem_symbolPairs_iff hp hq hpair hpair'
    · exact hclasses.name_eq class_mem_symbolPairs_iff hp hq hpair hpair'
    · exact name_eq_of_fallback_mem hpair hpair'

/-- Of the symbols, only functions and only classes can be asked for twice. -/
theorem pairwise_flatMap_symbolPairs (hnames : (entries.map (·.1.name)).Nodup) :
    (entries.flatMap fun p => symbolPairs maxSymbols p.1 p.2).Pairwise fun p q =>
      p = q → p.1 = .function ∨ p.1 = .classType := by
  refine List.pairwise_flatMap.mpr ⟨fun p _ => ?_, ?_⟩
  · exact (nodup_symbolPairs ..).imp fun hne heq => absurd heq hne
  · refine (List.pairwise_map.mp hnames).imp fun hne pair hpair pair' hpair' heq => ?_
    subst heq
    obtain ⟨kind, key⟩ := pair
    rcases kind_of_mem_symbolPairs hpair with rfl | rfl | rfl
    · exact Or.inl rfl
    · exact Or.inr rfl
    · exact absurd (name_eq_of_fallback_mem hpair hpair') hne

end

/-! ## All nodes -/

/-- What holds between different things holds between all that is asked for, if it holds between all symbols: every
file and every package is asked for once, and the kinds keep them apart. -/
theorem pairwise_requestedPairs_iff {R : NodeKind × Text → NodeKind × Text → Prop} (hR : ∀ p q, p ≠ q → R p q)
    {packages : List Text} (hnames : (files.map (·.name)).Nodup) (hpackages : packages.Nodup) :
    (requestedPairs files found maxSymbols packages).Pairwise R ↔
      ((files.zip found).flatMap fun p => symbolPairs maxSymbols p.1 p.2).Pairwise R := by
  have hfiles : (filePairs files).Nodup := by
    refine List.Nodup.of_map Prod.snd ?_
    rwa [filePairs, List.map_map]
  have hexternal : (packages.map Assembly.packagePair).Nodup :=
    hpackages.map fun x y h => List.append_cancel_left (congrArg Prod.snd h)
  have hsymbol : ∀ pair ∈ (files.zip found).flatMap fun p => symbolPairs maxSymbols p.1 p.2,
      pair.1 = .function ∨ pair.1 = .classType ∨ pair.1 = .fallback := by
    intro pair hpair
    obtain ⟨p, -, hp⟩ := List.mem_flatMap.mp hpair
    exact kind_of_mem_symbolPairs hp
  rw [requestedPairs, List.pairwise_append, List.pairwise_append]
  refine ⟨fun h => h.1.2.1, fun h => ⟨⟨hfiles.imp (hR _ _), h, ?_⟩, hexternal.imp (hR _ _), ?_⟩⟩
  · intro p hp q hq
    refine hR p q fun heq => ?_
    obtain ⟨f, -, rfl⟩ := List.mem_map.mp hp
    rcases heq ▸ hsymbol q hq with h | h | h <;> cases h
  · intro p hp q hq
    refine hR p q fun heq => ?_
    obtain ⟨package, -, rfl⟩ := List.mem_map.mp hq
    rcases List.mem_append.mp hp with hp | hp
    · obtain ⟨f, -, rfl⟩ := List.mem_map.mp hp
      cases congrArg Prod.fst heq
    · rcases heq ▸ hsymbol p hp with h | h | h <;> cases h

theorem nodup_names_zip (hlen : files.length = found.length) (hnames : (files.map (·.name)).Nodup) :
    ((files.zip found).map (·.1.name)).Nodup := by
  have hfiles : (files.zip found).map Prod.fst = files := List.map_fst_zip (Nat.le_of_eq hlen)
  rwa [← hfiles, List.map_map] at hnames

theorem nodup_packages (d : Disk) (maxSymbols : Int) (extensions : List Text) (hlen : files.length = found.length)
    (hnames : (files.map (·.name)).Nodup) :
    ((assemble d files found maxSymbols extensions).graph.externals.map (·.1)).Nodup := by
  rw [assemble_eq d maxSymbols extensions hlen hnames]
  exact (named_imported d files found maxSymbols extensions).nodup

theorem nodup_ids_assemble_iff (d : Disk) (maxSymbols : Int) (extensions : List Text)
    (hlen : files.length = found.length) (hnames : (files.map (·.name)).Nodup) :
    ((assemble d files found maxSymbols extensions).graph.nodes.map Node.id).Nodup ↔
      Unambiguous "_fn_" (drawnFunctions maxSymbols) (files.zip found) ∧
        Unambiguous "_class_" (drawnClasses maxSymbols) (files.zip found) := by
  have hids := ids_nodes_assemble d maxSymbols extensions hlen hnames
  have hpackages := nodup_packages d maxSymbols extensions hlen hnames
  rw [hids, Allocator.nodup_run_iff Allocator.consistent_empty, List.Nodup,
    pairwise_requestedPairs_iff (fun _ _ h => h) hnames hpackages]
  exact nodup_flatMap_symbolPairs_iff (nodup_names_zip hlen hnames)

/-- Nodes that are named by a run share an identifier only if one pair was asked for both of them. -/
theorem pairwise_of_run {nodes : List Node} {pairs : List (NodeKind × Text)} {P : NodeKind → Prop}
    (hids : nodes.map Node.id = (({} : Allocator NodeKind).run pairs).1)
    (hkinds : nodes.map Node.kind = pairs.map (·.1)) (hpairs : pairs.Pairwise fun p q => p = q → P p.1) :
    nodes.Pairwise fun m n => m.id = n.id → m.kind = n.kind ∧ P m.kind := by
  -- a node has the kind of its pair, and the identifier that the allocator gives for it at the end
  have hnodes : nodes.map (fun n => (n.kind, some n.id)) =
      pairs.map fun p => (p.1, (({} : Allocator NodeKind).run pairs).2.get? p.1 p.2) := by
    have hsome := (List.map_map ..).symm.trans (congrArg (List.map some) hids)
    rw [Allocator.map_some_run] at hsome
    have hzip := congrArg₂ List.zip hkinds hsome
    rwa [List.zip_map', List.zip_map'] at hzip
  have hshared : (nodes.map fun n => (n.kind, some n.id)).Pairwise fun a b => a.2 = b.2 → a.1 = b.1 ∧ P a.1 := by
    rw [hnodes]
    refine List.pairwise_map.mpr (hpairs.imp_of_mem fun {p q} hp _ hpq hget => ?_)
    have heq : p = q := (Allocator.get?_run_eq_iff Allocator.consistent_empty hp).mp hget
    have hkind : p.1 = q.1 := by rw [heq]
    exact ⟨hkind, hpq heq⟩
  exact (List.pairwise_map.mp hshared).imp fun h hid => h (congrArg some hid)

/-- Two nodes of a graph that share an identifier are both functions or both classes. -/
theorem pairwise_nodes_assemble (d : Disk) (maxSymbols : Int) (extensions : List Text)
    (hlen : files.length = found.length) (hnames : (files.map (·.name)).Nodup) :
    (assemble d files found maxSymbols extensions).graph.nodes.Pairwise fun m n =>
      m.id = n.id → m.kind = n.kind ∧ (m.kind = .function ∨ m.kind = .classType) := by
  have hpackages := nodup_packages d maxSymbols extensions hlen hnames
  refine pairwise_of_run (P := fun kind => kind = .function ∨ kind = .classType)
    (ids_nodes_assemble d maxSymbols extensions hlen hnames)
    (kinds_nodes_assemble d maxSymbols extensions hlen hnames) ?_
  rw [pairwise_requestedPairs_iff (fun _ _ hne heq => absurd heq hne) hnames hpackages]
  exact pairwise_flatMap_symbolPairs (nodup_names_zip hlen hnames)

/-- **All nodes of a graph have identifiers of their own exactly if the keys of symbols are unambiguous**: of all
nodes, only functions and only classes of different files can share an identifier, and they do so when the name of
the file, the mark and the name of the symbol make the same text. -/
theorem nodup_ids_iff_unambiguous (d : Disk) (files : List SourceFile) (found : List Declarations) (maxSymbols : Int)
    (extensions : List Text) (hlen : files.length = found.length) (hnames : (files.map (·.name)).Nodup) :
    ∃ built, build d files found maxSymbols extensions = .ok built ∧
      ((built.graph.nodes.map Node.id).Nodup ↔
        Unambiguous "_fn_" (drawnFunctions maxSymbols) (files.zip found) ∧
          Unambiguous "_class_" (drawnClasses maxSymbols) (files.zip found)) ∧
      built.graph.nodes.Pairwise fun m n =>
        m.id = n.id → m.kind = n.kind ∧ (m.kind = .function ∨ m.kind = .classType) := by
  have hbuild : build d files found maxSymbols extensions = .ok (assemble d files found maxSymbols extensions) := by
    simp [build, hlen]
  exact ⟨_, hbuild, nodup_ids_assemble_iff d maxSymbols extensions hlen hnames,
    pairwise_nodes_assemble d maxSymbols extensions hlen hnames⟩

/-- Two files of which one is named like the keys of the stand-in of the other. -/
def standInFiles : List SourceFile :=
  [⟨"/p/Makefile", "Makefile", "all:", 1⟩, ⟨"/p/Makefile_file", "Makefile_file", "x", 1⟩]

/-- In `standInFiles` nothing is ambiguous. -/
theorem nodup_ids_iff_unambiguous_standIn :
    standInFiles.length = [({} : Declarations), {}].length ∧ (standInFiles.map (·.name)).Nodup ∧
      ∃ built, build ⟨.emptyFolder, "/"⟩ standInFiles [{}, {}] maxSymbolsPerKind sourceExtensions = .ok built ∧
        ((built.graph.nodes.map Node.id).Nodup ↔
          Unambiguous "_fn_" (drawnFunctions maxSymbolsPerKind) (standInFiles.zip [{}, {}]) ∧
            Unambiguous "_class_" (drawnClasses maxSymbolsPerKind) (standInFiles.zip [{}, {}])) ∧
        built.graph.nodes.Pairwise fun m n =>
          m.id = n.id → m.kind = n.kind ∧ (m.kind = .function ∨ m.kind = .classType) :=
  ⟨rfl, by decide, nodup_ids_iff_unambiguous _ _ _ _ _ rfl (by decide)⟩

/-- Two files of which one is named like the other with a mark and the beginning of its function behind it. -/
def gluedFiles : List SourceFile :=
  [⟨"/p/a", "a", "function b_fn_c() \x7b\x7d", 1⟩, ⟨"/p/a_fn_b", "a_fn_b", "function c() \x7b\x7d", 1⟩]

/-- What `gluedFiles` declare. -/
def gluedDeclarations : List Declarations := [{ functions := ["b_fn_c"] }, { functions := ["c"] }]

/-- **Two functions of different files can share an identifier**, although the names and paths of the files are
distinct and the names of the functions are what is found in the files. -/
theorem not_nodup_ids_glued :
    (gluedFiles.map (·.name)).Nodup ∧ (gluedFiles.map fun f => Path.absolute "/" f.path).Nodup ∧
      gluedFiles.map (fun f => Source.extract f.content) = gluedDeclarations ∧
      (∀ decls ∈ gluedDeclarations, ∀ name ∈ decls.functions ++ decls.classes,
        name ≠ [] ∧ name.all Source.isNameChar = true) ∧
      ∃ built, build ⟨.emptyFolder, "/"⟩ gluedFiles gluedDeclarations maxSymbolsPerKind sourceExtensions = .ok built ∧
        ¬(built.graph.nodes.map Node.id).Nodup := by
  have hfirst : Source.extract "function b_fn_c() \x7b\x7d" = { functions := ["b_fn_c"] } :=
    Source.extract_of_callableName? _ ⟨"b_fn_c", ") \x7b\x7d"⟩ (by decide) (by decide) (by decide) (by decide)
  have hsecond : Source.extract "function c() \x7b\x7d" = { functions := ["c"] } :=
    Source.extract_of_callableName? _ ⟨"c", ") \x7b\x7d"⟩ (by decide) (by decide) (by decide) (by decide)
  refine ⟨by decide, by decide, ?_, by decide, _, rfl, by decide⟩
  rw [gluedFiles, gluedDeclarations, List.map_cons, List.map_cons, List.map_nil, hfirst, hsecond]

end ImportChart.Graph
