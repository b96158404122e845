import ImportChart.Proofs.Graph.WellFormed
import ImportChart.Proofs.Ident.Clashes
import Mathlib.Data.List.Forall2

/-!
# Imports do not disturb files and symbols

The identifiers of files and symbols are given before the first import is looked at. Two projects that differ in
nothing but their imports, on whatever disks, so have the same nodes for them.

- `SameSymbols`: declarations that differ in nothing but imports;
- `symbols_congr`: then the symbols, and the allocator behind them, are the same;
- `RecordsFirst`: the clashes of files and symbols come first (`recordsFirst_toGraph`);
- `build_undisturbed`: the statement for two projects.
-/

namespace ImportChart.Graph

open Ident (Allocator Collision)
open Scan (SourceFile)
open Source (Declarations)

variable {d : Disk} {files : List SourceFile} {found found' : List Declarations} {maxSymbols : Int}
  {extensions : List Text}

/-! ## Declarations that differ in imports -/

/-- Declarations of the same functions and classes. -/
def SameSymbols (x y : Declarations) : Prop := x.functions = y.functions ∧ x.classes = y.classes

/-- Entries of the same file with the same functions and classes. -/
structure SameEntry (e e' : FileEntry) : Prop where
  file : e.file = e'.file
  node : e.node = e'.node
  found : SameSymbols e.found e'.found

theorem sameEntry_fileEntries (h : List.Forall₂ SameSymbols found found') (files : List SourceFile)
    (nodes : List Node) : List.Forall₂ SameEntry (fileEntries files nodes found) (fileEntries files nodes found') := by
  induction h generalizing files nodes with
  | nil => simp [fileEntries]
  | cons hfirst _ ih =>
    cases files with
    | nil => simp [fileEntries]
    | cons file files =>
      cases nodes with
      | nil => simp [fileEntries]
      | cons node nodes => exact .cons ⟨rfl, rfl, hfirst⟩ (ih files nodes)

theorem symbolRequests_congr (maxSymbols : Int) (file : SourceFile) {x y : Declarations} (h : SameSymbols x y) :
    symbolRequests maxSymbols file x = symbolRequests maxSymbols file y := by
  obtain ⟨hfunctions, hclasses⟩ := h
  rw [symbolRequests, symbolRequests, hfunctions, hclasses]

/-- The symbols are asked for without a look at the imports. -/
theorem allocateSymbols_congr {es es' : List FileEntry} (h : List.Forall₂ SameEntry es es') (maxSymbols : Int)
    (ids : Allocator NodeKind) : allocateSymbols maxSymbols ids es = allocateSymbols maxSymbols ids es' := by
  induction h generalizing ids with
  | nil => rfl
  | cons hfirst _ ih =>
    obtain ⟨hfile, hnode, hfound⟩ := hfirst
    simp only [allocateSymbols, hfile, hnode, symbolRequests_congr maxSymbols _ hfound, ih]

/-- **The symbols, and the allocator behind them, do not depend on imports.** -/
theorem symbols_congr (hlen : files.length = found.length) (h : List.Forall₂ SameSymbols found found')
    (maxSymbols : Int) : fileSymbols files found maxSymbols = fileSymbols files found' maxSymbols ∧
      symbolAllocator files found maxSymbols = symbolAllocator files found' maxSymbols := by
  have hlen' : files.length = found'.length := hlen.trans h.length_eq
  have hsame := allocateSymbols_congr (sameEntry_fileEntries h files (fileNodes files)) maxSymbols
    (({} : Allocator NodeKind).run (filePairs files)).2
  exact Prod.mk.inj ((allocate_symbols hlen maxSymbols).symm.trans (hsame.trans (allocate_symbols hlen' maxSymbols)))

/-! ## What the imports leave -/

/-- The clashes of a graph begin with the given ones, and those behind them are clashes of packages. -/
def RecordsFirst (g : Graph) (clashes : List Collision) : Prop :=
  ∃ rest, g.collisions = clashes ++ rest ∧ ∀ c ∈ rest, ∃ p ∈ g.externals, c.label = ("ext_" : Text) ++ p.1

/-- What the imports add is recorded behind what was recorded before them. -/
theorem recordsFirst_toGraph {ids : Allocator NodeKind} {a : Assembly} (h : a.Named ids) (nodes : List Node)
    (symbols : List (Text × List Node)) : (a.toGraph nodes symbols).RecordsFirst ids.collisions := by
  obtain ⟨rest, hrest, hlabels⟩ :=
    Allocator.exists_collisions_run ids (a.externals.map fun p => Assembly.packagePair p.1)
  refine ⟨rest, ?_, ?_⟩
  · rw [← hrest, ← h.ids_eq]
    rfl
  · intro c hc
    obtain ⟨step, hstep, hlabel⟩ := hlabels c hc
    obtain ⟨p, hp, rfl⟩ := List.mem_map.mp hstep
    exact ⟨p, hp, hlabel⟩

/-- **Imports do not disturb files and symbols**: whatever two projects of the same files import, and whatever is on
the disk, they have the same nodes for files and the same symbols of each file, and the clashes that are recorded for
these are a common beginning of all that is recorded. -/
theorem build_undisturbed (d d' : Disk) (files : List SourceFile) (found found' : List Declarations) (maxSymbols : Int)
    (extensions extensions' : List Text) (hlen : files.length = found.length)
    (hsame : List.Forall₂ SameSymbols found found') :
    ∃ built built', build d files found maxSymbols extensions = .ok built ∧
      build d' files found' maxSymbols extensions' = .ok built' ∧
      built.graph.files = built'.graph.files ∧ built.graph.symbols = built'.graph.symbols ∧
      built.graph.RecordsFirst (symbolAllocator files found maxSymbols).collisions ∧
      built'.graph.RecordsFirst (symbolAllocator files found maxSymbols).collisions := by
  have hlen' : files.length = found'.length := hlen.trans hsame.length_eq
  obtain ⟨hsymbols, hids⟩ := symbols_congr hlen hsame maxSymbols
  refine ⟨assemble d files found maxSymbols extensions, assemble d' files found' maxSymbols extensions',
    by simp [build, hlen], by simp [build, hlen'], ?_⟩
  rw [assemble_eq_toGraph d maxSymbols extensions hlen, assemble_eq_toGraph d' maxSymbols extensions' hlen', hsymbols]
  refine ⟨rfl, rfl, recordsFirst_toGraph (named_imported ..) _ _, ?_⟩
  rw [hids]
  exact recordsFirst_toGraph (named_imported ..) _ _

/-- Three files. The first two prefer one identifier, and the third one is named like the key of a package. -/
def clashingFiles : List SourceFile :=
  [⟨"/p/a.ts", "a.ts", "", 0⟩, ⟨"/p/a_ts", "a_ts", "", 0⟩, ⟨"/p/ext_react", "ext_react", "", 0⟩]

/-- The first of `clashingFiles` imports that package. -/
def clashingDeclarations : List Declarations := [{ imports := ["react"], functions := ["f"] }, {}, {}]

/-- The first of `clashingFiles` imports another file, and the second one itself. -/
def innerDeclarations : List Declarations :=
  [{ imports := ["./a_ts", "./b"], functions := ["f"] }, { imports := ["./a_ts"] }, {}]

/-- On an empty disk and on one with some of the files, the nodes for `clashingFiles` are the same. -/
theorem build_undisturbed_clash :
    clashingFiles.length = clashingDeclarations.length ∧
      List.Forall₂ SameSymbols clashingDeclarations innerDeclarations ∧
      ∃ built built', build ⟨.emptyFolder, "/"⟩ clashingFiles clashingDeclarations maxSymbolsPerKind [] = .ok built ∧
        build pairDisk clashingFiles innerDeclarations maxSymbolsPerKind sourceExtensions = .ok built' ∧
        built.graph.files = built'.graph.files ∧ built.graph.symbols = built'.graph.symbols ∧
        built.graph.RecordsFirst (symbolAllocator clashingFiles clashingDeclarations maxSymbolsPerKind).collisions ∧
        built'.graph.RecordsFirst (symbolAllocator clashingFiles clashingDeclarations maxSymbolsPerKind).collisions := by
  have hsame : List.Forall₂ SameSymbols clashingDeclarations innerDeclarations :=
    .cons ⟨rfl, rfl⟩ (.cons ⟨rfl, rfl⟩ (.cons ⟨rfl, rfl⟩ .nil))
  exact ⟨rfl, hsame, build_undisturbed _ _ _ _ _ _ _ _ rfl hsame⟩

/-- The package clashes behind the files, which keep their identifiers. -/
example : (assemble pairDisk clashingFiles clashingDeclarations 8 []).graph.collisions =
    [⟨"a_ts", "a.ts", "a_ts", "a_ts_2"⟩, ⟨"ext_react", "ext_react", "ext_react", "ext_react_2"⟩] := by
  decide

end ImportChart.Graph
