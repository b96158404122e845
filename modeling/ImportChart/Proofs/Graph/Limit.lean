import ImportChart.Proofs.Graph.Symbols
import Mathlib.Data.Finset.Card

/-!
# How many symbols of a file are drawn

Of each kind as many symbols are drawn as there are distinct names, up to the limit. A limit of zero or less is no
limit: the search for distinct names compares their number with it after it has taken one.

- `length_distinctNames`: how many names the search finds;
- `IsCounted`: how many nodes of each kind a file has (`isCounted_requests`), and `build_isCounted` for whole graphs;
- `IsCapped`: there are as many as the limit allows; `IsCounted.isCapped_iff` says when this is so, and
  `not_isCapped_zero` that a limit of zero is not kept.
-/

namespace ImportChart.Graph

open Scan (SourceFile)
open Source (Declarations)

variable {limit : Int} {decls : Declarations} {nodes : List Node}

/-! ## Numbers of names -/

theorem length_eraseDups (names : List Text) : names.eraseDups.length = names.toFinset.card := by
  have hnodup : names.eraseDups.Nodup := by
    have hall : distinctNames 0 [] names = names.eraseDups := distinctNames_nil 0 names
    exact hall ▸ nodup_distinctNames 0 List.nodup_nil
  have hsame : names.eraseDups.toFinset = names.toFinset := by
    ext name
    simp
  rw [← hsame, List.toFinset_card_of_nodup hnodup]

/-- How many of the distinct names are drawn. -/
def drawnCount (limit : Int) (names : List Text) : Nat :=
  if 0 < limit then min limit.toNat names.toFinset.card else names.toFinset.card

/-- **The search finds as many names as are drawn.** -/
theorem length_distinctNames (limit : Int) (names : List Text) :
    (distinctNames limit [] names).length = drawnCount limit names := by
  rw [distinctNames_nil, drawnCount]
  split
  · rw [List.length_take, length_eraseDups]
  · exact length_eraseDups names

/-- The limit is kept if it is one or more, and otherwise only if there is nothing to be drawn. -/
theorem drawnCount_eq_min_iff (limit : Int) (names : List Text) :
    drawnCount limit names = min limit.toNat names.toFinset.card ↔ 0 < limit ∨ names = [] := by
  rw [drawnCount]
  split
  · next hlimit => simp [hlimit]
  · next hlimit =>
    have hzero : limit.toNat = 0 := Int.toNat_of_nonpos (Int.not_lt.mp hlimit)
    rw [hzero, Nat.zero_min, Finset.card_eq_zero, List.toFinset_eq_empty_iff, or_iff_right hlimit]

/-! ## Numbers of nodes -/

/-- How many nodes there are of a kind. -/
def countKind (kind : NodeKind) (nodes : List Node) : Nat := nodes.countP fun n => n.kind = kind

/-- A file has as many function and class nodes as names are drawn. -/
structure IsCounted (limit : Int) (decls : Declarations) (nodes : List Node) : Prop where
  functions : countKind .function nodes = drawnCount limit decls.functions
  classes : countKind .classType nodes = drawnCount limit decls.classes

/-- A file has as many function and class nodes as the limit allows, or one for each of its names if there are fewer. -/
structure IsCapped (limit : Int) (decls : Declarations) (nodes : List Node) : Prop where
  functions : countKind .function nodes = min limit.toNat decls.functions.toFinset.card
  classes : countKind .classType nodes = min limit.toNat decls.classes.toFinset.card

/-- **The nodes for the requests of a file are as many as names are drawn.** -/
theorem isCounted_requests (limit : Int) (file : SourceFile) (decls : Declarations) (ident : NodeKind × Text → Text)
    (parent : Option Text) :
    IsCounted limit decls ((symbolRequests limit file decls).map (requestNode ident parent)) := by
  have hfunctions : (drawnFunctions limit decls).length = drawnCount limit decls.functions := length_distinctNames ..
  have hclasses : (drawnClasses limit decls).length = drawnCount limit decls.classes := length_distinctNames ..
  rw [symbolRequests_eq]
  split
  · next hnone =>
    rw [hnone.1] at hfunctions
    rw [hnone.2] at hclasses
    exact ⟨hfunctions, hclasses⟩
  · constructor
    · rw [← hfunctions]
      simp [countKind, requestNode, functionRequest, classRequest, List.countP_map, Function.comp_def]
    · rw [← hclasses]
      simp [countKind, requestNode, functionRequest, classRequest, List.countP_map, Function.comp_def]

/-- **The limit is kept if it is one or more**, and otherwise only for a file that declares nothing. -/
theorem IsCounted.isCapped_iff (h : IsCounted limit decls nodes) :
    IsCapped limit decls nodes ↔ 0 < limit ∨ decls.functions = [] ∧ decls.classes = [] := by
  rw [or_and_left, ← drawnCount_eq_min_iff, ← drawnCount_eq_min_iff, ← h.functions, ← h.classes]
  exact ⟨fun hcapped => ⟨hcapped.functions, hcapped.classes⟩, fun hboth => ⟨hboth.1, hboth.2⟩⟩

/-! ## The whole graph -/

/-- **How many symbols every file has**: there is a node for each file, under whose identifier stand as many functions
and classes as names are drawn. These are as many as the limit allows exactly if the limit is one or more or the file
declares nothing. -/
theorem build_isCounted (d : Disk) (files : List SourceFile) (found : List Declarations) (maxSymbols : Int)
    (extensions : List Text) (hlen : files.length = found.length) (hnames : (files.map (·.name)).Nodup) :
    ∃ built, build d files found maxSymbols extensions = .ok built ∧
      ∀ p ∈ files.zip found, ∃ node ∈ built.graph.files, node.label = p.1.name ∧
        ∃ nodes, built.graph.symbols.lookup node.id = some nodes ∧ IsCounted maxSymbols p.2 nodes ∧
          (IsCapped maxSymbols p.2 nodes ↔ 0 < maxSymbols ∨ p.2.functions = [] ∧ p.2.classes = []) := by
  refine ⟨assemble d files found maxSymbols extensions, by simp [build, hlen], ?_⟩
  intro p hp
  obtain ⟨node, hnode, hlabel, hlookup⟩ := exists_lookup_fileSymbols hlen hnames maxSymbols hp
  have hcounted :=
    isCounted_requests maxSymbols p.1 p.2 (identOf (symbolAllocator files found maxSymbols)) (some node.id)
  rw [assemble_eq d maxSymbols extensions hlen hnames]
  exact ⟨node, hnode, hlabel, _, hlookup, hcounted, hcounted.isCapped_iff⟩

/-- With a limit of two, the first of `pairFiles` has two of its three functions and its only class. -/
theorem build_isCounted_repeated :
    pairFiles.length = repeatedDeclarations.length ∧ (pairFiles.map (·.name)).Nodup ∧
      ∃ built, build pairDisk pairFiles repeatedDeclarations 2 sourceExtensions = .ok built ∧
        ∀ p ∈ pairFiles.zip repeatedDeclarations, ∃ node ∈ built.graph.files, node.label = p.1.name ∧
          ∃ nodes, built.graph.symbols.lookup node.id = some nodes ∧ IsCounted 2 p.2 nodes ∧
            (IsCapped 2 p.2 nodes ↔ (0 : Int) < 2 ∨ p.2.functions = [] ∧ p.2.classes = []) :=
  ⟨rfl, by decide, build_isCounted _ _ _ _ _ rfl (by decide)⟩

/-- A file with one function. -/
def loneFile : SourceFile := ⟨"/p/a", "a", "function f() \x7b\x7d", 1⟩

/-- **A limit of zero is not kept**: the only function of `loneFile` is drawn. -/
theorem not_isCapped_zero :
    ∃ built, build ⟨.emptyFolder, "/"⟩ [loneFile] [{ functions := ["f"] }] 0 sourceExtensions = .ok built ∧
      ∃ node ∈ built.graph.files, node.label = loneFile.name ∧
        ∃ nodes, built.graph.symbols.lookup node.id = some nodes ∧ ¬IsCapped 0 { functions := ["f"] } nodes := by
  refine ⟨_, rfl, ⟨"a", "a", .file, none⟩, by decide, rfl, [⟨"a_fn_f", "fn: f", .function, some "a"⟩], by decide, ?_⟩
  intro hcapped
  have hnone : countKind .function [⟨"a_fn_f", "fn: f", .function, some "a"⟩] = 0 := hcapped.functions
  exact absurd hnone (by decide)

end ImportChart.Graph
