import ImportChart.Proofs.Graph.Distinct
import ImportChart.Proofs.Graph.Drawn

/-!
# The symbols of a file

Under the identifier of a file stand its functions, then its classes, or one node that stands in for them.

- `distinctNames_nil`: the search for distinct names finds the beginning of what `List.eraseDups` leaves, and all of it
  if the limit is zero or less;
- `IsChoice`: the names that are drawn (`isChoice_distinctNames`);
- `exists_lookup_fileSymbols`: the nodes of a file are those for its requests;
- `ShowsSymbols`: how these nodes look (`showsSymbols_requests`), and `build_showsSymbols` for whole graphs.
-/

namespace ImportChart.Graph

open Ident (Allocator)
open Scan (SourceFile)
open Source (Declarations)

variable {d : Disk} {files : List SourceFile} {found : List Declarations} {maxSymbols limit : Int}
  {extensions : List Text} {file : SourceFile} {decls : Declarations} {seen names : List Text} {name : Text}

/-! ## Distinct names -/

/-- The distinct names that have not been seen, in the order of their first appearance. -/
def unseen (seen names : List Text) : List Text := (names.filter fun name => !seen.contains name).eraseDups

theorem unseen_nil (names : List Text) : unseen [] names = names.eraseDups := by
  simp [unseen]

theorem unseen_cons_of_mem (h : name ∈ seen) : unseen seen (name :: names) = unseen seen names := by
  simp [unseen, h]

theorem unseen_cons_of_notMem (h : name ∉ seen) :
    unseen seen (name :: names) = name :: unseen (seen ++ [name]) names := by
  have hname : (!seen.contains name) = true := by simp [h]
  unfold unseen
  rw [List.filter_cons, if_pos hname, List.eraseDups_cons, List.filter_filter]
  congr 3
  funext other
  by_cases hother : other = name
  · simp [hother]
  · simp [hother]

/-- A limit of zero or less is never reached. -/
theorem distinctNames_of_nonpos (h : limit ≤ 0) (seen names : List Text) :
    distinctNames limit seen names = seen ++ unseen seen names := by
  induction names generalizing seen with
  | nil => simp [distinctNames, unseen]
  | cons name names ih =>
    rw [distinctNames]
    by_cases hseen : name ∈ seen
    · rw [if_pos (by simpa using hseen), ih, unseen_cons_of_mem hseen]
    · have hlimit : ¬((seen.length + 1 : Nat) : Int) = limit := by omega
      rw [if_neg (by simpa using hseen), if_neg hlimit, ih, unseen_cons_of_notMem hseen, List.append_assoc,
        List.singleton_append]

/-- A limit that is not reached yet leaves room for as many names as are missing to it. -/
theorem distinctNames_of_lt {limit : Nat} {seen : List Text} (h : seen.length < limit) (names : List Text) :
    distinctNames limit seen names = seen ++ (unseen seen names).take (limit - seen.length) := by
  induction names generalizing seen with
  | nil => simp [distinctNames, unseen]
  | cons name names ih =>
    rw [distinctNames]
    by_cases hseen : name ∈ seen
    · rw [if_pos (by simpa using hseen), ih h, unseen_cons_of_mem hseen]
    · have hroom : limit - seen.length = limit - (seen ++ [name]).length + 1 := by
        rw [List.length_append, List.length_singleton]
        omega
      rw [if_neg (by simpa using hseen), unseen_cons_of_notMem hseen, hroom, List.take_succ_cons]
      by_cases hlast : ((seen.length + 1 : Nat) : Int) = limit
      · -- the name is the last one that there is room for
        have hnone : limit - (seen ++ [name]).length = 0 := by
          rw [List.length_append, List.length_singleton]
          omega
        rw [if_pos hlast, hnone, List.take_zero]
      · have hlt : (seen ++ [name]).length < limit := by
          rw [List.length_append, List.length_singleton]
          omega
        rw [if_neg hlast, ih hlt, List.append_assoc, List.singleton_append]

/-- **The search for distinct names** gives as many as the limit allows, and all of them if it is zero or less. -/
theorem distinctNames_nil (limit : Int) (names : List Text) : distinctNames limit [] names =
    if 0 < limit then names.eraseDups.take limit.toNat else names.eraseDups := by
  split
  · next hlimit =>
    obtain ⟨n, rfl⟩ := Int.eq_ofNat_of_zero_le (Int.le_of_lt hlimit)
    rw [distinctNames_of_lt (by simpa using hlimit), unseen_nil]
    rfl
  · next hlimit => rw [distinctNames_of_nonpos (Int.not_lt.mp hlimit), unseen_nil, List.nil_append]

/-- The names that are drawn of those that were found: the beginning of the distinct ones in the order of their first
appearance, and not nothing if any were found. -/
structure IsChoice (found chosen : List Text) : Prop where
  nodup : chosen.Nodup
  beginning : chosen <+: found.eraseDups
  ne_nil : found ≠ [] → chosen ≠ []

/-- The distinct names are a choice, whatever the limit. -/
theorem isChoice_distinctNames (limit : Int) (names : List Text) : IsChoice names (distinctNames limit [] names) := by
  have hne : names ≠ [] → names.eraseDups ≠ [] := by
    intro h
    obtain ⟨name, rest, rfl⟩ := List.exists_cons_of_ne_nil h
    simp [List.eraseDups_cons]
  refine ⟨nodup_distinctNames limit List.nodup_nil, ?_, ?_⟩
  · rw [distinctNames_nil]
    split
    · exact List.take_prefix _ _
    · exact List.prefix_refl _
  · intro hnames
    rw [distinctNames_nil]
    split
    · next hlimit =>
      rw [ne_eq, List.take_eq_nil_iff, not_or]
      exact ⟨by omega, hne hnames⟩
    · exact hne hnames

theorem IsChoice.eq_nil_iff {chosen : List Text} (h : IsChoice names chosen) : chosen = [] ↔ names = [] := by
  constructor
  · intro hchosen
    by_contra hnames
    exact h.ne_nil hnames hchosen
  · rintro rfl
    exact List.prefix_nil.mp h.beginning

/-! ## The nodes of a file -/

/-- The entry of a file has the node that is labelled with its name. -/
theorem label_of_mem_entries (hlen : files.length = found.length) :
    ∀ e ∈ entries files found, e.node.label = e.file.name := by
  have hnodes : (entries files found).map (·.node) = fileNodes files :=
    (map_fileEntries (length_fileNodes files) hlen).1
  have hlabels : (entries files found).map (·.node.label) = (entries files found).map (·.file.name) := by
    calc (entries files found).map (·.node.label)
      _ = ((entries files found).map (·.node)).map Node.label := (List.map_map ..).symm
      _ = ((entries files found).map (·.file)).map (·.name) := by rw [hnodes, labels_fileNodes, files_entries hlen]
      _ = (entries files found).map (·.file.name) := List.map_map ..
  exact List.map_inj_left.mp hlabels

/-- The symbols of each file are the nodes for its requests, under the identifier of the file. -/
theorem fileSymbols_eq (hlen : files.length = found.length) (maxSymbols : Int) :
    fileSymbols files found maxSymbols = (entries files found).map fun e => (e.node.id,
      (symbolRequests maxSymbols e.file e.found).map
        (requestNode (identOf (symbolAllocator files found maxSymbols)) (some e.node.id))) := by
  refine allocateSymbols_eq maxSymbols _ _ ?_
  rw [allocate_symbols hlen]

/-- **Under the identifier of a file stand the nodes for its requests.** -/
theorem exists_lookup_fileSymbols (hlen : files.length = found.length) (hnames : (files.map (·.name)).Nodup)
    (maxSymbols : Int) {p : SourceFile × Declarations} (hp : p ∈ files.zip found) :
    ∃ node ∈ fileNodes files, node.label = p.1.name ∧
      (fileSymbols files found maxSymbols).lookup node.id = some ((symbolRequests maxSymbols p.1 p.2).map
        (requestNode (identOf (symbolAllocator files found maxSymbols)) (some node.id))) := by
  obtain ⟨hnodes, hzip⟩ := map_fileEntries (length_fileNodes files) hlen
  rw [← hzip] at hp
  obtain ⟨e, he, rfl⟩ := List.mem_map.mp hp
  have hnode : e.node ∈ fileNodes files := by
    rw [← hnodes]
    exact List.mem_map_of_mem he
  have hkeys : ((fileSymbols files found maxSymbols).map (·.1)).Nodup := by
    rw [keys_fileSymbols hlen]
    exact nodup_ids_fileNodes hnames
  refine ⟨e.node, hnode, label_of_mem_entries hlen e he, ?_⟩
  rw [lookup_eq_some_iff_mem hkeys, fileSymbols_eq hlen]
  exact List.mem_map_of_mem he

/-- How the symbols of a file look: functions and then classes, of which names are drawn as chosen, or one node that
stands in if the file declares none. -/
structure ShowsSymbols (decls : Declarations) (parent : Text) (nodes : List Node) : Prop where
  ne_nil : nodes ≠ []
  fallback_iff : nodes.map Node.kind = [.fallback] ↔ decls.functions = [] ∧ decls.classes = []
  symbols : ¬(decls.functions = [] ∧ decls.classes = []) → ∃ functions classes,
    IsChoice decls.functions functions ∧ IsChoice decls.classes classes ∧
      nodes.map (fun n => (n.kind, n.label, n.parent)) =
        functions.map (fun name => (.function, ("fn: " : Text) ++ name, some parent)) ++
          classes.map fun name => (.classType, ("class: " : Text) ++ name, some parent)

/-- **The nodes for the requests of a file show its symbols.** -/
theorem showsSymbols_requests (maxSymbols : Int) (file : SourceFile) (decls : Declarations)
    (ident : NodeKind × Text → Text) (parent : Text) :
    ShowsSymbols decls parent ((symbolRequests maxSymbols file decls).map (requestNode ident (some parent))) := by
  have hfunctions := isChoice_distinctNames maxSymbols decls.functions
  have hclasses := isChoice_distinctNames maxSymbols decls.classes
  rw [symbolRequests_eq]
  by_cases hnone : drawnFunctions maxSymbols decls = [] ∧ drawnClasses maxSymbols decls = []
  · have hempty : decls.functions = [] ∧ decls.classes = [] := hnone.imp hfunctions.eq_nil_iff.mp hclasses.eq_nil_iff.mp
    rw [if_pos hnone]
    exact ⟨by simp, iff_of_true rfl hempty, fun h => absurd hempty h⟩
  · have hsome : ¬(decls.functions = [] ∧ decls.classes = []) := by
      intro h
      exact hnone (h.imp hfunctions.eq_nil_iff.mpr hclasses.eq_nil_iff.mpr)
    rw [if_neg hnone]
    refine ⟨by simpa using hnone, iff_of_false ?_ hsome, fun _ => ⟨_, _, hfunctions, hclasses, ?_⟩⟩
    · intro hkinds
      have hmem : NodeKind.fallback ∈ (((drawnFunctions maxSymbols decls).map (functionRequest file) ++
          (drawnClasses maxSymbols decls).map (classRequest file)).map
            (requestNode ident (some parent))).map Node.kind := by
        rw [hkinds]
        exact List.mem_singleton_self _
      simp [requestNode, functionRequest, classRequest] at hmem
    · simp only [List.map_append, List.map_map]
      rfl

/-! ## The whole graph -/

/-- **Every file of a graph has its symbols**: there is a node for each file, under whose identifier stand the nodes
that show what the file declares. -/
theorem build_showsSymbols (d : Disk) (files : List SourceFile) (found : List Declarations) (maxSymbols : Int)
    (extensions : List Text) (hlen : files.length = found.length) (hnames : (files.map (·.name)).Nodup) :
    ∃ built, build d files found maxSymbols extensions = .ok built ∧
      ∀ p ∈ files.zip found, ∃ node ∈ built.graph.files, node.label = p.1.name ∧
        ∃ nodes, built.graph.symbols.lookup node.id = some nodes ∧ ShowsSymbols p.2 node.id nodes := by
  refine ⟨assemble d files found maxSymbols extensions, by simp [build, hlen], ?_⟩
  intro p hp
  obtain ⟨node, hnode, hlabel, hlookup⟩ := exists_lookup_fileSymbols hlen hnames maxSymbols hp
  rw [assemble_eq d maxSymbols extensions hlen hnames]
  exact ⟨node, hnode, hlabel, _, hlookup, showsSymbols_requests ..⟩

/-- What two files declare: names that repeat, and nothing. -/
def repeatedDeclarations : List Declarations := [{ functions := ["g", "f", "g", "h"], classes := ["g"] }, {}]

/-- With a limit of two, the first of `pairFiles` shows two of its functions and the class that has the name of one of
them, and the second one has a node that stands in. -/
theorem build_showsSymbols_repeated :
    pairFiles.length = repeatedDeclarations.length ∧ (pairFiles.map (·.name)).Nodup ∧
      ∃ built, build pairDisk pairFiles repeatedDeclarations 2 sourceExtensions = .ok built ∧
        ∀ p ∈ pairFiles.zip repeatedDeclarations, ∃ node ∈ built.graph.files, node.label = p.1.name ∧
          ∃ nodes, built.graph.symbols.lookup node.id = some nodes ∧ ShowsSymbols p.2 node.id nodes :=
  ⟨rfl, by decide, build_showsSymbols _ _ _ _ _ rfl (by decide)⟩

end ImportChart.Graph
