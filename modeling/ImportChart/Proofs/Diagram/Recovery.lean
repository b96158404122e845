import ImportChart.Flow
import ImportChart.Proofs.Diagram.Fence
import ImportChart.Proofs.Graph.Labels
import ImportChart.Proofs.Source.Names
import ImportChart.Proofs.Text.Utf8

/-!
# What a project gives back of its diagram

The file that keeps the diagram of a project gives the diagram back exactly if two kinds of text are without the
marker that ends a fence: the names of files, and the imports of packages. Both are drawn as they are, and an import
may hold anything but quotation marks, line feeds included. Everything else that a diagram is made of has no line feed.

- `exists_label_iff`: the labels that are drawn are those of the nodes;
- `exists_marked_node_iff`: a marker in one of them stands in the name of a file or in the import of a package;
- `generateFlow_eq`, `exists_of_generateFlow`: what a run does, once the files are collected;
- `unwrap_document_iff`: when the diagram comes back.
-/

namespace ImportChart

namespace Diagram

open Fence (closing)

variable {g : Graph} {backbone : List Text} {limit : Int} {label : Text}

/-! ## The labels of statements -/

/-- **The labels that are drawn are those of the nodes**, if symbols are kept for the files. -/
theorem exists_label_iff {P : Text → Prop} (hkeys : g.symbols.map (·.1) = g.fileIds) (hids : g.fileIds.Nodup) :
    (∃ s ∈ statements g backbone limit, ∃ label, s.label? = some label ∧ P label) ↔ ∃ n ∈ g.nodes, P n.label := by
  constructor
  · rintro ⟨s, hs, label, hlabel, hP⟩
    obtain ⟨n, hn, rfl⟩ := exists_node_of_label hs hlabel
    exact ⟨n, hn, hP⟩
  · rintro ⟨n, hn, hP⟩
    rw [Graph.nodes, List.mem_append, List.mem_append] at hn
    rcases hn with (hn | hn) | hn
    · have hbox : Statement.openBox n.id n.label ∈ g.files.flatMap (box g.symbols) :=
        List.mem_flatMap.mpr ⟨n, hn, List.mem_cons_self⟩
      exact ⟨_, List.mem_append_left _ hbox, _, rfl, hP⟩
    · -- a symbol is drawn in the box of the file under which it is kept
      obtain ⟨p, hp, hn⟩ := List.mem_flatMap.mp hn
      have hkey : p.1 ∈ g.fileIds := hkeys ▸ List.mem_map_of_mem hp
      obtain ⟨file, hfile, hid⟩ := List.mem_map.mp hkey
      have hlookup : g.symbols.lookup file.id = some p.2 := by
        rw [lookup_eq_some_iff_mem (hkeys ▸ hids), hid]
        exact hp
      have hsymbol : Statement.symbol n.id n.label ∈ box g.symbols file := by
        rw [box, symbolsIn, hlookup]
        exact List.mem_cons_of_mem _ (List.mem_append_left _ (List.mem_map.mpr ⟨n, hn, rfl⟩))
      exact ⟨_, List.mem_append_left _ (List.mem_flatMap.mpr ⟨file, hfile, hsymbol⟩), _, rfl, hP⟩
    · obtain ⟨p, hp, rfl⟩ := List.mem_map.mp hn
      have hpackage : Statement.package p.2.id p.2.label ∈
          g.externals.map fun e => Statement.package e.2.id e.2.label := List.mem_map.mpr ⟨p, hp, rfl⟩
      exact ⟨_, List.mem_append_right _ (List.mem_append_left _ hpackage), _, rfl, hP⟩

end Diagram

open Fence (closing)
open Scan (SourceFile)
open Source (Declarations IsName)

namespace Graph

variable {d : Disk} {files : List SourceFile} {found : List Declarations} {maxSymbols : Int} {extensions : List Text}
  {file : SourceFile} {decls : Declarations} {label name : Text}

/-! ## Where markers come from -/

theorem mem_of_mem_distinctNames {limit : Int} : ∀ {seen names : List Text},
    name ∈ distinctNames limit seen names → name ∈ seen ∨ name ∈ names
  | _, [], h => Or.inl h
  | seen, first :: names, h => by
    have hsnoc : name ∈ seen ++ [first] → name ∈ seen ∨ name ∈ first :: names := by
      rw [List.mem_append, List.mem_singleton]
      rintro (hseen | rfl)
      · exact Or.inl hseen
      · exact Or.inr List.mem_cons_self
    rw [distinctNames] at h
    split at h
    · exact (mem_of_mem_distinctNames h).imp id (List.mem_cons_of_mem _)
    · split at h
      · exact hsnoc h
      · rcases mem_of_mem_distinctNames h with hseen | hname
        · exact hsnoc hseen
        · exact Or.inr (List.mem_cons_of_mem _ hname)

theorem newline_notMem_of_isName (h : IsName name) : '\n' ∉ name :=
  fun hmem => absurd (List.all_eq_true.mp h.2 _ hmem) (by decide)

theorem newline_notMem_ofInt (i : Int) : '\n' ∉ Text.ofInt i := by
  have hnat (n : Nat) : '\n' ∉ Text.ofNat n :=
    fun hmem => absurd (List.all_eq_true.mp (Ident.all_ofNat n) _ hmem) (by decide)
  cases i with
  | ofNat n => exact hnat n
  | negSucc n => simpa [Text.ofInt] using hnat (n + 1)

/-- **A marker in the label of a symbol stands in the name of its file**, whose last part is the label of a stand-in. -/
theorem closing_infix_symbolLabels (hnames : decls.HasNames) (hlabel : label ∈ symbolLabels maxSymbols file decls)
    (h : closing <:+: label) : closing <:+: file.name := by
  have hnamed {word : Text} (before : Text) (hbefore : '\n' ∉ before) (hword : IsName word) :
      ¬closing <:+: before ++ word :=
    Diagram.not_closing_of_notMem (by simp [hbefore, newline_notMem_of_isName hword])
  rw [symbolLabels, symbolRequests] at hlabel
  split at hlabel
  · -- the stand-in of a file shows the last part of its name, and a number of lines
    rw [List.map_singleton, List.mem_singleton] at hlabel
    have htext : label =
        Path.baseName file.name ++ ' ' :: (("(" : Text) ++ Text.ofInt file.lineCount ++ " lines)") := by
      rw [hlabel, fallbackRequest]
      simp
    have hend : ¬closing <:+: ("(" : Text) ++ Text.ofInt file.lineCount ++ " lines)" :=
      Diagram.not_closing_of_notMem (by simp [newline_notMem_ofInt])
    rw [htext, Text.infix_append_cons_iff (by decide) (by decide)] at h
    have hbase : closing <:+: Path.baseName file.name := h.resolve_right hend
    have hsuffix : Path.baseName file.name <:+ file.name := by
      rw [Path.baseName, ← List.reverse_prefix, List.reverse_reverse]
      exact List.takeWhile_prefix _
    exact hbase.trans hsuffix.isInfix
  · obtain ⟨r, hr, rfl⟩ := List.mem_map.mp hlabel
    rcases List.mem_append.mp hr with hr | hr
    · obtain ⟨name, hname, rfl⟩ := List.mem_map.mp hr
      have hmem := (mem_of_mem_distinctNames hname).resolve_left List.not_mem_nil
      exact absurd h (hnamed "fn: " (by decide) (hnames.functions name hmem))
    · obtain ⟨name, hname, rfl⟩ := List.mem_map.mp hr
      have hmem := (mem_of_mem_distinctNames hname).resolve_left List.not_mem_nil
      exact absurd h (hnamed "class: " (by decide) (hnames.classes name hmem))

/-- **A marker in a label stands in the name of a file or in the import of a package.** -/
theorem exists_marked_node_iff (d : Disk) (maxSymbols : Int) (extensions : List Text)
    (hlen : files.length = found.length) (hnames : (files.map (·.name)).Nodup)
    (hfound : ∀ x ∈ found, x.HasNames) :
    (∃ n ∈ (assemble d files found maxSymbols extensions).graph.nodes, closing <:+: n.label) ↔
      (∃ f ∈ files, closing <:+: f.name) ∨
        ∃ p ∈ files.zip found, ∃ target ∈ p.2.imports, target.head? ≠ some '.' ∧
          resolveImport d p.1.path target extensions = none ∧ closing <:+: target := by
  have hlabels := labels_nodes_assemble d maxSymbols extensions hlen hnames
  have hnodes : (∃ n ∈ (assemble d files found maxSymbols extensions).graph.nodes, closing <:+: n.label) ↔
      ∃ label ∈ (assemble d files found maxSymbols extensions).graph.nodes.map Node.label, closing <:+: label := by simp
  rw [hnodes, hlabels]
  constructor
  · rintro ⟨label, hlabel, hclosing⟩
    rw [List.mem_append, List.mem_append] at hlabel
    rcases hlabel with (hfile | hsymbol) | hpackage
    · obtain ⟨f, hf, rfl⟩ := List.mem_map.mp hfile
      exact Or.inl ⟨f, hf, hclosing⟩
    · obtain ⟨p, hp, hsymbol⟩ := List.mem_flatMap.mp hsymbol
      obtain ⟨hf, hx⟩ := List.of_mem_zip hp
      exact Or.inl ⟨p.1, hf, closing_infix_symbolLabels (hfound p.2 hx) hsymbol hclosing⟩
    · rw [mem_externals_iff d maxSymbols extensions hlen hnames] at hpackage
      obtain ⟨p, hp, himport, hdot, hresolve⟩ := hpackage
      exact Or.inr ⟨p, hp, label, himport, hdot, hresolve, hclosing⟩
  · rintro (⟨f, hf, hclosing⟩ | ⟨p, hp, target, himport, hdot, hresolve, hclosing⟩)
    · exact ⟨f.name, List.mem_append_left _ (List.mem_append_left _ (List.mem_map_of_mem hf)), hclosing⟩
    · refine ⟨target, List.mem_append_right _ ?_, hclosing⟩
      rw [mem_externals_iff d maxSymbols extensions hlen hnames]
      exact ⟨p, hp, himport, hdot, hresolve⟩

/-- **The words of the statements of a graph have no line feed.** -/
theorem newline_notMem_words (d : Disk) (maxSymbols : Int) (extensions : List Text) (limit : Int)
    (hlen : files.length = found.length) (hnames : (files.map (·.name)).Nodup) {backbone : List Text}
    (hbackbone : (assemble d files found maxSymbols extensions).graph.backbone = .ok backbone) :
    ∀ s ∈ Diagram.statements (assemble d files found maxSymbols extensions).graph backbone limit,
      ∀ word ∈ s.words, '\n' ∉ word := by
  have hnodes : ∀ n ∈ (assemble d files found maxSymbols extensions).graph.nodes, '\n' ∉ n.id := by
    intro n hn hmem
    have husable := usable_nodes d maxSymbols extensions hlen hnames n hn
    exact absurd (List.all_eq_true.mp husable.2.1 _ hmem) (by decide)
  have hjoined := (wellFormed_assemble d maxSymbols extensions hlen hnames).joined
  refine Diagram.forall_words hnodes (fun e he => ?_) (fun id hid => ?_) (by decide) (by decide)
  · obtain ⟨⟨src, hsrc, heq⟩, dst, hdst, heq'⟩ := ends_of_mem_edges d maxSymbols extensions hlen hnames e he
    rw [← heq, ← heq']
    exact ⟨hnodes src hsrc, hnodes dst hdst⟩
  · obtain ⟨n, hn, rfl⟩ := List.mem_map.mp (hjoined.mem_fileIds_of_mem_backbone hbackbone hid)
    exact hnodes n (List.mem_append_left _ (List.mem_append_left _ hn))

/-- **The diagram of a graph of files comes back from its fence exactly if no file has a marker in its name and no
package in its import.** -/
theorem unwrap_assemble_iff (d : Disk) (maxSymbols : Int) (extensions : List Text) (limit : Int)
    (hlen : files.length = found.length) (hnames : (files.map (·.name)).Nodup)
    (hfound : ∀ x ∈ found, x.HasNames) :
    let g := (assemble d files found maxSymbols extensions).graph
    ∃ backbone body, g.backbone = .ok backbone ∧ Diagram.render g backbone limit = body ++ ['\n'] ∧
      (Fence.unwrap (Fence.wrap (Diagram.render g backbone limit)) = body ↔
        (∀ f ∈ files, ¬closing <:+: f.name) ∧
          ∀ p ∈ files.zip found, ∀ target ∈ p.2.imports, target.head? ≠ some '.' →
            resolveImport d p.1.path target extensions = none → ¬closing <:+: target) := by
  have hwellFormed := wellFormed_assemble d maxSymbols extensions hlen hnames
  obtain ⟨backbone, hbackbone⟩ := hwellFormed.backbone_ok
  obtain ⟨body, hrender, hunwrap⟩ := Diagram.unwrap_render_iff
    (newline_notMem_words d maxSymbols extensions limit hlen hnames hbackbone)
  refine ⟨backbone, body, hbackbone, hrender, ?_⟩
  rw [hunwrap, Diagram.exists_label_iff hwellFormed.symbol_keys hwellFormed.joined.nodup,
    exists_marked_node_iff d maxSymbols extensions hlen hnames hfound, not_or]
  simp only [not_exists, not_and]

end Graph

/-! ## Projects -/

variable {d : Disk} {root path : Text} {policy : Scan.Policy} {flow : Flow} {c : Scan.Collection}

/-- The graph of collected files. -/
def projectGraph (d : Disk) (files : List SourceFile) : Graph :=
  (Graph.assemble d files (files.map fun f => Source.extract f.content) maxSymbolsPerKind sourceExtensions).graph

/-- Of the texts that are drawn as they are, the names of files and the imports of packages, none holds a marker. -/
structure Unmarked (d : Disk) (files : List SourceFile) : Prop where
  names : ∀ f ∈ files, ¬closing <:+: f.name
  /-- An import is a package if it is not resolved and not relative. -/
  packages : ∀ f ∈ files, ∀ target ∈ (Source.extract f.content).imports, target.head? ≠ some '.' →
    resolveImport d f.path target sourceExtensions = none → ¬closing <:+: target

/-- What a run does once the files are collected and ordered. -/
theorem generateFlow_eq {backbone : List Text} (hresolve : d.resolve (Path.plain root) = .ok path)
    (hcollect : Scan.collect d path policy = .ok c) (hne : c.files ≠ [])
    (hbackbone : (projectGraph d c.files).backbone = .ok backbone) :
    generateFlow d root policy = .ok ⟨path, c.files, projectGraph d c.files, backbone,
      Diagram.render (projectGraph d c.files) backbone maxBackboneFiles,
      [.collecting, .extracting, .building, .ordering, .rendering]⟩ := by
  have hempty : c.files.isEmpty = false := List.isEmpty_eq_false_iff.mpr hne
  rw [projectGraph] at hbackbone
  simp only [generateFlow, hresolve, hcollect, Flow.ofFiles, hempty, hbackbone]
  rfl

/-- A run that finds files has collected them in the folder that the path leads to. -/
theorem exists_of_generateFlow (h : generateFlow d root policy = .ok flow) (hfiles : flow.isEmpty = false) :
    ∃ path c, d.resolve (Path.plain root) = .ok path ∧ Scan.collect d path policy = .ok c ∧ c.files ≠ [] := by
  unfold generateFlow at h
  split at h
  · cases h
  · next path hresolve =>
    split at h
    · cases h
    · next c hcollect =>
      refine ⟨path, c, hresolve, hcollect, ?_⟩
      rintro hnil
      rw [hnil] at h
      obtain rfl := Except.ok.inj h
      cases hfiles

/-- **A run over collected files gives a diagram, and when this comes back from its document.** -/
theorem generateFlow_of_collect (hhere : Path.isAbsolute d.here = true) (hdisk : d.root.Proper)
    (hresolve : d.resolve (Path.plain root) = .ok path) (hcollect : Scan.collect d path policy = .ok c)
    (hne : c.files ≠ []) :
    ∃ flow body, generateFlow d root policy = .ok flow ∧ flow.files = c.files ∧ flow.diagram = body ++ ['\n'] ∧
      (Fence.unwrap flow.document = body ↔ Unmarked d flow.files) := by
  obtain ⟨hnames, -, -⟩ := Scan.distinct_of_collect hhere hdisk hcollect
  have hextracted : ∀ x ∈ c.files.map fun f => Source.extract f.content, x.HasNames := by
    intro x hx
    obtain ⟨f, -, rfl⟩ := List.mem_map.mp hx
    exact Source.hasNames_extract f.content
  obtain ⟨backbone, body, hbackbone, hrender, hunwrap⟩ :=
    Graph.unwrap_assemble_iff d maxSymbolsPerKind sourceExtensions maxBackboneFiles (by simp) hnames hextracted
  rw [Graph.zip_map_self, List.forall_mem_map] at hunwrap
  refine ⟨_, body, generateFlow_eq hresolve hcollect hne hbackbone, rfl, hrender, hunwrap.trans ?_⟩
  exact ⟨fun h => ⟨h.1, h.2⟩, fun h => ⟨h.names, h.packages⟩⟩

/-- **The document of a project gives its diagram back**, without the line feed at its end, exactly if no file has a
line feed with three backticks behind it in its name, and no import of a package has one. -/
theorem unwrap_document_iff (hhere : Path.isAbsolute d.here = true) (hdisk : d.root.Proper)
    (h : generateFlow d root policy = .ok flow) (hfiles : flow.isEmpty = false) :
    ∃ body, flow.diagram = body ++ ['\n'] ∧ (Fence.unwrap flow.document = body ↔ Unmarked d flow.files) := by
  obtain ⟨path, c, hresolve, hcollect, hne⟩ := exists_of_generateFlow h hfiles
  obtain ⟨flow', body, hflow, -, hbody⟩ := generateFlow_of_collect hhere hdisk hresolve hcollect hne
  rw [h] at hflow
  obtain rfl := Except.ok.inj hflow
  exact ⟨body, hbody⟩

/-- **A diagram without the marker of an end comes back from its document**, without the line feed at its end. -/
theorem exists_body_of_generateFlow (hhere : Path.isAbsolute d.here = true) (hdisk : d.root.Proper)
    (h : generateFlow d root policy = .ok flow) (hfiles : flow.isEmpty = false) (hmarker : ¬closing <:+: flow.diagram) :
    ∃ body, flow.diagram = body ++ ['\n'] ∧ body.head? = some 'f' ∧ Fence.unwrap flow.document = body := by
  obtain ⟨path, c, hresolve, hcollect, hne⟩ := exists_of_generateFlow h hfiles
  obtain ⟨hnames, -, -⟩ := Scan.distinct_of_collect hhere hdisk hcollect
  have hlen : c.files.length = (c.files.map fun f => Source.extract f.content).length := (List.length_map _).symm
  have hwellFormed := Graph.wellFormed_assemble d maxSymbolsPerKind sourceExtensions hlen hnames
  obtain ⟨backbone, hbackbone⟩ := hwellFormed.backbone_ok
  obtain rfl := Except.ok.inj (h.symm.trans (generateFlow_eq hresolve hcollect hne hbackbone))
  obtain ⟨body, hbody, hhead, hlast⟩ := Diagram.exists_body
    (Graph.newline_notMem_words d maxSymbolsPerKind sourceExtensions maxBackboneFiles hlen hnames hbackbone)
  have hdiagram : Diagram.render (projectGraph d c.files) backbone maxBackboneFiles = body ++ ['\n'] := hbody
  refine ⟨body, hdiagram, hhead, ?_⟩
  rw [Flow.document, hdiagram]
  rw [hdiagram] at hmarker
  obtain ⟨cs, rfl⟩ := List.head?_eq_some_iff.mp hhead
  refine (Diagram.unwrap_wrap_iff (by decide) hlast).mpr fun hbody => hmarker ?_
  exact hbody.trans (List.prefix_append _ _).isInfix

/-- A disk with one file in a folder. -/
def noteDisk (content : Text) : Disk :=
  ⟨.folder [("p", .folder [("a", .file (Utf8.encode content) true)] true)] true, "/"⟩

/-- The file in it. -/
def noteFile (content : Text) : SourceFile := ⟨"/p/a", "a", content, (Text.lines content).length⟩

theorem proper_noteDisk (content : Text) : (noteDisk content).root.Proper := by
  have hnames : IsEntryName "p" ∧ IsEntryName "a" := by decide
  refine .folder (by simpa using hnames.1) (List.pairwise_singleton _ _) ?_
  simp only [List.forall_mem_singleton]
  exact .folder (by simpa using hnames.2) (List.pairwise_singleton _ _) (by simp [Entry.Proper.file])

theorem collect_noteDisk {content : Text} (htext : Utf8.readText (Utf8.encode content) = some content) :
    Scan.collect (noteDisk content) "/p" {} = .ok ⟨[noteFile content], [], []⟩ := by
  have hhere : Path.absolute (noteDisk content).here "/p" = "/p" := by
    show Path.absolute "/" "/p" = "/p"
    decide
  have hroot : (noteDisk content).probe "/p" =
      .ok (some (.folder [("a", .file (Utf8.encode content) true)] true)) := by cbv
  have hlists : (noteDisk content).lists "/p" = true := by cbv
  have hentry : Disk.entry? (noteDisk content) "/p/a" = .ok (.file (Utf8.encode content) true) := by cbv
  have hkept : Scan.entryPath "/p" "a" = "/p/a" ∧ ({} : Scan.Policy).ignores (Scan.entryName [] "a") false = false ∧
      ({} : Scan.Policy).reads "a" = true := by decide +kernel
  obtain ⟨hpath, hignores, hreads⟩ := hkept
  simp only [Scan.collect, hhere, hroot, Scan.walk, hlists, if_true, Scan.collectFiles,
    Scan.collectFile_of_text hpath hentry hignores hreads htext]
  rfl

/-- A run over this folder gives its diagram back exactly if no import of a package has a marker. -/
theorem generateFlow_noteDisk {content : Text} (htext : Utf8.readText (Utf8.encode content) = some content) :
    ∃ flow body, generateFlow (noteDisk content) "p" {} = .ok flow ∧ flow.isEmpty = false ∧
      flow.diagram = body ++ ['\n'] ∧
        (Fence.unwrap flow.document = body ↔
          ∀ target ∈ (Source.extract content).imports, target.head? ≠ some '.' →
            resolveImport (noteDisk content) "/p/a" target sourceExtensions = none → ¬closing <:+: target) := by
  have hresolve : (noteDisk content).resolve (Path.plain "p") = .ok "/p" := by cbv
  obtain ⟨flow, body, hflow, hfiles, hbody, hunwrap⟩ := generateFlow_of_collect rfl (proper_noteDisk content) hresolve
    (collect_noteDisk htext) (List.cons_ne_nil _ _)
  have hname : ¬closing <:+: (noteFile content).name := Diagram.not_closing_of_notMem (t := "a") (by decide)
  refine ⟨flow, body, hflow, by rw [Flow.isEmpty, hfiles]; rfl, hbody, ?_⟩
  rw [hunwrap, hfiles]
  constructor
  · intro h
    exact h.packages _ List.mem_cons_self
  · intro h
    exact ⟨List.forall_mem_singleton.mpr hname, List.forall_mem_singleton.mpr h⟩

/-- A relative import with a marker, which is not drawn. -/
def relativeText : Text := "import \"./b\n\x60\x60\x60\""

/-- A diagram that comes back, for the marker is in an import that is not drawn. -/
theorem unwrap_document_iff_relative :
    ∃ flow, Path.isAbsolute (noteDisk relativeText).here = true ∧ (noteDisk relativeText).root.Proper ∧
      generateFlow (noteDisk relativeText) "p" {} = .ok flow ∧ flow.isEmpty = false ∧
      ∃ body, flow.diagram = body ++ ['\n'] ∧ Fence.unwrap flow.document = body ∧
        (Fence.unwrap flow.document = body ↔ Unmarked (noteDisk relativeText) flow.files) := by
  have htext : Utf8.readText (Utf8.encode relativeText) = some relativeText := Utf8.readText_encode (by decide)
  have hrelative : (Source.extract relativeText).imports.all (·.head? = some '.') = true := by cbv
  obtain ⟨flow, drawn, hflow, hfiles, hdrawn, hunwrap⟩ := generateFlow_noteDisk htext
  obtain ⟨body, hbody, hiff⟩ := unwrap_document_iff rfl (proper_noteDisk relativeText) hflow hfiles
  obtain rfl : drawn = body := List.append_cancel_right (hdrawn.symm.trans hbody)
  have hback : Fence.unwrap flow.document = drawn := hunwrap.mpr fun target htarget hdot _ =>
    absurd (of_decide_eq_true (List.all_eq_true.mp hrelative target htarget)) hdot
  exact ⟨flow, rfl, proper_noteDisk relativeText, hflow, hfiles, drawn, hbody, hback, hiff⟩

/-- An import of a package with a marker. -/
def markedText : Text := "import \"b\n\x60\x60\x60\""

/-- A diagram that does not come back: the fence ends in the label of the package. -/
theorem not_unwrap_document_marked :
    ∃ flow body, Path.isAbsolute (noteDisk markedText).here = true ∧ (noteDisk markedText).root.Proper ∧
      generateFlow (noteDisk markedText) "p" {} = .ok flow ∧ flow.isEmpty = false ∧
      flow.diagram = body ++ ['\n'] ∧ Fence.unwrap flow.document ≠ body := by
  have htext : Utf8.readText (Utf8.encode markedText) = some markedText := Utf8.readText_encode (by decide)
  have himports : (Source.extract markedText).imports = ["b\n\x60\x60\x60"] := by cbv
  obtain ⟨flow, body, hflow, hfiles, hbody, hunwrap⟩ := generateFlow_noteDisk htext
  refine ⟨flow, body, rfl, proper_noteDisk markedText, hflow, hfiles, hbody, fun hback => ?_⟩
  have hno := hunwrap.mp hback "b\n\x60\x60\x60" (by rw [himports]; exact List.mem_cons_self) (by decide) rfl
  exact hno (by decide)

end ImportChart
