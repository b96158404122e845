import ImportChart.Proofs.Diagram.Statement
import ImportChart.Proofs.Graph.Nodes

/-!
# A diagram shows all of its graph

- `render_eq`: the diagram of a graph is the head and the statements of the graph;
- `mem_statements`: what a statement can be;
- `boxes`, `package?`, `solidEdge?`: what is read off statements, with one equation for each (`boxes_statements`,
  `filterMap_package?_statements`, `filterMap_solidEdge?_statements`);
- so two graphs with one diagram have the same files, symbols, packages and edges (`render_injective`).
-/

namespace ImportChart.Diagram

open Ident (isIdentChar isReserved)

variable {g g' : Graph} {backbone backbone' : List Text} {limit limit' : Int} {word : Text}

/-! ## The statements of a graph -/

/-- The identifier and the label of a node. -/
def shown (node : Node) : Text × Text := (node.id, node.label)

/-- The symbols that are drawn in the box of a file. -/
def symbolsIn (symbols : List (Text × List Node)) (id : Text) : List Node := (symbols.lookup id).getD []

/-- The statements of a file. -/
def box (symbols : List (Text × List Node)) (node : Node) : List Statement :=
  .openBox node.id node.label ::
    ((symbolsIn symbols node.id).map (fun s => .symbol s.id s.label) ++ [.closeBox])

/-- The edges from and to the anchors. -/
def anchorEdges (g : Graph) : List Statement :=
  (if g.files.isEmpty then [.edge startId endId] else []) ++ g.entryIds.map (.edge startId) ++
    g.leafIds.map fun id => .edge id endId

/-- The dotted edges of a backbone. -/
def chainStatements (chain : List Text) : List Statement := List.zipWith .chain chain (chain.drop 1)

/-- The statements of a graph. -/
def statements (g : Graph) (backbone : List Text) (limit : Int) : List Statement :=
  g.files.flatMap (box g.symbols) ++
    (g.externals.map (fun e => .package e.2.id e.2.label) ++
      (g.edges.map (fun e => .edge e.src e.dst) ++
        (chainStatements (takeLimit limit backbone) ++ anchorEdges g)))

/-- The lines above the statements. -/
def head : List Text := ["flowchart TD", indent ++ startId ++ "([Start])", indent ++ endId ++ "([End])"]

theorem fileLines_eq (symbols : List (Text × List Node)) (node : Node) :
    fileLines symbols node = (box symbols node).map Statement.line := by
  simp only [fileLines, box, symbolsIn, List.map_cons, List.map_append, List.map_map, List.map_nil]
  rfl

theorem lines_eq (g : Graph) (backbone : List Text) (limit : Int) :
    lines g backbone limit = head ++ (statements g backbone limit).map Statement.line := by
  have hfiles : g.files.flatMap (fileLines g.symbols) = (g.files.flatMap (box g.symbols)).map Statement.line := by
    rw [List.map_flatMap]
    exact List.flatMap_congr fun node _ => fileLines_eq g.symbols node
  have hchain : chainLines (takeLimit limit backbone) =
      (chainStatements (takeLimit limit backbone)).map Statement.line := by
    rw [chainStatements, List.map_zipWith]
    rfl
  have hempty : (if g.files.isEmpty then [edgeLine startId endId] else []) =
      (if g.files.isEmpty then [Statement.edge startId endId] else []).map Statement.line := by
    split <;> rfl
  simp only [lines, head, statements, anchorEdges, List.map_append, List.map_map, hfiles, hchain, hempty,
    List.append_assoc]
  rfl

/-- **The diagram of a graph is the head and its statements.** -/
theorem render_eq (g : Graph) (backbone : List Text) (limit : Int) :
    render g backbone limit =
      head.flatMap (· ++ ['\n']) ++ (statements g backbone limit).flatMap Statement.text := by
  rw [render, lines_eq, List.flatMap_append, List.flatMap_map]
  rfl

/-! ## Reading statements -/

/-- A package. -/
def package? : Statement → Option (Text × Text)
  | .package id label => some (id, label)
  | _ => none

/-- A solid edge between two nodes; an anchor is no node. -/
def solidEdge? : Statement → Option (Text × Text)
  | .edge src dst => if src = startId ∨ dst = endId then none else some (src, dst)
  | _ => none

/-- The symbols up to the end of a box. -/
def symbolsAhead : List Statement → List (Text × Text)
  | .symbol id label :: rest => (id, label) :: symbolsAhead rest
  | _ => []

/-- The boxes, each with its symbols. -/
def boxes : List Statement → List ((Text × Text) × List (Text × Text))
  | [] => []
  | .openBox id label :: rest => ((id, label), symbolsAhead rest) :: boxes rest
  | _ :: rest => boxes rest

theorem symbolsAhead_box (symbols : List Node) (rest : List Statement) :
    symbolsAhead (symbols.map (fun s => .symbol s.id s.label) ++ .closeBox :: rest) = symbols.map shown := by
  induction symbols with
  | nil => rfl
  | cons s symbols ih => exact congrArg (shown s :: ·) ih

theorem boxes_symbols (symbols : List Node) (rest : List Statement) :
    boxes (symbols.map (fun s => .symbol s.id s.label) ++ .closeBox :: rest) = boxes rest := by
  induction symbols with
  | nil => rfl
  | cons s symbols ih => exact ih

theorem boxes_box (symbols : List (Text × List Node)) (node : Node) (rest : List Statement) :
    boxes (box symbols node ++ rest) = (shown node, (symbolsIn symbols node.id).map shown) :: boxes rest := by
  have hbox : box symbols node ++ rest = .openBox node.id node.label ::
      ((symbolsIn symbols node.id).map (fun s => .symbol s.id s.label) ++ .closeBox :: rest) := by
    simp [box]
  rw [hbox, boxes, symbolsAhead_box, boxes_symbols]
  rfl

/-- The boxes of files are the boxes of the statements, if behind them no other one begins. -/
theorem boxes_files (symbols : List (Text × List Node)) (files : List Node) {rest : List Statement}
    (hrest : boxes rest = []) :
    boxes (files.flatMap (box symbols) ++ rest) =
      files.map fun n => (shown n, (symbolsIn symbols n.id).map shown) := by
  induction files with
  | nil => exact hrest
  | cons n files ih => rw [List.flatMap_cons, List.append_assoc, boxes_box, ih, List.map_cons]

theorem boxes_eq_nil : ∀ {ss : List Statement}, (∀ s ∈ ss, ∀ id label, s ≠ .openBox id label) → boxes ss = []
  | [], _ => rfl
  | s :: ss, h => by
    have ih := boxes_eq_nil fun x hx => h x (List.mem_cons_of_mem _ hx)
    have hs := h s List.mem_cons_self
    cases s with
    | openBox id label => exact absurd rfl (hs id label)
    | _ => exact ih

/-- **The files are read off the statements of a graph**, each with its symbols. -/
theorem boxes_statements (g : Graph) (backbone : List Text) (limit : Int) :
    boxes (statements g backbone limit) =
      g.files.map fun n => (shown n, (symbolsIn g.symbols n.id).map shown) := by
  refine boxes_files g.symbols g.files (boxes_eq_nil fun s hs id label heq => ?_)
  subst heq
  simp only [anchorEdges, chainStatements, ← List.map_uncurry_zip_eq_zipWith, List.mem_append, List.mem_map] at hs
  rcases hs with ⟨_, _, h⟩ | ⟨_, _, h⟩ | ⟨_, _, h⟩ | (h | ⟨_, _, h⟩) | ⟨_, _, h⟩
  · cases h
  · cases h
  · cases h
  · split at h <;> simp at h
  · cases h
  · cases h

theorem filterMap_files {α : Type} (read : Statement → Option α) (symbols : List (Text × List Node))
    (files : List Node) (hopen : ∀ id label, read (.openBox id label) = none)
    (hsymbol : ∀ id label, read (.symbol id label) = none) (hclose : read .closeBox = none) :
    (files.flatMap (box symbols)).filterMap read = [] := by
  refine List.filterMap_eq_nil_iff.mpr fun s hs => ?_
  obtain ⟨n, -, hs⟩ := List.mem_flatMap.mp hs
  rw [box, List.mem_cons, List.mem_append, List.mem_map, List.mem_singleton] at hs
  rcases hs with rfl | ⟨symbol, -, rfl⟩ | rfl
  · exact hopen _ _
  · exact hsymbol _ _
  · exact hclose

theorem mem_chainStatements {chain : List Text} {s : Statement} (h : s ∈ chainStatements chain) :
    ∃ src ∈ chain, ∃ dst ∈ chain, s = .chain src dst := by
  rw [chainStatements, ← List.map_uncurry_zip_eq_zipWith] at h
  obtain ⟨⟨src, dst⟩, hmem, rfl⟩ := List.mem_map.mp h
  have hends := List.of_mem_zip hmem
  exact ⟨src, hends.1, dst, List.mem_of_mem_drop hends.2, rfl⟩

theorem mem_anchorEdges {s : Statement} (h : s ∈ anchorEdges g) :
    s = .edge startId endId ∨ (∃ id ∈ g.fileIds, s = .edge startId id) ∨ ∃ id ∈ g.fileIds, s = .edge id endId := by
  rw [anchorEdges, List.mem_append, List.mem_append, List.mem_map, List.mem_map] at h
  rcases h with (h | ⟨id, hid, rfl⟩) | ⟨id, hid, rfl⟩
  · split at h
    · exact Or.inl (List.mem_singleton.mp h)
    · cases h
  · exact Or.inr (Or.inl ⟨id, List.mem_of_mem_filter hid, rfl⟩)
  · exact Or.inr (Or.inr ⟨id, List.mem_of_mem_filter hid, rfl⟩)

theorem mem_of_mem_takeLimit {α : Type} {xs : List α} {x : α} (h : x ∈ takeLimit limit xs) : x ∈ xs := by
  rw [takeLimit] at h
  split at h <;> exact List.mem_of_mem_take h

theorem mem_nodes_of_mem_symbolsIn {id : Text} {n : Node} (h : n ∈ symbolsIn g.symbols id) : n ∈ g.nodes := by
  rw [symbolsIn] at h
  cases hlookup : g.symbols.lookup id with
  | none => rw [hlookup] at h; cases h
  | some ns =>
    rw [hlookup] at h
    have hns : n ∈ g.symbols.flatMap (·.2) := List.mem_flatMap.mpr ⟨(id, ns), mem_of_lookup_eq_some hlookup, h⟩
    exact List.mem_append_left _ (List.mem_append_right _ hns)

/-- **What a statement of a graph can be**: the line of a node, the end of a box, an edge, a dotted edge of the
backbone, or an edge of an anchor. -/
theorem mem_statements {s : Statement} (h : s ∈ statements g backbone limit) :
    (∃ n ∈ g.nodes, s = .openBox n.id n.label ∨ s = .symbol n.id n.label ∨ s = .package n.id n.label) ∨
      s = .closeBox ∨ (∃ e ∈ g.edges, s = .edge e.src e.dst) ∨
      (∃ src ∈ backbone, ∃ dst ∈ backbone, s = .chain src dst) ∨ s ∈ anchorEdges g := by
  rw [statements, List.mem_append, List.mem_append, List.mem_append, List.mem_append] at h
  rcases h with h | h | h | h | h
  · obtain ⟨n, hn, h⟩ := List.mem_flatMap.mp h
    rw [box, List.mem_cons, List.mem_append, List.mem_map, List.mem_singleton] at h
    rcases h with rfl | ⟨symbol, hsymbol, rfl⟩ | rfl
    · exact Or.inl ⟨n, List.mem_append_left _ (List.mem_append_left _ hn), Or.inl rfl⟩
    · exact Or.inl ⟨symbol, mem_nodes_of_mem_symbolsIn hsymbol, Or.inr (Or.inl rfl)⟩
    · exact Or.inr (Or.inl rfl)
  · obtain ⟨p, hp, rfl⟩ := List.mem_map.mp h
    exact Or.inl ⟨p.2, List.mem_append_right _ (List.mem_map_of_mem hp), Or.inr (Or.inr rfl)⟩
  · obtain ⟨e, he, rfl⟩ := List.mem_map.mp h
    exact Or.inr (Or.inr (Or.inl ⟨e, he, rfl⟩))
  · obtain ⟨src, hsrc, dst, hdst, rfl⟩ := mem_chainStatements h
    exact Or.inr (Or.inr (Or.inr (Or.inl ⟨src, mem_of_mem_takeLimit hsrc, dst, mem_of_mem_takeLimit hdst, rfl⟩)))
  · exact Or.inr (Or.inr (Or.inr (Or.inr h)))

/-- What holds of the identifiers of nodes, of the ends of edges, of the backbone and of the anchors holds of all words
of statements. -/
theorem forall_words {P : Text → Prop} (hnodes : ∀ n ∈ g.nodes, P n.id) (hends : ∀ e ∈ g.edges, P e.src ∧ P e.dst)
    (hbackbone : ∀ id ∈ backbone, P id) (hstart : P startId) (hend : P endId) :
    ∀ s ∈ statements g backbone limit, ∀ word ∈ s.words, P word := by
  have hfiles : ∀ id ∈ g.fileIds, P id := by
    intro id hid
    obtain ⟨n, hn, rfl⟩ := List.mem_map.mp hid
    exact hnodes n (List.mem_append_left _ (List.mem_append_left _ hn))
  intro s hs
  rcases mem_statements hs with ⟨n, hn, rfl | rfl | rfl⟩ | rfl | ⟨e, he, rfl⟩ | ⟨src, hsrc, dst, hdst, rfl⟩ | hanchor
  · simpa [Statement.words] using hnodes n hn
  · simpa [Statement.words] using hnodes n hn
  · simpa [Statement.words] using hnodes n hn
  · simp [Statement.words]
  · simpa [Statement.words] using hends e he
  · simpa [Statement.words] using ⟨hbackbone src hsrc, hbackbone dst hdst⟩
  · rcases mem_anchorEdges hanchor with rfl | ⟨id, hid, rfl⟩ | ⟨id, hid, rfl⟩
    · simpa [Statement.words] using ⟨hstart, hend⟩
    · simpa [Statement.words] using ⟨hstart, hfiles id hid⟩
    · simpa [Statement.words] using ⟨hfiles id hid, hend⟩

/-- A label that is drawn is the label of a node. -/
theorem exists_node_of_label {s : Statement} {label : Text} (hs : s ∈ statements g backbone limit)
    (hlabel : s.label? = some label) : ∃ n ∈ g.nodes, n.label = label := by
  rcases mem_statements hs with ⟨n, hn, rfl | rfl | rfl⟩ | rfl | ⟨e, he, rfl⟩ | ⟨_, -, _, -, rfl⟩ | hanchor
  · exact ⟨n, hn, Option.some.inj hlabel⟩
  · exact ⟨n, hn, Option.some.inj hlabel⟩
  · exact ⟨n, hn, Option.some.inj hlabel⟩
  · cases hlabel
  · cases hlabel
  · cases hlabel
  · rcases mem_anchorEdges hanchor with rfl | ⟨_, -, rfl⟩ | ⟨_, -, rfl⟩ <;> cases hlabel

/-- What is read off packages and solid edges only, is read off those of the graph. -/
theorem filterMap_statements {α : Type} (read : Statement → Option α) (g : Graph) (backbone : List Text) (limit : Int)
    (hopen : ∀ id label, read (.openBox id label) = none) (hsymbol : ∀ id label, read (.symbol id label) = none)
    (hclose : read .closeBox = none) (hchain : ∀ src dst, read (.chain src dst) = none)
    (hstart : ∀ id, read (.edge startId id) = none) (hend : ∀ id, read (.edge id endId) = none) :
    (statements g backbone limit).filterMap read =
      g.externals.filterMap (fun e => read (.package e.2.id e.2.label)) ++
        g.edges.filterMap fun e => read (.edge e.src e.dst) := by
  have hchains : (chainStatements (takeLimit limit backbone)).filterMap read = [] := by
    refine List.filterMap_eq_nil_iff.mpr fun s hs => ?_
    obtain ⟨src, -, dst, -, rfl⟩ := mem_chainStatements hs
    exact hchain src dst
  have hanchors : (anchorEdges g).filterMap read = [] := by
    refine List.filterMap_eq_nil_iff.mpr fun s hs => ?_
    rcases mem_anchorEdges hs with rfl | ⟨id, -, rfl⟩ | ⟨id, -, rfl⟩
    · exact hstart _
    · exact hstart _
    · exact hend _
  rw [statements, List.filterMap_append, List.filterMap_append, List.filterMap_append, List.filterMap_append,
    filterMap_files read _ _ hopen hsymbol hclose, hchains, hanchors, List.filterMap_map, List.filterMap_map,
    List.nil_append, List.append_nil, List.append_nil]
  rfl

/-- **The packages are read off the statements of a graph.** -/
theorem filterMap_package?_statements (g : Graph) (backbone : List Text) (limit : Int) :
    (statements g backbone limit).filterMap package? = g.externals.map fun e => shown e.2 := by
  rw [filterMap_statements package? g backbone limit (fun _ _ => rfl) (fun _ _ => rfl) rfl (fun _ _ => rfl)
    (fun _ => rfl) fun _ => rfl]
  have hpackages : (g.externals.filterMap fun e => package? (.package e.2.id e.2.label)) =
      g.externals.map fun e => shown e.2 := congrFun List.filterMap_eq_map _
  have hedges : (g.edges.filterMap fun e => package? (.edge e.src e.dst)) = [] :=
    List.filterMap_eq_nil_iff.mpr fun _ _ => rfl
  rw [hpackages, hedges, List.append_nil]

/-- **The edges are read off the statements of a graph**, if none of them ends at an anchor. -/
theorem filterMap_solidEdge?_statements (backbone : List Text) (limit : Int)
    (h : ∀ e ∈ g.edges, e.src ≠ startId ∧ e.dst ≠ endId) :
    (statements g backbone limit).filterMap solidEdge? = g.edges.map fun e => (e.src, e.dst) := by
  rw [filterMap_statements solidEdge? g backbone limit (fun _ _ => rfl) (fun _ _ => rfl) rfl (fun _ _ => rfl)
    (fun id => by simp [solidEdge?]) fun id => by simp [solidEdge?]]
  have hpackages : (g.externals.filterMap fun e => solidEdge? (.package e.2.id e.2.label)) = [] :=
    List.filterMap_eq_nil_iff.mpr fun _ _ => rfl
  have hedges : (g.edges.filterMap fun e => solidEdge? (.edge e.src e.dst)) =
      g.edges.filterMap fun e => some (e.src, e.dst) := by
    refine List.filterMap_congr fun e he => ?_
    simp [solidEdge?, h e he]
  rw [hpackages, hedges, List.nil_append]
  exact congrFun List.filterMap_eq_map _

/-! ## Graphs with one diagram -/

/-- A word that the allocator can give to a node: its characters are those of identifiers, and it is not reserved. -/
def IsNodeId (word : Text) : Prop := word ≠ [] ∧ word.all isIdentChar = true ∧ isReserved word = false

instance (word : Text) : Decidable (IsNodeId word) := inferInstanceAs (Decidable (_ ∧ _ ∧ _))

/-- A graph with such words for its nodes and the ends of its edges, and with no escape in a label. -/
structure Drawable (g : Graph) : Prop where
  ids : ∀ n ∈ g.nodes, IsNodeId n.id
  labels : ∀ n ∈ g.nodes, ¬quoteEscape <:+: n.label
  ends : ∀ e ∈ g.edges, IsNodeId e.src ∧ IsNodeId e.dst

theorem IsNodeId.ne (h : IsNodeId word) {other : Text} (hother : isReserved other = true) : word ≠ other := by
  rintro rfl
  rw [h.2.2] at hother
  cases hother

theorem IsNodeId.isPlainWord (h : IsNodeId word) : IsPlainWord word :=
  ⟨h.1, h.2.1, h.ne (by decide), h.ne (by decide)⟩

theorem isPlainWord_anchors : IsPlainWord startId ∧ IsPlainWord endId := by
  refine ⟨⟨?_, ?_, ?_, ?_⟩, ?_, ?_, ?_, ?_⟩ <;> decide

theorem Drawable.clear (hg : Drawable g) (hbackbone : ∀ id ∈ backbone, IsNodeId id) :
    ∀ s ∈ statements g backbone limit, s.Clear := by
  have hends : ∀ e ∈ g.edges, IsPlainWord e.src ∧ IsPlainWord e.dst :=
    fun e he => ⟨(hg.ends e he).1.isPlainWord, (hg.ends e he).2.isPlainWord⟩
  have hwords : ∀ s ∈ statements g backbone limit, ∀ word ∈ s.words, IsPlainWord word :=
    forall_words (fun n hn => (hg.ids n hn).isPlainWord) hends (fun id hid => (hbackbone id hid).isPlainWord)
      isPlainWord_anchors.1 isPlainWord_anchors.2
  intro s hs
  refine Statement.clear_iff.mpr ⟨hwords s hs, fun label hlabel => ?_⟩
  obtain ⟨n, hn, rfl⟩ := exists_node_of_label hs hlabel
  exact hg.labels n hn

theorem Drawable.ends_ne (hg : Drawable g) : ∀ e ∈ g.edges, e.src ≠ startId ∧ e.dst ≠ endId :=
  fun e he => ⟨(hg.ends e he).1.ne (by decide), (hg.ends e he).2.ne (by decide)⟩

theorem statements_eq_of_render_eq (hg : Drawable g) (hg' : Drawable g') (hbackbone : ∀ id ∈ backbone, IsNodeId id)
    (hbackbone' : ∀ id ∈ backbone', IsNodeId id) (h : render g backbone limit = render g' backbone' limit') :
    statements g backbone limit = statements g' backbone' limit' := by
  rw [render_eq, render_eq] at h
  exact flatMap_text_injective (hg.clear hbackbone) (hg'.clear hbackbone') (List.append_cancel_left h)

/-- **A diagram shows all of its graph**: graphs with one diagram have the same files, the same symbols under each
file, the same packages and the same edges, whatever their labels look like. -/
theorem render_injective (hg : Drawable g) (hg' : Drawable g') (hbackbone : ∀ id ∈ backbone, IsNodeId id)
    (hbackbone' : ∀ id ∈ backbone', IsNodeId id) (h : render g backbone limit = render g' backbone' limit') :
    g.files.map shown = g'.files.map shown ∧
      (∀ id ∈ g.fileIds, (symbolsIn g.symbols id).map shown = (symbolsIn g'.symbols id).map shown) ∧
      g.externals.map (fun e => shown e.2) = g'.externals.map (fun e => shown e.2) ∧
      g.edges.map (fun e => (e.src, e.dst)) = g'.edges.map fun e => (e.src, e.dst) := by
  have hstatements := statements_eq_of_render_eq hg hg' hbackbone hbackbone' h
  -- what is shown is read off the statements, which are the same
  have hboxes := congrArg boxes hstatements
  rw [boxes_statements, boxes_statements] at hboxes
  have hpackages := congrArg (List.filterMap package?) hstatements
  rw [filterMap_package?_statements, filterMap_package?_statements] at hpackages
  have hedges := congrArg (List.filterMap solidEdge?) hstatements
  rw [filterMap_solidEdge?_statements _ _ hg.ends_ne, filterMap_solidEdge?_statements _ _ hg'.ends_ne] at hedges
  refine ⟨?_, fun id hid => ?_, hpackages, hedges⟩
  · have hfiles := congrArg (List.map Prod.fst) hboxes
    rw [List.map_map, List.map_map] at hfiles
    exact hfiles
  · obtain ⟨n, hn, rfl⟩ := List.mem_map.mp hid
    have hmem := List.mem_map_of_mem (f := fun n => (shown n, (symbolsIn g.symbols n.id).map shown)) hn
    rw [hboxes] at hmem
    obtain ⟨n', -, heq⟩ := List.mem_map.mp hmem
    have hid : n'.id = n.id := congrArg (fun p : (Text × Text) × List (Text × Text) => p.1.1) heq
    have hsymbols := congrArg Prod.snd heq
    rw [hid] at hsymbols
    exact hsymbols.symm

/-- A file whose label looks like other statements, with a symbol whose label looks like the end of a box. -/
def imitating : Graph where
  files := [⟨"a", "a\"]\n    end\n    a --> p\n    subgraph b[\"b", .file, none⟩]
  symbols := [("a", [⟨"a_fn", "    end", .function, some "a"⟩])]
  externals := [("p", ⟨"p", "#\"quot;", .external, none⟩)]
  edges := [⟨"a", "p", .external⟩]

/-- The same nodes and edges, with other kinds and under other names. -/
def relabelled : Graph where
  files := [⟨"a", "a\"]\n    end\n    a --> p\n    subgraph b[\"b", .external, some "b"⟩]
  symbols := [("a", [⟨"a_fn", "    end", .fallback, none⟩])]
  externals := [("q", ⟨"p", "#\"quot;", .file, none⟩)]
  edges := [⟨"a", "p", .other "p"⟩]

/-- The two have one diagram, and so they show the same things. -/
theorem render_injective_imitating :
    Drawable imitating ∧ Drawable relabelled ∧ (∀ id ∈ (["a"] : List Text), IsNodeId id) ∧
      render imitating ["a"] maxBackboneFiles = render relabelled ["a"] 1 ∧
      imitating.files.map shown = relabelled.files.map shown ∧
      (∀ id ∈ imitating.fileIds,
        (symbolsIn imitating.symbols id).map shown = (symbolsIn relabelled.symbols id).map shown) ∧
      imitating.externals.map (fun e => shown e.2) = relabelled.externals.map (fun e => shown e.2) ∧
      imitating.edges.map (fun e => (e.src, e.dst)) = relabelled.edges.map fun e => (e.src, e.dst) := by
  have hlabels : ∀ n ∈ imitating.nodes ++ relabelled.nodes, Text.contains quoteEscape n.label = false := by decide
  have hclear (n : Node) (hn : n ∈ imitating.nodes ++ relabelled.nodes) : ¬quoteEscape <:+: n.label := by
    rw [← Text.contains_iff, hlabels n hn]
    exact Bool.false_ne_true
  have hg : Drawable imitating :=
    ⟨by decide, fun n hn => hclear n (List.mem_append_left _ hn), by decide⟩
  have hg' : Drawable relabelled :=
    ⟨by decide, fun n hn => hclear n (List.mem_append_right _ hn), by decide⟩
  have hbackbone : ∀ id ∈ (["a"] : List Text), IsNodeId id := by decide
  have hrender : render imitating ["a"] maxBackboneFiles = render relabelled ["a"] 1 := by
    have hstatements : statements imitating ["a"] maxBackboneFiles = statements relabelled ["a"] 1 := by decide
    rw [render_eq, render_eq, hstatements]
  exact ⟨hg, hg', hbackbone, hrender, render_injective hg hg' hbackbone hbackbone hrender⟩

end ImportChart.Diagram
