import ImportChart.Proofs.Scan.Lookup
import ImportChart.Scan.Collect
import Mathlib.Data.List.TakeWhile

/-!
# A walk is a filter

A walk leaves out whole folders, and looks for patterns in another form of their paths than of the paths of files.
Still it collects what a filter of all files picks that looks at each file alone.

- `Policy.Keeps`: what the policy says of the path of one file;
- `Policy.not_keeps_of_ignores`: below a folder that is left out there is nothing to keep;
- `Gathers`: a collection holds given files, in their order, each in the records or among the skipped ones;
- `Asked`: what a walk asks for by its path;
- `walked_walk`: a walk gathers the leaves that are picked, unless asking for one of the leaves is a fault: then it
  breaks off with this fault.
-/

namespace ImportChart.Scan

open Path (IsComponent joinComponents)

variable {d : Disk} {policy : Policy} {root name : Text} {above names rest : List Text} {c c' : Collection}
  {t e : Entry} {entries : List (Text × Entry)} {found found' : List (List Text)}
  {leaves leaves' : List (List Text × Entry)} {x y : Except Fault Collection}

/-! ## What a policy keeps -/

/-- What a policy says of a file, given by its names from the scanned folder: no pattern is part of its path, none of
its names is an ignored one, it is no output file, and its name is one that is read. -/
def Policy.Keeps (policy : Policy) (names : List Text) : Prop :=
  (∀ pattern ∈ policy.ignorePatterns, ¬pattern <:+: '/' :: joinComponents names) ∧
    (∀ name ∈ names, name ∉ policy.ignoredNames) ∧
    joinComponents names ∉ policy.rootFiles ∧
    policy.reads (Path.baseName (joinComponents names)) = true

instance (policy : Policy) (names : List Text) : Decidable (policy.Keeps names) :=
  inferInstanceAs (Decidable (_ ∧ _ ∧ _ ∧ _))

theorem baseName_concat (above : List Text) (hname : IsComponent name) :
    Path.baseName (joinComponents (above ++ [name])) = name := by
  have hkept : ∀ x ∈ name.reverse, (decide (x ≠ '/')) = true := by
    intro x hx
    have hne : x ≠ '/' := fun h => hname.2.2.2 (h ▸ List.mem_reverse.mp hx)
    simpa using hne
  by_cases hnil : above = []
  · subst hnil
    show (name.reverse.takeWhile fun x => decide (x ≠ '/')).reverse = name
    rw [List.takeWhile_eq_self_iff.mpr hkept, List.reverse_reverse]
  · have hreverse : (joinComponents (above ++ [name])).reverse =
        name.reverse ++ '/' :: (joinComponents above).reverse := by
      rw [Path.joinComponents_concat hnil, List.reverse_append, List.reverse_cons, List.append_assoc]
      rfl
    rw [Path.baseName, hreverse, List.takeWhile_append_of_pos hkept]
    simp

theorem entryName_joinComponents (habove : ∀ c ∈ above, IsComponent c) (name : Text) :
    entryName (joinComponents above) name = joinComponents (above ++ [name]) := by
  by_cases hnil : above = []
  · subst hnil
    rfl
  · have hne : joinComponents above ≠ [] := by
      intro h
      have hcomponents := Path.components_joinComponents habove
      rw [h] at hcomponents
      exact hnil hcomponents.symm
    rw [entryName, Path.joinComponents_concat hnil]
    simp [hne]

/-- A policy keeps a file in a folder that is not left out if it neither ignores it nor passes over its name. -/
theorem Policy.keeps_concat_iff (habove : ∀ c ∈ above, c ∉ policy.ignoredNames) (hname : IsComponent name) :
    policy.Keeps (above ++ [name]) ↔
      policy.ignores (joinComponents (above ++ [name])) false = false ∧ policy.reads name = true := by
  have hnames : (∀ c ∈ above ++ [name], c ∉ policy.ignoredNames) ↔ name ∉ policy.ignoredNames := by
    constructor
    · intro h
      exact h name (by simp)
    · intro h c hc
      rcases List.mem_append.mp hc with hc | hc
      · exact habove c hc
      · rwa [List.mem_singleton.mp hc]
  rw [Keeps, hnames, baseName_concat above hname, ignores, ignoresName, baseName_concat above hname, framed]
  simp only [Bool.or_eq_false_iff, Bool.not_false, Bool.true_and, List.contains_eq_mem, decide_eq_false_iff_not,
    List.any_eq_false, Text.contains_iff, Bool.false_eq_true, if_false, List.append_nil]
  tauto

/-- A name in a folder that is not left out is not left out by name. -/
theorem Policy.notMem_of_ignores_eq_false (hname : IsComponent name)
    (h : policy.ignores (joinComponents (above ++ [name])) true = false) : name ∉ policy.ignoredNames := by
  rw [ignores, ignoresName, baseName_concat above hname] at h
  simp only [Bool.or_eq_false_iff, List.contains_eq_mem, decide_eq_false_iff_not] at h
  exact h.1.1

/-- **Below a folder that is left out there is nothing to keep.** -/
theorem Policy.not_keeps_of_ignores (hname : IsComponent name)
    (h : policy.ignores (joinComponents (above ++ [name])) true = true) (hrest : rest ≠ []) :
    ¬policy.Keeps (above ++ name :: rest) := by
  rintro ⟨hpatterns, hnames, -, -⟩
  rw [ignores, ignoresName, baseName_concat above hname, Bool.or_eq_true] at h
  rcases h with h | h
  · have hmem : name ∈ policy.ignoredNames := by simpa using h
    exact hnames name (by simp) hmem
  · obtain ⟨pattern, hpattern, hcontains⟩ := List.any_eq_true.mp h
    -- the path of the folder between slashes begins the path of what is below it
    have hbelow : '/' :: joinComponents (above ++ name :: rest) =
        framed (joinComponents (above ++ [name])) true ++ joinComponents rest := by
      have happend : above ++ name :: rest = (above ++ [name]) ++ rest := by simp
      rw [happend, Path.joinComponents_append (by simp) hrest, framed, if_pos rfl]
      simp
    refine hpatterns pattern hpattern ?_
    rw [hbelow]
    exact (Text.contains_iff.mp hcontains).trans (List.prefix_append _ _).isInfix

/-! ## What a collection holds -/

/-- The path that names lead to from a folder. -/
def pathOf (root : Text) (names : List Text) : Text := names.foldl entryPath root

theorem pathOf_concat (root : Text) (above : List Text) (name : Text) :
    pathOf root (above ++ [name]) = entryPath (pathOf root above) name := by
  rw [pathOf, List.foldl_append]
  rfl

/-- The record of the file that names lead to, if its content can be read as text. -/
def record (d : Disk) (root : Text) (names : List Text) : Option SourceFile :=
  match d.read (pathOf root names) with
  | .ok content =>
    (Utf8.readText content).map fun text =>
      ⟨pathOf root names, joinComponents names, text, (Text.lines text).length⟩
  | .error _ => none

/-- A collection holds the files that the given names lead to: those that can be read with their records, and the
others as skipped. -/
structure Gathers (d : Disk) (root : Text) (found : List (List Text)) (c : Collection) : Prop where
  files : c.files = found.filterMap (record d root)
  skipped : c.skipped = (found.filter fun names => (record d root names).isNone).map (pathOf root)

theorem gathers_nil (d : Disk) (root : Text) : Gathers d root [] {} := ⟨rfl, rfl⟩

theorem Gathers.append (h : Gathers d root found c) (h' : Gathers d root found' c') :
    Gathers d root (found ++ found') (c ++ c') where
  files := by
    rw [List.filterMap_append, ← h.files, ← h'.files]
    rfl
  skipped := by
    rw [List.filter_append, List.map_append, ← h.skipped, ← h'.skipped]
    rfl

theorem gathers_readRecord (d : Disk) (root : Text) (names : List Text) :
    Gathers d root [names] (readRecord d (pathOf root names) (joinComponents names)) := by
  cases hread : d.read (pathOf root names) with
  | error fault => constructor <;> simp [readRecord, record, hread]
  | ok content => cases htext : Utf8.readText content <;> constructor <;> simp [readRecord, record, hread, htext]

/-! ## The walk -/

/-- Whether a file that names lead to is collected: it is a file, and the policy keeps it. -/
def Picked (d : Disk) (policy : Policy) (root : Text) (names : List Text) : Prop :=
  policy.Keeps names ∧ d.isFile (pathOf root names) = true

instance (d : Disk) (policy : Policy) (root : Text) (names : List Text) : Decidable (Picked d policy root names) :=
  inferInstanceAs (Decidable (_ ∧ _))

/-- A walk asks for what is no subfolder, if the policy keeps it. -/
def Asked (d : Disk) (policy : Policy) (root : Text) (q : List Text × Entry) : Prop :=
  isSubfolder d (pathOf root q.1) q.2 = false ∧ policy.Keeps q.1

/-- How going through leaves of a tree ends. -/
inductive Walked (d : Disk) (policy : Policy) (root : Text) (leaves : List (List Text × Entry)) :
    Except Fault Collection → Prop
  /-- Everything that was asked for was answered, and what is picked is gathered. -/
  | ok {c : Collection}
      (answered : ∀ q ∈ leaves, Asked d policy root q → ∃ found, d.probe (pathOf root q.1) = .ok found)
      (gathers : Gathers d root ((leaves.map Prod.fst).filter fun names => Picked d policy root names) c) :
      Walked d policy root leaves (.ok c)
  /-- It was a fault to ask for one of them. -/
  | error {f : Fault} {q : List Text × Entry} (mem : q ∈ leaves) (asked : Asked d policy root q)
      (fault : d.probe (pathOf root q.1) = .error f) : Walked d policy root leaves (.error f)

namespace Walked

/-- What the policy does not keep contributes nothing. -/
theorem of_not_keeps (h : ∀ q ∈ leaves, ¬policy.Keeps q.1) : Walked d policy root leaves (.ok {}) := by
  have hnone : ((leaves.map Prod.fst).filter fun names => Picked d policy root names) = [] := by
    rw [List.filter_eq_nil_iff]
    intro names hnames
    obtain ⟨q, hq, rfl⟩ := List.mem_map.mp hnames
    rw [decide_eq_true_eq]
    exact fun hpicked => h q hq hpicked.1
  exact .ok (fun q hq hasked => absurd hasked.2 (h q hq)) (hnone ▸ gathers_nil d root)

theorem nil (d : Disk) (policy : Policy) (root : Text) : Walked d policy root [] (.ok {}) :=
  of_not_keeps (List.forall_mem_nil _)

/-- One part after another. -/
theorem append (h : Walked d policy root leaves x) (h' : Walked d policy root leaves' y) :
    Walked d policy root (leaves ++ leaves') (x >>= fun a => y >>= fun b => pure (a ++ b)) := by
  cases h with
  | error hmem hasked hfault => exact .error (List.mem_append_left _ hmem) hasked hfault
  | ok hanswered hgathers =>
    cases h' with
    | error hmem hasked hfault => exact .error (List.mem_append_right _ hmem) hasked hfault
    | ok hanswered' hgathers' =>
      refine .ok (fun q hq => (List.mem_append.mp hq).elim (hanswered q) (hanswered' q)) ?_
      rw [List.map_append, List.filter_append]
      exact hgathers.append hgathers'

end Walked

theorem isFile_eq_false_of_isSubfolder {path : Text} (he : e.isFolder = false) (h : isSubfolder d path e = true) :
    d.isFile path = false := by
  cases e with
  | folder => cases he
  | file => cases h
  | link target =>
    rw [isSubfolder] at h
    split at h
    · next hentry => rw [Disk.isFile, hentry]
    · cases h

/-- A path leads to a file exactly if a file is the answer. -/
theorem isFile_of_probe {path : Text} {found : Option Entry} (h : d.probe path = .ok found) :
    d.isFile path = true ↔ ∃ content access, found = some (.file content access) := by
  simp only [Disk.isFile_iff, ← Disk.probe_eq_some_iff, h, Except.ok.injEq]

/-- What is asked for and answered is gathered if it is a file. -/
theorem walked_of_probe {found : Option Entry} (hkeeps : policy.Keeps names)
    (hprobe : d.probe (pathOf root names) = .ok found) :
    Walked d policy root [(names, e)] (.ok
      (match found with
        | some (.file _ _) => readRecord d (pathOf root names) (joinComponents names)
        | _ => {})) := by
  refine .ok (fun q hq _ => ⟨found, List.mem_singleton.mp hq ▸ hprobe⟩) ?_
  by_cases hpicked : Picked d policy root names
  · obtain ⟨content, access, rfl⟩ := (isFile_of_probe hprobe).mp hpicked.2
    rw [List.map_singleton, List.filter_eq_self.mpr (by simpa using hpicked)]
    exact gathers_readRecord d root names
  · have hother : ∀ content access, found ≠ some (.file content access) := fun content access hfound =>
      hpicked ⟨hkeeps, (isFile_of_probe hprobe).mpr ⟨content, access, hfound⟩⟩
    rw [List.map_singleton, List.filter_eq_nil_iff.mpr (by simpa using hpicked)]
    split
    · exact absurd rfl (hother _ _)
    · exact gathers_nil d root

/-- A file that the policy keeps and whose bytes are a text has a record. -/
theorem collectFile_of_text {folder prefixName path text : Text} {content : Bytes}
    (hpath : entryPath folder name = path) (hentry : d.entry? path = .ok (.file content true))
    (hignores : policy.ignores (entryName prefixName name) false = false) (hreads : policy.reads name = true)
    (htext : Utf8.readText content = some text) :
    collectFile d policy folder prefixName name (.file content true) =
      .ok { files := [⟨path, entryName prefixName name, text, (Text.lines text).length⟩] } := by
  have hread : d.read path = .ok content := Disk.read_eq_ok_iff.mpr ⟨_, hentry, rfl⟩
  simp [collectFile, hpath, isSubfolder, hignores, hreads, Disk.probe_eq_some_iff.mpr hentry, readRecord, hread, htext]

/-- Something that the policy keeps and that cannot be asked for ends a scan. -/
theorem collectFile_of_fault {folder prefixName path : Text} {cause : Cause} (hpath : entryPath folder name = path)
    (he : e.isFolder = false) (hentry : d.entry? path = .error cause) (hfault : cause.isFault = true)
    (hignores : policy.ignores (entryName prefixName name) false = false) (hreads : policy.reads name = true) :
    collectFile d policy folder prefixName name e = .error ⟨cause, path⟩ := by
  have hsubfolder : isSubfolder d path e = false := by
    cases e with
    | folder => cases he
    | file => rfl
    | link => rw [isSubfolder, hentry]
  have hprobe : d.probe path = .error ⟨cause, path⟩ := Disk.probe_eq_error_iff.mpr ⟨cause, hentry, hfault, rfl⟩
  simp [collectFile, hpath, hsubfolder, hignores, hreads, hprobe]

section

variable (habove : ∀ c ∈ above, IsComponent c ∧ c ∉ policy.ignoredNames)
include habove

/-- An entry of a folder, as a file. -/
theorem walked_collectFile (hname : IsComponent name) :
    Walked d policy root (if e.isFolder then [] else [(above ++ [name], e)])
      (collectFile d policy (pathOf root above) (joinComponents above) name e) := by
  have hkeeps := Policy.keeps_concat_iff (fun c hc => (habove c hc).2) hname
  rw [collectFile, ← pathOf_concat, entryName_joinComponents fun c hc => (habove c hc).1]
  cases hfolder : e.isFolder with
  | true =>
    have hsub : isSubfolder d (pathOf root (above ++ [name])) e = true := by cases e <;> first | rfl | cases hfolder
    simp only [hsub, Bool.true_or, if_true]
    exact .nil d policy root
  | false =>
    rw [if_neg Bool.false_ne_true]
    split
    · -- passed over: a link to a folder, or nothing that the policy keeps
      next hout =>
      cases hsub : isSubfolder d (pathOf root (above ++ [name])) e with
      | true =>
        have hfile := isFile_eq_false_of_isSubfolder hfolder hsub
        refine .ok (fun q hq hasked => ?_) ?_
        · rw [List.mem_singleton.mp hq, Asked, hsub] at hasked
          cases hasked.1
        · rw [List.map_singleton, List.filter_eq_nil_iff.mpr (by simp [Picked, hfile])]
          exact gathers_nil d root
      | false =>
        refine Walked.of_not_keeps (List.forall_mem_singleton.mpr fun hkept => ?_)
        obtain ⟨hignores, hreads⟩ := hkeeps.mp hkept
        simp [hsub, hignores, hreads] at hout
    · next hin =>
      simp only [Bool.not_eq_true, Bool.or_eq_false_iff, Bool.not_eq_false'] at hin
      obtain ⟨⟨hsub, hignores⟩, hreads⟩ := hin
      have hkept := hkeeps.mpr ⟨hignores, hreads⟩
      cases hprobe : d.probe (pathOf root (above ++ [name])) with
      | error f => exact .error (List.mem_singleton_self _) ⟨hsub, hkept⟩ hprobe
      | ok found =>
        have hwalked := walked_of_probe (e := e) hkept hprobe
        cases found with
        | none => exact hwalked
        | some e' => cases e' <;> exact hwalked

theorem walked_collectFiles (hnames : ∀ p ∈ entries, IsComponent p.1) :
    Walked d policy root ((entries.filter fun p => !p.2.isFolder).map fun p => (above ++ [p.1], p.2))
      (collectFiles d policy (pathOf root above) (joinComponents above) entries) := by
  induction entries with
  | nil => exact .nil d policy root
  | cons p entries ih =>
    have hfirst : Walked d policy root _ _ := walked_collectFile habove (e := p.2) (hnames p List.mem_cons_self)
    have hboth := hfirst.append (ih fun p hp => hnames p (List.mem_cons_of_mem _ hp))
    rw [collectFiles]
    cases hfolder : p.2.isFolder <;> simpa [hfolder] using hboth

end

theorem walkSubfolders_cons (d : Disk) (policy : Policy) (folder prefixName name : Text) (e : Entry)
    (entries : List (Text × Entry)) :
    walkSubfolders d policy folder prefixName ((name, e) :: entries) =
      (if e.isFolder && !policy.ignores (entryName prefixName name) true then
        walk d policy (entryPath folder name) (entryName prefixName name) e else .ok {}) >>= fun first =>
      walkSubfolders d policy folder prefixName entries >>= fun others => pure (first ++ others) := by
  rw [walkSubfolders]
  split <;> rfl

/-- Leaves, by the names behind those of their folder. -/
def behind (above : List Text) (leaves : List (List Text × Entry)) : List (List Text × Entry) :=
  leaves.map fun q => (above ++ q.1, q.2)

theorem behind_nil (leaves : List (List Text × Entry)) : behind [] leaves = leaves := List.map_id leaves

/-- Below a folder that is left out the policy keeps nothing. -/
theorem not_keeps_behind (hname : IsComponent name)
    (hout : e.isFolder = true → policy.ignores (joinComponents (above ++ [name])) true = true) {path : Text} :
    ∀ q ∈ behind (above ++ [name]) (d.leaves path e), ¬policy.Keeps q.1 := by
  cases hfolder : e.isFolder with
  | false =>
    rw [Disk.leaves_eq_nil hfolder]
    exact List.forall_mem_nil _
  | true =>
    intro q hq
    obtain ⟨leaf, hleaf, rfl⟩ := List.mem_map.mp hq
    rw [List.append_assoc, List.singleton_append]
    exact Policy.not_keeps_of_ignores hname (hout hfolder) (Disk.ne_nil_of_mem_leaves hleaf)

/-- The subfolders among the entries of a folder, given how the walk of each ends. -/
theorem walked_walkSubfolders (habove : ∀ c ∈ above, IsComponent c ∧ c ∉ policy.ignoredNames)
    (hnames : ∀ p ∈ entries, IsComponent p.1)
    (hwalk : ∀ p ∈ entries, ∀ above, (∀ c ∈ above, IsComponent c ∧ c ∉ policy.ignoredNames) →
      Walked d policy root (behind above (d.leaves (pathOf root above) p.2))
        (walk d policy (pathOf root above) (joinComponents above) p.2)) :
    Walked d policy root (behind above (d.leavesBelow (pathOf root above) entries))
      (walkSubfolders d policy (pathOf root above) (joinComponents above) entries) := by
  induction entries with
  | nil => exact .nil d policy root
  | cons p entries ih =>
    obtain ⟨name, e⟩ := p
    have hname : IsComponent name := hnames _ List.mem_cons_self
    have hrest := ih (fun p hp => hnames p (List.mem_cons_of_mem _ hp)) fun p hp => hwalk p (List.mem_cons_of_mem _ hp)
    have hsplit : behind above (d.leavesBelow (pathOf root above) ((name, e) :: entries)) =
        behind (above ++ [name]) (d.leaves (pathOf root (above ++ [name])) e) ++
          behind above (d.leavesBelow (pathOf root above) entries) := by
      simp [behind, Disk.leavesBelow, pathOf_concat]
    rw [hsplit, walkSubfolders_cons, ← pathOf_concat, entryName_joinComponents fun c hc => (habove c hc).1]
    refine Walked.append ?_ hrest
    split
    · next hentered =>
      -- the walk goes on one name further down, which the policy leaves in
      rw [Bool.and_eq_true, Bool.not_eq_true'] at hentered
      have hnotMem := Policy.notMem_of_ignores_eq_false hname hentered.2
      refine hwalk _ List.mem_cons_self _ fun c hc => ?_
      rcases List.mem_append.mp hc with hc | hc
      · exact habove c hc
      · rw [List.mem_singleton.mp hc]
        exact ⟨hname, hnotMem⟩
    · next hout => exact .of_not_keeps (not_keeps_behind hname fun hfolder => by simpa [hfolder] using hout)

/-- **A walk gathers the leaves that are picked**, or breaks off with the fault of a leaf that it asks for. -/
theorem walked_walk (ht : t.Proper) (habove : ∀ c ∈ above, IsComponent c ∧ c ∉ policy.ignoredNames) :
    Walked d policy root (behind above (d.leaves (pathOf root above) t))
      (walk d policy (pathOf root above) (joinComponents above) t) := by
  induction ht generalizing above with
  | file => exact .nil d policy root
  | link => exact .nil d policy root
  | @folder entries access hnames _ _ ih =>
    have hcomponents : ∀ p ∈ entries, IsComponent p.1 := fun p hp => (hnames p hp).1
    rw [Disk.leaves, walk]
    split
    · rw [behind, List.map_append, List.map_map]
      exact (walked_collectFiles habove hcomponents).append
        (walked_walkSubfolders habove hcomponents fun p hp above => ih p hp)
    · exact .ok (List.forall_mem_nil _) ⟨rfl, rfl⟩

/-- How the walk of a whole tree ends. -/
theorem walked_tree (d : Disk) (policy : Policy) (root : Text) (ht : t.Proper) :
    Walked d policy root (d.leaves root t) (walk d policy (pathOf root []) (joinComponents []) t) := by
  have hwalked : Walked d policy root (behind [] (d.leaves (pathOf root []) t)) _ :=
    walked_walk ht (List.forall_mem_nil _)
  rwa [behind_nil] at hwalked

/-- The files of a walk that does not break off. -/
theorem gathers_walk (ht : t.Proper) (h : walk d policy (pathOf root []) (joinComponents []) t = .ok c) :
    Gathers d root (((d.leaves root t).map Prod.fst).filter fun names => Picked d policy root names) c := by
  have hwalked := walked_tree d policy root ht
  rw [h] at hwalked
  cases hwalked with
  | ok _ hgathers => exact hgathers

/-- **A walk does not break off exactly if everything that it asks for is answered.** -/
theorem exists_walk_eq_ok_iff (ht : t.Proper) :
    (∃ c, walk d policy (pathOf root []) (joinComponents []) t = .ok c) ↔
      ∀ q ∈ d.leaves root t, Asked d policy root q → ∃ found, d.probe (pathOf root q.1) = .ok found := by
  have hwalked := walked_tree d policy root ht
  cases hwalk : walk d policy (pathOf root []) (joinComponents []) t with
  | ok c =>
    rw [hwalk] at hwalked
    cases hwalked with
    | ok hanswered _ => exact ⟨fun _ => hanswered, fun _ => ⟨c, rfl⟩⟩
  | error f =>
    rw [hwalk] at hwalked
    cases hwalked with
    | error hmem hasked hfault =>
      refine ⟨(nomatch ·.choose_spec), fun hanswered => ?_⟩
      obtain ⟨found, hprobe⟩ := hanswered _ hmem hasked
      rw [hfault] at hprobe
      cases hprobe

/-! ## What is collected -/

/-- A scan ends if its path leads to a folder and the walk of the folder ends. -/
theorem collect_eq_ok_iff : collect d root policy = .ok c ↔ ∃ entries access,
    d.entry? (Path.absolute d.here root) = .ok (.folder entries access) ∧
      walk d policy (Path.absolute d.here root) [] (.folder entries access) = .ok c := by
  simp only [collect, ← Disk.probe_eq_some_iff]
  split
  · next fault hprobe => simp [hprobe]
  · next entries access hprobe =>
    simp only [hprobe, Except.ok.injEq, Option.some.injEq, Entry.folder.injEq]
    split <;> simp_all
  · next hprobe => simp_all

/-- A scan that ends is a walk of what is at its path. -/
theorem walk_of_collect (h : collect d root policy = .ok c) :
    ∃ tree, d.entry? (Path.absolute d.here root) = .ok tree ∧
      walk d policy (pathOf (Path.absolute d.here root) []) (joinComponents []) tree = .ok c := by
  obtain ⟨entries, access, hentry, hwalk⟩ := collect_eq_ok_iff.mp h
  exact ⟨.folder entries access, hentry, hwalk⟩

/-- What is collected on a proper disk are files at distinct names below the folder, which the policy keeps. -/
theorem gathers_of_collect (hdisk : d.root.Proper) (h : collect d root policy = .ok c) :
    ∃ found : List (List Text), found.Nodup ∧ (∀ names ∈ found, ∀ name ∈ names, IsComponent name) ∧
      (∀ names ∈ found, policy.Keeps names) ∧ Gathers d (Path.absolute d.here root) found c := by
  obtain ⟨tree, hentry, hwalk⟩ := walk_of_collect h
  have ht : tree.Proper := Disk.proper_of_leads hdisk hentry
  refine ⟨_, ?_, ?_, ?_, gathers_walk ht hwalk⟩
  · exact (Disk.nodup_leaves ht).sublist List.filter_sublist
  · intro names hnames name hname
    obtain ⟨q, hq, rfl⟩ := List.mem_map.mp (List.mem_of_mem_filter hnames)
    exact (((Disk.mem_leaves_iff ht).mp hq).isEntryName ht name hname).1
  · intro names hnames
    have hpicked : Picked d policy (Path.absolute d.here root) names := by
      simpa using (List.mem_filter.mp hnames).2
    exact hpicked.1

/-- What is read off the records are the values for the names of those files that have one. -/
theorem map_filterMap_record {α : Type} {get : SourceFile → α} {value : List Text → α}
    (h : ∀ names file, record d root names = some file → get file = value names) (found : List (List Text)) :
    (found.filterMap (record d root)).map get = (found.filter fun names => (record d root names).isSome).map value := by
  induction found with
  | nil => rfl
  | cons names found ih =>
    cases hrecord : record d root names with
    | none => simp [hrecord, ih]
    | some file => simp [hrecord, ih, h names file hrecord]

theorem path_name_of_record {file : SourceFile} (h : record d root names = some file) :
    file.path = pathOf root names ∧ file.name = joinComponents names := by
  unfold record at h
  split at h
  · obtain ⟨text, -, rfl⟩ := Option.map_eq_some_iff.mp h
    exact ⟨rfl, rfl⟩
  · cases h

/-- **Every file that is collected is one that the policy keeps**, at the path that its names lead to. -/
theorem keeps_of_collect {file : SourceFile} (hdisk : d.root.Proper) (h : collect d root policy = .ok c)
    (hfile : file ∈ c.files) : ∃ names, (∀ name ∈ names, IsComponent name) ∧ policy.Keeps names ∧
      file.path = pathOf (Path.absolute d.here root) names ∧ file.name = joinComponents names := by
  obtain ⟨found, -, hnames, hkeeps, hgathers⟩ := gathers_of_collect hdisk h
  rw [hgathers.files] at hfile
  obtain ⟨names, hmem, hrecord⟩ := List.mem_filterMap.mp hfile
  exact ⟨names, hnames names hmem, hkeeps names hmem, path_name_of_record hrecord⟩

/-- Values for names that differ where the names do are distinct for the files that are collected. -/
theorem nodup_files {α : Type} {get : SourceFile → α} {value : List Text → α} (h : Gathers d root found c)
    (hfound : found.Nodup) (hget : ∀ names file, record d root names = some file → get file = value names)
    (hvalue : ∀ names ∈ found, ∀ names' ∈ found, value names = value names' → names = names') :
    (c.files.map get).Nodup := by
  rw [h.files, map_filterMap_record hget]
  refine (hfound.sublist List.filter_sublist).map_on ?_
  intro names hnames names' hnames' heq
  exact hvalue names (List.mem_of_mem_filter hnames) names' (List.mem_of_mem_filter hnames') heq

/-- **The files that are collected have distinct names, distinct paths, and paths in normal form.** -/
theorem distinct_of_collect (hhere : Path.isAbsolute d.here = true) (hdisk : d.root.Proper)
    (h : collect d root policy = .ok c) :
    (c.files.map (·.name)).Nodup ∧ (c.files.map (·.path)).Nodup ∧
      ∀ file ∈ c.files, Path.absolute d.here file.path = file.path := by
  obtain ⟨found, hfound, hnames, -, hgathers⟩ := gathers_of_collect hdisk h
  obtain ⟨slashes, cs, hroot, hcs, heq⟩ := Path.exists_rooted hhere root
  -- all paths are that of the folder with the names behind it, so they differ where the names do
  have hpath : ∀ names ∈ found, pathOf (Path.absolute d.here root) names = Path.rooted slashes (cs ++ names) := by
    intro names hmem
    rw [heq]
    exact Path.foldl_join_rooted hroot (hnames names hmem) hcs
  have hbelow : ∀ names ∈ found, ∀ c ∈ cs ++ names, IsComponent c := by
    intro names hmem c hc
    rcases List.mem_append.mp hc with hc | hc
    · exact hcs c hc
    · exact hnames names hmem c hc
  refine ⟨?_, ?_, ?_⟩
  · refine nodup_files hgathers hfound (fun names file hrecord => (path_name_of_record hrecord).2) ?_
    intro names hmem names' hmem' hjoin
    exact Path.joinComponents_injective (hnames names hmem) (hnames names' hmem') hjoin
  · refine nodup_files hgathers hfound (fun names file hrecord => (path_name_of_record hrecord).1) ?_
    intro names hmem names' hmem' hpaths
    rw [hpath names hmem, hpath names' hmem'] at hpaths
    exact List.append_cancel_left (Path.rooted_injective hroot (hbelow names hmem) (hbelow names' hmem') hpaths)
  · intro file hfile
    rw [hgathers.files] at hfile
    obtain ⟨names, hmem, hrecord⟩ := List.mem_filterMap.mp hfile
    rw [(path_name_of_record hrecord).1, hpath names hmem]
    exact Path.absolute_rooted _ hroot (hbelow names hmem)

end ImportChart.Scan
