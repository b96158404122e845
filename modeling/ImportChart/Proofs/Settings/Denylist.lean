import ImportChart.Proofs.Scan.Flat
import ImportChart.Proofs.Settings.Kept
import ImportChart.Proofs.Settings.Loading

/-!
# The built-in denylist

The settings say what a scan leaves out and reads. They add to what is left out always, and take nothing away.

- `mem_policy_of_scanRules`: the patterns that are asked for are in force beside the built-in ones;
- `Undenied`: the denylist says nothing of a file; this is so for what the policy of any rules keeps
  (`ScanRules.undenied_of_keeps`), and for every file of every scan (`collect_undenied`).
-/

namespace ImportChart.Settings

open Document (Value Entries)
open Path (IsRoot IsComponent joinComponents rooted)

variable {d tree : Disk} {home : Home} {extra names : List Text} {rules : ScanRules} {pattern root : Text}
  {c : Scan.Collection}

/-! ## Patterns -/

/-- If all patterns are texts, none of them is lost. -/
theorem ScanRules.mem_textsBefore {values : List Value} (h : (textsBefore values).length = values.length) {t : Text}
    (ht : Value.text t ∈ values) : t ∈ textsBefore values := by
  induction values with
  | nil => cases ht
  | cons first rest ih =>
    cases first with
    | text first =>
      rw [textsBefore, List.mem_cons]
      rcases List.mem_cons.mp ht with heq | ht
      · exact Or.inl (Value.text.inj heq)
      · exact Or.inr (ih (by simpa [textsBefore] using h) ht)
    | _ => simp [textsBefore] at h

/-- A pattern that is asked for is a built-in one, or is among the others. -/
theorem mem_extraPatterns (hrules : scanRules d home extra = .ok rules) (hmem : pattern ∈ extra) (hne : pattern ≠ []) :
    pattern ∈ Scan.builtinPatterns ∨ Value.text pattern ∈ rules.extraPatterns := by
  obtain ⟨settings, -, hrules⟩ := exists_of_bind_eq_ok hrules
  obtain ⟨items, -, hrules⟩ := exists_of_bind_eq_ok hrules
  obtain ⟨extensions, -, hrules⟩ := exists_of_bind_eq_ok hrules
  obtain ⟨patterns, -, hrules⟩ := exists_of_bind_eq_ok hrules
  by_cases hbuiltin : pattern ∈ Scan.builtinPatterns
  · exact Or.inl hbuiltin
  · right
    rw [← Except.ok.inj hrules, List.mem_filter]
    refine ⟨List.mem_append_right _ (List.mem_map_of_mem hmem), ?_⟩
    simp [isNewPattern, hne, hbuiltin]

/-- **The patterns that are asked for are in force**, beside the built-in ones. -/
theorem mem_policy_of_scanRules (hrules : scanRules d home extra = .ok rules) (husable : rules.isUsable = true)
    (hmem : pattern ∈ extra) (hne : pattern ≠ []) : pattern ∈ rules.policy.ignorePatterns := by
  have hall : (ScanRules.textsBefore rules.extraPatterns).length = rules.extraPatterns.length := by
    simpa [ScanRules.isUsable] using husable
  rcases mem_extraPatterns hrules hmem hne with hbuiltin | hextra
  · exact List.mem_append_left _ hbuiltin
  · exact List.mem_append_right _ (ScanRules.mem_textsBefore hall hextra)

/-! ## Files -/

/-- The built-in denylist says nothing of a file, given by its path from the scanned folder. -/
structure Undenied (name : Text) : Prop where
  /-- No part of the path is the name of the file with secrets. -/
  no_secret : (".env" : Text) ∉ Path.components name
  /-- No built-in pattern is part of the path with a slash before it. -/
  no_pattern : ∀ pattern ∈ Scan.builtinPatterns, ¬pattern <:+: '/' :: name
  /-- It is none of the files that are written into the scanned folder. -/
  no_output : name ∉ Scan.outputFiles

/-- **What the policy of any rules keeps is not denied.** -/
theorem ScanRules.undenied_of_keeps (hnames : ∀ name ∈ names, IsComponent name) (h : rules.policy.Keeps names) :
    Undenied (joinComponents names) where
  no_secret hmem := by
    rw [Path.components_joinComponents hnames] at hmem
    exact h.2.1 _ hmem (List.mem_singleton_self _)
  no_pattern pattern hpattern := h.1 pattern (List.mem_append_left _ hpattern)
  no_output := h.2.2.1

/-- **No settings switch off the built-in denylist**: whatever they hold, and whatever more patterns are asked for, a
scan by the rules in effect collects no file that the denylist names. The name of the file with secrets is in the path
of a file only if it is in the path of the scanned folder. If all patterns are texts, those asked for are in force as
well. -/
theorem collect_undenied (hhere : Path.isAbsolute tree.here = true) (htree : tree.root.Proper)
    (hrules : scanRules d home extra = .ok rules) (hcollect : Scan.collect tree root rules.policy = .ok c) :
    ∀ file ∈ c.files, Undenied file.name ∧
      Path.components file.path =
        Path.components (Path.absolute tree.here root) ++ Path.components file.name ∧
      (rules.isUsable = true → ∀ pattern ∈ extra, pattern ≠ [] → ¬pattern <:+: '/' :: file.name) := by
  intro file hfile
  obtain ⟨names, hnames, hkeeps, hpath, hname⟩ := Scan.keeps_of_collect htree hcollect hfile
  obtain ⟨slashes, cs, hs, hcs, hroot⟩ := Path.exists_rooted hhere root
  have hbelow : ∀ c ∈ cs ++ names, IsComponent c := by
    intro c hc
    rcases List.mem_append.mp hc with hc | hc
    · exact hcs c hc
    · exact hnames c hc
  rw [hname]
  refine ⟨ScanRules.undenied_of_keeps hnames hkeeps, ?_, fun husable pattern hmem hne => ?_⟩
  · have hjoined : file.path = rooted slashes (cs ++ names) := by
      rw [hpath, hroot]
      exact Path.foldl_join_rooted hs hnames hcs
    rw [hjoined, hroot, Path.components_rooted hs hbelow, Path.components_rooted hs hcs,
      Path.components_joinComponents hnames]
  · exact hkeeps.1 pattern (mem_policy_of_scanRules hrules husable hmem hne)

/-- Settings with a value of another kind than its setting asks for. -/
def looseSections : List (Text × Entries) :=
  [(Setting.scanGroup, [(Setting.extraIgnores.name, .list [.text "secret"]),
    (Setting.includeExtensionless.name, .integer 2)])]

/-- The disk with these settings. -/
def looseDisk : Disk := homeDisk (some (Utf8.encode (Document.unlines (Document.documentLines looseSections))))

/-- The rules of these settings with one more pattern. -/
def looseRules : ScanRules := ⟨[.text "secret", .text "vault"], Scan.textExtensions, true⟩

theorem keeps_looseSections : homeOfDisk.Keeps looseDisk looseSections where
  simple := by
    refine ⟨by decide, List.forall_mem_singleton.mpr (isWord_group .extraIgnores), List.forall_mem_singleton.mpr
      ⟨by decide, ?_, ?_⟩⟩
    · exact List.forall_mem_cons.mpr ⟨isWord_name .extraIgnores,
        List.forall_mem_singleton.mpr (isWord_name .includeExtensionless)⟩
    · have hpatterns : Document.IsSimple (.list [.text "secret"]) := @Document.IsSimple.list ["secret"] (by decide)
      exact List.forall_mem_cons.mpr ⟨hpatterns, List.forall_mem_singleton.mpr (.integer (by decide) (by decide))⟩
  stored := Or.inr (isReady_homeDisk _)

theorem scanRules_looseDisk : scanRules looseDisk homeOfDisk ["vault"] = .ok looseRules := by
  rw [scanRules, group, keeps_looseSections.load]
  rfl

/-- A scan by these settings, with one more pattern. -/
theorem collect_undenied_loose : ∃ c, scanRules looseDisk homeOfDisk ["vault"] = .ok looseRules ∧
    Path.isAbsolute Scan.mixedDisk.here = true ∧ Scan.mixedDisk.root.Proper ∧
    Scan.collect Scan.mixedDisk "p" looseRules.policy = .ok c ∧ ∀ file ∈ c.files, Undenied file.name ∧
      Path.components file.path =
        Path.components (Path.absolute Scan.mixedDisk.here "p") ++ Path.components file.name ∧
      (looseRules.isUsable = true → ∀ pattern ∈ (["vault"] : List Text), pattern ≠ [] →
        ¬pattern <:+: '/' :: file.name) := by
  have htree : Scan.mixedDisk.root.Proper :=
    .folder (by decide) (by decide) (List.forall_mem_singleton.mpr Scan.proper_mixedFolder)
  obtain ⟨c, hcollect⟩ :=
    (Scan.exists_collect_eq_ok_iff Scan.scannable_mixedFolder looseRules.policy).mpr (Scan.answered_mixedFolder _)
  exact ⟨c, scanRules_looseDisk, rfl, htree, hcollect, collect_undenied rfl htree scanRules_looseDisk hcollect⟩

end ImportChart.Settings
