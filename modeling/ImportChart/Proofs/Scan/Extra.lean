import ImportChart.Proofs.Scan.Flat

/-!
# Leaving out more is a filter

Patterns that are added to a policy are looked for in the paths of folders as well as of files. What they take away from
a scan are only the files with one of them in their own paths, whatever the patterns are.

- `Policy.keeps_withExtraIgnores_iff`: what is kept under more patterns;
- `exists_walk_withExtraIgnores`: more patterns do not break off a walk;
- `files_of_walk`: the records of both walks;
- `collect_withExtraIgnores`: the scan under more patterns is a filter of the scan.
-/

namespace ImportChart.Scan

open Path (IsComponent joinComponents)

variable {d : Disk} {policy policy' : Policy} {root name pattern : Text} {names extra : List Text} {c c' : Collection}
  {t e : Entry} {entries : List (Text × Entry)}

/-! ## Patterns that are added -/

/-- One of the patterns is part of a path from the scanned folder. The empty pattern does not count. -/
def Meets (extra : List Text) (path : Text) : Prop := ∃ pattern ∈ extra, pattern ≠ [] ∧ pattern <:+: '/' :: path

instance (extra : List Text) (path : Text) : Decidable (Meets extra path) :=
  inferInstanceAs (Decidable (∃ pattern ∈ extra, _))

namespace Policy

theorem mem_newPatterns_iff :
    pattern ∈ policy.newPatterns extra ↔ pattern ∈ extra ∧ pattern ≠ [] ∧ pattern ∉ policy.ignorePatterns := by
  simp [newPatterns]

theorem mem_withExtraIgnores_iff : pattern ∈ (policy.withExtraIgnores extra).ignorePatterns ↔
    pattern ∈ policy.ignorePatterns ∨ pattern ∈ extra ∧ pattern ≠ [] := by
  rw [withExtraIgnores, List.mem_append, mem_newPatterns_iff]
  tauto

/-- The second time nothing is new. -/
theorem withExtraIgnores_withExtraIgnores (policy : Policy) (extra : List Text) :
    (policy.withExtraIgnores extra).withExtraIgnores extra = policy.withExtraIgnores extra := by
  have hnone : (policy.withExtraIgnores extra).newPatterns extra = [] := by
    rw [List.eq_nil_iff_forall_not_mem]
    intro pattern hpattern
    obtain ⟨hmem, hne, hnew⟩ := mem_newPatterns_iff.mp hpattern
    exact hnew (mem_withExtraIgnores_iff.mpr (Or.inr ⟨hmem, hne⟩))
  rw [withExtraIgnores, hnone, List.append_nil]

/-- **Under more patterns a file is kept if it is kept without them, and none of them is part of its path.** -/
theorem keeps_withExtraIgnores_iff : (policy.withExtraIgnores extra).Keeps names ↔
    policy.Keeps names ∧ ¬Meets extra (joinComponents names) := by
  have hpatterns : (∀ pattern ∈ (policy.withExtraIgnores extra).ignorePatterns,
      ¬pattern <:+: '/' :: joinComponents names) ↔
        (∀ pattern ∈ policy.ignorePatterns, ¬pattern <:+: '/' :: joinComponents names) ∧
          ¬Meets extra (joinComponents names) := by
    simp only [mem_withExtraIgnores_iff, or_imp, forall_and, Meets, not_exists, not_and, and_imp]
  have hrest : (policy.withExtraIgnores extra).Keeps names ↔
      (∀ pattern ∈ (policy.withExtraIgnores extra).ignorePatterns, ¬pattern <:+: '/' :: joinComponents names) ∧
        (∀ name ∈ names, name ∉ policy.ignoredNames) ∧ joinComponents names ∉ policy.rootFiles ∧
        policy.reads (Path.baseName (joinComponents names)) = true := Iff.rfl
  rw [hrest, hpatterns, Keeps]
  tauto

end Policy

/-- **A walk that does not break off does not break off under more patterns**, as it asks for less. -/
theorem exists_walk_withExtraIgnores (ht : t.Proper) (extra : List Text)
    (h : walk d policy (pathOf root []) (joinComponents []) t = .ok c) :
    ∃ c', walk d (policy.withExtraIgnores extra) (pathOf root []) (joinComponents []) t = .ok c' := by
  rw [exists_walk_eq_ok_iff ht]
  intro q hq hasked
  exact (exists_walk_eq_ok_iff ht).mp ⟨c, h⟩ q hq ⟨hasked.1, (Policy.keeps_withExtraIgnores_iff.mp hasked.2).1⟩

/-! ## Two scans -/

/-- A test of names from the scanned folder is a test of records. -/
theorem filterMap_record_filter (test : Text → Bool) (found : List (List Text)) :
    (found.filter fun names => test (joinComponents names)).filterMap (record d root) =
      (found.filterMap (record d root)).filter fun file => test file.name := by
  induction found with
  | nil => rfl
  | cons names found ih =>
    cases hrecord : record d root names with
    | none => cases htest : test (joinComponents names) <;> simp [hrecord, htest, ih]
    | some file =>
      have hname := (path_name_of_record hrecord).2
      cases htest : test (joinComponents names) <;> simp [hrecord, htest, hname, ih]

theorem filter_picked_withExtraIgnores (found : List (List Text)) :
    (found.filter fun names => Picked d (policy.withExtraIgnores extra) root names) =
      (found.filter fun names => Picked d policy root names).filter fun names =>
        ¬Meets extra (joinComponents names) := by
  rw [List.filter_filter]
  refine List.filter_congr fun names _ => ?_
  rw [← Bool.decide_and, decide_eq_decide, Picked, Picked, Policy.keeps_withExtraIgnores_iff]
  tauto

/-- **The records of a walk under more patterns** are those of the walk whose paths hold none of them. -/
theorem files_of_walk (ht : t.Proper) (h : walk d policy (pathOf root []) (joinComponents []) t = .ok c)
    (h' : walk d (policy.withExtraIgnores extra) (pathOf root []) (joinComponents []) t = .ok c') :
    c'.files = c.files.filter fun file => ¬Meets extra file.name := by
  rw [(gathers_walk ht h').files, (gathers_walk ht h).files, filter_picked_withExtraIgnores]
  exact filterMap_record_filter (fun path => decide ¬Meets extra path) _

/-- Whether a path leads to a folder does not depend on the policy. -/
theorem collect_eq_notFolder_iff (policy policy' : Policy) {path : Text} :
    collect d root policy = .error (.notFolder path) ↔ collect d root policy' = .error (.notFolder path) := by
  simp only [collect]
  split
  · rfl
  · split <;> split <;> simp
  · rfl

/-- **Ignoring more only filters**: a scan that ends under a policy ends under the policy with more patterns, with the
same records in the same order but for those whose paths hold one of the patterns. A folder that can be scanned is such
a case exactly if all that the policy keeps is answered, and no pattern makes a folder of what is none. The second time
the same patterns change nothing. -/
theorem collect_withExtraIgnores (hdisk : d.root.Proper) (root : Text) (policy : Policy) (extra : List Text) :
    (∀ c, collect d root policy = .ok c → ∃ c', collect d root (policy.withExtraIgnores extra) = .ok c' ∧
      c'.files = c.files.filter fun file => ¬Meets extra file.name) ∧
    (∀ tree, Scannable d root tree →
      ((∃ c, collect d root policy = .ok c) ↔ Answered d policy (Path.absolute d.here root) tree)) ∧
    (∀ path, collect d root policy = .error (.notFolder path) ↔
      collect d root (policy.withExtraIgnores extra) = .error (.notFolder path)) ∧
    (policy.withExtraIgnores extra).withExtraIgnores extra = policy.withExtraIgnores extra := by
  refine ⟨fun c h => ?_, fun tree htree => exists_collect_eq_ok_iff htree policy, fun path =>
    collect_eq_notFolder_iff _ _, policy.withExtraIgnores_withExtraIgnores extra⟩
  obtain ⟨entries, access, hentry, hwalk⟩ := collect_eq_ok_iff.mp h
  have ht : (Entry.folder entries access).Proper := Disk.proper_of_leads hdisk hentry
  obtain ⟨c', hwalk'⟩ := exists_walk_withExtraIgnores ht extra hwalk
  exact ⟨c', collect_eq_ok_iff.mpr ⟨entries, access, hentry, hwalk'⟩, files_of_walk ht hwalk hwalk'⟩

theorem proper_mixedDisk : mixedDisk.root.Proper :=
  .folder (by decide) (by decide) (List.forall_mem_singleton.mpr proper_mixedFolder)

/-- More patterns in a folder of every kind of entry: one that crosses a slash, one that is there already, and an empty
one. -/
theorem collect_withExtraIgnores_mixed : mixedDisk.root.Proper ∧
    (¬Meets ["rc/b", "/.git/", ""] "a.ts" ∧ Meets ["rc/b", "/.git/", ""] "src/b.ts") ∧
    ∃ c c', collect mixedDisk "p" {} = .ok c ∧
      collect mixedDisk "p" (Policy.withExtraIgnores {} ["rc/b", "/.git/", ""]) = .ok c' ∧
      c'.files = c.files.filter fun file => ¬Meets ["rc/b", "/.git/", ""] file.name := by
  obtain ⟨hfilter, hends, -⟩ := collect_withExtraIgnores proper_mixedDisk "p" {} ["rc/b", "/.git/", ""]
  obtain ⟨c, hcollect⟩ := (hends mixedFolder scannable_mixedFolder).mpr (answered_mixedFolder {})
  obtain ⟨c', hcollect', hfiles⟩ := hfilter c hcollect
  exact ⟨proper_mixedDisk, by decide +kernel, c, c', hcollect, hcollect', hfiles⟩

end ImportChart.Scan
