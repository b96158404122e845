import ImportChart.Proofs.Backbone.Order
import Mathlib.Data.List.Dedup

/-!
# Repeated imports in the backbone

An import that is repeated is pending as often as it is released, so that a file becomes free at the last import of it
that its last importer has. Which files become free in a turn, and in which order, is therefore told by the last of the
equal imports.

- `release_eq_filter`, `Drained.freed_eq`: the files that become free in a turn, in the order of their last imports;
- `SameTargets`: two graphs with the same files and, of each file, the same last imports;
- `SameTargets.drain_eq`: on two such graphs the loop goes through the same queues;
- `backbone_pruned`: so the backbone stays when earlier repetitions and imports of packages are left out.
-/

namespace ImportChart

/-- The edges without the imports of files that come again later, and without the imports of packages. -/
def lastImports : List Edge → List Edge
  | [] => []
  | e :: es =>
    if e.kind = .external ∨ e.kind = .imports ∧ e ∈ es then lastImports es else e :: lastImports es

namespace Graph

variable {g g' : Graph} {done queue : List Text} {pending pending' : Tally} {id src dst : Text}

/-- A graph with the last of equal imports only, and without the imports of packages. -/
def pruned (g : Graph) : Graph := { g with edges := lastImports g.edges }

/-! ## The files that become free in a turn -/

theorem mem_successors_iff : dst ∈ g.successors src ↔ g.Imports src dst := by
  simp only [successors, List.mem_map, List.mem_filter, decide_eq_true_eq, Imports, and_assoc]

/-- **A file becomes free at its last place among those that are released**, if nothing more is pending of it. -/
theorem release_eq_filter : ∀ {pending : Tally} {ids : List Text},
    (∀ other, ids.count other ≤ pending.count other) →
      (release pending ids).2 = ids.dedup.filter fun id => pending.count id = ids.count id
  | _, [], _ => rfl
  | pending, x :: ids, h => by
    have hx := h x
    rw [List.count_cons_self] at hx
    have hrest : (release (pending.decrement x) ids).2 =
        ids.dedup.filter fun id => pending.count id = (x :: ids).count id := by
      rw [release_eq_filter (count_le_decrement h)]
      refine List.filter_congr fun id _ => decide_eq_decide.mpr ?_
      rw [Tally.count_decrement]
      by_cases hid : id = x
      · subst hid
        rw [if_pos rfl, List.count_cons_self]
        omega
      · rw [if_neg hid, List.count_cons_of_ne (Ne.symm hid), Nat.sub_zero]
    rw [release_cons, hrest]
    by_cases hmem : x ∈ ids
    · -- more imports of the file are to be released
      have hpositive := List.count_pos_iff.mpr hmem
      have hmore : pending.count x ≠ 1 := by omega
      rw [List.dedup_cons_of_mem hmem]
      exact if_neg hmore
    · rw [List.dedup_cons_of_notMem hmem, List.filter_cons, List.count_cons_self, List.count_eq_zero_of_not_mem hmem]
      simp

/-- **A turn frees the files that are imported and whose importers are then all listed**, in the order of the last
imports of them. -/
theorem Drained.freed_eq (h : g.Drained done (id :: queue) pending) :
    (release pending (g.successors id)).2 = (g.successors id).dedup.filter fun other =>
      (g.importEdges.countP fun e => e.dst = other ∧ e.src ∉ done ++ [id]) = 0 := by
  rw [release_eq_filter h.count_successors_le]
  refine List.filter_congr fun other _ => decide_eq_decide.mpr ?_
  rw [h.pending_eq other]
  omega

/-! ## Two graphs with the same last imports -/

/-- Two graphs with the same files that agree in the last of equal imports of each file. -/
structure SameTargets (g g' : Graph) : Prop where
  fileIds_eq : g.fileIds = g'.fileIds
  dedup_eq : ∀ id, (g.successors id).dedup = (g'.successors id).dedup

namespace SameTargets

theorem imports_iff (h : g.SameTargets g') : g.Imports src dst ↔ g'.Imports src dst := by
  rw [← mem_successors_iff, ← mem_successors_iff, ← List.mem_dedup, h.dedup_eq, List.mem_dedup]

theorem joined (h : g.SameTargets g') (hg : g.Joined) : g'.Joined where
  nodup := h.fileIds_eq ▸ hg.nodup
  src_mem e he := h.fileIds_eq ▸ (hg.mem_of_imports (h.imports_iff.mpr ⟨e, he, rfl, rfl⟩)).1
  dst_mem e he := h.fileIds_eq ▸ (hg.mem_of_imports (h.imports_iff.mpr ⟨e, he, rfl, rfl⟩)).2

/-- In both graphs the same files have all their importers listed. -/
theorem countP_eq_zero_iff (h : g.SameTargets g') (done : List Text) (id : Text) :
    (g.importEdges.countP fun e => e.dst = id ∧ e.src ∉ done) = 0 ↔
      (g'.importEdges.countP fun e => e.dst = id ∧ e.src ∉ done) = 0 := by
  rw [Graph.countP_eq_zero_iff, Graph.countP_eq_zero_iff]
  exact forall_congr' fun src => imp_congr_left h.imports_iff

/-- **One turn frees the same files in the same order.** -/
theorem freed_eq (h : g.SameTargets g') (hleft : g.Drained done (id :: queue) pending)
    (hright : g'.Drained done (id :: queue) pending') :
    (release pending (g.successors id)).2 = (release pending' (g'.successors id)).2 := by
  rw [hleft.freed_eq, hright.freed_eq, h.dedup_eq]
  exact List.filter_congr fun other _ => decide_eq_decide.mpr (h.countP_eq_zero_iff (done ++ [id]) other)

/-- **The loop goes through the same queues on both graphs**, if each run has fuel for the files that are left. -/
theorem drain_eq (h : g.SameTargets g') (hg : g.Joined) : ∀ (fuel fuel' : Nat) {done queue : List Text}
    {pending pending' : Tally}, g.Drained done queue pending → g'.Drained done queue pending' →
      g.files.length ≤ fuel + done.length → g'.files.length ≤ fuel' + done.length →
        g.drain fuel pending queue = g'.drain fuel' pending' queue
  | fuel, fuel', _, [], _, _, _, _, _, _ => by cases fuel <;> cases fuel' <;> rfl
  | 0, _, _, _ :: _, _, _, hleft, _, hfuel, _ => by
    have hlength := hleft.length_le
    rw [List.length_cons] at hlength
    omega
  | _, 0, _, _ :: _, _, _, _, hright, _, hfuel' => by
    have hlength := hright.length_le
    rw [List.length_cons] at hlength
    omega
  | fuel + 1, fuel' + 1, done, id :: queue, pending, pending', hleft, hright, hfuel, hfuel' => by
    have hstep' := hright.step (h.joined hg)
    rw [← h.freed_eq hleft hright] at hstep'
    have hrest := drain_eq h hg fuel fuel' (hleft.step hg) hstep' (by simp; omega) (by simp; omega)
    have hturn : g'.drain (fuel' + 1) pending' (id :: queue) = id :: g'.drain fuel'
        (release pending' (g'.successors id)).1 (queue ++ (release pending' (g'.successors id)).2) := rfl
    rw [hturn, ← h.freed_eq hleft hright, ← hrest]
    rfl

theorem freed_eq_freed (h : g.SameTargets g') (hg : g.Joined) : g.freed = g'.freed := by
  have hleft := hg.drained
  have hright := (h.joined hg).drained
  have hqueue : (g.fileIds.filter fun id => g.indegrees.count id == 0) =
      g'.fileIds.filter fun id => g'.indegrees.count id == 0 := by
    rw [← h.fileIds_eq]
    refine List.filter_congr fun id _ => Bool.eq_iff_iff.mpr ?_
    rw [beq_iff_eq, beq_iff_eq, hleft.count_eq, hright.count_eq]
    exact h.countP_eq_zero_iff [] id
  rw [← hqueue] at hright
  have hruns := h.drain_eq hg (g.files.length + g.edges.length) (g'.files.length + g'.edges.length) hleft hright
    (by simp) (by simp)
  exact hruns.trans (congrArg (g'.drain _ _) hqueue)

/-- **The backbone depends on the last of equal imports only.** -/
theorem backbone_eq (h : g.SameTargets g') (hg : g.Joined) : g.backbone = g'.backbone := by
  rw [hg.backbone_eq_ok, (h.joined hg).backbone_eq_ok, h.freed_eq_freed hg, h.fileIds_eq]

end SameTargets

/-! ## Leaving out repetitions -/

/-- The files that a file imports by the edges of a list, once for each import. -/
def targets (es : List Edge) (id : Text) : List Text :=
  ((es.filter (·.kind == .imports)).filter (·.src = id)).map Edge.dst

theorem targets_cons_of_imports (dst : Text) (es : List Edge) (id : Text) :
    targets (⟨id, dst, .imports⟩ :: es) id = dst :: targets es id := by
  simp [targets]

theorem targets_cons_of_ne {e : Edge} (h : ¬(e.kind = .imports ∧ e.src = id)) (es : List Edge) :
    targets (e :: es) id = targets es id := by
  by_cases hkind : e.kind = .imports
  · have hsrc : e.src ≠ id := fun hsrc => h ⟨hkind, hsrc⟩
    simp [targets, hkind, hsrc]
  · simp [targets, hkind]

theorem mem_targets_iff {es : List Edge} : dst ∈ targets es src ↔ ⟨src, dst, .imports⟩ ∈ es := by
  simp only [targets, List.mem_map, List.mem_filter, beq_iff_eq, decide_eq_true_eq]
  constructor
  · rintro ⟨⟨src, dst, kind⟩, ⟨⟨he, rfl⟩, rfl⟩, rfl⟩
    exact he
  · intro he
    exact ⟨_, ⟨⟨he, rfl⟩, rfl⟩, rfl⟩

/-- **Of equal imports the last one is left.** -/
theorem targets_lastImports (es : List Edge) (id : Text) : targets (lastImports es) id = (targets es id).dedup := by
  induction es with
  | nil => rfl
  | cons e es ih =>
    by_cases himport : e.kind = .imports ∧ e.src = id
    · obtain ⟨src, dst, kind⟩ := e
      obtain ⟨rfl, rfl⟩ := himport
      rw [targets_cons_of_imports]
      by_cases hlater : ⟨src, dst, .imports⟩ ∈ es
      · rw [lastImports, if_pos (Or.inr ⟨rfl, hlater⟩), ih, List.dedup_cons_of_mem (mem_targets_iff.mpr hlater)]
      · rw [lastImports, if_neg (by simp [hlater]), targets_cons_of_imports, ih,
          List.dedup_cons_of_notMem (mt mem_targets_iff.mp hlater)]
    · rw [targets_cons_of_ne himport, lastImports]
      split
      · exact ih
      · rw [targets_cons_of_ne himport, ih]

theorem sameTargets_pruned (g : Graph) : g.SameTargets g.pruned where
  fileIds_eq := rfl
  dedup_eq id := by
    have hlast : g.pruned.successors id = (g.successors id).dedup := targets_lastImports g.edges id
    rw [hlast, List.dedup_idem]

/-- **Repetitions do not disturb the backbone**: it stays when every import that comes again later is left out, and
every import of a package. -/
theorem backbone_pruned (hg : g.Joined) : ∃ order, g.backbone = .ok order ∧ g.pruned.backbone = .ok order :=
  ⟨_, hg.backbone_eq_ok, (g.sameTargets_pruned.backbone_eq hg).symm.trans hg.backbone_eq_ok⟩

/-- A file that imports one file before and behind another one, a file that imports itself twice, and a package. -/
def repeated : Graph where
  files := (["e", "d", "c", "b", "a"] : List Text).map fun id => ⟨id, id, .file, none⟩
  edges := [⟨"a", "c", .imports⟩, ⟨"d", "d", .imports⟩, ⟨"a", "ext_p", .external⟩, ⟨"a", "b", .imports⟩,
    ⟨"d", "e", .imports⟩, ⟨"a", "c", .imports⟩, ⟨"d", "d", .imports⟩]

/-- In `repeated` the file that is imported twice comes behind the other one, with and without the repetition. -/
theorem backbone_pruned_repeated :
    repeated.Joined ∧
      repeated.pruned.edges =
        [⟨"a", "b", .imports⟩, ⟨"d", "e", .imports⟩, ⟨"a", "c", .imports⟩, ⟨"d", "d", .imports⟩] ∧
      repeated.backbone = .ok ["a", "b", "c", "e", "d"] ∧
      ∃ order, repeated.backbone = .ok order ∧ repeated.pruned.backbone = .ok order := by
  have hg : repeated.Joined := ⟨by decide, by decide, by decide⟩
  exact ⟨hg, by decide, rfl, backbone_pruned hg⟩

end Graph

end ImportChart
