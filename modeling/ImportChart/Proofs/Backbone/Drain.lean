import ImportChart.Graph.Backbone
import Mathlib.Data.List.Nodup
import Mathlib.Data.List.Perm.Subperm

/-!
# Draining the queue of free files

The loop of the backbone takes a file from the queue, lists it and releases what it imports. `Drained` is the
invariant of the loop: what is pending of a file are the imports from files that are not yet listed, and the files
that are listed or queued are those of which nothing is pending.

- `count_release`, `mem_release`: what releasing one import of each file of a list does;
- `Drained.step`: one turn of the loop keeps the invariant;
- `Drained.drain`: with as much fuel as there are files, the loop keeps it until the queue is empty;
- `drained_freed`: so it holds of the files that are free at some time.
-/

namespace ImportChart.Graph

variable {g : Graph} {done queue : List Text} {pending : Tally} {id : Text}

/-- A file imports a file. -/
def Imports (g : Graph) (src dst : Text) : Prop := ∃ e ∈ g.importEdges, e.src = src ∧ e.dst = dst

/-- Identifiers of files are distinct, and imports only join files. -/
structure Joined (g : Graph) : Prop where
  nodup : g.fileIds.Nodup
  src_mem : ∀ e ∈ g.importEdges, e.src ∈ g.fileIds
  dst_mem : ∀ e ∈ g.importEdges, e.dst ∈ g.fileIds

/-- Every file of a list comes behind all files that import it. -/
def ImportersFirst (g : Graph) (order : List Text) : Prop :=
  ∀ before id after, order = before ++ id :: after → ∀ src, g.Imports src id → src ∈ before

/-! ## Counting -/

/-- A tally of the ends of edges counts the edges. -/
theorem count_foldl_increment (f : Edge → Text) (key : Text) (es : List Edge) (t : Tally) :
    (es.foldl (fun t e => t.increment (f e)) t).count key = t.count key + es.countP (fun e => f e = key) := by
  induction es generalizing t with
  | nil => simp
  | cons e es ih =>
    rw [List.foldl_cons, ih, Tally.count_increment, List.countP_cons]
    simp only [decide_eq_true_eq, eq_comm (a := key)]
    omega

/-- At the beginning, what is pending of a file are all imports of it. -/
theorem count_indegrees (g : Graph) (id : Text) : g.indegrees.count id = g.importEdges.countP fun e => e.dst = id := by
  rw [indegrees, count_foldl_increment]
  simp [Tally.count]

/-- A file is among the successors of another once for each import. -/
theorem count_successors (g : Graph) (src dst : Text) :
    (g.successors src).count dst = g.importEdges.countP fun e => e.dst = dst ∧ e.src = src := by
  rw [successors, List.count_eq_countP, List.countP_map, List.countP_filter]
  exact List.countP_congr fun e _ => by simp

theorem Joined.mem_of_imports (hg : g.Joined) {src dst : Text} (h : g.Imports src dst) :
    src ∈ g.fileIds ∧ dst ∈ g.fileIds := by
  obtain ⟨e, he, rfl, rfl⟩ := h
  exact ⟨hg.src_mem e he, hg.dst_mem e he⟩

theorem Joined.mem_of_mem_successors (hg : g.Joined) {src dst : Text} (h : dst ∈ g.successors src) :
    dst ∈ g.fileIds := by
  obtain ⟨e, he, rfl⟩ := List.mem_map.mp h
  exact hg.dst_mem e (List.mem_filter.mp he).1

/-! ## Releasing imports -/

/-- The first release of a list frees its file if that was the last import pending of it. -/
theorem release_cons (pending : Tally) (id : Text) (ids : List Text) :
    release pending (id :: ids) =
      ((release (pending.decrement id) ids).1,
        if pending.count id = 1 then id :: (release (pending.decrement id) ids).2
        else (release (pending.decrement id) ids).2) := rfl

theorem count_release (pending : Tally) (ids : List Text) (other : Text) :
    (release pending ids).1.count other = pending.count other - ids.count other := by
  induction ids generalizing pending with
  | nil => simp [release]
  | cons id ids ih =>
    rw [release_cons, ih, Tally.count_decrement, List.count_cons]
    simp only [beq_iff_eq, eq_comm (a := other)]
    omega

/-- After the first release of a list, the others still have as much pending as they take. -/
theorem count_le_decrement {ids : List Text} (h : ∀ other, (id :: ids).count other ≤ pending.count other)
    (other : Text) : ids.count other ≤ (pending.decrement id).count other := by
  have hother := h other
  rw [List.count_cons] at hother
  rw [Tally.count_decrement]
  simp only [beq_iff_eq, eq_comm (b := other)] at hother
  omega

/-- **A file becomes free exactly if all imports that are pending of it are released.** -/
theorem mem_release : ∀ {pending : Tally} {ids : List Text}, (∀ other, ids.count other ≤ pending.count other) →
    ∀ id, id ∈ (release pending ids).2 ↔ id ∈ ids ∧ pending.count id = ids.count id
  | _, [], _, id => by simp [release]
  | pending, x :: ids, h, id => by
    have ih := mem_release (count_le_decrement h) id
    rw [Tally.count_decrement] at ih
    have hx := h x
    rw [List.count_cons_self] at hx
    rw [release_cons]
    by_cases hid : id = x
    · subst hid
      rw [if_pos rfl] at ih
      rw [List.count_cons_self]
      dsimp only
      split
      · simp only [List.mem_cons_self, true_and, true_iff]
        omega
      · next hone =>
        rw [ih, ← List.count_pos_iff]
        simp only [List.mem_cons_self, true_and]
        omega
    · rw [if_neg hid] at ih
      rw [List.count_cons_of_ne (Ne.symm hid)]
      dsimp only
      split <;> simp [hid, ih]

theorem nodup_release : ∀ {pending : Tally} {ids : List Text}, (∀ other, ids.count other ≤ pending.count other) →
    (release pending ids).2.Nodup
  | _, [], _ => List.nodup_nil
  | pending, x :: ids, h => by
    have ih := nodup_release (count_le_decrement h)
    rw [release_cons]
    dsimp only
    split
    · next hone =>
      refine List.nodup_cons.mpr ⟨fun hmem => ?_, ih⟩
      have hin := ((mem_release (count_le_decrement h) x).1 hmem).1
      have hx := h x
      rw [List.count_cons_self, hone] at hx
      have := List.count_pos_iff.mpr hin
      omega
    · exact ih

/-! ## The loop -/

/-- The invariant of the loop. -/
structure Drained (g : Graph) (done queue : List Text) (pending : Tally) : Prop where
  nodup : (done ++ queue).Nodup
  mem_iff : ∀ id, id ∈ done ++ queue ↔ id ∈ g.fileIds ∧ pending.count id = 0
  count_eq : ∀ id, pending.count id = g.importEdges.countP fun e => e.dst = id ∧ e.src ∉ done
  importersFirst : g.ImportersFirst done

/-- The imports of a file from files that are not listed, before and after one more file is listed. -/
theorem countP_notMem_append (es : List Edge) (h : id ∉ done) (dst : Text) :
    es.countP (fun e => e.dst = dst ∧ e.src ∉ done) =
      es.countP (fun e => e.dst = dst ∧ e.src ∉ done ++ [id]) + es.countP (fun e => e.dst = dst ∧ e.src = id) := by
  induction es with
  | nil => rfl
  | cons e es ih =>
    simp only [List.countP_cons, ih, decide_eq_true_eq, List.mem_append, List.mem_singleton]
    by_cases hdst : e.dst = dst <;> by_cases hdone : e.src ∈ done <;> by_cases hid : e.src = id <;>
      simp_all <;> omega

/-- Nothing is pending of a file exactly if all files that import it are listed. -/
theorem countP_eq_zero_iff (done : List Text) (id : Text) :
    (g.importEdges.countP fun e => e.dst = id ∧ e.src ∉ done) = 0 ↔ ∀ src, g.Imports src id → src ∈ done := by
  simp only [List.countP_eq_zero, decide_eq_true_eq, not_and, not_not]
  refine ⟨fun h src ⟨e, he, hsrc, hdst⟩ => hsrc ▸ h e he hdst, fun h e he hdst => h e.src ⟨e, he, rfl, hdst⟩⟩

/-- A list with importers first goes on with a file whose importers are all listed. -/
theorem ImportersFirst.snoc (h : g.ImportersFirst done) (hid : ∀ src, g.Imports src id → src ∈ done) :
    g.ImportersFirst (done ++ [id]) := by
  intro before other after heq src hsrc
  rcases List.append_eq_append_iff.mp heq with ⟨mid, rfl, hmid⟩ | ⟨mid, rfl, hmid⟩
  · cases mid with
    | nil =>
      obtain ⟨rfl, -⟩ := List.cons.inj hmid
      exact List.mem_append_left _ (hid src hsrc)
    | cons _ _ => simp at hmid
  · cases mid with
    | nil =>
      obtain ⟨rfl, -⟩ := List.cons.inj hmid
      simpa using hid src hsrc
    | cons x mid =>
      obtain ⟨rfl, -⟩ := List.cons.inj hmid
      exact h before other mid rfl src hsrc

theorem Drained.notMem_done (h : g.Drained done (id :: queue) pending) : id ∉ done := by
  intro hmem
  exact (List.disjoint_of_nodup_append h.nodup) hmem List.mem_cons_self

/-- What is pending of a file is what stays pending of it, and what the next file of the queue releases. -/
theorem Drained.pending_eq (h : g.Drained done (id :: queue) pending) (other : Text) : pending.count other =
    (g.importEdges.countP fun e => e.dst = other ∧ e.src ∉ done ++ [id]) + (g.successors id).count other := by
  rw [h.count_eq, count_successors, countP_notMem_append _ h.notMem_done]

/-- The next file of the queue releases no more than is pending. -/
theorem Drained.count_successors_le (h : g.Drained done (id :: queue) pending) (other : Text) :
    (g.successors id).count other ≤ pending.count other := by
  rw [h.pending_eq other]
  omega

/-- What is pending of a file after one turn. -/
theorem Drained.pending_step (h : g.Drained done (id :: queue) pending) (other : Text) :
    (release pending (g.successors id)).1.count other =
      g.importEdges.countP fun e => e.dst = other ∧ e.src ∉ done ++ [id] := by
  rw [count_release, h.pending_eq other]
  omega

/-- One turn frees the files that are imported and of which nothing is pending any more. -/
theorem Drained.mem_freed_step (h : g.Drained done (id :: queue) pending) (other : Text) :
    other ∈ (release pending (g.successors id)).2 ↔
      other ∈ g.successors id ∧ (release pending (g.successors id)).1.count other = 0 := by
  have hle := h.count_successors_le other
  rw [mem_release h.count_successors_le, count_release]
  refine and_congr_right fun _ => ?_
  omega

/-- **One turn of the loop keeps the invariant.** -/
theorem Drained.step (hg : g.Joined) (h : g.Drained done (id :: queue) pending) :
    g.Drained (done ++ [id]) (queue ++ (release pending (g.successors id)).2)
      (release pending (g.successors id)).1 := by
  have hle := h.count_successors_le
  have hlists : done ++ [id] ++ (queue ++ (release pending (g.successors id)).2) =
      (done ++ id :: queue) ++ (release pending (g.successors id)).2 := by simp
  refine ⟨?_, fun other => ?_, h.pending_step, ?_⟩
  · rw [hlists]
    refine List.nodup_append.mpr ⟨h.nodup, nodup_release hle, fun old hold new hnew heq => ?_⟩
    -- of a file that becomes free now something was pending before
    subst heq
    have hzero := ((h.mem_iff old).mp hold).2
    obtain ⟨hsucc, heq⟩ := (mem_release hle old).mp hnew
    have := List.count_pos_iff.mpr hsucc
    omega
  · rw [hlists, List.mem_append, h.mem_iff, h.mem_freed_step]
    constructor
    · rintro (⟨hfile, hzero⟩ | ⟨hsucc, hzero⟩)
      · exact ⟨hfile, by rw [count_release]; omega⟩
      · exact ⟨hg.mem_of_mem_successors hsucc, hzero⟩
    · rintro ⟨hfile, hzero⟩
      by_cases hpending : pending.count other = 0
      · exact Or.inl ⟨hfile, hpending⟩
      · refine Or.inr ⟨List.count_pos_iff.mp ?_, hzero⟩
        rw [count_release] at hzero
        omega
  · have hzero := ((h.mem_iff id).mp (List.mem_append_right _ List.mem_cons_self)).2
    rw [h.count_eq] at hzero
    exact h.importersFirst.snoc ((countP_eq_zero_iff done id).mp hzero)

theorem Drained.length_le (h : g.Drained done queue pending) : done.length + queue.length ≤ g.files.length := by
  have hsub : done ++ queue ⊆ g.fileIds := fun id hid => ((h.mem_iff id).1 hid).1
  have hlen := (List.subperm_of_subset h.nodup hsub).length_le
  simpa [fileIds] using hlen

/-- **The loop ends with an empty queue**, if it has as much fuel as there are files to be listed. -/
theorem Drained.drain (hg : g.Joined) : ∀ (fuel : Nat) {done queue : List Text} {pending : Tally},
    g.Drained done queue pending → g.files.length ≤ fuel + done.length →
      ∃ pending', g.Drained (done ++ g.drain fuel pending queue) [] pending'
  | fuel, done, [], pending, h, _ => by
    have hnil : g.drain fuel pending [] = [] := by cases fuel <;> rfl
    exact ⟨pending, by rw [hnil, List.append_nil]; exact h⟩
  | 0, done, id :: queue, pending, h, hfuel => by
    have := h.length_le
    simp only [List.length_cons] at this
    omega
  | fuel + 1, done, id :: queue, pending, h, hfuel => by
    have hstep := h.step hg
    obtain ⟨pending', hend⟩ := Drained.drain hg fuel hstep (by simp; omega)
    refine ⟨pending', ?_⟩
    simpa [Graph.drain] using hend

/-- At the beginning the queue holds the files that no file imports. -/
theorem Joined.drained (hg : g.Joined) :
    g.Drained [] (g.fileIds.filter fun id => g.indegrees.count id == 0) g.indegrees where
  nodup := hg.nodup.filter _
  mem_iff id := by simp
  count_eq id := by
    rw [count_indegrees]
    exact List.countP_congr fun e _ => by simp
  importersFirst before id after h := by simp at h

/-- **The invariant holds of the files that are free at some time, with nothing left in the queue.** -/
theorem Joined.drained_freed (hg : g.Joined) : ∃ pending, g.Drained g.freed [] pending := by
  have hfuel : g.files.length ≤ g.files.length + g.edges.length + ([] : List Text).length := by simp
  exact Drained.drain hg _ hg.drained hfuel

end ImportChart.Graph
