import ImportChart.Proofs.Ident.Allocation
import Mathlib.Data.List.Induction

/-!
# Clashes do not depend on the order of requests

An allocator records a clash when the preferred identifier of a new pair is taken. Which pairs clash, and how many,
depends on the order in which they are asked for, but whether any do does not.

- `exists_collisions_run`: a run adds clashes of what it is asked for;
- `collisions_run_eq_nil_iff`: a fresh allocator records no clash exactly if no two pairs prefer one identifier;
- `get?_run_of_collisions_eq_nil`: then every pair has the identifier that it prefers.
-/

namespace ImportChart.Ident.Allocator

variable {κ : Type} [DecidableEq κ] {a : Allocator κ} {kind : κ} {label : Text} {steps : List (κ × Text)}

/-- Every pair has the identifier that it prefers. -/
def AllPreferred (a : Allocator κ) : Prop := ∀ p ∈ a.assigned, p.2 = preferred p.1.2

/-! ## One request -/

/-- One request only adds to the clashes, and what it adds are clashes of its own label. -/
theorem exists_collisions_allocate (a : Allocator κ) (kind : κ) (label : Text) :
    ∃ recorded, (a.allocate kind label).2.collisions = a.collisions ++ recorded ∧ ∀ c ∈ recorded, c.label = label := by
  cases h : a.get? kind label with
  | some ident => exact ⟨[], by simp [allocate_of_get? h], by simp⟩
  | none =>
    cases hholder : a.holder? (preferred label) with
    | none => exact ⟨[], by simp [allocate_of_free h hholder, assign], by simp⟩
    | some holder => exact ⟨_, by rw [allocate_of_taken h hholder], by simp⟩

/-- A request that adds no clash gives a new pair the identifier that it prefers. -/
theorem AllPreferred.allocate (ha : a.AllPreferred) (h : (a.allocate kind label).2.collisions = a.collisions) :
    (a.allocate kind label).2.AllPreferred := by
  cases hget : a.get? kind label with
  | some ident => rw [allocate_of_get? hget]; exact ha
  | none =>
    cases hholder : a.holder? (preferred label) with
    | none =>
      rw [allocate_of_free hget hholder]
      intro p hp
      rcases List.mem_append.mp hp with hp | hp
      · exact ha p hp
      · rw [List.mem_singleton.mp hp]
    | some holder =>
      rw [allocate_of_taken hget hholder] at h
      simp at h

/-! ## Runs -/

/-- A run only adds to the clashes, and what it adds are clashes of what it is asked for. -/
theorem exists_collisions_run (a : Allocator κ) (steps : List (κ × Text)) :
    ∃ recorded, (a.run steps).2.collisions = a.collisions ++ recorded ∧
      ∀ c ∈ recorded, ∃ step ∈ steps, c.label = step.2 := by
  induction steps generalizing a with
  | nil => exact ⟨[], (List.append_nil _).symm, by simp⟩
  | cons step steps ih =>
    obtain ⟨first, hfirst, hlabel⟩ := exists_collisions_allocate a step.1 step.2
    obtain ⟨rest, hrest, hlabels⟩ := ih (a.allocate step.1 step.2).2
    refine ⟨first ++ rest, ?_, ?_⟩
    · rw [← List.append_assoc, ← hfirst]
      exact hrest
    · intro c hc
      rcases List.mem_append.mp hc with hc | hc
      · exact ⟨step, List.mem_cons_self, hlabel c hc⟩
      · obtain ⟨later, hlater, hc⟩ := hlabels c hc
        exact ⟨later, List.mem_cons_of_mem _ hlater, hc⟩

/-- A run that adds no clash keeps to the identifiers that are preferred. -/
theorem AllPreferred.run : ∀ {a : Allocator κ} {steps : List (κ × Text)}, a.AllPreferred →
    (a.run steps).2.collisions = a.collisions → (a.run steps).2.AllPreferred
  | _, [], ha, _ => ha
  | a, (kind, label) :: steps, ha, h => by
    obtain ⟨first, hfirst, -⟩ := exists_collisions_allocate a kind label
    obtain ⟨rest, hrest, -⟩ := exists_collisions_run (a.allocate kind label).2 steps
    have hend : (((a.allocate kind label).2).run steps).2.collisions = a.collisions := h
    have hnone : first = [] ∧ rest = [] := by
      rw [hend, hfirst] at hrest
      simpa using hrest
    rw [hnone.1, List.append_nil] at hfirst
    have hrun : ((a.allocate kind label).2.run steps).2.AllPreferred :=
      AllPreferred.run (ha.allocate hfirst) (hend.trans hfirst.symm)
    exact hrun

/-- A fresh allocator assigns nothing but what it is asked for. -/
theorem mem_of_mem_keys_run {key : κ × Text} (h : key ∈ (({} : Allocator κ).run steps).2.assigned.map (·.1)) :
    key ∈ steps := by
  obtain ⟨p, hp, rfl⟩ := List.mem_map.mp h
  exact (List.of_mem_zip (((mem_assigned_run _ _).mp hp).resolve_left (by simp))).1

/-- Without clashes every pair that is asked for has the identifier that it prefers. -/
theorem get?_run_of_collisions_eq_nil (h : (({} : Allocator κ).run steps).2.collisions = []) {step : κ × Text}
    (hstep : step ∈ steps) : (({} : Allocator κ).run steps).2.get? step.1 step.2 = some (preferred step.2) := by
  have hall : (({} : Allocator κ).run steps).2.AllPreferred := AllPreferred.run (by simp [AllPreferred]) h
  obtain ⟨ident, hident⟩ := exists_get?_run ({} : Allocator κ) hstep
  have hpreferred : ident = preferred step.2 := hall _ (mem_of_lookup_eq_some hident)
  rw [hident, hpreferred]

/-- A new pair that prefers another identifier than all pairs so far does not clash. -/
theorem collisions_allocate_of_ne (hc : a.Consistent) (ha : a.AllPreferred)
    (h : ∀ key ∈ a.assigned.map (·.1), preferred key.2 = preferred label → key = (kind, label)) :
    (a.allocate kind label).2.collisions = a.collisions := by
  cases hget : a.get? kind label with
  | some ident => rw [allocate_of_get? hget]
  | none =>
    have hfree : a.holder? (preferred label) = none := by
      refine hc.holder?_eq_none_iff.mpr fun hmem => ?_
      obtain ⟨p, hp, hident⟩ := List.mem_map.mp hmem
      have hkey := h p.1 (List.mem_map_of_mem hp) (by rw [← ha p hp, hident])
      exact lookup_eq_none_iff_notMem.mp hget (hkey ▸ List.mem_map_of_mem hp)
    rw [allocate_of_free hget hfree]
    rfl

/-- **A fresh allocator records no clash exactly if no two of the pairs prefer one identifier**, in whatever order they
are asked for. -/
theorem collisions_run_eq_nil_iff (steps : List (κ × Text)) : (({} : Allocator κ).run steps).2.collisions = [] ↔
    ∀ p ∈ steps, ∀ q ∈ steps, preferred p.2 = preferred q.2 → p = q := by
  constructor
  · intro h p hp q hq heq
    rw [← get?_run_eq_iff consistent_empty hp, get?_run_of_collisions_eq_nil h hp, get?_run_of_collisions_eq_nil h hq,
      heq]
  · intro h
    induction steps using List.reverseRecOn with
    | nil => rfl
    | append_singleton done step ih =>
      have hdone : (({} : Allocator κ).run done).2.collisions = [] :=
        ih fun p hp q hq => h p (List.mem_append_left _ hp) q (List.mem_append_left _ hq)
      have hall : (({} : Allocator κ).run done).2.AllPreferred := AllPreferred.run (by simp [AllPreferred]) hdone
      have hstep : ((({} : Allocator κ).run done).2.allocate step.1 step.2).2.collisions =
          (({} : Allocator κ).run done).2.collisions := by
        refine collisions_allocate_of_ne (consistent_run consistent_empty done) hall fun key hkey hpreferred => ?_
        exact h key (List.mem_append_left _ (mem_of_mem_keys_run hkey)) step (by simp) hpreferred
      rw [run_append]
      exact hstep.trans hdone

end ImportChart.Ident.Allocator
