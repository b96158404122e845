import ImportChart.Ident.Allocator
import ImportChart.Keyed
import Mathlib.Data.List.Nodup
import Mathlib.Data.List.Perm.Subperm
import Mathlib.Data.Option.Basic

/-!
# Allocated identifiers stay and are distinct

- `Consistent`: every pair and every identifier occurs once, and the holders are read off the assigned pairs; one
  request keeps this (`consistent_allocate`), and so does a run of requests (`consistent_run`);
- `holder?_freeNumber`: the search for a number at the end of an identifier succeeds, for among one more number than
  there are identifiers one is free;
- `map_some_run`: the answers of a run are what the allocator at its end gives for the requests, and nothing else is
  assigned (`mem_assigned_run`);
- two answers of a run are equal exactly if their requests are (`get?_run_eq_iff`).
-/

namespace ImportChart.Ident.Allocator

variable {κ : Type} [DecidableEq κ] {a : Allocator κ} {kind : κ} {label word ident : Text}

/-- Ask for the identifiers of a list of pairs, one after the other. -/
def run (a : Allocator κ) : List (κ × Text) → List Text × Allocator κ
  | [] => ([], a)
  | (kind, label) :: steps =>
    let (ident, a) := a.allocate kind label
    let (idents, a) := run a steps
    (ident :: idents, a)

/-- Every pair and every identifier occurs once, and the holders are those of the assigned pairs. -/
structure Consistent (a : Allocator κ) : Prop where
  holders_eq : a.holders = a.assigned.map fun p => (p.2, p.1.2)
  keys_nodup : (a.assigned.map (·.1)).Nodup
  idents_nodup : (a.assigned.map (·.2)).Nodup

omit [DecidableEq κ] in
/-- The identifiers that are held are those that are assigned. -/
theorem Consistent.holder?_eq_none_iff (hc : a.Consistent) :
    a.holder? ident = none ↔ ident ∉ a.assigned.map (·.2) := by
  rw [holder?, lookup_eq_none_iff_notMem, hc.holders_eq, List.map_map]
  rfl

omit [DecidableEq κ] in
theorem Consistent.exists_of_holder? (hc : a.Consistent) {holder : Text} (h : a.holder? ident = some holder) :
    ∃ kind, ((kind, holder), ident) ∈ a.assigned := by
  have hmem := mem_of_lookup_eq_some h
  rw [hc.holders_eq] at hmem
  obtain ⟨⟨⟨kind, label⟩, other⟩, hp, heq⟩ := List.mem_map.mp hmem
  obtain ⟨rfl, rfl⟩ := Prod.mk.inj heq
  exact ⟨kind, hp⟩

/-! ## The number at the end of an identifier -/

theorem numbered_injective (word : Text) : Function.Injective (numbered word) := by
  intro m n h
  have htail := List.append_cancel_left h
  exact Text.ofNat_inj.mp (List.cons.inj htail).2

omit [DecidableEq κ] in
/-- **The number that is found makes the identifier free.** -/
theorem holder?_freeNumber (a : Allocator κ) (word : Text) :
    a.holder? (numbered word (a.freeNumber word)) = none := by
  unfold freeNumber
  cases h : (List.range' 2 (a.holders.length + 1)).find? fun n => (a.holder? (numbered word n)).isNone with
  | some n =>
    have hn := List.find?_some h
    exact Option.isNone_iff_eq_none.mp hn
  | none =>
    -- all the candidates would be taken, and there are more of them than holders
    have hsub : (List.range' 2 (a.holders.length + 1)).map (numbered word) ⊆ a.holders.map (·.1) := by
      intro ident hmem
      obtain ⟨n, hn, rfl⟩ := List.mem_map.mp hmem
      have htaken := List.find?_eq_none.mp h n hn
      by_contra hfree
      exact htaken (Option.isNone_iff_eq_none.mpr (lookup_eq_none_iff_notMem.mpr hfree))
    have hnodup : ((List.range' 2 (a.holders.length + 1)).map (numbered word)).Nodup :=
      (List.nodup_range' ..).map (numbered_injective word)
    have hlen := (List.subperm_of_subset hnodup hsub).length_le
    simp only [List.length_map, List.length_range'] at hlen
    omega

/-! ## One request -/

/-- A pair that has an identifier keeps it. -/
theorem allocate_of_get? (h : a.get? kind label = some ident) : a.allocate kind label = (ident, a) := by
  simp only [allocate, h]

/-- A new pair whose preferred identifier is free gets it. -/
theorem allocate_of_free (h : a.get? kind label = none) (hfree : a.holder? (preferred label) = none) :
    a.allocate kind label = (preferred label, a.assign kind label (preferred label)) := by
  simp only [allocate, h, hfree]

/-- A new pair whose preferred identifier is taken gets it with a number, and the clash is recorded. -/
theorem allocate_of_taken {holder : Text} (h : a.get? kind label = none)
    (htaken : a.holder? (preferred label) = some holder) :
    a.allocate kind label =
      let ident := numbered (preferred label) (a.freeNumber (preferred label))
      (ident, { a.assign kind label ident with
        collisions := a.collisions ++ [⟨label, holder, preferred label, ident⟩] }) := by
  simp only [allocate, h, htaken]

/-- **What a request does for a new pair**: it gets an identifier that nobody holds. -/
theorem allocate_new (h : a.get? kind label = none) :
    ∃ ident, a.holder? ident = none ∧ (a.allocate kind label).1 = ident ∧
      (a.allocate kind label).2.assigned = a.assigned ++ [((kind, label), ident)] ∧
      (a.allocate kind label).2.holders = a.holders ++ [(ident, label)] := by
  cases hw : a.holder? (preferred label) with
  | none =>
    rw [allocate_of_free h hw]
    exact ⟨_, hw, rfl, rfl, rfl⟩
  | some holder =>
    rw [allocate_of_taken h hw]
    exact ⟨_, holder?_freeNumber a _, rfl, rfl, rfl⟩

/-- One request only adds to what is assigned. -/
theorem prefix_allocate (a : Allocator κ) (kind : κ) (label : Text) :
    a.assigned <+: (a.allocate kind label).2.assigned := by
  cases h : a.get? kind label with
  | some ident => exact ⟨[], by rw [allocate_of_get? h, List.append_nil]⟩
  | none =>
    obtain ⟨ident, -, -, hassigned, -⟩ := allocate_new h
    rw [hassigned]
    exact List.prefix_append _ _

/-- After a request the pair has the identifier that was the answer. -/
theorem get?_allocate (a : Allocator κ) (kind : κ) (label : Text) :
    (a.allocate kind label).2.get? kind label = some (a.allocate kind label).1 := by
  cases h : a.get? kind label with
  | some ident => rw [allocate_of_get? h, h]
  | none =>
    obtain ⟨ident, -, hident, hassigned, -⟩ := allocate_new h
    rw [get?] at h ⊢
    rw [hassigned, hident, List.lookup_append, h]
    simp

/-- One request assigns its answer to its pair. -/
theorem mem_assigned_allocate {p : (κ × Text) × Text} : p ∈ (a.allocate kind label).2.assigned ↔
    p ∈ a.assigned ∨ p = ((kind, label), (a.allocate kind label).1) := by
  cases hget : a.get? kind label with
  | some ident =>
    rw [allocate_of_get? hget]
    exact ⟨Or.inl, fun h => h.elim id fun heq => heq ▸ mem_of_lookup_eq_some hget⟩
  | none =>
    obtain ⟨ident, -, hident, hassigned, -⟩ := allocate_new hget
    rw [hassigned, hident, List.mem_append, List.mem_singleton]

theorem consistent_allocate (hc : a.Consistent) (kind : κ) (label : Text) :
    (a.allocate kind label).2.Consistent := by
  cases h : a.get? kind label with
  | some ident => rw [allocate_of_get? h]; exact hc
  | none =>
    obtain ⟨ident, hfree, -, hassigned, hholders⟩ := allocate_new h
    have hkey : (kind, label) ∉ a.assigned.map (·.1) := lookup_eq_none_iff_notMem.mp h
    have hident : ident ∉ a.assigned.map (·.2) := hc.holder?_eq_none_iff.mp hfree
    refine ⟨?_, ?_, ?_⟩
    · rw [hholders, hassigned, hc.holders_eq]
      simp
    · rw [hassigned, List.map_append, List.map_singleton, ← List.concat_eq_append]
      exact hc.keys_nodup.concat hkey
    · rw [hassigned, List.map_append, List.map_singleton, ← List.concat_eq_append]
      exact hc.idents_nodup.concat hident

/-! ## Runs -/

omit [DecidableEq κ] in
theorem consistent_empty : (({} : Allocator κ)).Consistent := ⟨rfl, List.nodup_nil, List.nodup_nil⟩

theorem consistent_run : ∀ {a : Allocator κ}, a.Consistent → ∀ steps, (a.run steps).2.Consistent
  | _, hc, [] => hc
  | _, hc, (kind, label) :: steps => consistent_run (consistent_allocate hc kind label) steps

theorem prefix_run (a : Allocator κ) : ∀ steps, a.assigned <+: (a.run steps).2.assigned
  | [] => List.prefix_refl _
  | (kind, label) :: steps => (prefix_allocate a kind label).trans (prefix_run _ steps)

theorem get?_run_of_get? (steps : List (κ × Text)) (h : a.get? kind label = some ident) :
    (a.run steps).2.get? kind label = some ident :=
  (prefix_run a steps).lookup_eq_some h

theorem length_run (a : Allocator κ) (steps : List (κ × Text)) : (a.run steps).1.length = steps.length := by
  induction steps generalizing a with
  | nil => rfl
  | cons step steps ih => simp only [run, List.length_cons, ih]

/-- A run assigns its answers to its requests. -/
theorem mem_assigned_run {p : (κ × Text) × Text} : ∀ (a : Allocator κ) (steps : List (κ × Text)),
    p ∈ (a.run steps).2.assigned ↔ p ∈ a.assigned ∨ p ∈ steps.zip (a.run steps).1
  | _, [] => by simp [run]
  | a, (kind, label) :: steps => by
    have hrest := mem_assigned_run (p := p) (a.allocate kind label).2 steps
    rw [mem_assigned_allocate, or_assoc] at hrest
    rw [run, List.zip_cons_cons, List.mem_cons]
    exact hrest

theorem run_append (a : Allocator κ) (steps later : List (κ × Text)) :
    a.run (steps ++ later) =
      ((a.run steps).1 ++ ((a.run steps).2.run later).1, ((a.run steps).2.run later).2) := by
  induction steps generalizing a with
  | nil => rfl
  | cons step steps ih => simp only [List.cons_append, run, ih]

/-- **The answers of a run are what the allocator at its end gives for the requests.** -/
theorem map_some_run (a : Allocator κ) (steps : List (κ × Text)) :
    (a.run steps).1.map some = steps.map fun step => (a.run steps).2.get? step.1 step.2 := by
  induction steps generalizing a with
  | nil => rfl
  | cons step steps ih =>
    obtain ⟨kind, label⟩ := step
    simp only [run, List.map_cons, ih]
    rw [get?_run_of_get? steps (get?_allocate a kind label)]

/-! ## Distinct identifiers -/

/-- Two pairs of a consistent allocator do not share an identifier. -/
theorem get?_inj (hc : a.Consistent) {kind' : κ} {label' : Text} (h : a.get? kind label = some ident)
    (h' : a.get? kind' label' = some ident) : (kind, label) = (kind', label') := by
  have hmem := mem_of_lookup_eq_some h
  have hmem' := mem_of_lookup_eq_some h'
  exact congrArg Prod.fst (List.inj_on_of_nodup_map hc.idents_nodup hmem hmem' rfl)

theorem exists_get?_run (a : Allocator κ) {steps : List (κ × Text)} {step : κ × Text} (h : step ∈ steps) :
    ∃ ident, (a.run steps).2.get? step.1 step.2 = some ident := by
  have hmem := List.mem_map_of_mem (f := fun s : κ × Text => (a.run steps).2.get? s.1 s.2) h
  rw [← map_some_run] at hmem
  obtain ⟨ident, -, hident⟩ := List.mem_map.mp hmem
  exact ⟨ident, hident.symm⟩

/-- At the end of a run no other pair has the identifier of one of its requests. -/
theorem get?_run_eq_iff (hc : a.Consistent) {steps : List (κ × Text)} {step other : κ × Text} (h : step ∈ steps) :
    (a.run steps).2.get? step.1 step.2 = (a.run steps).2.get? other.1 other.2 ↔ step = other := by
  refine ⟨fun heq => ?_, fun heq => heq ▸ rfl⟩
  obtain ⟨ident, hident⟩ := exists_get?_run a h
  exact get?_inj (consistent_run hc steps) hident (heq ▸ hident)

/-- The answers of a run are distinct exactly if its requests are. -/
theorem nodup_run_iff (hc : a.Consistent) (steps : List (κ × Text)) : (a.run steps).1.Nodup ↔ steps.Nodup := by
  rw [← List.nodup_map_iff (Option.some_injective Text), map_some_run]
  refine ⟨fun h => h.of_map, fun h => h.map_on fun step hstep other _ heq => ?_⟩
  exact (get?_run_eq_iff hc hstep).1 heq

/-- **The identifiers that a fresh allocator hands out**: there is one for each request, and two of them are equal
exactly if the same pair of a kind and a label was asked for. -/
theorem run_getElem?_eq_iff (steps : List (κ × Text)) :
    (({} : Allocator κ).run steps).1.length = steps.length ∧ ∀ i j : Nat,
      (({} : Allocator κ).run steps).1[i]? = (({} : Allocator κ).run steps).1[j]? ↔ steps[i]? = steps[j]? := by
  refine ⟨length_run _ steps, fun i j => ?_⟩
  have hanswer (i : Nat) := congrArg (·[i]?) (map_some_run ({} : Allocator κ) steps)
  simp only [List.getElem?_map] at hanswer
  rw [← (Option.map_injective (Option.some_injective Text)).eq_iff, hanswer i, hanswer j]
  cases hi : steps[i]? with
  | none => cases hj : steps[j]? <;> simp
  | some step =>
    cases hj : steps[j]? with
    | none => simp
    | some other =>
      simp only [Option.map_some, Option.some.injEq]
      exact get?_run_eq_iff consistent_empty (List.mem_of_getElem? hi)

end ImportChart.Ident.Allocator
