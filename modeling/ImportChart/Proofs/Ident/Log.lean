import ImportChart.Proofs.Ident.Clashes
import Mathlib.Data.List.Dedup
import Mathlib.Order.Bounds.Basic

/-!
# What an allocator records

The log of an allocator can be told from the requests and their answers alone, without the tables that it keeps.

- `isLeast_freeNumber`, `le_of_isLeast_free`: the search for a number ends at the least free one, which is at most one
  more than the number of identifiers;
- `Answered`: what one request does, told by the earlier requests with their answers (`answered_allocate`);
- `Logged`: the same for a whole run, of which `run_logged` is the main statement.
-/

namespace ImportChart.Ident.Allocator

variable {κ : Type} [DecidableEq κ] {a : Allocator κ} {kind : κ} {label word ident : Text}

/-! ## The number that is found -/

omit [DecidableEq κ] in
/-- **The number that is found is the least from two on that makes the identifier free.** -/
theorem isLeast_freeNumber (a : Allocator κ) (word : Text) :
    IsLeast {n | 2 ≤ n ∧ a.holder? (numbered word n) = none} (a.freeNumber word) := by
  have hfree := holder?_freeNumber a word
  unfold freeNumber at hfree ⊢
  cases h : (List.range' 2 (a.holders.length + 1)).find? fun n => (a.holder? (numbered word n)).isNone with
  | none =>
    rw [h, Option.getD_none] at hfree
    exact ⟨⟨Nat.le_refl 2, hfree⟩, fun n hn => hn.1⟩
  | some m =>
    rw [h] at hfree
    obtain ⟨-, hmem, hbelow⟩ := List.find?_range'_eq_some.mp h
    refine ⟨⟨(List.mem_range'_1.mp hmem).1, hfree⟩, ?_⟩
    rintro n ⟨hn, hfree'⟩
    by_contra hlt
    have htaken := hbelow n hn (Nat.lt_of_not_le hlt)
    simp [hfree'] at htaken

theorem numbered_ne (word : Text) (n : Nat) : numbered word n ≠ word := by
  intro h
  have hlen := congrArg List.length h
  rw [numbered, List.length_append, List.length_cons] at hlen
  omega

/-- Where a word is taken, one number fewer is enough: the word itself is one of the identifiers, so the numbers cannot
have taken all of them. -/
theorem le_of_isLeast_free {idents : List Text} {n : Nat} (hword : word ∈ idents)
    (hn : IsLeast {n | 2 ≤ n ∧ numbered word n ∉ idents} n) : n ≤ idents.dedup.length + 1 := by
  by_contra hlt
  have hsub : word :: (List.range' 2 idents.dedup.length).map (numbered word) ⊆ idents.dedup := by
    intro ident hident
    rw [List.mem_dedup]
    rcases List.mem_cons.mp hident with rfl | hident
    · exact hword
    · obtain ⟨m, hm, rfl⟩ := List.mem_map.mp hident
      obtain ⟨hfrom, hto⟩ := List.mem_range'_1.mp hm
      by_contra hfree
      have hle : n ≤ m := hn.2 ⟨hfrom, hfree⟩
      omega
  have hnodup : (word :: (List.range' 2 idents.dedup.length).map (numbered word)).Nodup := by
    refine List.nodup_cons.mpr ⟨fun hmem => ?_, (List.nodup_range' ..).map (numbered_injective word)⟩
    obtain ⟨m, -, hm⟩ := List.mem_map.mp hmem
    exact numbered_ne word m hm
  have hlen := (List.subperm_of_subset hnodup hsub).length_le
  rw [List.length_cons, List.length_map, List.length_range'] at hlen
  omega

/-! ## One request -/

/-- What a request for a pair does, told by the earlier requests with their answers: `ident` is its answer, and
`recorded` is added to the log. -/
structure Answered (earlier : List ((κ × Text) × Text)) (pair : κ × Text) (ident : Text) (recorded : List Collision) :
    Prop where
  /-- A clash is recorded exactly if the pair is new and the identifier that it prefers is taken. -/
  recorded_iff : recorded ≠ [] ↔ pair ∉ earlier.map (·.1) ∧ preferred pair.2 ∈ earlier.map (·.2)
  /-- The record names the label, the label of the pair that holds the preferred identifier, that identifier, and the
  assigned one, which has the least free number at its end. -/
  clash : recorded ≠ [] → ∃ holder n, (holder, preferred pair.2) ∈ earlier ∧
    IsLeast {n | 2 ≤ n ∧ numbered (preferred pair.2) n ∉ earlier.map (·.2)} n ∧
    n ≤ (earlier.map (·.2)).dedup.length + 1 ∧ ident = numbered (preferred pair.2) n ∧
    recorded = [⟨pair.2, holder.2, preferred pair.2, ident⟩]
  /-- Every other new pair gets the identifier that it prefers. -/
  free : pair ∉ earlier.map (·.1) → recorded = [] → ident = preferred pair.2
  /-- A pair that was asked for before gets the same answer. -/
  again : pair ∈ earlier.map (·.1) → (pair, ident) ∈ earlier

/-- **What one request does.** -/
theorem answered_allocate (hc : a.Consistent) {earlier : List ((κ × Text) × Text)}
    (hearlier : ∀ p, p ∈ a.assigned ↔ p ∈ earlier) (kind : κ) (label : Text) :
    ∃ recorded, (a.allocate kind label).2.collisions = a.collisions ++ recorded ∧
      Answered earlier (kind, label) (a.allocate kind label).1 recorded := by
  have hkeys (pair : κ × Text) : pair ∈ earlier.map (·.1) ↔ pair ∈ a.assigned.map (·.1) := by
    simp only [List.mem_map, hearlier]
  have hidents (ident : Text) : ident ∉ earlier.map (·.2) ↔ a.holder? ident = none := by
    simp only [hc.holder?_eq_none_iff, List.mem_map, hearlier]
  cases hget : a.get? kind label with
  | some ident =>
    have hmem : ((kind, label), ident) ∈ a.assigned := mem_of_lookup_eq_some hget
    have hold : (kind, label) ∈ earlier.map (·.1) := (hkeys _).mpr (List.mem_map_of_mem hmem)
    rw [allocate_of_get? hget]
    refine ⟨[], (List.append_nil _).symm, ?_⟩
    exact {
      recorded_iff := iff_of_false (by simp) fun h => h.1 hold
      clash := fun h => absurd rfl h
      free := fun hnew => absurd hold hnew
      again := fun _ => (hearlier _).mp hmem }
  | none =>
    have hnew : (kind, label) ∉ earlier.map (·.1) := by
      rw [hkeys]
      exact lookup_eq_none_iff_notMem.mp hget
    cases hholder : a.holder? (preferred label) with
    | none =>
      rw [allocate_of_free hget hholder]
      refine ⟨[], (List.append_nil _).symm, ?_⟩
      exact {
        recorded_iff := iff_of_false (by simp) fun h => (hidents _).mpr hholder h.2
        clash := fun h => absurd rfl h
        free := fun _ _ => rfl
        again := fun hold => absurd hold hnew }
    | some holder =>
      have htaken : preferred label ∈ earlier.map (·.2) := by
        by_contra hfree
        rw [(hidents _).mp hfree] at hholder
        cases hholder
      have hleast : IsLeast {n | 2 ≤ n ∧ numbered (preferred label) n ∉ earlier.map (·.2)}
          (a.freeNumber (preferred label)) := by
        simp only [hidents]
        exact isLeast_freeNumber a (preferred label)
      obtain ⟨holderKind, hheld⟩ := hc.exists_of_holder? hholder
      rw [allocate_of_taken hget hholder]
      refine ⟨_, rfl, ?_⟩
      exact {
        recorded_iff := iff_of_true (by simp) ⟨hnew, htaken⟩
        clash := fun _ => ⟨(holderKind, holder), a.freeNumber (preferred label), (hearlier _).mp hheld, hleast,
          le_of_isLeast_free htaken hleast, rfl, rfl⟩
        free := fun _ h => absurd h (by simp)
        again := fun hold => absurd hold hnew }

/-! ## Runs -/

/-- The log of requests with their answers: request by request, what is recorded is what the earlier ones say. -/
inductive Logged : List ((κ × Text) × Text) → List Collision → Prop
  | start : Logged [] []
  | step {earlier : List ((κ × Text) × Text)} {log : List Collision} {pair : κ × Text} {ident : Text}
      {recorded : List Collision} : Logged earlier log → Answered earlier pair ident recorded →
      Logged (earlier ++ [(pair, ident)]) (log ++ recorded)

/-- The requests of a longer run with their answers. -/
theorem zip_run_concat (steps : List (κ × Text)) (step : κ × Text) :
    (steps ++ [step]).zip (a.run (steps ++ [step])).1 =
      steps.zip (a.run steps).1 ++ [(step, ((a.run steps).2.allocate step.1 step.2).1)] := by
  rw [run_append]
  exact List.zip_append (length_run a steps).symm

/-- **The log of a fresh allocator**: each request records a clash exactly if its pair is new and the identifier that
it prefers is taken, and then the pair gets that identifier with the least free number; every other new pair gets what
it prefers. Nothing is recorded at all exactly if no two of the pairs prefer one identifier. -/
theorem run_logged (steps : List (κ × Text)) :
    Logged (steps.zip (({} : Allocator κ).run steps).1) (({} : Allocator κ).run steps).2.collisions ∧
      (({} : Allocator κ).run steps).1.length = steps.length ∧
      ((({} : Allocator κ).run steps).2.collisions = [] ↔
        ∀ p ∈ steps, ∀ q ∈ steps, preferred p.2 = preferred q.2 → p = q) := by
  refine ⟨?_, length_run _ steps, collisions_run_eq_nil_iff steps⟩
  induction steps using List.reverseRecOn with
  | nil => exact Logged.start
  | append_singleton done step ih =>
    have hassigned (p : (κ × Text) × Text) : p ∈ (({} : Allocator κ).run done).2.assigned ↔
        p ∈ done.zip (({} : Allocator κ).run done).1 := by
      rw [mem_assigned_run]
      simp
    obtain ⟨recorded, hcollisions, hanswered⟩ :=
      answered_allocate (consistent_run consistent_empty done) hassigned step.1 step.2
    have hlog : (({} : Allocator κ).run (done ++ [step])).2.collisions =
        (({} : Allocator κ).run done).2.collisions ++ recorded := by
      rw [run_append]
      exact hcollisions
    rw [zip_run_concat, hlog]
    exact Logged.step ih hanswered

/-- A number may make the identifier that a later pair prefers; then that pair clashes in turn. -/
example : (({} : Allocator Unit).run [((), "a.b"), ((), "a_b"), ((), "a_b"), ((), "a_b_2")]).2.collisions =
    [⟨"a_b", "a.b", "a_b", "a_b_2"⟩, ⟨"a_b_2", "a_b", "a_b_2", "a_b_2_2"⟩] := by
  decide

end ImportChart.Ident.Allocator
