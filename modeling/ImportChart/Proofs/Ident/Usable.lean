import ImportChart.Proofs.Ident.Allocation
import ImportChart.Proofs.Text.Characters

/-!
# Identifiers can be used in a diagram

Every identifier that an allocator gives is a word over letters, digits and `_` that begins with no `_` and that is
not reserved.

- `usable_preferred`, `usable_numbered`: the three ways in which an identifier comes about;
- `usable_run`: the answers to any sequence of requests;
- `IsUsable.sanitize_eq`: a word that can be used is sanitized already;
- `IsUsable.lower_notMem`: no reserved word is its lower case, by the rules of full Unicode.
-/

namespace ImportChart.Ident

variable {word label : Text} {c : Char}

/-! ## Words -/

/-- No reserved word has the character `_`. -/
theorem isReserved_of_mem (h : '_' ∈ word) : isReserved word = false := by
  have hlower : '_' ∈ Text.asciiLower word := List.mem_map.mpr ⟨'_', h, rfl⟩
  have hwords : ∀ reserved ∈ reservedWords, '_' ∉ reserved := by decide
  rw [isReserved, List.contains_eq_mem, decide_eq_false_iff_not]
  intro hmem
  exact hwords _ hmem hlower

theorem head?_append_ne (hne : word ≠ []) (h : word.head? ≠ some '_') (tail : Text) :
    (word ++ tail).head? ≠ some '_' := by
  obtain ⟨x, xs, rfl⟩ := List.exists_cons_of_ne_nil hne
  exact h

theorem usable_append {tail : Text} (hne : word ≠ []) (hall : word.all isIdentChar = true)
    (hhead : word.head? ≠ some '_') (htail : tail.all isIdentChar = true) : IsUsable (word ++ '_' :: tail) := by
  refine ⟨by simp, ?_, head?_append_ne hne hhead _, isReserved_of_mem (by simp)⟩
  rw [List.all_append, hall, List.all_cons, htail]
  rfl

/-- A label with `_` for every other character, without the `_` at its beginning. -/
def cleaned (label : Text) : Text := (label.map fun c => if isIdentChar c then c else '_').dropWhile (· == '_')

theorem sanitize_eq (label : Text) :
    sanitize label = if cleaned label = [] then ("node" : Text) else cleaned label := by
  unfold sanitize
  rw [← cleaned]
  cases cleaned label <;> rfl

theorem all_cleaned (label : Text) : (cleaned label).all isIdentChar = true := by
  rw [List.all_eq_true]
  intro c hc
  obtain ⟨x, -, rfl⟩ := List.mem_map.mp ((List.dropWhile_suffix _).subset hc)
  split
  · assumption
  · decide

/-- A sanitized label is a word that does not begin with `_`. -/
theorem sanitize_spec (label : Text) :
    sanitize label ≠ [] ∧ (sanitize label).all isIdentChar = true ∧ (sanitize label).head? ≠ some '_' := by
  rw [sanitize_eq]
  split
  · decide
  · next hne =>
    refine ⟨hne, all_cleaned label, ?_⟩
    intro hhead
    have hfirst := List.head?_dropWhile_not (· == '_') (label.map fun c => if isIdentChar c then c else '_')
    rw [← cleaned, hhead] at hfirst
    exact absurd hfirst (by decide)

/-- **The preferred identifier of a label can be used.** -/
theorem usable_preferred (label : Text) : IsUsable (preferred label) := by
  obtain ⟨hne, hall, hhead⟩ := sanitize_spec label
  unfold preferred
  dsimp only
  split
  · exact usable_append hne hall hhead (by decide)
  · next hfree => exact ⟨hne, hall, hhead, by simpa using hfree⟩

theorem all_ofNat (n : Nat) : (Text.ofNat n).all isIdentChar = true := by
  rw [List.all_eq_true]
  intro c hc
  have hdigit : c.isDigit = true := Nat.isDigit_of_mem_toDigits (by decide) (by decide) hc
  simp [isIdentChar, Char.isAlphanum, hdigit]

/-- **A word that can be used is sanitized already.** -/
theorem IsUsable.sanitize_eq (h : IsUsable word) : sanitize word = word := by
  obtain ⟨hne, hall, hhead, -⟩ := h
  have hmap : word.map (fun c => if isIdentChar c then c else '_') = word := by
    refine (List.map_congr_left fun c hc => ?_).trans (List.map_id word)
    exact if_pos (List.all_eq_true.mp hall c hc)
  have hcleaned : cleaned word = word := by
    rw [cleaned, hmap]
    exact Text.dropWhile_eq_self fun c hc => beq_false_of_ne fun heq => hhead (heq ▸ hc)
  rw [Ident.sanitize_eq, hcleaned, if_neg hne]

theorem toNat_lt_of_isIdentChar (h : isIdentChar c = true) : c.toNat < 128 := by
  rcases Bool.or_eq_true_iff.mp h with halphanum | hline
  · have hcode := Text.toNat_of_isAlphanum halphanum
    omega
  · rw [eq_of_beq hline]
    decide

/-- **No reserved word is the lower case of a word that can be used.** -/
theorem IsUsable.lower_notMem (h : IsUsable word) : Text.lower word ∉ reservedWords := by
  obtain ⟨-, hall, -, hfree⟩ := h
  rw [Text.lower_eq_asciiLower fun c hc => toNat_lt_of_isIdentChar (List.all_eq_true.mp hall c hc)]
  simpa [isReserved] using hfree

namespace Allocator

variable {κ : Type} [DecidableEq κ] {a : Allocator κ}

/-- **A number at its end keeps an identifier usable.** -/
theorem usable_numbered (h : IsUsable word) (n : Nat) : IsUsable (numbered word n) :=
  usable_append h.1 h.2.1 h.2.2.1 (all_ofNat n)

/-- The answer to a request can be used if all earlier ones can. -/
theorem usable_allocate (h : ∀ p ∈ a.assigned, IsUsable p.2) (kind : κ) (label : Text) :
    IsUsable (a.allocate kind label).1 ∧ ∀ p ∈ (a.allocate kind label).2.assigned, IsUsable p.2 := by
  have hanswer : IsUsable (a.allocate kind label).1 := by
    cases hget : a.get? kind label with
    | some ident =>
      rw [allocate_of_get? hget]
      exact h _ (mem_of_lookup_eq_some hget)
    | none =>
      cases hheld : a.holder? (preferred label) with
      | none =>
        rw [allocate_of_free hget hheld]
        exact usable_preferred label
      | some holder =>
        rw [allocate_of_taken hget hheld]
        exact usable_numbered (usable_preferred label) _
  refine ⟨hanswer, fun p hp => ?_⟩
  rcases mem_assigned_allocate.mp hp with hp | rfl
  · exact h p hp
  · exact hanswer

/-- **All answers of a run can be used.** -/
theorem usable_run (h : ∀ p ∈ a.assigned, IsUsable p.2) (steps : List (κ × Text)) :
    ∀ ident ∈ (a.run steps).1, IsUsable ident := by
  induction steps generalizing a with
  | nil => intro ident hident; cases hident
  | cons step steps ih =>
    obtain ⟨hfirst, hassigned⟩ := usable_allocate h step.1 step.2
    intro ident hident
    rcases List.mem_cons.mp hident with rfl | hident
    · exact hfirst
    · exact ih hassigned ident hident

/-- **Whatever is asked for, every identifier that a fresh allocator hands out can be used in a diagram**: it is a word
over letters, digits and `_` that does not begin with `_`, it is not reserved in any letter case and so none of the
anchors, and sanitizing leaves it as it is. -/
theorem run_answers_usable (steps : List (κ × Text)) :
    ∀ ident ∈ (({} : Allocator κ).run steps).1,
      ident ≠ [] ∧ (∀ c ∈ ident, c.isAlphanum = true ∨ c = '_') ∧ ident.head? ≠ some '_' ∧
        Text.lower ident ∉ reservedWords ∧ (∀ anchor ∈ [("Start" : Text), "End", "end"], ident ≠ anchor) ∧
        sanitize ident = ident := by
  intro ident hident
  have husable : IsUsable ident := usable_run (by simp) steps ident hident
  have hanchors : ∀ anchor ∈ [("Start" : Text), "End", "end"], Text.lower anchor ∈ reservedWords := by decide
  refine ⟨husable.1, fun c hc => ?_, husable.2.2.1, husable.lower_notMem, fun anchor hanchor heq => ?_,
    husable.sanitize_eq⟩
  · simpa [isIdentChar] using List.all_eq_true.mp husable.2.1 c hc
  · exact husable.lower_notMem (heq ▸ hanchors anchor hanchor)

/-- A reserved word, the word that it becomes, and a label that does not begin with a letter. -/
def awkwardSteps : List (Unit × Text) := [((), "End"), ((), "End_node"), ((), "_é.ts")]

/-- The second of `awkwardSteps` gets a number, for the first one holds the word that it prefers. -/
theorem run_answers_usable_awkward :
    ("End_node_2" : Text) ∈ (({} : Allocator Unit).run awkwardSteps).1 ∧
      ("End_node_2" : Text) ≠ [] ∧ (∀ c ∈ ("End_node_2" : Text), c.isAlphanum = true ∨ c = '_') ∧
      ("End_node_2" : Text).head? ≠ some '_' ∧ Text.lower "End_node_2" ∉ reservedWords ∧
      (∀ anchor ∈ [("Start" : Text), "End", "end"], ("End_node_2" : Text) ≠ anchor) ∧
      sanitize "End_node_2" = "End_node_2" :=
  ⟨by decide, run_answers_usable awkwardSteps _ (by decide)⟩

end Allocator

end ImportChart.Ident
