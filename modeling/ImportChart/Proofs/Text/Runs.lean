import ImportChart.Proofs.Text.Marker

/-!
# Runs of one character

Blocks of `k` equal characters are taken out of a text from left to right. Runs of the character are apart from each
other, and the characters between them stay, so that each run is shortened on its own.

- `Shortened`: of each run is left what its length leaves on division by `k`;
- `replaceAll_run`, `shortened_replaceAll`: this is what becomes of a text without the blocks;
- `Shortened.not_infix`: no new block comes about;
- `Shortened.filter_ne`: all other characters are kept in their order.
-/

namespace ImportChart.Text

variable {k n : Nat} {x c : Char} {t u : Text}

/-- Of each run of `x` in a text the other one has what its length leaves on division by `k`, and all else is equal. -/
inductive Shortened (k : Nat) (x : Char) : Text → Text → Prop
  | last (n : Nat) : Shortened k x (List.replicate n x) (List.replicate (n % k) x)
  | next (n : Nat) {c : Char} {t u : Text} : c ≠ x → Shortened k x t u →
      Shortened k x (List.replicate n x ++ c :: t) (List.replicate (n % k) x ++ c :: u)

/-! ## Taking out blocks -/

/-- In a run that is too short no block begins. -/
theorem not_replicate_prefix (hn : n < k) (ht : t.head? ≠ some x) :
    ¬List.replicate k x <+: List.replicate n x ++ t := by
  have hblock : List.replicate k x = List.replicate n x ++ x :: List.replicate (k - n - 1) x := by
    rw [← List.replicate_succ, List.replicate_append_replicate]
    congr 1
    omega
  rw [hblock, List.prefix_append_right_inj]
  rintro ⟨rest, rfl⟩
  exact ht rfl

theorem replaceAll_short (hn : n < k) (ht : t.head? ≠ some x) :
    replaceAll (List.replicate k x) [] (List.replicate n x ++ t) =
      List.replicate n x ++ replaceAll (List.replicate k x) [] t := by
  induction n with
  | zero => rfl
  | succ n ih =>
    have hno := not_replicate_prefix hn ht
    rw [List.replicate_succ, List.cons_append] at hno ⊢
    rw [replaceAll_cons hno, ih (Nat.lt_of_succ_lt hn), List.cons_append]

/-- **Of a run is left what its length leaves on division by the length of the block.** -/
theorem replaceAll_run (hk : 0 < k) (ht : t.head? ≠ some x) (n : Nat) :
    replaceAll (List.replicate k x) [] (List.replicate n x ++ t) =
      List.replicate (n % k) x ++ replaceAll (List.replicate k x) [] t := by
  induction n using Nat.strongRecOn with
  | _ n ih =>
    rcases Nat.lt_or_ge n k with hlt | hge
    · rw [Nat.mod_eq_of_lt hlt, replaceAll_short hlt ht]
    · have hne : List.replicate k x ≠ [] := by
        rw [ne_eq, List.replicate_eq_nil_iff]
        omega
      obtain ⟨m, rfl⟩ := Nat.exists_eq_add_of_le hge
      rw [← List.replicate_append_replicate, List.append_assoc, replaceAll_append hne, List.nil_append,
        ih m (by omega), Nat.add_mod_left]

/-- The text is gone through behind a run, which grows as long as its character comes again. -/
theorem shortened_replaceAll_run (hk : 0 < k) (x : Char) (n : Nat) (t : Text) :
    Shortened k x (List.replicate n x ++ t) (replaceAll (List.replicate k x) [] (List.replicate n x ++ t)) := by
  induction t generalizing n with
  | nil =>
    rw [replaceAll_run hk (by simp), replaceAll_nil, List.append_nil, List.append_nil]
    exact .last n
  | cons c t ih =>
    by_cases hc : c = x
    · subst hc
      have hrun := ih (n + 1)
      rwa [List.replicate_succ', List.append_assoc, List.singleton_append] at hrun
    · have hno : ¬List.replicate k x <+: c :: t := not_replicate_prefix (n := 0) hk (by simpa using hc)
      rw [replaceAll_run hk (by simpa using hc), replaceAll_cons hno]
      exact .next n hc (ih 0)

/-- **Taking out all blocks shortens the runs.** -/
theorem shortened_replaceAll (hk : 0 < k) (x : Char) (t : Text) :
    Shortened k x t (replaceAll (List.replicate k x) [] t) :=
  shortened_replaceAll_run hk x 0 t

/-! ## Shortened texts -/

/-- **No block is left, and none comes about.** -/
theorem Shortened.not_infix (hk : 0 < k) (h : Shortened k x t u) : ¬List.replicate k x <:+: u := by
  have hrun (n : Nat) : ¬List.replicate k x <:+: List.replicate (n % k) x := by
    intro hblock
    have hlength := hblock.length_le
    rw [List.length_replicate, List.length_replicate] at hlength
    exact Nat.not_le_of_lt (Nat.mod_lt n hk) hlength
  induction h with
  | last n => exact hrun n
  | next n hc _ ih =>
    have hne : List.replicate k x ≠ [] := by
      rw [ne_eq, List.replicate_eq_nil_iff]
      omega
    rw [infix_append_cons_iff hne fun hmem => hc (List.eq_of_mem_replicate hmem), not_or]
    exact ⟨hrun n, ih⟩

/-- **All other characters are kept in their order.** -/
theorem Shortened.filter_ne (h : Shortened k x t u) : u.filter (· ≠ x) = t.filter (· ≠ x) := by
  induction h with
  | last n => simp
  | next n hc _ ih => simp only [List.filter_append, List.filter_replicate, List.filter_cons, ih]; simp

end ImportChart.Text
