import ImportChart.Proofs.Source.Coverage

/-!
# Scans, piece by piece

What a scan captures does not depend on where its text stands, so that it can be told from left to right: a piece in
which nothing is recognised adds nothing, and a match adds its capture.

- `Silent`: nothing is recognised at any character of a piece, given what stands behind it;
- `captures_of_silent`, `captures_of_match`: the two steps of a scan;
- `imports_of_silent`, `imports_of_import`, `imports_of_require`: the three steps of the two scans that are merged.
-/

namespace ImportChart.Source

variable {recognise recognise' : Text → Option Found} {span rest capture : Text}

/-! ## Silent pieces -/

/-- Nothing is recognised at any character of a piece of text, given the text behind it. -/
def Silent (recognise : Text → Option Found) (span rest : Text) : Prop :=
  ∀ w, w ≠ [] → w <:+ span → recognise (w ++ rest) = none

theorem silent_nil (recognise : Text → Option Found) (rest : Text) : Silent recognise [] rest :=
  fun _ hne hw => absurd (List.suffix_nil.mp hw) hne

theorem silent_cons {c : Char} :
    Silent recognise (c :: span) rest ↔ recognise (c :: span ++ rest) = none ∧ Silent recognise span rest := by
  constructor
  · intro h
    exact ⟨h _ (List.cons_ne_nil _ _) (List.suffix_refl _), fun w hne hw => h w hne (hw.trans (List.suffix_cons _ _))⟩
  · rintro ⟨hfirst, hspan⟩ w hne hw
    rcases List.suffix_cons_iff.mp hw with rfl | hw
    · exact hfirst
    · exact hspan w hne hw

/-- A piece of two parts is silent if both are. -/
theorem silent_append {a b : Text} :
    Silent recognise (a ++ b) rest ↔ Silent recognise a (b ++ rest) ∧ Silent recognise b rest := by
  induction a with
  | nil => simp [silent_nil]
  | cons c a ih =>
    rw [List.cons_append, silent_cons, silent_cons, ih, and_assoc, List.cons_append, List.append_assoc,
      List.cons_append]

theorem Silent.or (h : Silent recognise span rest) (h' : Silent recognise' span rest) :
    Silent (fun t => (recognise t).or (recognise' t)) span rest := by
  intro w hne hw
  simp only [h w hne hw, h' w hne hw, Option.or_none]

/-! ## One scan -/

/-- What a scan captures. -/
def captures (recognise : Text → Option Found) (t : Text) : List Text := (scan recognise t).map Hit.capture

theorem captures_nil (recognise : Text → Option Found) : captures recognise [] = [] := by
  rw [captures, scan, scanFrom, List.map_nil]

/-- A match so many positions further on. -/
def Hit.shift (n : Nat) (h : Hit) : Hit := ⟨h.start + n, h.stop + n, h.capture⟩

/-- The matches in a text move with it. -/
theorem scanFrom_add (recognise : Text → Option Found) (n position : Nat) (t : Text) :
    scanFrom recognise (position + n) t = (scanFrom recognise position t).map (Hit.shift n) := by
  fun_induction scanFrom recognise position t with
  | case1 position => rw [scanFrom, List.map_nil]
  | case2 position c cs hnone ih =>
    rw [scanFrom, hnone, ← ih, Nat.add_right_comm]
  | case3 position c cs found hfound hle stop ih =>
    have hstop : position + n + (cs.length + 1 - found.rest.length) = stop + n := Nat.add_right_comm _ _ _
    rw [scanFrom, hfound]
    simp only [if_pos hle, hstop, ih, List.map_cons, Hit.shift]
  | case4 position c cs found hfound hle ih =>
    rw [scanFrom, hfound]
    simp only [if_neg hle]
    rw [← ih, Nat.add_right_comm]

theorem le_start_of_mem_scanFrom {hit : Hit} {position : Nat} {t : Text} (h : hit ∈ scanFrom recognise position t) :
    position ≤ hit.start := by
  have hshift := scanFrom_add recognise position 0 t
  rw [Nat.zero_add] at hshift
  rw [hshift] at h
  obtain ⟨hit', -, rfl⟩ := List.mem_map.mp h
  exact Nat.le_add_left _ _

/-- A scan passes over a silent piece. -/
theorem scanFrom_of_silent (h : Silent recognise span rest) (position : Nat) :
    scanFrom recognise position (span ++ rest) = scanFrom recognise (position + span.length) rest := by
  induction span generalizing position with
  | nil => rfl
  | cons c span ih =>
    obtain ⟨hnone, hspan⟩ := silent_cons.mp h
    rw [List.cons_append] at hnone ⊢
    rw [scanFrom, hnone, List.length_cons, Nat.add_comm span.length, ← Nat.add_assoc]
    exact ih hspan (position + 1)

/-- A scan takes a match, and goes on behind it. -/
theorem scanFrom_of_match (h : recognise (span ++ rest) = some ⟨capture, rest⟩) (hne : span ≠ []) (position : Nat) :
    scanFrom recognise position (span ++ rest) =
      ⟨position, position + span.length, capture⟩ :: scanFrom recognise (position + span.length) rest := by
  obtain ⟨c, cs, rfl⟩ := List.exists_cons_of_ne_nil hne
  have hle : rest.length ≤ (cs ++ rest).length := by simp
  have hlength : (cs ++ rest).length + 1 - rest.length = (c :: cs).length := by
    rw [List.length_append, List.length_cons]
    omega
  rw [List.cons_append] at h ⊢
  rw [scanFrom, h]
  simp only [if_pos hle, hlength]

/-- What is captured does not depend on where the scan begins. -/
theorem map_capture_scanFrom (recognise : Text → Option Found) (position : Nat) (t : Text) :
    (scanFrom recognise position t).map Hit.capture = captures recognise t := by
  have hshift := scanFrom_add recognise position 0 t
  rw [Nat.zero_add] at hshift
  rw [hshift, List.map_map]
  rfl

/-- **What is silent adds nothing to a scan.** -/
theorem captures_of_silent (h : Silent recognise span rest) :
    captures recognise (span ++ rest) = captures recognise rest := by
  rw [captures, scan, scanFrom_of_silent h, map_capture_scanFrom]

/-- **A match adds its capture to a scan.** -/
theorem captures_of_match (h : recognise (span ++ rest) = some ⟨capture, rest⟩) (hne : span ≠ []) :
    captures recognise (span ++ rest) = capture :: captures recognise rest := by
  rw [captures, scan, scanFrom_of_match h hne, List.map_cons, map_capture_scanFrom]

/-! ## Two scans that are merged -/

section Merge

variable {α : Type} {le : α → α → Bool} {x : α} {xs ys : List α}

theorem merge_cons_left (h : ∀ y ∈ ys, le x y = true) : List.merge (x :: xs) ys le = x :: List.merge xs ys le := by
  cases ys with
  | nil => simp
  | cons y ys => rw [List.cons_merge_cons, if_pos (h y List.mem_cons_self)]

theorem merge_cons_right (h : ∀ y ∈ ys, le y x = false) : List.merge ys (x :: xs) le = x :: List.merge ys xs le := by
  cases ys with
  | nil => simp
  | cons y ys => rw [List.cons_merge_cons, if_neg (Bool.eq_false_iff.mp (h y List.mem_cons_self))]

end Merge

theorem imports_nil : (extract []).imports = [] := by
  rw [extract, importHits, scan, scan, scanFrom, scanFrom, List.merge_right, List.map_nil]

/-- The imports of a text do not depend on where both scans begin. -/
theorem map_capture_merge (position : Nat) (t : Text) :
    (List.merge (scanFrom importTarget? position t) (scanFrom requireTarget? position t)
      fun a b => a.start ≤ b.start).map Hit.capture = (extract t).imports := by
  have hshift (recognise : Text → Option Found) :
      scanFrom recognise position t = (scan recognise t).map (Hit.shift position) := by
    have hadd := scanFrom_add recognise position 0 t
    rwa [Nat.zero_add] at hadd
  have hle : ∀ a ∈ scan importTarget? t, ∀ b ∈ scan requireTarget? t,
      decide (a.start ≤ b.start) = decide ((a.shift position).start ≤ (b.shift position).start) := by
    intro a _ b _
    simp only [Hit.shift, Nat.add_le_add_iff_right]
  rw [hshift, hshift, ← List.map_merge hle, List.map_map]
  rfl

/-- **What is silent for both forms of imports adds no import.** -/
theorem imports_of_silent (himport : Silent importTarget? span rest) (hrequire : Silent requireTarget? span rest) :
    (extract (span ++ rest)).imports = (extract rest).imports := by
  rw [extract, importHits, scan, scan, scanFrom_of_silent himport, scanFrom_of_silent hrequire, map_capture_merge]

/-- **A match of the first form adds its target**, if it does not hold the beginning of one of the second form. -/
theorem imports_of_import (himport : importTarget? (span ++ rest) = some ⟨capture, rest⟩) (hne : span ≠ [])
    (hrequire : Silent requireTarget? span rest) :
    (extract (span ++ rest)).imports = capture :: (extract rest).imports := by
  rw [extract, importHits, scan, scan, scanFrom_of_match himport hne, scanFrom_of_silent hrequire,
    merge_cons_left fun y _ => decide_eq_true (Nat.zero_le _), List.map_cons, map_capture_merge]

/-- **A match of the second form adds its target**, if it does not hold the beginning of one of the first form. -/
theorem imports_of_require (hrequire : requireTarget? (span ++ rest) = some ⟨capture, rest⟩) (hne : span ≠ [])
    (himport : Silent importTarget? span rest) :
    (extract (span ++ rest)).imports = capture :: (extract rest).imports := by
  have hlater : ∀ hit ∈ scanFrom importTarget? (0 + span.length) rest, decide (hit.start ≤ 0) = false := by
    intro hit hmem
    have hstart := le_start_of_mem_scanFrom hmem
    have hlength := List.length_pos_iff.mpr hne
    simp only [decide_eq_false_iff_not]
    omega
  rw [extract, importHits, scan, scan, scanFrom_of_match hrequire hne, scanFrom_of_silent himport,
    merge_cons_right hlater, List.map_cons, map_capture_merge]

end ImportChart.Source
