import ImportChart.Text.Basic

/-!
# Markers in a text

A marker is a text whose first character does not come again in it, such as a line feed with three backticks. It
cannot lie across the places where a text is put together, so where it occurs is known from the pieces.

- `infix_append_cons_iff`: a part does not lie across a character that it does not hold;
- `infix_append_iff_right`: a part begins behind everything that does not hold its first character;
- `infix_flatMap_concat_iff`: in a list of lines a marker of line ends is in a line;
- `map_fst_splitAtPart`: a text before a marker is cut off there exactly if it has none itself.
-/

namespace ImportChart.Text

variable {part a b t rest : Text} {x y : Char} {q : Text}

/-- A part at the beginning ends before a character that it does not hold. -/
theorem prefix_append_cons_iff (h : y ∉ part) : part <+: a ++ y :: b ↔ part <+: a := by
  induction part generalizing a with
  | nil => simp
  | cons c part ih =>
    rw [List.mem_cons, not_or] at h
    cases a with
    | nil =>
      have hno : ¬c :: part <+: y :: b := fun hbegins => h.1 (List.cons_prefix_cons.mp hbegins).1.symm
      simpa using hno
    | cons d a => rw [List.cons_append, List.cons_prefix_cons, List.cons_prefix_cons, ih h.2]

/-- A part lies on one side of a character that it does not hold. -/
theorem infix_append_cons_iff (hne : part ≠ []) (h : y ∉ part) :
    part <:+: a ++ y :: b ↔ part <:+: a ∨ part <:+: b := by
  induction a with
  | nil =>
    have hno : ¬part <+: y :: b := by
      intro hbegins
      have hnil := (prefix_append_cons_iff (a := []) h).mp hbegins
      exact hne (List.prefix_nil.mp hnil)
    simp [List.infix_cons_iff, hno, hne]
  | cons c a ih =>
    have hbegins : part <+: c :: (a ++ y :: b) ↔ part <+: c :: a := prefix_append_cons_iff (a := c :: a) h
    rw [List.cons_append, List.infix_cons_iff, List.infix_cons_iff, hbegins, ih, or_assoc]

/-- A part begins behind everything that does not hold its first character. -/
theorem infix_append_iff_right (h : x ∉ a) : x :: q <:+: a ++ b ↔ x :: q <:+: b := by
  induction a with
  | nil => rfl
  | cons c a ih =>
    rw [List.mem_cons, not_or] at h
    have hno : ¬x :: q <+: c :: (a ++ b) := fun hbegins => h.1 (List.cons_prefix_cons.mp hbegins).1
    rw [List.cons_append, List.infix_cons_iff, ih h.2]
    simp [hno]

/-- A marker lies on one side of the beginning of another one. -/
theorem infix_append_marker_iff (h : x ∉ q) : x :: q <:+: a ++ x :: b ↔ x :: q <:+: a ∨ x :: q <:+: x :: b := by
  induction a with
  | nil => simp
  | cons c a ih =>
    have hbegins : x :: q <+: c :: (a ++ x :: b) ↔ x :: q <+: c :: a := by
      rw [List.cons_prefix_cons, List.cons_prefix_cons, prefix_append_cons_iff h]
    rw [List.cons_append, List.infix_cons_iff, List.infix_cons_iff, hbegins, ih, or_assoc]

/-- A marker of a line end and more is in a line, if no line begins with its second character. -/
theorem infix_flatMap_concat_iff {lines : List Text} (h : x ∉ y :: q) (hlines : ∀ line ∈ lines, line.head? ≠ some y) :
    x :: y :: q <:+: lines.flatMap (· ++ [x]) ↔ ∃ line ∈ lines, x :: y :: q <:+: line := by
  induction lines with
  | nil => simp
  | cons line lines ih =>
    have hrest : ∀ l ∈ lines, l.head? ≠ some y := fun l hl => hlines l (List.mem_cons_of_mem _ hl)
    have hno : ¬y :: q <+: lines.flatMap (· ++ [x]) := by
      cases lines with
      | nil => simp
      | cons next lines =>
        intro hbegins
        rw [List.flatMap_cons, List.append_assoc, List.singleton_append, prefix_append_cons_iff h] at hbegins
        cases next with
        | nil => simp at hbegins
        | cons c next =>
          rw [List.cons_prefix_cons] at hbegins
          exact hrest _ List.mem_cons_self (by rw [hbegins.1]; rfl)
    rw [List.flatMap_cons, List.append_assoc, List.singleton_append, infix_append_marker_iff h, List.infix_cons_iff,
      List.cons_prefix_cons, ih hrest]
    simp [hno]

/-- A text without a part is not cut at it. -/
theorem splitAtPart_eq_none_iff : splitAtPart part t = none ↔ ¬part <:+: t := by
  induction t with
  | nil =>
    rw [splitAtPart, List.infix_nil, ← List.isEmpty_iff]
    cases part.isEmpty <;> simp
  | cons c t ih =>
    rw [splitAtPart, List.infix_cons_iff, not_or, ← ih, ← List.isPrefixOf_iff_prefix]
    split
    · next hbegins => simp [hbegins]
    · next hbegins => simp [hbegins]

theorem not_infix_of_notMem (h : x ∉ t) : ¬x :: q <:+: t := fun hpart => h (hpart.subset List.mem_cons_self)

/-- A text without a part stays when the part is replaced. -/
theorem replaceAll_eq_self (h : ¬part <:+: t) (new : Text) : replaceAll part new t = t := by
  induction t with
  | nil => exact replaceAll_nil part new
  | cons c t ih =>
    rw [List.infix_cons_iff, not_or] at h
    rw [replaceAll_cons h.1, ih h.2]

/-- **A text before a marker is cut off there exactly if it has none itself.** -/
theorem map_fst_splitAtPart (h : x ∉ q) (t rest : Text) :
    (splitAtPart (x :: q) (t ++ (x :: q ++ rest))).map Prod.fst = some t ↔ ¬x :: q <:+: t := by
  induction t with
  | nil =>
    have hbegins : (x :: q).isPrefixOf (x :: (q ++ rest)) = true := by simp
    rw [List.nil_append, List.cons_append, splitAtPart, if_pos hbegins]
    simp
  | cons c t ih =>
    have hmarker : x :: q <+: c :: (t ++ (x :: q ++ rest)) ↔ x :: q <+: c :: t := by
      rw [List.cons_append, List.cons_prefix_cons, List.cons_prefix_cons, prefix_append_cons_iff h]
    rw [List.cons_append, splitAtPart, List.infix_cons_iff, not_or, ← ih]
    split
    · next hcut =>
      have hbegins := hmarker.mp (List.isPrefixOf_iff_prefix.mp hcut)
      exact iff_of_false (by simp) fun hboth => hboth.1 hbegins
    · next hcut =>
      have hno : ¬x :: q <+: c :: t := fun hbegins => hcut (List.isPrefixOf_iff_prefix.mpr (hmarker.mpr hbegins))
      cases splitAtPart (x :: q) (t ++ (x :: q ++ rest)) with
      | none => simp
      | some parts => simp [-List.cons_prefix_cons, hno]

end ImportChart.Text
