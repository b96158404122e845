import ImportChart.Proofs.Text.Marker

/-!
# What stands between two marks

- `behind?`: the text behind the first place of a mark; more text at the end stays there (`behind?_append_right`);
- `isClear`: no mark begins in a text, whatever stands behind it, so that it is looked for behind the text
  (`behind?_of_isClear`);
- `beginsOnce`: the first character of a mark does not come again in it, so that places of the mark do not overlap;
- `between?`: the text between the first place of a mark and the next place of another one; a text without the second
  mark is what stands between the two (`between?_append`).
-/

namespace ImportChart.Text

variable {part t cs rest behind : Text} {c x : Char} {q : Text}

/-! ## Behind a mark -/

/-- What stands behind the first place of `part`. -/
def behind? (part t : Text) : Option Text := (splitAtPart part t).map Prod.snd

theorem infix_of_behind? (h : behind? part t = some behind) : part <:+: t := by
  refine Classical.byContradiction fun hno => ?_
  rw [behind?, splitAtPart_eq_none_iff.mpr hno] at h
  cases h

theorem behind?_self_append (part rest : Text) : behind? part (part ++ rest) = some rest := by
  cases htext : part ++ rest with
  | nil =>
    obtain ⟨rfl, rfl⟩ := List.append_eq_nil_iff.mp htext
    rfl
  | cons c cs =>
    have hbegins : part.isPrefixOf (c :: cs) = true := List.isPrefixOf_iff_prefix.mpr ⟨rest, htext⟩
    rw [behind?, splitAtPart, if_pos hbegins, ← htext, List.drop_left]
    rfl

theorem behind?_cons (h : ¬part <+: c :: cs) : behind? part (c :: cs) = behind? part cs := by
  have hno : ¬part.isPrefixOf (c :: cs) = true := fun hbegins => h (List.isPrefixOf_iff_prefix.mp hbegins)
  rw [behind?, splitAtPart, if_neg hno, Option.map_map]
  rfl

/-- **A mark is found at the same place, whatever more stands behind it.** -/
theorem behind?_append_right (h : behind? part t = some behind) (rest : Text) :
    behind? part (t ++ rest) = some (behind ++ rest) := by
  induction t with
  | nil =>
    obtain rfl := List.infix_nil.mp (infix_of_behind? h)
    cases h
    exact behind?_self_append [] rest
  | cons c cs ih =>
    by_cases hbegins : part <+: c :: cs
    · obtain ⟨after, hafter⟩ := hbegins
      rw [← hafter, behind?_self_append] at h
      rw [← hafter, List.append_assoc, behind?_self_append, Option.some.inj h]
    · rw [behind?_cons hbegins] at h
      -- the mark is found further on, so it is too short to reach over the end
      have hlength : part.length ≤ (c :: cs).length := Nat.le_succ_of_le (infix_of_behind? h).length_le
      have hno : ¬part <+: c :: (cs ++ rest) := by
        intro hlonger
        exact hbegins (List.prefix_of_prefix_length_le hlonger (List.prefix_append (c :: cs) rest) hlength)
      rw [List.cons_append, behind?_cons hno, ih h]

/-! ## Texts without a mark -/

/-- Whether no occurrence of a part begins in a text, whatever stands behind it. -/
def isClear (part : Text) : Text → Bool
  | [] => true
  | c :: cs => !part.isPrefixOf (c :: cs) && !(c :: cs).isPrefixOf part && isClear part cs

/-- A text without the first character of a part is clear of it. -/
theorem isClear_of_notMem (h : x ∉ t) : isClear (x :: q) t = true := by
  induction t with
  | nil => rfl
  | cons c cs ih =>
    rw [List.mem_cons, not_or] at h
    simp [isClear, List.isPrefixOf, h.1, Ne.symm h.1, ih h.2]

theorem isClear_append {s : Text} (hs : isClear part s = true) (ht : isClear part t = true) :
    isClear part (s ++ t) = true := by
  induction s with
  | nil => exact ht
  | cons c cs ih =>
    simp only [isClear, List.cons_append, Bool.and_eq_true, Bool.not_eq_true', Bool.eq_false_iff, ne_eq,
      List.isPrefixOf_iff_prefix] at hs ⊢
    obtain ⟨⟨hpart, htext⟩, hcs⟩ := hs
    refine ⟨⟨fun hprefix => ?_, fun hprefix => ?_⟩, ih hcs⟩
    · rcases List.prefix_or_prefix_of_prefix hprefix (List.prefix_append (c :: cs) t) with hbegins | hbegins
      · exact hpart hbegins
      · exact htext hbegins
    · exact htext ((List.prefix_append (c :: cs) t).trans hprefix)

/-- **A mark is looked for behind a text that is clear of it.** -/
theorem behind?_of_isClear (h : isClear part t = true) (rest : Text) :
    behind? part (t ++ rest) = behind? part rest := by
  induction t with
  | nil => rfl
  | cons c cs ih =>
    simp only [isClear, Bool.and_eq_true, Bool.not_eq_true', Bool.eq_false_iff, ne_eq, List.isPrefixOf_iff_prefix] at h
    obtain ⟨⟨hpart, htext⟩, hcs⟩ := h
    have hno : ¬part <+: c :: (cs ++ rest) := by
      intro hbegins
      rcases List.prefix_or_prefix_of_prefix hbegins (List.prefix_append (c :: cs) rest) with hprefix | hprefix
      · exact hpart hprefix
      · exact htext hprefix
    rw [List.cons_append, behind?_cons hno, ih hcs]

/-! ## Between marks -/

/-- What stands between the first place of `opening` and the next place of `closing` behind it. -/
def between? (opening closing t : Text) : Option Text :=
  (behind? opening t).bind fun behind => (splitAtPart closing behind).map Prod.fst

/-- Whether the first character of a mark does not come again in it. -/
def beginsOnce (mark : Text) : Bool := mark.tail.all fun c => mark.head? ≠ some c

theorem notMem_of_beginsOnce (h : beginsOnce (x :: q) = true) : x ∉ q := by
  intro hmem
  have hother := List.all_eq_true.mp h x hmem
  simp at hother

/-- **What stands between two marks** is found. No first mark begins ahead of it, the second one begins behind it and
is not in it, and the first character of the second one does not come again there. -/
theorem between?_append {opening closing ahead mark block after : Text} (hahead : isClear opening ahead = true)
    (hopening : behind? opening mark = some []) (hclosing : closing <+: after) (hmark : beginsOnce closing = true)
    (hblock : ¬closing <:+: block) (rest : Text) :
    between? opening closing (ahead ++ (mark ++ (block ++ (after ++ rest)))) = some block := by
  have hbehind : behind? opening (ahead ++ (mark ++ (block ++ (after ++ rest)))) = some (block ++ (after ++ rest)) := by
    rw [behind?_of_isClear hahead, behind?_append_right hopening, List.nil_append]
  obtain ⟨more, rfl⟩ := hclosing
  rw [between?, hbehind, Option.bind_some, List.append_assoc]
  cases closing with
  | nil => exact absurd List.nil_infix hblock
  | cons x q => exact (map_fst_splitAtPart (notMem_of_beginsOnce hmark) block (more ++ rest)).mpr hblock

end ImportChart.Text
