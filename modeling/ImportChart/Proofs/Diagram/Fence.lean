import ImportChart.Proofs.Diagram.Document
import ImportChart.Proofs.Diagram.Faithful

/-!
# What a fence gives back

A fence ends at the first line feed with three backticks behind it, so a diagram is given back exactly if it has no
such marker (`unwrap_wrap_iff`). Of all that a diagram is made of only labels can hold the marker: escaping a label
replaces quotation marks and nothing else.

- `closing_infix_escape_iff`: a marker stays in a label that is escaped;
- `closing_infix_line_iff`: the marker is in a statement exactly if it is in its label;
- `closing_infix_render_iff`: the marker is in a diagram exactly if it is in a label that is drawn.
-/

namespace ImportChart.Diagram

open Fence (closing ticks)

variable {g : Graph} {backbone : List Text} {limit : Int} {body label word : Text} {s : Statement}

/-! ## Fences -/

theorem dropEndWhile_concat (h : body.getLast? ≠ some '\n') :
    Text.dropEndWhile (· == '\n') (body ++ ['\n']) = body := by
  have hhead : body.reverse.head? ≠ some '\n' := by rwa [List.head?_reverse]
  rw [Text.dropEndWhile, List.reverse_append, List.reverse_singleton, List.singleton_append,
    List.dropWhile_cons_of_pos rfl]
  cases hreverse : body.reverse with
  | nil => simpa using hreverse.symm
  | cons c cs =>
    rw [hreverse] at hhead
    have hc : (c == '\n') = false := by simpa using hhead
    rw [List.dropWhile_cons_of_neg (by simp [hc]), ← hreverse, List.reverse_reverse]

/-- **A diagram comes back from its fence exactly if it has no line that begins with three backticks.** -/
theorem unwrap_wrap_iff {c : Char} {cs : Text} (hc : Text.isBlank c = false) (hlast : (c :: cs).getLast? ≠ some '\n') :
    Fence.unwrap (Fence.wrap (c :: cs ++ ['\n'])) = c :: cs ↔ ¬closing <:+: c :: cs := by
  have hwrap : Fence.wrap (c :: cs ++ ['\n']) =
      ([] : Text) ++ (ticks ++ ("mermaid" ++ '\n' :: (c :: cs ++ (closing ++ ['\n'])))) := by
    rw [Fence.wrap, dropEndWhile_concat hlast]
    simp [Fence.closing]
  rw [hwrap]
  exact Fence.unwrap_append_iff (by decide) (Fence.hasFirstLine_cons hc cs) ['\n']

/-! ## Labels -/

/-- **A marker stays in a label that is escaped.** -/
theorem closing_infix_escape_iff (label : Text) : closing <:+: escape label ↔ closing <:+: label := by
  induction label with
  | nil => rfl
  | cons c label ih =>
    by_cases hc : c = '"'
    · subst hc
      have hno : ¬closing <+: '"' :: label := fun hprefix => absurd (List.cons_prefix_cons.mp hprefix).1 (by decide)
      rw [escape_quote, List.infix_cons_iff, ← ih]
      have hright : closing <:+: quoteEscape ++ escape label ↔ closing <:+: escape label :=
        Text.infix_append_iff_right (by decide)
      simp [hright, hno]
    · have hprefix : closing <+: escape (c :: label) ↔ closing <+: c :: label :=
        prefix_escape_iff (by decide) (by decide)
      rw [escape_cons hc] at hprefix ⊢
      rw [List.infix_cons_iff, List.infix_cons_iff, hprefix, ih]

theorem not_closing_of_notMem {t : Text} (h : '\n' ∉ t) : ¬closing <:+: t := Text.not_infix_of_notMem h

theorem closing_infix_labelled_iff (before : Text) (hbefore : '\n' ∉ before) (hword : '\n' ∉ word) (label : Text) :
    closing <:+: before ++ labelled word label ↔ closing <:+: label := by
  have htext : before ++ labelled word label = (before ++ word ++ ['[']) ++ '"' :: (escape label ++ '"' :: [']']) := by
    simp [labelled, quotedLabel_eq]
  have hfront : '\n' ∉ before ++ word ++ ['['] := by simp [hbefore, hword]
  have hend : ¬closing <:+: ([']'] : Text) := not_closing_of_notMem (by decide)
  have hquoted : closing <:+: escape label ++ '"' :: [']'] ↔ closing <:+: escape label ∨ closing <:+: ([']'] : Text) :=
    Text.infix_append_cons_iff (by decide) (by decide)
  have hline : closing <:+: (before ++ word ++ ['[']) ++ '"' :: (escape label ++ '"' :: [']']) ↔
      closing <:+: before ++ word ++ ['['] ∨ closing <:+: escape label ++ '"' :: [']'] :=
    Text.infix_append_cons_iff (by decide) (by decide)
  rw [htext, hline, hquoted, closing_infix_escape_iff]
  simp only [not_closing_of_notMem hfront, hend, false_or, or_false]

/-- A statement with a label ends in a labelled word. -/
theorem exists_labelled (h : s.label? = some label) :
    ∃ before, '\n' ∉ before ∧ ∃ word ∈ s.words, s.line = before ++ labelled word label := by
  cases s with
  | openBox id label' =>
    obtain rfl := Option.some.inj h
    exact ⟨indent ++ "subgraph ", by decide, id, List.mem_cons_self, rfl⟩
  | symbol id label' =>
    obtain rfl := Option.some.inj h
    exact ⟨indent ++ indent, by decide, id, List.mem_cons_self, rfl⟩
  | package id label' =>
    obtain rfl := Option.some.inj h
    exact ⟨indent, by decide, id, List.mem_cons_self, rfl⟩
  | closeBox => cases h
  | edge => cases h
  | chain => cases h

/-- A statement without a label has no line feed. -/
theorem newline_notMem_line (hwords : ∀ word ∈ s.words, '\n' ∉ word) (h : s.label? = none) : '\n' ∉ s.line := by
  cases s with
  | openBox => cases h
  | symbol => cases h
  | package => cases h
  | closeBox => decide
  | edge src dst =>
    have hsrc : '\n' ∉ src := hwords src (by simp [Statement.words])
    have hdst : '\n' ∉ dst := hwords dst (by simp [Statement.words])
    simp [Statement.line, edgeLine, indent, hsrc, hdst]
  | chain src dst =>
    have hsrc : '\n' ∉ src := hwords src (by simp [Statement.words])
    have hdst : '\n' ∉ dst := hwords dst (by simp [Statement.words])
    simp [Statement.line, chainLine, indent, hsrc, hdst]

/-- **The marker is in a statement exactly if it is in its label.** -/
theorem closing_infix_line_iff (h : ∀ word ∈ s.words, '\n' ∉ word) :
    closing <:+: s.line ↔ ∃ label, s.label? = some label ∧ closing <:+: label := by
  cases hlabel : s.label? with
  | none =>
    have hno : ¬closing <:+: s.line := not_closing_of_notMem (newline_notMem_line h hlabel)
    simp [hno]
  | some label =>
    obtain ⟨before, hbefore, word, hword, hline⟩ := exists_labelled hlabel
    rw [hline, closing_infix_labelled_iff before hbefore (h word hword)]
    simp

theorem head?_line (s : Statement) : s.line.head? = some ' ' := by cases s <;> rfl

/-- **The marker is in a diagram exactly if it is in a label that is drawn.** -/
theorem closing_infix_render_iff
    (h : ∀ s ∈ statements g backbone limit, ∀ word ∈ s.words, '\n' ∉ word) :
    closing <:+: render g backbone limit ↔
      ∃ s ∈ statements g backbone limit, ∃ label, s.label? = some label ∧ closing <:+: label := by
  have hhead : ∀ line ∈ head, line.head? ≠ some '\x60' ∧ '\n' ∉ line := by decide
  have hlines : ∀ line ∈ lines g backbone limit, line.head? ≠ some '\x60' := by
    intro line hline
    rw [lines_eq, List.mem_append, List.mem_map] at hline
    rcases hline with hline | ⟨s, -, rfl⟩
    · exact (hhead line hline).1
    · rw [head?_line]
      decide
  have hrender : closing <:+: render g backbone limit ↔ ∃ line ∈ lines g backbone limit, closing <:+: line :=
    Text.infix_flatMap_concat_iff (by decide) hlines
  rw [hrender, lines_eq]
  constructor
  · rintro ⟨line, hline, hclosing⟩
    rcases List.mem_append.mp hline with hline | hline
    · exact absurd hclosing (not_closing_of_notMem (hhead line hline).2)
    · obtain ⟨s, hs, rfl⟩ := List.mem_map.mp hline
      exact ⟨s, hs, (closing_infix_line_iff (h s hs)).mp hclosing⟩
  · rintro ⟨s, hs, hlabel⟩
    exact ⟨s.line, List.mem_append_right _ (List.mem_map_of_mem hs), (closing_infix_line_iff (h s hs)).mpr hlabel⟩

/-! ## Diagrams in a fence -/

theorem getLast?_line (h : ∀ word ∈ s.words, '\n' ∉ word) : s.line.getLast? ≠ some '\n' := by
  cases hlabel : s.label? with
  | none =>
    intro hlast
    exact newline_notMem_line h hlabel (List.mem_of_getLast? hlast)
  | some label =>
    obtain ⟨before, -, word, -, hline⟩ := exists_labelled hlabel
    rw [hline, labelled, ← List.append_assoc, List.getLast?_concat]
    decide

/-- A diagram is a text that does not end in a line feed, and one line feed. -/
theorem exists_body (h : ∀ s ∈ statements g backbone limit, ∀ word ∈ s.words, '\n' ∉ word) :
    ∃ body, render g backbone limit = body ++ ['\n'] ∧ body.head? = some 'f' ∧ body.getLast? ≠ some '\n' := by
  have hhead : head = ("flowchart TD" : Text) :: head.tail := rfl
  rcases List.eq_nil_or_concat (statements g backbone limit) with hnil | ⟨ss, s, hss⟩
  · -- without statements the head is all there is
    refine ⟨"flowchart TD\n    Start([Start])\n    End([End])", ?_, rfl, by decide⟩
    rw [render_eq, hnil]
    rfl
  · have hs : s ∈ statements g backbone limit := by simp [hss]
    refine ⟨head.flatMap (· ++ ['\n']) ++ (ss.flatMap Statement.text ++ s.line), ?_, ?_, ?_⟩
    · rw [render_eq, hss, List.concat_eq_append, List.flatMap_append, List.flatMap_singleton, Statement.text]
      simp only [List.append_assoc]
    · rw [hhead]
      rfl
    · obtain ⟨c, hc⟩ : ∃ c, s.line.getLast? = some c := by
        rw [← Option.isSome_iff_exists, List.getLast?_isSome]
        rintro hline
        have hfirst := head?_line s
        rw [hline] at hfirst
        cases hfirst
      have hlast := getLast?_line (h s hs)
      rw [hc] at hlast
      simpa [List.getLast?_append, hc] using hlast

/-- **A diagram comes back from its fence exactly if no label that is drawn holds the marker of its end.** -/
theorem unwrap_render_iff (h : ∀ s ∈ statements g backbone limit, ∀ word ∈ s.words, '\n' ∉ word) :
    ∃ body, render g backbone limit = body ++ ['\n'] ∧
      (Fence.unwrap (Fence.wrap (render g backbone limit)) = body ↔
        ¬∃ s ∈ statements g backbone limit, ∃ label, s.label? = some label ∧ closing <:+: label) := by
  obtain ⟨body, hrender, hhead, hlast⟩ := exists_body h
  obtain ⟨cs, rfl⟩ := List.head?_eq_some_iff.mp hhead
  have hmarker : closing <:+: 'f' :: cs ++ '\n' :: [] ↔ closing <:+: 'f' :: cs ∨ closing <:+: '\n' :: [] :=
    Text.infix_append_marker_iff (by decide)
  have hno : ¬closing <:+: '\n' :: [] := by decide
  refine ⟨'f' :: cs, hrender, ?_⟩
  rw [← closing_infix_render_iff h, hrender, unwrap_wrap_iff (by decide) hlast, hmarker]
  simp only [hno, or_false]

end ImportChart.Diagram
