import ImportChart.Document.Lines
import ImportChart.Proofs.Document.Simple

/-!
# The lines of simple documents

Nothing in a simple document is a comment, and no list goes over the end of a line, so that the lines that are read are
the lines that were written.

- `Passes`: the cursor goes through a line and is at the beginning of the next one; `passes_header`, `passes_entryLine`;
- `logicalLines_unlines`: such lines are read as they are.
-/

namespace ImportChart.Document

variable {c : Char} {t : Text} {v : Value} {sections : List (Text × Entries)}

namespace Cursor

variable {s : Cursor} {rest done : Text}

/-- Outside keys and comments, these characters change nothing but the text before the cursor. -/
def isInert (c : Char) : Bool := !(c == '\n' || isMark c || c == '#' || c == '[' || c == ']')

theorem isInert_of_isItemChar (h : isItemChar c = true) : isInert c = true := by
  simp [isInert, isMark_of_isItemChar h, ne_of_isItemChar h (x := '\n') rfl, ne_of_isItemChar h (x := '#') rfl,
    ne_of_isItemChar h (x := '[') rfl, ne_of_isItemChar h (x := ']') rfl]

/-- The cursor at the beginning of a line, outside everything. -/
def fresh (done : Text) : Cursor := { done }

/-- The cursor on a line behind its key. -/
def inValue (done : Text) (depth : Int) (mark : Option Char) : Cursor := { done, depth, mark, atLineStart := false }

/-- The cursor in a key. -/
def inKey (done : Text) (key : KeyPart) : Cursor := { done, key, atLineStart := false }

theorem beginLine_push (h : s.atLineStart = false) (c : Char) : (s.push c).beginLine = .ok (s.push c) := by
  simp [beginLine, push, h]

theorem step_inert (hkey : s.key = .outside) (hcomment : s.inComment = false) (hstart : s.atLineStart = false)
    (h : isInert c = true) : s.step c rest = .ok (s.push c) := by
  simp only [isInert, Bool.not_eq_true', Bool.or_eq_false_iff, beq_eq_false_iff_ne] at h
  obtain ⟨⟨⟨⟨hline, hmark⟩, hcommentSign⟩, hopen⟩, hclose⟩ := h
  simp [step, hkey, hcomment, hline, hmark, hcommentSign, hopen, hclose, beginLine_push hstart]

theorem run_inert (hkey : s.key = .outside) (hcomment : s.inComment = false) (hstart : s.atLineStart = false)
    (h : ∀ c ∈ t, isInert c = true) :
    s.run (t ++ rest) = ({ s with done := t.reverse ++ s.done }).run rest := by
  induction t generalizing s with
  | nil => rfl
  | cons c t ih =>
    obtain ⟨hc, ht⟩ := List.forall_mem_cons.mp h
    rw [List.cons_append, run, step_inert hkey hcomment hstart hc]
    refine (ih (s := s.push c) hkey hcomment hstart ht).trans ?_
    rw [push, List.reverse_cons, List.append_assoc]
    rfl

theorem run_cons {s' : Cursor} (h : s.step c rest = .ok s') : s.run (c :: rest) = s'.run rest := by
  rw [run, h]
  rfl

/-- A line outside lists and quotations ends. -/
theorem step_newline (done : Text) : (inValue done 0 none).step '\n' rest = .ok (fresh ('\n' :: done)) := rfl

/-- The cursor goes through a line as it is. -/
def Passes (l : Text) : Prop :=
  ∀ done rest, (fresh done).run (l ++ '\n' :: rest) = (fresh ((l ++ ['\n']).reverse ++ done)).run rest

theorem passes_nil : Passes [] := fun _ _ => run_cons rfl

/-- **The cursor goes through lines one after the other.** -/
theorem run_unlines {lines : List Text} (h : ∀ l ∈ lines, Passes l) (done : Text) :
    (fresh done).run (unlines lines) = .ok (fresh ((unlines lines).reverse ++ done)) := by
  induction lines generalizing done with
  | nil => rfl
  | cons l lines ih =>
    obtain ⟨hl, hlines⟩ := List.forall_mem_cons.mp h
    have htext : unlines (l :: lines) = l ++ '\n' :: unlines lines := by simp [unlines]
    rw [htext, hl, ih hlines]
    simp

/-! ## Headers -/

/-- The cursor goes through the line of a header. -/
theorem passes_header {name : Text} (h : IsWord name) : Passes ('[' :: name ++ [']']) := by
  intro done rest
  obtain ⟨c, name', rfl⟩ := List.exists_cons_of_ne_nil h.1
  have hfirst : c ≠ '[' := ne_of_isItemChar (h.isItem.2 c List.mem_cons_self) rfl
  have hopened : (fresh done).step '[' ((c :: name') ++ (']' :: '\n' :: rest)) =
      .ok { done := '[' :: done, header := .table, atLineStart := false } := by
    simp [step, fresh, openBracket, push, beginLine, hfirst, isMark]
  have hname : ∀ x ∈ c :: name', isInert x = true := fun x hx => isInert_of_isItemChar (h.isItem.2 x hx)
  have htext : '[' :: (c :: name') ++ [']'] ++ '\n' :: rest = '[' :: ((c :: name') ++ (']' :: '\n' :: rest)) := by simp
  rw [htext, run, hopened]
  refine (run_inert rfl rfl rfl hname).trans ?_
  simp only [List.reverse_append, List.reverse_cons, List.append_assoc, List.cons_append, List.nil_append,
    List.reverse_nil]
  rfl

/-! ## Keys -/

theorem isLetterOrNumber_of_isAlphanum (h : c.isAlphanum = true) : Text.isLetterOrNumber c = true := by
  have hcode := Text.toNat_of_isAlphanum h
  rw [Text.isLetterOrNumber, if_pos (by omega), h]

theorem step_firstOfKey (h : isWordChar c = true) (done : Text) :
    (fresh done).step c rest = .ok (inKey (c :: done) .inside) := by
  have hitem := isItemChar_of_isWordChar h
  have hinert := isInert_of_isItemChar hitem
  simp only [isInert, Bool.not_eq_true', Bool.or_eq_false_iff, beq_eq_false_iff_ne] at hinert
  obtain ⟨⟨⟨⟨hline, hmark⟩, hcomment⟩, hopen⟩, hclose⟩ := hinert
  simp [step, fresh, inKey, push, beginLine, hline, hmark, hcomment, hopen, hclose,
    ne_of_isItemChar hitem (x := ' ') rfl, ne_of_isItemChar hitem (x := '\t') rfl,
    ne_of_isItemChar hitem (x := '=') rfl]

theorem step_inKey (h : isWordChar c = true) (done : Text) :
    (inKey done .inside).step c rest = .ok (inKey (c :: done) .inside) := by
  have hitem := isItemChar_of_isWordChar h
  have hpoint : c ≠ '.' := by
    rintro rfl
    cases h
  have hletter : (Text.isLetterOrNumber c || c == '_' || c == '-') = true := by
    simp only [isWordChar, Bool.or_eq_true] at h ⊢
    exact h.imp_left (Or.imp_left isLetterOrNumber_of_isAlphanum)
  simp only [step, stepKey, inKey, push, isBlank_of_isItemChar hitem,
    beq_false_of_ne (ne_of_isItemChar hitem (x := '\n') rfl), hletter, beq_false_of_ne hpoint, Bool.false_eq_true,
    if_false, if_true]
  rfl

theorem run_inKey (h : ∀ c ∈ t, isWordChar c = true) (done : Text) :
    (inKey done .inside).run (t ++ rest) = (inKey (t.reverse ++ done) .inside).run rest := by
  induction t generalizing done with
  | nil => rfl
  | cons c t ih =>
    obtain ⟨hc, ht⟩ := List.forall_mem_cons.mp h
    rw [List.cons_append, run, step_inKey hc]
    refine (ih ht _).trans ?_
    rw [List.reverse_cons, List.append_assoc]
    rfl

/-- The cursor goes through a key and its equals sign. -/
theorem run_key {key : Text} (h : IsWord key) :
    (fresh done).run (key ++ " = " ++ rest) = (inValue ((key ++ " = ").reverse ++ done) 0 none).run rest := by
  obtain ⟨c, key, rfl⟩ := List.exists_cons_of_ne_nil h.1
  obtain ⟨hc, hkey⟩ := List.forall_mem_cons.mp h.2
  have htext : c :: key ++ " = " ++ rest = c :: (key ++ (' ' :: '=' :: ' ' :: rest)) := by simp
  rw [htext, run, step_firstOfKey hc]
  refine (run_inKey hkey _).trans ?_
  simp only [List.reverse_append, List.reverse_cons, List.append_assoc, List.cons_append, List.nil_append]
  rfl

/-! ## Values -/

/-- A quotation that is not empty ends at the next mark. -/
theorem step_close (h : IsItem t) (done : Text) (depth : Int) :
    (inValue (t.reverse ++ done) depth (some '"')).step '"' rest =
      .ok (inValue ('"' :: (t.reverse ++ done)) depth none) := by
  obtain ⟨d, before, hbefore⟩ := List.exists_cons_of_ne_nil (List.reverse_ne_nil_iff.mpr h.1)
  have hd : isItemChar d = true := h.2 d (List.mem_reverse.mp (hbefore ▸ List.mem_cons_self))
  have hmark : (d == '"') = false := beq_false_of_ne (ne_of_isItemChar hd rfl)
  have hescape : (d == '\\') = false := beq_false_of_ne (ne_of_isItemChar hd rfl)
  rw [hbefore]
  simp [step, inValue, isMark, behindMe, meetMark, marksBefore, turn, push, beginLine, hmark, hescape]

/-- The cursor goes through an item of a list. -/
theorem run_item (h : IsItem t) (done : Text) (depth : Int) :
    (inValue done depth none).run (' ' :: quotedItem t ++ [','] ++ rest) =
      (inValue ((' ' :: quotedItem t ++ [',']).reverse ++ done) depth none).run rest := by
  have hopen : (inValue (' ' :: done) depth none).step '"' (t ++ '"' :: ',' :: rest) =
      .ok (inValue ('"' :: ' ' :: done) depth (some '"')) := rfl
  have hitem : ∀ c ∈ t, isInert c = true := fun c hc => isInert_of_isItemChar (h.2 c hc)
  have htext : ' ' :: quotedItem t ++ [','] ++ rest = ' ' :: '"' :: (t ++ '"' :: ',' :: rest) := by simp [quotedItem]
  calc (inValue done depth none).run (' ' :: quotedItem t ++ [','] ++ rest)
      = (inValue ('"' :: ' ' :: done) depth (some '"')).run (t ++ '"' :: ',' :: rest) := by
        rw [htext]
        exact (run_cons rfl).trans (run_cons hopen)
    _ = (inValue (t.reverse ++ '"' :: ' ' :: done) depth (some '"')).run ('"' :: ',' :: rest) :=
        run_inert rfl rfl rfl hitem
    _ = (inValue (',' :: '"' :: (t.reverse ++ '"' :: ' ' :: done)) depth none).run rest :=
        (run_cons (step_close h _ _)).trans (run_cons rfl)
    _ = (inValue ((' ' :: quotedItem t ++ [',']).reverse ++ done) depth none).run rest := by simp [quotedItem]

theorem run_items {items : List Text} (h : ∀ t ∈ items, IsItem t) (done : Text) (depth : Int) :
    (inValue done depth none).run ((items.map quotedItem).flatMap (fun t => ' ' :: t ++ [',']) ++ rest) =
      (inValue (((items.map quotedItem).flatMap fun t => ' ' :: t ++ [',']).reverse ++ done) depth none).run rest := by
  induction items generalizing done with
  | nil => rfl
  | cons t items ih =>
    obtain ⟨ht, hitems⟩ := List.forall_mem_cons.mp h
    rw [List.map_cons, List.flatMap_cons, List.append_assoc, run_item ht, ih hitems]
    simp only [List.reverse_append, List.append_assoc]

/-- The cursor goes through a value. -/
theorem run_value (h : IsSimple v) (done : Text) :
    (inValue done 0 none).run (simpleText v ++ rest) = (inValue ((simpleText v).reverse ++ done) 0 none).run rest := by
  rcases isItemChar_or_list h with hchars | ⟨items, hitems, rfl⟩
  · exact run_inert rfl rfl rfl fun c hc => isInert_of_isItemChar (hchars c hc)
  · have htext : simpleText (.list (items.map .text)) =
        '[' :: (items.map quotedItem).flatMap (fun t => ' ' :: t ++ [',']) ++ [']'] := by
      rw [simpleText, writeItems, List.map_map]
      rfl
    rw [htext, List.append_assoc, List.cons_append]
    have hopen (rest : Text) : (inValue done 0 none).step '[' rest = .ok (inValue ('[' :: done) 1 none) := rfl
    have hclose (done : Text) : (inValue done 1 none).step ']' rest = .ok (inValue (']' :: done) 0 none) := rfl
    refine (run_cons (hopen _)).trans ((run_items hitems _ 1).trans ((run_cons (hclose _)).trans ?_))
    simp only [List.reverse_append, List.reverse_cons, List.append_assoc]
    rfl

/-- The cursor goes through a line if it goes through the value behind the key. -/
theorem passes_of_run_value {key : Text} (hkey : IsWord key)
    (hrun : ∀ done rest, (inValue done 0 none).run (t ++ rest) = (inValue (t.reverse ++ done) 0 none).run rest) :
    Passes (key ++ " = " ++ t) := by
  intro done rest
  calc (fresh done).run (key ++ " = " ++ t ++ '\n' :: rest)
      = (inValue ((key ++ " = ").reverse ++ done) 0 none).run (t ++ '\n' :: rest) := by
        rw [List.append_assoc]
        exact run_key hkey
    _ = (inValue (t.reverse ++ ((key ++ " = ").reverse ++ done)) 0 none).run ('\n' :: rest) := hrun _ _
    _ = (fresh ((key ++ " = " ++ t ++ ['\n']).reverse ++ done)).run rest := by
        refine (run_cons (step_newline _)).trans ?_
        simp

/-- The cursor goes through the line of an entry. -/
theorem passes_entryLine {e : Text × Value} (hkey : IsWord e.1) (hvalue : IsSimple e.2) : Passes (entryLine e) :=
  passes_of_run_value hkey fun done _ => run_value hvalue done

/-- The cursor goes through a key with a value of plain characters. -/
theorem passes_valueLine {key : Text} (hkey : IsWord key) (h : ∀ c ∈ t, isItemChar c = true) :
    Passes (key ++ " = " ++ t) :=
  passes_of_run_value hkey fun _ _ => run_inert rfl rfl rfl fun c hc => isInert_of_isItemChar (h c hc)

end Cursor

/-! ## Documents -/

theorem passes_of_mem_documentLines (h : IsSimpleDocument sections) {l : Text} (hl : l ∈ documentLines sections) :
    Cursor.Passes l := by
  obtain ⟨s, hs, hl⟩ := List.mem_flatMap.mp (List.mem_of_mem_drop hl)
  rcases List.mem_cons.mp hl with rfl | hl
  · exact Cursor.passes_nil
  rcases List.mem_cons.mp hl with rfl | hl
  · exact Cursor.passes_header (h.words s hs)
  · obtain ⟨e, he, rfl⟩ := List.mem_map.mp hl
    exact Cursor.passes_entryLine ((h.tables s hs).words e he) ((h.tables s hs).simple e he)

/-- Lines are cut where they were put together. -/
theorem splitOn_unlines {lines : List Text} (h : ∀ l ∈ lines, '\n' ∉ l) :
    Text.splitOn '\n' (unlines lines) = lines ++ [[]] := by
  induction lines with
  | nil => rfl
  | cons l lines ih =>
    obtain ⟨hl, hlines⟩ := List.forall_mem_cons.mp h
    have htext : unlines (l :: lines) = l ++ '\n' :: unlines lines := by simp [unlines]
    rw [htext, Text.splitOn_append hl, ih hlines]
    rfl

/-- A character that ends no line stands in one of the lines. -/
theorem notMem_unlines_of_lines {lines : List Text} (hc : c ≠ '\n') (h : ∀ l ∈ lines, c ∉ l) : c ∉ unlines lines := by
  intro hmem
  obtain ⟨l, hl, hmem⟩ := List.mem_flatMap.mp hmem
  rcases List.mem_append.mp hmem with hmem | hmem
  · exact h l hl hmem
  · exact hc (List.mem_singleton.mp hmem)

/-- **Lines that the cursor goes through are read as they are.** -/
theorem logicalLines_unlines {lines : List Text} (hpasses : ∀ l ∈ lines, Cursor.Passes l)
    (hlines : ∀ l ∈ lines, '\n' ∉ l) : logicalLines (unlines lines) = .ok (lines ++ [[]]) := by
  have hrun : ({} : Cursor).run (unlines lines) = _ := Cursor.run_unlines hpasses []
  rw [logicalLines, hrun, List.append_nil]
  simp only [bind, Except.bind, pure, Except.pure, Cursor.fresh, List.reverse_reverse, splitOn_unlines hlines]
  rfl

end ImportChart.Document
