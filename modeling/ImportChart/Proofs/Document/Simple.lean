import ImportChart.Document.Quoting
import ImportChart.Document.Writer
import ImportChart.Proofs.Text.Characters
import ImportChart.Proofs.Text.Marker
import Mathlib.Data.List.Basic

/-!
# Simple documents

The documents that the program makes on its own have one kind of table, one below the other, whose values stand on one
line and need no escape sequence.

- `IsWord`, `IsItem`: the texts that may be keys and items of lists;
- `IsSimple`, `IsSimpleTable`, `IsSimpleDocument`: the values, tables and documents in question;
- `write_simple`: a simple document is written as the lines of its tables (`documentLines`).
-/

namespace ImportChart.Document

variable {c : Char} {t key : Text} {v : Value} {entries : Entries} {sections : List (Text × Entries)}

/-! ## Characters -/

/-- The characters of words: letters and digits, hyphens and underscores. -/
def isWordChar (c : Char) : Bool := c.isAlphanum || c == '_' || c == '-'

/-- The characters of items: those of words, slashes, points and stars. -/
def isItemChar (c : Char) : Bool := isWordChar c || c == '/' || c == '.' || c == '*'

theorem isItemChar_of_isWordChar (h : isWordChar c = true) : isItemChar c = true := by
  simp [isItemChar, h]

/-- The code points of the characters of items. -/
theorem toNat_of_isItemChar (h : isItemChar c = true) :
    c.toNat = 42 ∨ (45 ≤ c.toNat ∧ c.toNat ≤ 57) ∨ (65 ≤ c.toNat ∧ c.toNat ≤ 90) ∨ c.toNat = 95 ∨
      (97 ≤ c.toNat ∧ c.toNat ≤ 122) := by
  simp only [isItemChar, isWordChar, Bool.or_eq_true, beq_iff_eq] at h
  rcases h with ((((h | h) | h) | h) | h) | h
  · have hcode := Text.toNat_of_isAlphanum h
    omega
  all_goals
    subst h
    decide

/-- A character whose code point is none of those of items is not in an item. -/
theorem ne_of_isItemChar (h : isItemChar c = true) {x : Char} (hx : isItemChar x = false) : c ≠ x := by
  rintro rfl
  rw [h] at hx
  cases hx

theorem isBlank_of_isItemChar (h : isItemChar c = true) : Text.isBlank c = false := by
  have hcode := toNat_of_isItemChar h
  rw [Bool.eq_false_iff]
  simp only [Text.isBlank, ne_eq, Bool.or_eq_true, Bool.and_eq_true, decide_eq_true_eq, beq_iff_eq]
  omega

theorem isMark_of_isItemChar (h : isItemChar c = true) : isMark c = false := by
  simp [isMark, ne_of_isItemChar h (x := '"') rfl, ne_of_isItemChar h (x := '\'') rfl]

theorem isPrintable_of_isItemChar (h : isItemChar c = true) : Text.isPrintable c = true := by
  have hcode := toNat_of_isItemChar h
  rw [Text.isPrintable, if_pos (by omega), Bool.and_eq_true, decide_eq_true_eq, decide_eq_true_eq]
  omega

/-! ## Words and items -/

/-- A key that is written without quotation marks. -/
def IsWord (t : Text) : Prop := t ≠ [] ∧ ∀ c ∈ t, isWordChar c = true

/-- An item that is written without escape sequences. -/
def IsItem (t : Text) : Prop := t ≠ [] ∧ ∀ c ∈ t, isItemChar c = true

instance (t : Text) : Decidable (IsWord t) :=
  decidable_of_iff (t ≠ [] ∧ t.all isWordChar = true) (and_congr_right' List.all_eq_true)

instance (t : Text) : Decidable (IsItem t) :=
  decidable_of_iff (t ≠ [] ∧ t.all isItemChar = true) (and_congr_right' List.all_eq_true)

theorem IsWord.isItem (h : IsWord t) : IsItem t := ⟨h.1, fun c hc => isItemChar_of_isWordChar (h.2 c hc)⟩

/-- A character that stands in no item. -/
theorem IsItem.notMem (h : IsItem t) {x : Char} (hx : isItemChar x = false) : x ∉ t :=
  fun hmem => ne_of_isItemChar (h.2 x hmem) hx rfl

theorem writeKey_word (h : IsWord key) : writeKey key = .ok key := by
  have hlast : key.getLast? ≠ some '\n' := fun hlast => h.isItem.notMem rfl (List.mem_of_getLast? hlast)
  have hbare : isBareKey key = true := by
    have hall : (key.all fun c => c.isAlphanum || c == '_' || c == '-') = true := List.all_eq_true.mpr h.2
    simp only [isBareKey, beq_iff_eq, if_neg hlast, hall, Bool.and_true]
    simpa using h.1
  rw [writeKey, if_pos hbare]

/-- An item in quotation marks. -/
def quotedItem (t : Text) : Text := '"' :: t ++ ['"']

theorem replaceAll_of_notMem {first : Char} {rest new : Text} (h : first ∉ t) :
    Text.replaceAll (first :: rest) new t = t :=
  Text.replaceAll_eq_self (Text.not_infix_of_notMem h) new

theorem splitAtPart_of_notMem {first : Char} {rest : Text} (h : first ∉ t) :
    Text.splitAtPart (first :: rest) t = none :=
  Text.splitAtPart_eq_none_iff.mpr (Text.not_infix_of_notMem h)

theorem splitOnPart_of_notMem {first : Char} {rest : Text} (h : first ∉ t) :
    Text.splitOnPart (first :: rest) t = [t] := by
  unfold Text.splitOnPart
  cases t with
  | nil => rfl
  | cons c t =>
    rw [List.length_cons, Text.splitOnPart.go, splitAtPart_of_notMem h]

theorem writeText_item (h : IsItem t) : writeText t = .ok (quotedItem t) := by
  have hmark : Text.quoteMark t = '\'' := by
    rw [Text.quoteMark, if_neg]
    exact fun hmarks => h.notMem rfl hmarks.1
  have hshown : t.flatMap (Text.quotedChar '\'') = t := by
    have hchar : ∀ c ∈ t, Text.quotedChar '\'' c = [c] := by
      intro c hc
      have hitem := h.2 c hc
      have hne {x : Char} (hx : isItemChar x = false) : (c == x) = false := beq_false_of_ne (ne_of_isItemChar hitem hx)
      simp only [Text.quotedChar, hne (x := '\'') rfl, hne (x := '\\') rfl, hne (x := '\t') rfl, hne (x := '\n') rfl,
        hne (x := '\r') rfl, isPrintable_of_isItemChar hitem, Bool.or_false, Bool.false_eq_true, if_false, if_true]
    exact (List.flatMap_congr hchar).trans (List.flatMap_singleton' t)
  have hinside : shownInside t = t := by
    have hreplaced : Text.replaceAll "\\'" "'" t = t := replaceAll_of_notMem (h.notMem rfl)
    simp only [shownInside, hmark, hshown]
    rw [if_neg (by decide), hreplaced]
    exact replaceAll_of_notMem (h.notMem rfl)
  have hpieces : Text.splitOnPart "\\x" t = [t] := splitOnPart_of_notMem (h.notMem rfl)
  rw [writeText, hinside, hpieces, joinCodes]
  rfl

/-! ## Values -/

/-- A value that is written without escape sequences and within the limit on digits. -/
inductive IsSimple : Value → Prop
  | integer {n : Int} (positive : 0 < n) (writable : Text.isWritable n = true) : IsSimple (.integer n)
  | boolean (b : Bool) : IsSimple (.boolean b)
  | list {items : List Text} (items_ok : ∀ t ∈ items, IsItem t) : IsSimple (.list (items.map .text))

/-- The text of a simple value. -/
def simpleText : Value → Text
  | .integer n => Text.ofInt n
  | .boolean b => if b then "true" else "false"
  | .list items => writeItems (items.map fun | .text t => quotedItem t | _ => [])
  | _ => []

theorem writeValues_items {items : List Text} (h : ∀ t ∈ items, IsItem t) :
    writeValues (items.map .text) = .ok (items.map quotedItem) := by
  induction items with
  | nil => rfl
  | cons t items ih =>
    obtain ⟨ht, hitems⟩ := List.forall_mem_cons.mp h
    simp only [List.map_cons, writeValues, writeValue, writeText_item ht, ih hitems]
    rfl

theorem writeValue_simple (h : IsSimple v) : writeValue v = .ok (simpleText v) := by
  cases h with
  | integer _ hwritable => rw [writeValue, writeInteger, if_pos hwritable]; rfl
  | boolean b => rfl
  | list hitems =>
    rw [writeValue, writeValues_items hitems, simpleText, List.map_map]
    rfl

/-! ## Tables and documents -/

/-- A table of simple values with words for keys. -/
structure IsSimpleTable (entries : Entries) : Prop where
  nodup : (entries.map (·.1)).Nodup
  words : ∀ e ∈ entries, IsWord e.1
  simple : ∀ e ∈ entries, IsSimple e.2

/-- A document of simple tables with words for their names. -/
structure IsSimpleDocument (sections : List (Text × Entries)) : Prop where
  nodup : (sections.map (·.1)).Nodup
  words : ∀ s ∈ sections, IsWord s.1
  tables : ∀ s ∈ sections, IsSimpleTable s.2

theorem isSimpleTable_nil : IsSimpleTable [] := ⟨List.nodup_nil, by simp, by simp⟩

theorem isSimpleDocument_nil : IsSimpleDocument [] := ⟨List.nodup_nil, by simp, by simp⟩

/-- The document of some tables. -/
def documentOf (sections : List (Text × Entries)) : Entries := sections.map fun s => (s.1, .table s.2)

/-- The line of an entry. -/
def entryLine (e : Text × Value) : Text := e.1 ++ " = " ++ simpleText e.2

/-- The lines of a table, with an empty line before them. -/
def tableLines (s : Text × Entries) : List Text := [] :: ('[' :: s.1 ++ [']']) :: s.2.map entryLine

/-- The lines of a document; there is no empty line before the first table. -/
def documentLines (sections : List (Text × Entries)) : List Text := (sections.flatMap tableLines).drop 1

/-- Lines with their ends. -/
def unlines (lines : List Text) : Text := lines.flatMap (· ++ ['\n'])

theorem unlines_append (lines lines' : List Text) : unlines (lines ++ lines') = unlines lines ++ unlines lines' :=
  List.flatMap_append

/-! ## The characters of lines -/

/-- The characters of the lines of simple documents. -/
def isLineChar (c : Char) : Bool :=
  isItemChar c || c == ' ' || c == ',' || c == '"' || c == '[' || c == ']' || c == '='

theorem isLineChar_of_isItemChar (h : isItemChar c = true) : isLineChar c = true := by
  simp [isLineChar, h]

theorem IsItem.isLineChar (h : IsItem t) : ∀ c ∈ t, isLineChar c = true :=
  fun c hc => isLineChar_of_isItemChar (h.2 c hc)

/-- The numeral of a positive integer is an item. -/
theorem isItem_ofInt {n : Int} (h : 0 < n) : IsItem (Text.ofInt n) := by
  obtain ⟨m, rfl⟩ := Int.eq_ofNat_of_zero_le (Int.le_of_lt h)
  refine ⟨Nat.toDigits_ne_nil, fun c hc => ?_⟩
  have hdigit : c.isDigit = true := Nat.isDigit_of_mem_toDigits (by decide) (by decide) hc
  exact isItemChar_of_isWordChar (by simp [isWordChar, Char.isAlphanum, hdigit])

/-- The text of a simple value has the characters of items only, or it is a list. -/
theorem isItemChar_or_list (h : IsSimple v) :
    (∀ c ∈ simpleText v, isItemChar c = true) ∨
      ∃ items : List Text, (∀ t ∈ items, IsItem t) ∧ v = .list (items.map .text) := by
  cases h with
  | integer hpositive _ => exact Or.inl (isItem_ofInt hpositive).2
  | boolean b => cases b <;> exact Or.inl (List.all_eq_true.mp (by decide))
  | list hitems => exact Or.inr ⟨_, hitems, rfl⟩

theorem isLineChar_simpleText (h : IsSimple v) : ∀ c ∈ simpleText v, isLineChar c = true := by
  intro c hc
  rcases isItemChar_or_list h with hchars | ⟨items, hitems, rfl⟩
  · exact isLineChar_of_isItemChar (hchars c hc)
  · rw [simpleText, writeItems, List.mem_append, List.mem_cons, List.mem_singleton, List.mem_flatMap] at hc
    rcases hc with (rfl | ⟨t, ht, hc⟩) | rfl
    · rfl
    · rw [List.map_map] at ht
      obtain ⟨item, hitem, rfl⟩ := List.mem_map.mp ht
      simp only [Function.comp_apply, quotedItem, List.cons_append, List.append_assoc, List.mem_cons, List.mem_append,
        List.not_mem_nil, or_false, false_or] at hc
      rcases hc with rfl | rfl | hc | rfl | rfl
      · rfl
      · rfl
      · exact (hitems item hitem).isLineChar c hc
      · rfl
      · rfl
    · rfl

theorem isLineChar_entryLine {e : Text × Value} (hkey : IsWord e.1) (hvalue : IsSimple e.2) :
    ∀ c ∈ entryLine e, isLineChar c = true := by
  intro c hc
  rcases List.mem_append.mp hc with hc | hc
  · rcases List.mem_append.mp hc with hc | hc
    · exact hkey.isItem.isLineChar c hc
    · exact List.all_eq_true.mp (by decide : ((" = " : Text).all isLineChar) = true) c hc
  · exact isLineChar_simpleText hvalue c hc

theorem isLineChar_tableLines {s : Text × Entries} (hword : IsWord s.1) (htable : IsSimpleTable s.2) :
    ∀ l ∈ tableLines s, ∀ c ∈ l, isLineChar c = true := by
  intro l hl c hc
  rcases List.mem_cons.mp hl with rfl | hl
  · cases hc
  rcases List.mem_cons.mp hl with rfl | hl
  · simp only [List.cons_append, List.mem_cons, List.mem_append, List.not_mem_nil, or_false] at hc
    rcases hc with rfl | hc | rfl
    · rfl
    · exact hword.isItem.isLineChar c hc
    · rfl
  · obtain ⟨e, he, rfl⟩ := List.mem_map.mp hl
    exact isLineChar_entryLine (htable.words e he) (htable.simple e he) c hc

theorem isLineChar_documentLines (h : IsSimpleDocument sections) :
    ∀ l ∈ documentLines sections, ∀ c ∈ l, isLineChar c = true := by
  intro l hl
  obtain ⟨s, hs, hl⟩ := List.mem_flatMap.mp (List.mem_of_mem_drop hl)
  exact isLineChar_tableLines (h.words s hs) (h.tables s hs) l hl

theorem notMem_unlines (h : IsSimpleDocument sections) {x : Char} (hline : isLineChar x = false) (hend : x ≠ '\n') :
    x ∉ unlines (documentLines sections) := by
  intro hmem
  obtain ⟨l, hl, hmem⟩ := List.mem_flatMap.mp hmem
  rcases List.mem_append.mp hmem with hmem | hmem
  · rw [isLineChar_documentLines h l hl x hmem] at hline
    cases hline
  · exact hend (List.mem_singleton.mp hmem)

/-! ## Writing -/

/-- There are no tables among texts. -/
theorem hasTable_texts (items : List Text) : hasTable (items.map .text) = false := by
  rw [hasTable, List.any_map, List.any_eq_false]
  exact fun _ _ => Bool.false_ne_true

/-- A simple entry is written on one line. -/
theorem writeEntry_simple (write : TableWriter) (above : Text) (depth : Nat) (done : Text) {e : Text × Value}
    (hkey : IsWord e.1) (hvalue : IsSimple e.2) :
    writeEntry write above depth (⟨done, []⟩, []) e = .ok (⟨done ++ unlines [entryLine e], []⟩, []) := by
  obtain ⟨key, v⟩ := e
  have hline : done ++ unlines [entryLine (key, v)] = done ++ key ++ " = " ++ simpleText v ++ "\n" := by
    simp [unlines, entryLine]
  have hwrite := writeValue_simple hvalue
  rw [hline]
  cases hvalue with
  | integer _ _ => simp only [writeEntry, writeKey_word hkey, hwrite]; rfl
  | boolean b => simp only [writeEntry, writeKey_word hkey, hwrite]; rfl
  | @list items _ =>
    simp only [writeEntry, writeKey_word hkey, hwrite, hasTable_texts]
    rfl

/-- A simple table is written line by line. -/
theorem foldlM_writeEntry (write : TableWriter) (above : Text) (depth : Nat) {entries : Entries}
    (hwords : ∀ e ∈ entries, IsWord e.1) (hsimple : ∀ e ∈ entries, IsSimple e.2) (done : Text) :
    entries.foldlM (writeEntry write above depth) (⟨done, []⟩, []) =
      .ok (⟨done ++ unlines (entries.map entryLine), []⟩, []) := by
  induction entries generalizing done with
  | nil => simp [unlines, pure, Except.pure]
  | cons e entries ih =>
    obtain ⟨hword, hwords⟩ := List.forall_mem_cons.mp hwords
    obtain ⟨he, hsimple⟩ := List.forall_mem_cons.mp hsimple
    rw [List.foldlM_cons, writeEntry_simple write above depth done hword he]
    refine (ih hwords hsimple _).trans ?_
    rw [List.append_assoc, ← unlines_append]
    rfl

theorem writeTable_simple (depth : Nat) (above : Text) (h : IsSimpleTable entries) :
    writeTable (depth + 1) above entries = .ok ⟨unlines (entries.map entryLine), []⟩ := by
  rw [writeTable, foldlM_writeEntry _ _ _ h.words h.simple]
  simp [bind, Except.bind, pure, Except.pure]

/-- The tables of a document are kept for later. -/
theorem foldlM_writeEntry_tables (write : TableWriter) (above : Text) (depth : Nat) {sections : List (Text × Entries)}
    (hwords : ∀ s ∈ sections, IsWord s.1) (tables : List (Text × Entries)) :
    (documentOf sections).foldlM (writeEntry write above depth) (⟨[], tables⟩, []) =
      .ok (⟨[], sections.foldl (fun m s => setKey s.1 s.2 m) tables⟩, []) := by
  induction sections generalizing tables with
  | nil => rfl
  | cons s sections ih =>
    obtain ⟨hword, hwords⟩ := List.forall_mem_cons.mp hwords
    have hentry : writeEntry write above depth (⟨[], tables⟩, []) (s.1, .table s.2) =
        .ok (⟨[], setKey s.1 s.2 tables⟩, []) := by
      simp only [writeEntry, writeKey_word hword]
      rfl
    rw [documentOf, List.map_cons, List.foldlM_cons, hentry]
    exact ih hwords _

/-- A text whose last line is not empty is separated from what follows. -/
theorem separate_unlines {lines : List Text} {last : Text} (hne : last ≠ []) (hlast : '\n' ∉ last) :
    separate (unlines (lines ++ [last])) = unlines (lines ++ [last, []]) := by
  have htext : unlines (lines ++ [last]) = unlines lines ++ last ++ ['\n'] := by simp [unlines]
  have hends : Text.endsWith "\n\n" (unlines lines ++ last ++ ['\n']) = false := by
    rw [Bool.eq_false_iff]
    intro hsuffix
    have hsuffix : ['\n'] ++ ['\n'] <:+ unlines lines ++ last ++ ['\n'] := List.isSuffixOf_iff_suffix.mp hsuffix
    obtain ⟨start, hstart⟩ := hsuffix
    rw [← List.append_assoc] at hstart
    have hbefore := congrArg List.getLast? (List.append_cancel_right hstart)
    rw [List.getLast?_concat, List.getLast?_append_of_ne_nil _ hne] at hbefore
    exact hlast (List.mem_of_getLast? hbefore.symm)
  rw [htext, separate, hends]
  simp [unlines]

theorem newline_notMem {l : Text} (h : ∀ c ∈ l, isLineChar c = true) : '\n' ∉ l :=
  fun hmem => Bool.false_ne_true (h _ hmem)

/-- The last line of a table is not empty. -/
theorem exists_tableLines_eq {s : Text × Entries} (hword : IsWord s.1) (htable : IsSimpleTable s.2) :
    ∃ before last, tableLines s = [] :: before ++ [last] ∧ last ≠ [] ∧ '\n' ∉ last := by
  have hchars := isLineChar_tableLines hword htable
  rcases List.eq_nil_or_concat s.2 with hnil | ⟨entries, e, hconcat⟩
  · refine ⟨[], '[' :: s.1 ++ [']'], by rw [tableLines, hnil]; rfl, by simp, ?_⟩
    exact newline_notMem (hchars _ (by simp [tableLines]))
  · rw [List.concat_eq_append] at hconcat
    have hlines : tableLines s = [] :: (('[' :: s.1 ++ [']']) :: entries.map entryLine) ++ [entryLine e] := by
      rw [tableLines, hconcat, List.map_append]
      rfl
    refine ⟨_, entryLine e, hlines, by simp [entryLine], ?_⟩
    exact newline_notMem (hchars _ (by rw [hlines]; simp))

/-- The text of some tables is separated from the next one by an empty line. -/
theorem separate_documentLines (h : ∀ s ∈ sections, IsWord s.1 ∧ IsSimpleTable s.2) (s : Text × Entries) :
    separate (unlines (documentLines sections)) ++ unlines ((tableLines s).drop 1) =
      unlines (documentLines (sections ++ [s])) := by
  rcases List.eq_nil_or_concat sections with rfl | ⟨before, last, rfl⟩
  · simp [documentLines, separate, unlines]
  rw [List.concat_eq_append] at h ⊢
  obtain ⟨hword, htable⟩ := h last (by simp)
  obtain ⟨lines, line, hlines, hne, hnewline⟩ := exists_tableLines_eq hword htable
  obtain ⟨front, hfront⟩ : ∃ front, documentLines (before ++ [last]) = front ++ [line] := by
    have hflat : (before ++ [last]).flatMap tableLines = before.flatMap tableLines ++ [] :: lines ++ [line] := by
      simp [hlines]
    rw [documentLines, hflat, List.drop_append_of_le_length (by simp; omega)]
    exact ⟨_, rfl⟩
  have hnext : documentLines (before ++ [last] ++ [s]) = documentLines (before ++ [last]) ++ tableLines s := by
    rw [documentLines, documentLines, List.flatMap_append, List.drop_append_of_le_length]
    · simp
    · simp [hlines]
      omega
  rw [hnext, hfront, separate_unlines hne hnewline, ← unlines_append]
  simp [tableLines]

/-- Tables are written one behind the other. -/
theorem foldlM_writeTable (depth : Nat) (h : ∀ s ∈ sections, IsWord s.1 ∧ IsSimpleTable s.2)
    (done : List (Text × Entries)) (hdone : ∀ s ∈ done, IsWord s.1 ∧ IsSimpleTable s.2) :
    sections.foldlM (fun (done : Text × List (Text × Entries)) (s : Text × Entries) => do
      let w ← writeTable (depth + 1) s.1 s.2
      let t :=
        if w.text.isEmpty && !w.tables.isEmpty then done.1 else separate done.1 ++ '[' :: s.1 ++ "]\n" ++ w.text
      return (t, w.tables.foldl (fun m (k, entries) => setKey (s.1 ++ '.' :: k) entries m) done.2))
      (unlines (documentLines done), []) = (.ok (unlines (documentLines (done ++ sections)), []) : Writing _) := by
  induction sections generalizing done with
  | nil =>
    rw [List.append_nil]
    rfl
  | cons s sections ih =>
    obtain ⟨⟨hword, htable⟩, hrest⟩ := List.forall_mem_cons.mp h
    have hblock : separate (unlines (documentLines done)) ++ '[' :: s.1 ++ "]\n" ++ unlines (s.2.map entryLine) =
        unlines (documentLines (done ++ [s])) := by
      rw [← separate_documentLines hdone]
      simp [tableLines, unlines]
    rw [List.foldlM_cons, writeTable_simple depth s.1 htable]
    refine (?_ : _ = _).trans ((ih hrest (done ++ [s]) ?_).trans ?_)
    · rw [← hblock]
      simp [bind, Except.bind, pure, Except.pure]
    · exact List.forall_mem_append.mpr ⟨hdone, List.forall_mem_singleton.mpr ⟨hword, htable⟩⟩
    · rw [List.append_assoc]
      rfl

theorem writeSections_nil (write : TableWriter) (depth : Nat) (t : Text) :
    writeSections write depth t [] = .ok t := by
  cases depth <;> rfl

/-- The tables of a document are written under their headers. -/
theorem write_documentOf (hnodup : (sections.map (·.1)).Nodup) (hwords : ∀ s ∈ sections, IsWord s.1) :
    write (documentOf sections) = writeSections (writeTable (depthOfEntries (documentOf sections) + 1))
      (depthOfEntries (documentOf sections) + 1) [] sections := by
  have hkeys : sections.foldl (fun m s => setKey s.1 s.2 m) [] = sections :=
    foldl_setKey_of_nodup [] sections (by simpa using hnodup)
  have htop : writeTable (depthOfEntries (documentOf sections) + 1) [] (documentOf sections) =
      .ok ⟨[], sections⟩ := by
    rw [writeTable, foldlM_writeEntry_tables _ _ _ hwords, hkeys]
    rfl
  rw [write, htop]
  rfl

/-- **A simple document is written as the lines of its tables.** -/
theorem write_simple (h : IsSimpleDocument sections) :
    write (documentOf sections) = .ok (unlines (documentLines sections)) := by
  have htables := foldlM_writeTable (depthOfEntries (documentOf sections))
    (fun s hs => ⟨h.words s hs, h.tables s hs⟩) [] (fun _ hs => absurd hs List.not_mem_nil)
  rw [write_documentOf h.nodup h.words, writeSections]
  cases sections with
  | nil => rfl
  | cons s sections =>
    rw [if_neg (by simp)]
    refine (congrArg (· >>= fun done => writeSections _ _ done.1 done.2) htables).trans ?_
    exact writeSections_nil _ _ _

/-- **A document is not written if the list at its end is not.** -/
theorem write_error (h : IsSimpleDocument sections) {group : Text} (hgroup : IsWord group)
    (hnew : group ∉ sections.map (·.1)) (hkey : IsWord key) {items : List Value} {e : WriteError}
    (htable : hasTable items = false) (herror : writeValue (.list items) = .error e) :
    write (documentOf (sections ++ [(group, [(key, .list items)])])) = .error e := by
  have hnodup : ((sections ++ [(group, [(key, Value.list items)])]).map (·.1)).Nodup := by
    rw [← setKey_of_notMem hnew]
    exact nodup_keys_setKey h.nodup _ _
  have hlast (depth : Nat) : writeTable (depth + 1) group [(key, .list items)] = .error e := by
    have hentry (write : TableWriter) :
        writeEntry write group depth (⟨[], []⟩, []) (key, .list items) = .error e := by
      simp only [writeEntry, writeKey_word hkey, htable, herror]
      rfl
    rw [writeTable, List.foldlM_cons, hentry]
    rfl
  rw [write_documentOf hnodup (List.forall_mem_append.mpr ⟨h.words, List.forall_mem_singleton.mpr hgroup⟩)]
  generalize depthOfEntries _ = depth
  have htables := foldlM_writeTable depth (fun s hs => ⟨h.words s hs, h.tables s hs⟩) []
    (fun _ hs => absurd hs List.not_mem_nil)
  rw [writeSections, if_neg (by simp), List.foldlM_append]
  refine (congrArg (fun done => (done >>= _) >>= _) htables).trans ?_
  simp only [bind, Except.bind, List.foldlM_cons, hlast]

end ImportChart.Document
