import ImportChart.Document.Reader
import ImportChart.Proofs.Document.Cursor
import ImportChart.Proofs.Document.Values

/-!
# Simple documents are read as they were written

- `StandsFor`: a text that is read as a value where it stands on a line behind its key; those of simple values do
  (`standsFor_simpleText`);
- `readEntry_valueLine`: such a line adds the entry to a table without its key;
- `openTable_new`: a header opens a new table;
- `read_simple`: a simple document is read as it was written.
-/

namespace ImportChart.Document

variable {key t name : Text} {v : Value} {entries : Entries} {sections : List (Text × Entries)}

/-! ## Entries -/

theorem splitOn_append_left {sep : Char} {a : Text} (h : sep ∉ a) (b : Text) :
    ∃ first rest, Text.splitOn sep (a ++ b) = (a ++ first) :: rest := by
  induction a with
  | nil => exact List.exists_cons_of_ne_nil (Text.splitOn_ne_nil sep b)
  | cons c a ih =>
    rw [List.mem_cons, not_or] at h
    obtain ⟨first, rest, hab⟩ := ih h.2
    exact ⟨first, rest, by rw [List.cons_append, Text.splitOn, if_neg (Ne.symm h.1), hab]; rfl⟩

theorem splitOnLimit_append {sep : Char} {a : Text} (h : sep ∉ a) (limit : Nat) (b : Text) :
    Text.splitOnLimit sep (limit + 1) (a ++ sep :: b) = a :: Text.splitOnLimit sep limit b := by
  induction a with
  | nil => rw [List.nil_append, Text.splitOnLimit, if_pos rfl]
  | cons c a ih =>
    rw [List.mem_cons, not_or] at h
    rw [List.cons_append, Text.splitOnLimit, if_neg (Ne.symm h.1), ih h.2]

/-- A line without single marks is cut at its double marks. -/
theorem quotePieces_of_notMem (h : '\'' ∉ t) : quotePieces t = Text.splitOn '"' t := by
  obtain ⟨first, rest, hpieces⟩ := List.exists_cons_of_ne_nil (Text.splitOn_ne_nil '"' t)
  have hfirst : '\'' ∉ first := by
    intro hmem
    apply h
    rw [← Text.joinWith_splitOn '"' t, hpieces]
    cases rest with
    | nil => exact hmem
    | cons next rest => simp [Text.joinWith, hmem]
  rw [quotePieces, hpieces]
  cases rest with
  | nil => simp [Text.splitOn_eq_singleton hfirst]
  | cons next rest => simp [hfirst, Text.splitOn_eq_singleton hfirst]

/-- A text that is read as a value, where it stands on a line behind its key. -/
structure StandsFor (t : Text) (v : Value) : Prop where
  ne_nil : t ≠ []
  /-- Nothing in it takes part in single quotation marks. -/
  notMem : '\'' ∉ t
  /-- It does not begin with a mark, which could open a text over several lines. -/
  first : ∀ c ∈ t.head?, Text.isBlank c = false ∧ isMark c = false
  last : ∀ c ∈ t.getLast?, Text.isBlank c = false
  /-- If it begins with a bracket, it ends with one. -/
  closed : (t.head? == some '[' && t.getLast? != some ']') = false
  read : readValue t (isPlainNumeral (' ' :: t)) = .ok v

/-- The line of a key and the text of its value. -/
def valueLine (key t : Text) : Text := key ++ " = " ++ t

theorem StandsFor.trim (h : StandsFor t v) : Text.trim (' ' :: t) = t :=
  Text.trim_space (fun c hc => (h.first c hc).1) h.last

/-- The line of an entry is cut into its key and its value. -/
theorem splitEntry_valueLine (hkey : IsWord key) (h : StandsFor t v) :
    splitEntry (valueLine key t) = .ok ⟨key, t, isPlainNumeral (' ' :: t)⟩ := by
  have hline : valueLine key t = (key ++ [' ']) ++ '=' :: ' ' :: t := by simp [valueLine]
  have hsingle : '\'' ∉ valueLine key t := by
    have hnot : '\'' ∉ key := hkey.isItem.notMem rfl
    simp [valueLine, hnot, h.notMem]
  have hsign : '=' ∉ key ++ [' '] := by simpa using hkey.isItem.notMem (x := '=') rfl
  have hcount : countBefore "=" true (quotePieces (valueLine key t)) = 0 := by
    have hmark : '"' ∉ key ++ " =" := by simpa using hkey.isItem.notMem (x := '"') rfl
    obtain ⟨first, rest, hpieces⟩ := splitOn_append_left hmark (' ' :: t)
    have hcontains : Text.contains "=" (key ++ " =" ++ first) = true :=
      Text.contains_iff.mpr ⟨key ++ [' '], first, by simp⟩
    have hstart : valueLine key t = key ++ " =" ++ ' ' :: t := by simp [valueLine]
    rw [quotePieces_of_notMem hsingle, hstart, hpieces, countBefore, hcontains]
    rfl
  have hpieces : Text.splitOnLimit '=' 1 (valueLine key t) = [key ++ [' '], ' ' :: t] := by
    rw [hline, splitOnLimit_append hsign, Text.splitOnLimit]
  have htail : behindSigns (valueLine key t) 1 = ' ' :: t := by
    rw [behindSigns, hpieces]
    rfl
  have htrimKey : Text.trim (key ++ [' ']) = key := by
    have hblank : ∀ c ∈ key, Text.isBlank c = false := fun c hc => isBlank_of_isItemChar (hkey.isItem.2 c hc)
    have hnone : ∀ c ∈ ([] : Text), Text.isBlank c = true := by simp
    have hspace : ∀ c ∈ ([' '] : Text), Text.isBlank c = true := List.forall_mem_singleton.mpr (by decide)
    exact Text.trim_blanks hnone hspace (fun c hc => hblank c (List.mem_of_head? hc))
      (fun c hc => hblank c (List.mem_of_getLast? hc))
  have hfound : canBeValue (' ' :: t) = .ok true := rfl
  have hdigits : ((' ' :: t).head?.any Char.isDigit) = false := rfl
  rw [splitEntry, hcount]
  simp only [Nat.zero_add, htail, hdigits, Bool.false_eq_true, if_false, findValue, hfound, hpieces, h.trim]
  simp [Text.joinWith, htrimKey, bind, Except.bind, pure, Except.pure]

theorem keyParts_word (h : IsWord key) : keyParts key = .ok ([], key) := by
  obtain ⟨c, key, rfl⟩ := List.exists_cons_of_ne_nil h.1
  have hpoint : '.' ∉ c :: key := fun hmem => Bool.false_ne_true (h.2 '.' hmem)
  have hc := isMark_of_isItemChar (h.isItem.2 c List.mem_cons_self)
  rw [keyParts, if_neg hpoint]
  simp [hc]

/-- Such a value does not go on after its line. -/
theorem StandsFor.openLength? (h : StandsFor t v) : openLength? t = .ok none := by
  have hlast : lastText t = .ok t := by
    rw [lastText, h.closed]
    rfl
  rw [Document.openLength?, hlast]
  rcases t with _ | ⟨c, rest⟩
  · rfl
  · have hc : isMark c = false := (h.first c rfl).2
    simp only [hc, Bool.not_false, if_true, bind, Except.bind]
    split
    · rfl
    · rfl

/-- **The line of an entry adds the entry to a table that does not have its key.** -/
theorem readEntry_valueLine (hkey : IsWord key) (h : StandsFor t v) (hnew : key ∉ entries.map (·.1)) :
    readEntry (valueLine key t) (.table entries) = .ok (.table (entries ++ [(key, v)]), none) := by
  have hlookup : entries.lookup key = none := lookup_eq_none_iff_notMem.mpr hnew
  have hset : (Value.table entries).set key v = .table (entries ++ [(key, v)]) :=
    congrArg Value.table (setKey_of_notMem hnew v)
  rw [readEntry, readEntryWith, splitEntry_valueLine hkey h]
  simp only [bind, Except.bind, keyParts_word hkey, openTables, h.openLength?, h.read]
  simp [Value.at?, Value.modify, hlookup, hset, Functor.map, Except.map, pure, Except.pure]

/-! ## The texts of simple values -/

/-- A simple value neither begins nor ends with a blank. -/
theorem isBlank_ends_simpleText (h : IsSimple v) :
    (∀ c ∈ (simpleText v).head?, Text.isBlank c = false) ∧ ∀ c ∈ (simpleText v).getLast?, Text.isBlank c = false := by
  rcases isItemChar_or_list h with hchars | ⟨items, -, rfl⟩
  · exact ⟨fun c hc => isBlank_of_isItemChar (hchars c (List.mem_of_head? hc)),
      fun c hc => isBlank_of_isItemChar (hchars c (List.mem_of_getLast? hc))⟩
  · rw [simpleText, writeItems, List.getLast?_concat]
    constructor
    · rintro c ⟨⟩
      decide
    · rintro c ⟨⟩
      decide

theorem simpleText_ne_nil (h : IsSimple v) : simpleText v ≠ [] := by
  cases h with
  | integer hpositive _ => exact (isItem_ofInt hpositive).1
  | boolean b => cases b <;> decide
  | list _ => exact List.cons_ne_nil _ _

/-- A numeral without underscores keeps the rules of numerals, if a zero begins none but a hexadecimal one. -/
theorem isPlainNumeral_of_notMem {a : Char} {rest : Text} (htrim : Text.trim (' ' :: a :: rest) = a :: rest)
    (ha : a.isDigit = true) (hzero : a = '0' → rest.head? = some 'x') (hscore : '_' ∉ a :: rest) :
    isPlainNumeral (' ' :: a :: rest) = true := by
  have hnone (part : Text) (hpart : '_' ∈ part) : Text.contains part (a :: rest) = false :=
    Bool.eq_false_iff.mpr fun hcontains => hscore ((Text.contains_iff.mp hcontains).subset hpart)
  have h₁ := hnone "_." (by simp)
  have h₂ := hnone "._" (by simp)
  have h₃ := hnone "__" (by simp)
  have hfirst := beq_false_of_ne (Text.ne_of_isDigit ha (x := '_') rfl)
  rw [isPlainNumeral, htrim]
  rcases rest with _ | ⟨b, rest⟩
  · simpa using hfirst
  · have hlast : (a :: b :: rest).getLast? ≠ some '_' := fun hlast => hscore (List.mem_of_getLast? hlast)
    have hprefix : (a == '0' && !(b == '.' || b == 'o' || b == 'b' || b == 'x')) = false := by
      by_cases h : a = '0'
      · simp [Option.some.inj (hzero h)]
      · simp [h]
    simp only [hfirst, beq_false_of_ne hlast, h₁, h₂, h₃, hprefix,
      beq_false_of_ne (Text.ne_of_isDigit ha (x := '+') rfl), beq_false_of_ne (Text.ne_of_isDigit ha (x := '-') rfl),
      Bool.or_self, Bool.false_eq_true, if_false]
    rfl

/-- A numeral that is written keeps the rules of numerals. -/
theorem isPlainNumeral_ofInt {n : Int} (hpositive : 0 < n) (hwritable : Text.isWritable n = true) :
    isPlainNumeral (' ' :: Text.ofInt n) = true := by
  have hdigits : ∀ c ∈ Text.ofInt n, c.isDigit = true := fun c => Text.isDigit_of_mem_ofInt hpositive
  have hzero : (Text.ofInt n).head? ≠ some '0' := by
    obtain ⟨m, rfl⟩ := Int.eq_ofNat_of_zero_le (Int.le_of_lt hpositive)
    exact Text.head?_ofNat (by omega)
  have hends := isBlank_ends_simpleText (.integer hpositive hwritable)
  have htrim : Text.trim (' ' :: Text.ofInt n) = Text.ofInt n := Text.trim_space hends.1 hends.2
  obtain ⟨a, rest, hcons⟩ := List.exists_cons_of_ne_nil (isItem_ofInt hpositive).1
  rw [hcons] at hdigits hzero htrim ⊢
  exact isPlainNumeral_of_notMem htrim (hdigits a List.mem_cons_self) (fun ha => absurd (congrArg some ha) hzero)
    (notMem_of_isDigit hdigits rfl)

/-- A simple value does not begin with a quotation mark, and a bracket at its beginning is closed at its end. -/
theorem begins_simpleText (h : IsSimple v) : (simpleText v).head?.any isMark = false ∧
    ((simpleText v).head? == some '[' && (simpleText v).getLast? != some ']') = false := by
  rcases isItemChar_or_list h with hchars | ⟨items, -, rfl⟩
  · rcases hcons : simpleText v with _ | ⟨c, rest⟩
    · exact ⟨rfl, rfl⟩
    · have hc := hchars c (hcons ▸ List.mem_cons_self)
      have hopen := ne_of_isItemChar hc (x := '[') rfl
      exact ⟨isMark_of_isItemChar hc, by simp [hopen]⟩
  · rw [simpleText, writeItems, List.getLast?_concat]
    exact ⟨rfl, rfl⟩

/-- **The text of a simple value stands for it.** -/
theorem standsFor_simpleText (h : IsSimple v) : StandsFor (simpleText v) v where
  ne_nil := simpleText_ne_nil h
  notMem hmem := Bool.false_ne_true (isLineChar_simpleText h _ hmem)
  first c hc := by
    have hmark := (begins_simpleText h).1
    rw [Option.mem_def.mp hc] at hmark
    exact ⟨(isBlank_ends_simpleText h).1 c hc, hmark⟩
  last := (isBlank_ends_simpleText h).2
  closed := (begins_simpleText h).2
  read := readValue_simple h fun n hn => by
    subst hn
    cases h with
    | integer hpositive hwritable => exact isPlainNumeral_ofInt hpositive hwritable

/-! ## Headers -/

theorem splitAtPart_append {c : Char} {a : Text} (h : c ∉ a) (b : Text) :
    Text.splitAtPart [c] (a ++ c :: b) = some (a, b) := by
  induction a with
  | nil => simp [Text.splitAtPart]
  | cons x a ih =>
    rw [List.mem_cons, not_or] at h
    have hprefix : [c].isPrefixOf (x :: (a ++ c :: b)) = false := by simp [List.isPrefixOf, h.1]
    rw [List.cons_append, Text.splitAtPart, hprefix, if_neg Bool.false_ne_true, ih h.2]
    rfl

/-- The header of a table is read as its name. -/
theorem readHeader_word (h : IsWord t) : readHeader (t ++ [']']) = .ok ⟨[t], false⟩ := by
  have hnot {x : Char} (hx : isItemChar x = false) : x ∉ t := h.isItem.notMem hx
  have hblank : ∀ c ∈ t, Text.isBlank c = false := fun c hc => isBlank_of_isItemChar (h.isItem.2 c hc)
  have hcount : countBefore "]" true (quotePieces (t ++ [']'])) = 0 := by
    have hdouble : '"' ∉ t ++ [']'] := by simpa using hnot (x := '"') rfl
    have hsingle : '\'' ∉ t ++ [']'] := by simpa using hnot (x := '\'') rfl
    have hcontains : Text.contains "]" (t ++ [']']) = true := Text.contains_iff.mpr ⟨t, [], by simp⟩
    rw [quotePieces_of_notMem hsingle, Text.splitOn_eq_singleton hdouble, countBefore, hcontains]
    rfl
  have hpieces : Text.splitOnPart.go "]" 1 (t ++ [']']) = [t, []] := by
    have hfirst : Text.splitAtPart "]" (t ++ [']']) = some (t, []) := splitAtPart_append (hnot rfl) []
    rw [Text.splitOnPart.go, hfirst]
    rfl
  have htrim : Text.trim t = t :=
    Text.trim_eq_self (fun c hc => hblank c (List.mem_of_head? hc)) (fun c hc => hblank c (List.mem_of_getLast? hc))
  have hname : headerNames 1 [t] = .ok [t] := by
    have hmark : t.head?.any isMark = false := by
      rcases t with _ | ⟨c, t⟩
      · rfl
      · exact isMark_of_isItemChar (h.isItem.2 c List.mem_cons_self)
    have hbare : isBareName t = true := by
      rw [isBareName, Bool.and_eq_true]
      exact ⟨by simpa using h.1, List.all_eq_true.mpr h.2⟩
    rw [headerNames, htrim]
    simp only [hmark, hbare]
    rfl
  have hgroups : Text.splitOn '.' t = [t] :=
    Text.splitOn_eq_singleton fun hmem => Bool.false_ne_true (h.2 '.' hmem)
  have hempty : (t ++ [']']).isEmpty = false := by simp
  rw [readHeader]
  · simp only [hempty, hcount, Nat.zero_add, hpieces, bind, Except.bind]
    simp [Text.joinWith, Text.isBlankText, hgroups, hname, pure, Except.pure]
  · intro rest heq
    obtain ⟨c, name, rfl⟩ := List.exists_cons_of_ne_nil h.1
    exact ne_of_isItemChar (h.isItem.2 c List.mem_cons_self) rfl (List.cons.inj heq).1

/-- **A header opens a new table at the end of the document.** -/
theorem openTable_new (hword : IsWord t) (hnew : t ∉ entries.map (·.1)) (d : Draft) (hroot : d.root = .table entries) :
    d.openTable ⟨[t], false⟩ = .ok { d with root := .table (entries ++ [(t, .table [])]), here := [.key t] } := by
  have hlookup : entries.lookup t = none := lookup_eq_none_iff_notMem.mpr hnew
  have hset : (Value.table entries).set t (.table []) = .table (entries ++ [(t, .table [])]) :=
    congrArg Value.table (setKey_of_notMem hnew _)
  have hempty : t.isEmpty = false := by simp [hword.1]
  simp only [Draft.openTable, Draft.followNames, Draft.openName, hroot, Value.at?, Option.getD_some, hlookup, hempty]
  simp [Value.modify, hset, Draft.fresh, bind, Except.bind, pure, Except.pure]

/-! ## Lines -/

/-- A document on the way that has some tables, with a place where entries go. -/
def draft (sections : List (Text × Entries)) (here : List Step) : Draft :=
  { root := .table (documentOf sections), here }

theorem keys_documentOf (sections : List (Text × Entries)) :
    (documentOf sections).map (·.1) = sections.map (·.1) := by
  simp [documentOf]

theorem addLine_nil (here : List Step) : (draft sections here).addLine [] = .ok (draft sections here) := rfl

/-- The line of a header opens a table. -/
theorem addLine_header (hword : IsWord t) (hnew : t ∉ sections.map (·.1)) (here : List Step) :
    (draft sections here).addLine ('[' :: t ++ [']']) = .ok (draft (sections ++ [(t, [])]) [.key t]) := by
  have htrim : Text.trim ('[' :: t ++ [']']) = '[' :: (t ++ [']']) := by
    refine Text.trim_eq_self ?_ ?_
    · rintro c ⟨⟩
      decide
    · rw [List.getLast?_concat]
      rintro c ⟨⟩
      decide
  have hopen := openTable_new hword (keys_documentOf sections ▸ hnew) (draft sections here) rfl
  rw [Draft.addLine]
  simp only [draft, Draft.trims, if_true, htrim, beq_self_eq_true, readHeader_word hword, bind, Except.bind]
  refine hopen.trans ?_
  simp [draft, documentOf]

theorem trim_valueLine (hkey : IsWord key) (h : StandsFor t v) : Text.trim (valueLine key t) = valueLine key t := by
  refine Text.trim_eq_self (fun c hc => ?_) (fun c hc => ?_)
  · obtain ⟨first, key, rfl⟩ := List.exists_cons_of_ne_nil hkey.1
    obtain rfl := Option.some.inj hc
    exact isBlank_of_isItemChar (hkey.isItem.2 _ List.mem_cons_self)
  · rw [valueLine, List.getLast?_append_of_ne_nil _ h.ne_nil] at hc
    exact h.last c hc

/-- The line of an entry adds the entry to the open table. -/
theorem addLine_valueLine {d : Draft} (hopen : d.root.at? d.here = some (.table entries)) (hpending : d.pending = none)
    (hkey : IsWord key) (h : StandsFor t v) (hnew : key ∉ entries.map (·.1)) :
    d.addLine (valueLine key t) =
      .ok { d with root := d.root.modify (fun _ => .table (entries ++ [(key, v)])) d.here, pending := none } := by
  have hentry : d.addEntry (valueLine key t) =
      .ok { d with root := d.root.modify (fun _ => .table (entries ++ [(key, v)])) d.here, pending := none } := by
    rw [Draft.addEntry, hopen, Option.getD_some, readEntry_valueLine hkey h hnew]
    rfl
  obtain ⟨c, rest, hline, hc⟩ : ∃ c rest, valueLine key t = c :: rest ∧ isItemChar c = true := by
    obtain ⟨c, key, rfl⟩ := List.exists_cons_of_ne_nil hkey.1
    exact ⟨c, _, rfl, hkey.isItem.2 c List.mem_cons_self⟩
  have hsign : '=' ∈ valueLine key t := by simp [valueLine]
  have hbracket : (c == '[') = false := beq_false_of_ne (ne_of_isItemChar hc rfl)
  have hbrace : (c == '\x7b') = false := beq_false_of_ne (ne_of_isItemChar hc rfl)
  have htrim := trim_valueLine hkey h
  rw [hline] at htrim hsign hentry ⊢
  rw [Draft.addLine, hpending]
  simp only [Draft.trims, if_true, htrim, hbracket, hbrace, hsign, Bool.false_eq_true, if_false]
  exact hentry

/-- Below a header, the open table is the last one. -/
theorem addLine_lastTable (hname : name ∉ sections.map (·.1)) (hkey : IsWord key) (h : StandsFor t v)
    (hnew : key ∉ entries.map (·.1)) :
    (draft (sections ++ [(name, entries)]) [.key name]).addLine (valueLine key t) =
      .ok (draft (sections ++ [(name, entries ++ [(key, v)])]) [.key name]) := by
  have hname : name ∉ (documentOf sections).map (·.1) := keys_documentOf sections ▸ hname
  have hdocument (es : Entries) :
      documentOf (sections ++ [(name, es)]) = documentOf sections ++ [(name, .table es)] := by simp [documentOf]
  have hopen : (draft (sections ++ [(name, entries)]) [.key name]).root.at? [.key name] = some (.table entries) := by
    simp only [draft, hdocument, Value.at?, Value.step?, Value.get?, lookup_concat hname, Option.bind_some]
  refine (addLine_valueLine hopen rfl hkey h hnew).trans ?_
  simp only [draft, hdocument, Value.modify, Value.step?, Value.get?, lookup_concat hname, Value.replaceStep,
    setKey_concat hname]

/-- The lines of entries are read one by one. -/
theorem foldlM_entryLines {more : Entries} (hname : t ∉ sections.map (·.1)) (hwords : ∀ e ∈ more, IsWord e.1)
    (hsimple : ∀ e ∈ more, IsSimple e.2) (hnodup : ((entries ++ more).map (·.1)).Nodup) :
    (more.map entryLine).foldlM Draft.addLine (draft (sections ++ [(t, entries)]) [.key t]) =
      .ok (draft (sections ++ [(t, entries ++ more)]) [.key t]) := by
  induction more generalizing entries with
  | nil =>
    rw [List.append_nil]
    rfl
  | cons e more ih =>
    obtain ⟨hword, hwords⟩ := List.forall_mem_cons.mp hwords
    obtain ⟨he, hsimple⟩ := List.forall_mem_cons.mp hsimple
    have hnew : e.1 ∉ entries.map (·.1) := notMem_keys_of_nodup hnodup
    have hrest : (more.map entryLine).foldlM Draft.addLine (draft (sections ++ [(t, entries ++ [e])]) [.key t]) =
        .ok (draft (sections ++ [(t, entries ++ [e] ++ more)]) [.key t]) := ih hwords hsimple (by simpa using hnodup)
    have hline := addLine_lastTable hname hword (standsFor_simpleText he) hnew
    have hentry : valueLine e.1 (simpleText e.2) = entryLine e := rfl
    rw [hentry] at hline
    rw [List.map_cons, List.foldlM_cons, hline]
    refine hrest.trans ?_
    rw [List.append_assoc]
    rfl

/-- **The lines of a table add the table.** -/
theorem foldlM_tableLines {s : Text × Entries} (hnew : s.1 ∉ sections.map (·.1)) (hword : IsWord s.1)
    (htable : IsSimpleTable s.2) (here : List Step) :
    (tableLines s).foldlM Draft.addLine (draft sections here) = .ok (draft (sections ++ [s]) [.key s.1]) := by
  have hentries : (s.2.map entryLine).foldlM Draft.addLine (draft (sections ++ [(s.1, [])]) [.key s.1]) =
      .ok (draft (sections ++ [s]) [.key s.1]) := foldlM_entryLines hnew htable.words htable.simple htable.nodup
  rw [tableLines, List.foldlM_cons, addLine_nil]
  change List.foldlM Draft.addLine (draft sections here) (('[' :: s.1 ++ [']']) :: s.2.map entryLine) = _
  rw [List.foldlM_cons, addLine_header hword hnew]
  exact hentries

/-- The lines of some tables add the tables. -/
theorem foldlM_documentLines {more : List (Text × Entries)} (hwords : ∀ s ∈ more, IsWord s.1)
    (htables : ∀ s ∈ more, IsSimpleTable s.2) (hnodup : ((sections ++ more).map (·.1)).Nodup) (here : List Step) :
    ∃ place, (more.flatMap tableLines).foldlM Draft.addLine (draft sections here) =
      .ok (draft (sections ++ more) place) := by
  induction more generalizing sections here with
  | nil => exact ⟨here, by rw [List.append_nil]; rfl⟩
  | cons s more ih =>
    obtain ⟨hword, hwords⟩ := List.forall_mem_cons.mp hwords
    obtain ⟨htable, htables⟩ := List.forall_mem_cons.mp htables
    have hnew : s.1 ∉ sections.map (·.1) := notMem_keys_of_nodup hnodup
    have hnodup : ((sections ++ [s] ++ more).map (·.1)).Nodup := by simpa using hnodup
    obtain ⟨place, hrest⟩ := ih hwords htables hnodup [.key s.1]
    refine ⟨place, ?_⟩
    rw [List.flatMap_cons, List.foldlM_append, foldlM_tableLines hnew hword htable]
    refine hrest.trans ?_
    rw [List.append_assoc]
    rfl

/-! ## Documents -/

/-- A line of plain characters has no other characters but the equals sign and the blanks around it. -/
theorem notMem_valueLine (hkey : IsWord key) (hchars : ∀ c ∈ t, isItemChar c = true) {x : Char}
    (hx : isItemChar x = false) (hsign : x ∉ (" = " : Text)) : x ∉ valueLine key t := by
  intro hmem
  rcases List.mem_append.mp hmem with hmem | hmem
  · exact (List.mem_append.mp hmem).elim (hkey.isItem.notMem hx) hsign
  · exact Bool.false_ne_true (hx.symm.trans (hchars x hmem))

/-- A document is read if the cursor goes through its lines and they are read one after the other. -/
theorem read_unlines {lines : List Text} {d : Draft} (hpasses : ∀ l ∈ lines, Cursor.Passes l)
    (hlines : ∀ l ∈ lines, '\n' ∉ l) (hread : readLines (lines ++ [[]]) = .ok d) (hroot : d.root = .table entries) :
    read (unlines lines) = .ok entries := by
  rw [read, logicalLines_unlines hpasses hlines]
  simp only [bind, Except.bind, hread, hroot]
  rfl

/-- **A document of one entry is read as it stands.** -/
theorem read_entry (hkey : IsWord key) (h : StandsFor t v) (hchars : ∀ c ∈ t, isItemChar c = true) :
    read (unlines [valueLine key t]) = .ok [(key, v)] := by
  have hentry := addLine_valueLine (d := {}) rfl rfl hkey h (by simp)
  have hread : readLines ([valueLine key t] ++ [[]]) = .ok { root := .table [(key, v)] } := by
    change List.foldlM Draft.addLine {} (valueLine key t :: [[]]) = _
    rw [List.foldlM_cons, hentry]
    rfl
  exact read_unlines (List.forall_mem_singleton.mpr (Cursor.passes_valueLine hkey hchars))
    (List.forall_mem_singleton.mpr (notMem_valueLine hkey hchars (by decide) (by decide))) hread rfl

/-- **A table with one entry is read as it stands.** -/
theorem read_table (hname : IsWord name) (hkey : IsWord key) (h : StandsFor t v)
    (hchars : ∀ c ∈ t, isItemChar c = true) :
    read (unlines ['[' :: name ++ [']'], valueLine key t]) = .ok [(name, .table [(key, v)])] := by
  have hpasses : ∀ l ∈ ['[' :: name ++ [']'], valueLine key t], Cursor.Passes l :=
    List.forall_mem_cons.mpr ⟨Cursor.passes_header hname,
      List.forall_mem_singleton.mpr (Cursor.passes_valueLine hkey hchars)⟩
  have hlines : ∀ l ∈ ['[' :: name ++ [']'], valueLine key t], '\n' ∉ l := by
    have hheader : '\n' ∉ name := fun hmem => Bool.false_ne_true (hname.isItem.2 '\n' hmem)
    exact List.forall_mem_cons.mpr ⟨by simpa using hheader,
      List.forall_mem_singleton.mpr (notMem_valueLine hkey hchars (by decide) (by decide))⟩
  have hnone {t : Text} : t ∉ ([] : List (Text × Entries)).map (·.1) := List.not_mem_nil
  have hunset : key ∉ ([] : Entries).map (·.1) := List.not_mem_nil
  have hheader := addLine_header hname hnone []
  have hentry := addLine_lastTable (hnone (t := name)) hkey h hunset
  have hread : readLines (['[' :: name ++ [']'], valueLine key t] ++ [[]]) =
      .ok (draft [(name, [(key, v)])] [.key name]) := by
    change List.foldlM Draft.addLine (draft [] []) (('[' :: name ++ [']']) :: [valueLine key t, []]) = _
    rw [List.foldlM_cons, hheader]
    change List.foldlM Draft.addLine (draft ([] ++ [(name, [])]) [.key name]) (valueLine key t :: [[]]) = _
    rw [List.foldlM_cons, hentry]
    rfl
  exact read_unlines hpasses hlines hread rfl

/-- **A simple document is read as it was written.** -/
theorem read_simple (h : IsSimpleDocument sections) :
    read (unlines (documentLines sections)) = .ok (documentOf sections) := by
  have hnodup : ((([] : List (Text × Entries)) ++ sections).map (·.1)).Nodup := h.nodup
  obtain ⟨place, htables⟩ := foldlM_documentLines h.words h.tables hnodup []
  have hlines : (documentLines sections).foldlM Draft.addLine {} = .ok (draft sections place) := by
    cases sections with
    | nil => exact htables
    | cons s sections =>
      refine Eq.trans ?_ htables
      rw [documentLines, List.flatMap_cons, tableLines, List.cons_append, List.foldlM_cons, addLine_nil]
      rfl
  have hread : readLines (documentLines sections ++ [[]]) = .ok (draft sections place) := by
    rw [readLines, List.foldlM_append]
    refine (congrArg (· >>= _) hlines).trans ?_
    rfl
  exact read_unlines (fun _ hl => passes_of_mem_documentLines h hl)
    (fun l hl => newline_notMem (isLineChar_documentLines h l hl)) hread rfl

end ImportChart.Document
