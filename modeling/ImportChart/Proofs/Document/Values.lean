import ImportChart.Document.Entry
import ImportChart.Proofs.Document.Simple
import ImportChart.Proofs.Text.Numerals
import Mathlib.Data.Option.Basic

/-!
# Simple values are read as they were written

- `readQuoted_item`, `listItems_items`: texts in quotation marks, and lists of them;
- `readMoment?_alphanum`, `readTime?_digits`: a numeral is neither a day nor a time;
- `readValue_numeral`: a text of letters and digits that begins with a digit is read as a number;
- `readValue_simple`: a simple value.
-/

namespace ImportChart.Document

variable {t : Text} {v : Value} {items : List Text}

/-! ## Texts in quotation marks -/

theorem endsEscaped_of_notMem (h : '\\' ∉ t) : endsEscaped t = false := by
  have hrun : t.reverse.takeWhile (· == '\\') = [] := by
    have hreverse : '\\' ∉ t.reverse := fun hmem => h (List.mem_reverse.mp hmem)
    cases hbefore : t.reverse with
    | nil => rfl
    | cons c before =>
      rw [hbefore, List.mem_cons, not_or] at hreverse
      exact List.takeWhile_cons_of_neg (by simpa using Ne.symm hreverse.1)
  rw [endsEscaped, hrun]
  rfl

theorem unescape_of_notMem (h : '\\' ∉ t) : unescape t = .ok t := by
  induction t with
  | nil => rfl
  | cons c t ih =>
    rw [List.mem_cons, not_or] at h
    unfold unescape
    split
    · next heq => cases heq
    · next heq => exact absurd (List.cons.inj heq).1.symm h.1
    · next heq => exact absurd (List.cons.inj heq).1.symm h.1
    · next heq =>
      obtain ⟨rfl, rfl⟩ := List.cons.inj heq
      rw [ih h.2]
      rfl

/-- A text without backslashes has no escape sequences. -/
theorem expandEscapes_of_notMem (h : '\\' ∉ t) : expandEscapes t = .ok t := by
  have hknown : escapesKnown false ((Text.splitOn '\\' t).drop 1) = true := by
    rw [Text.splitOn_eq_singleton h]
    rfl
  have hcodes (mark : Text) (width : Nat) : expandCodes ('\\' :: mark) width t = .ok t := by
    rw [expandCodes, splitOnPart_of_notMem h]
    simp [expandPieces, Except.map]
  have hshort : expandCodes "\\u" 4 t = .ok t := hcodes ['u'] 4
  have hlong : expandCodes "\\U" 8 t = .ok t := hcodes ['U'] 8
  rw [expandEscapes, hknown]
  simp only [Bool.not_true, Bool.false_eq_true, if_false, hshort, hlong, bind, Except.bind]
  exact unescape_of_notMem h

/-- **An item in quotation marks is read as itself.** -/
theorem readQuoted_item (h : IsItem t) : readQuoted '"' (quotedItem t) = .ok t := by
  obtain ⟨c, t', rfl⟩ := List.exists_cons_of_ne_nil h.1
  have hescape : '\\' ∉ quotedItem (c :: t') := by simpa [quotedItem] using h.notMem (x := '\\') rfl
  have hclosed : isClosed '"' (quotedItem (c :: t')) = true := by
    have hpieces : Text.splitOn '"' ((quotedItem (c :: t')).drop 1) = [c :: t', []] :=
      Text.splitOn_append (h.notMem rfl) []
    rw [isClosed, hpieces]
    simp [nothingAfterClose, endsEscaped_of_notMem (h.notMem rfl)]
  have hdrop : dropMarks '"' (quotedItem (c :: t')) = c :: t' := by
    have hc : (c == '"') = false := beq_false_of_ne (ne_of_isItemChar (h.2 c List.mem_cons_self) rfl)
    simp [dropMarks, quotedItem, hc, inner]
  rw [readQuoted, hclosed]
  simp only [Bool.not_true, Bool.false_eq_true, if_false, beq_self_eq_true, if_true,
    expandEscapes_of_notMem hescape, hdrop, bind, Except.bind]
  rfl

/-! ## Lists -/

theorem trim_quotedItem (t : Text) : Text.trim (' ' :: quotedItem t) = quotedItem t := by
  have hmark : Text.isBlank '"' = false := by decide
  have hlast : (quotedItem t).getLast? = some '"' := List.getLast?_concat
  exact Text.trim_space (by simp [quotedItem, hmark]) (by simp [hlast, hmark])

theorem inner_writeItems (texts : List Text) :
    inner 1 (writeItems texts) = texts.flatMap fun t => ' ' :: t ++ [','] := by
  simp [inner, writeItems]

/-- A list is cut behind each of its items. -/
theorem splitOn_items {texts : List Text} (h : ∀ t ∈ texts, ',' ∉ t) :
    Text.splitOn ',' (texts.flatMap fun t => ' ' :: t ++ [',']) = texts.map (' ' :: ·) ++ [[]] := by
  induction texts with
  | nil => rfl
  | cons t texts ih =>
    obtain ⟨ht, htexts⟩ := List.forall_mem_cons.mp h
    have hblank : ',' ∉ ' ' :: t := by simpa using ht
    have htext : (t :: texts).flatMap (fun t => ' ' :: t ++ [',']) =
        ' ' :: t ++ ',' :: texts.flatMap (fun t => ' ' :: t ++ [',']) := by simp
    rw [htext, Text.splitOn_append hblank, ih htexts]
    rfl

theorem joinTexts_bounded {piece : Text} (hbounded : isBounded (Text.trim piece) = true)
    (hopen : isOpenTriple (Text.trim piece) = false) (next : Text) (rest : List Text) :
    joinTexts (piece :: next :: rest) = (joinTexts (next :: rest)).map (piece :: ·) := by
  rw [joinTexts.eq_def]
  simp [hbounded, hopen]

theorem isBounded_quotedItem (h : '\\' ∉ t) : isBounded (quotedItem t) = true := by
  have hlast : (quotedItem t).getLast? = some '"' := List.getLast?_concat
  have hinner : inner 1 (quotedItem t) = t := by simp [inner, quotedItem]
  have hends := endsEscaped_of_notMem h
  rw [← hinner] at hends
  unfold isBounded
  split
  · rfl
  · next heq =>
    obtain rfl := (List.cons.inj heq).1
    simp [hlast, hends]

theorem isOpenTriple_quotedItem (hne : t ≠ []) (h : '"' ∉ t) : isOpenTriple (quotedItem t) = false := by
  obtain ⟨c, t, rfl⟩ := List.exists_cons_of_ne_nil hne
  rw [List.mem_cons, not_or] at h
  unfold isOpenTriple
  split
  · next heq =>
    obtain ⟨ha, heq⟩ := List.cons.inj heq
    obtain ⟨rfl, -⟩ := List.cons.inj heq
    simp [← ha, h.1]
  · rfl

/-- No item is cut at a comma. -/
theorem joinTexts_items (h : ∀ t ∈ items, IsItem t) :
    joinTexts ((items.map quotedItem).map (' ' :: ·) ++ [[]]) =
      .ok ((items.map quotedItem).map (' ' :: ·) ++ [[]]) := by
  induction items with
  | nil => rw [List.map_nil, List.map_nil, List.nil_append, joinTexts]
  | cons t items ih =>
    obtain ⟨ht, hitems⟩ := List.forall_mem_cons.mp h
    obtain ⟨next, rest, hrest⟩ := List.exists_cons_of_ne_nil
      (show (items.map quotedItem).map (' ' :: ·) ++ [[]] ≠ [] by simp)
    have hbounded := isBounded_quotedItem (ht.notMem (x := '\\') rfl)
    have hopen := isOpenTriple_quotedItem ht.1 (ht.notMem (x := '"') rfl)
    rw [← trim_quotedItem] at hbounded hopen
    rw [List.map_cons, List.map_cons, List.cons_append, hrest, joinTexts_bounded hbounded hopen, ← hrest, ih hitems]
    rfl

/-- **The items of a list are read as they were written.** -/
theorem listItems_items (h : ∀ t ∈ items, IsItem t) :
    listItems (writeItems (items.map quotedItem)) = .ok (items.map quotedItem) := by
  have hnot {x : Char} (hitem : isItemChar x = false) (hmark : x ≠ '"') : ∀ t ∈ items.map quotedItem, x ∉ t := by
    intro t ht
    obtain ⟨item, hmem, rfl⟩ := List.mem_map.mp ht
    simpa [quotedItem, hmark] using (h item hmem).notMem hitem
  have hbody {x : Char} (hitem : isItemChar x = false) (hmark : x ≠ '"') (hblank : x ≠ ' ') (hcomma : x ≠ ',') :
      x ∉ (items.map quotedItem).flatMap (fun t => ' ' :: t ++ [',']) := by
    intro hmem
    obtain ⟨t, ht, hmem⟩ := List.mem_flatMap.mp hmem
    exact hnot hitem hmark t ht (by simpa [hblank, hcomma] using hmem)
  have hbracket := hbody (x := '[') rfl (by decide) (by decide) (by decide)
  have hbrace := hbody (x := '\x7b') rfl (by decide) (by decide) (by decide)
  have htable : ((Text.trim ((items.map quotedItem).flatMap fun t => ' ' :: t ++ [','])).head? == some '\x7b') =
      false := by
    rw [beq_eq_false_iff_ne]
    exact fun hhead => hbrace (Text.mem_of_mem_trim (List.mem_of_head? hhead))
  have htrimmed : (((items.map quotedItem).map (' ' :: ·) ++ [[]]).map Text.trim).filter (fun p => !p.isEmpty) =
      items.map quotedItem := by
    have hmap : (items.map quotedItem).map (fun t => Text.trim (' ' :: t)) = items.map quotedItem := by
      rw [List.map_map]
      exact List.map_congr_left fun t _ => trim_quotedItem t
    have hfilter : (items.map quotedItem).filter (fun p => !p.isEmpty) = items.map quotedItem := by
      simp [List.filter_map, quotedItem, Function.comp_def]
    rw [List.map_append, List.map_map, List.filter_append]
    exact (congrArg₂ _ ((congrArg _ hmap).trans hfilter) rfl).trans (List.append_nil _)
  rw [listItems, inner_writeItems]
  simp only [hbracket, htable, splitOn_items (hnot (x := ',') rfl (by decide)), not_false_eq_true,
    decide_true, Bool.true_or, if_true, Bool.false_eq_true, if_false, joinTexts_items h]
  split
  · exact congrArg Except.ok htrimmed
  · exact congrArg Except.ok htrimmed

/-- Quoted items are read one by one. -/
theorem readItems_items {read : ValueReader} (hread : ∀ t ∈ items, read (quotedItem t) true = .ok (.text t))
    {kind : Option ItemKind} (hkind : kind.any (· != .text) = false) :
    readItems read kind (items.map quotedItem) = .ok (items.map .text) := by
  induction items generalizing kind with
  | nil => rfl
  | cons t items ih =>
    obtain ⟨ht, hitems⟩ := List.forall_mem_cons.mp hread
    have hrest : readItems read (some .text) (items.map quotedItem) = .ok (items.map .text) := ih hitems rfl
    rw [List.map_cons, readItems, ht]
    simp only [bind, Except.bind, ItemKind.ofValue, hkind, hrest]
    rfl

/-! ## Values -/

/-- A numeral is no time of the day. -/
theorem readTime?_digits (hdigits : ∀ c ∈ t, c.isDigit = true) : readTime? t = none := by
  have hcolon {rest : Text} (h : ∀ c ∈ rest, c.isDigit = true) : takeColonPair? rest = none := by
    unfold takeColonPair?
    split
    · exact absurd (h ':' List.mem_cons_self) (by decide)
    · rfl
  rcases t with _ | ⟨a, _ | ⟨b, rest⟩⟩
  · rfl
  · rfl
  · have hrest : ∀ c ∈ rest, c.isDigit = true := fun c hc => hdigits c (by simp [hc])
    simp [readTime?, takePair?, hcolon hrest]

/-- A text of letters and digits is no moment. -/
theorem readMoment?_alphanum (halnum : ∀ c ∈ t, c.isAlphanum = true) : readMoment? t = .ok none := by
  have hbehind : ∃ offset, readBehindSeconds t = .ok (0, offset) := by
    unfold readBehindSeconds
    split
    · exact ⟨none, rfl⟩
    · next heq =>
      have hpoint : '.' ∈ t := List.mem_of_mem_drop (heq ▸ List.mem_cons_self)
      exact absurd (halnum '.' hpoint) (by decide)
    · exact ⟨_, rfl⟩
  obtain ⟨offset, hbehind⟩ := hbehind
  have hminus : '-' ∉ t.drop 1 := fun hmem => absurd (halnum '-' (List.mem_of_mem_drop hmem)) (by decide)
  rw [readMoment?, hbehind]
  simp only [bind, Except.bind, hminus, not_false_eq_true, if_true]
  rfl

/-- A text is no truth value, in any letter case, if it does not begin like one. -/
theorem notTruth {c : Char} (htrue : c.toLower ≠ 't') (hfalse : c.toLower ≠ 'f') (rest : Text) :
    (c :: rest == ("true" : Text)) = false ∧ (c :: rest == ("false" : Text)) = false ∧
      (Text.asciiLower (c :: rest) == ("true" : Text)) = false ∧
      (Text.asciiLower (c :: rest) == ("false" : Text)) = false := by
  have ht : c ≠ 't' := by
    rintro rfl
    exact htrue rfl
  have hf : c ≠ 'f' := by
    rintro rfl
    exact hfalse rfl
  simp [Text.asciiLower, htrue, hfalse, ht, hf]

theorem readNested_item (h : IsItem t) (depth : Nat) (plain : Bool) :
    readNested (depth + 1) (quotedItem t) plain = .ok (.text t) := by
  have hcons : quotedItem t = '"' :: (t ++ ['"']) := rfl
  obtain ⟨h₁, h₂, h₃, h₄⟩ := notTruth (c := '"') (by decide) (by decide) (t ++ ['"'])
  rw [readNested, hcons, readValueWith, h₁, h₂, h₃, h₄, ← hcons, readQuoted_item h]
  rfl

/-- What begins with a digit, and is no time, is read as a number. -/
theorem readValue_numeral {c : Char} {rest : Text} (hc : c.isDigit = true)
    (halnum : ∀ x ∈ c :: rest, x.isAlphanum = true) (htime : readTime? (c :: rest) = none)
    (hnumber : readNumber (c :: rest) = .ok v) : readValue (c :: rest) true = .ok v := by
  have hlower {x : Char} (hx : x.isDigit = false) : c.toLower ≠ x := by
    rw [Text.toLower_of_isDigit hc]
    exact Text.ne_of_isDigit hc hx
  obtain ⟨h₁, h₂, h₃, h₄⟩ := notTruth (hlower (x := 't') rfl) (hlower (x := 'f') rfl) rest
  have hmark : isMark c = false := by
    simp [isMark, Text.ne_of_isDigit hc (x := '"') rfl, Text.ne_of_isDigit hc (x := '\'') rfl]
  have hopen : (c == '[') = false := beq_false_of_ne (Text.ne_of_isDigit hc rfl)
  have hbrace : (c == '\x7b') = false := beq_false_of_ne (Text.ne_of_isDigit hc rfl)
  rw [readValue, readNested]
  simp only [readValueWith, h₁, h₂, h₃, h₄, hmark, hopen, hbrace, htime, readMoment?_alphanum halnum, hnumber,
    Bool.or_self, Bool.false_eq_true, if_false, if_true]
  rfl

/-- **A simple value is read as it was written.** The rules of numerals count for integers only. -/
theorem readValue_simple (h : IsSimple v) {plain : Bool} (hplain : ∀ n, v = .integer n → plain = true) :
    readValue (simpleText v) plain = .ok v := by
  cases h with
  | @integer n hpositive hwritable =>
    obtain rfl := hplain n rfl
    have hdigits : ∀ c ∈ Text.ofInt n, c.isDigit = true := fun c => Text.isDigit_of_mem_ofInt hpositive
    obtain ⟨c, digits, hcons⟩ := List.exists_cons_of_ne_nil (isItem_ofInt hpositive).1
    have hnumber := readNumber_ofInt hpositive hwritable
    rw [simpleText]
    rw [hcons] at hdigits hnumber ⊢
    exact readValue_numeral (hdigits c List.mem_cons_self) (isAlphanum_of_digits hdigits) (readTime?_digits hdigits)
      hnumber
  | boolean b => cases b <;> rfl
  | @list items hitems =>
    have htext : simpleText (.list (items.map .text)) = writeItems (items.map quotedItem) := by
      rw [simpleText, List.map_map]
      rfl
    obtain ⟨rest, hcons⟩ : ∃ rest, writeItems (items.map quotedItem) = '[' :: rest := ⟨_, rfl⟩
    obtain ⟨h₁, h₂, h₃, h₄⟩ := notTruth (c := '[') (by decide) (by decide) rest
    have hread : readItems (readNested (rest.length + 1)) none (items.map quotedItem) = .ok (items.map .text) :=
      readItems_items (fun t ht => readNested_item (hitems t ht) _ _) rfl
    have hlist := listItems_items hitems
    rw [htext, readValue, readNested, hcons]
    rw [hcons] at hlist
    simp only [readValueWith, h₁, h₂, h₃, h₄, hlist, bind, Except.bind]
    rw [List.length_cons, hread]
    rfl

end ImportChart.Document
