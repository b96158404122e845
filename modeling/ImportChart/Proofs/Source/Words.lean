import ImportChart.Proofs.Source.Captures

/-!
# Where a form can begin

Every form but a call of `require` opens with a word that has a blank behind it. So a form can begin only at the end of
a word of the text, and a word with another end is passed over. A call of `require` needs its parenthesis.

- `IsMark`: words that end with a character that names do not have;
- `Opens`: what is recognised opens with a word;
- `Opens.silent_spaced_cons`, `Opens.silent_marks`: what is written in words is passed over word by word, and marks
  always are;
- `silent_requireTarget?`, `silent_requireTarget?_emptyCall`: texts without parentheses, or with an empty pair of them.
-/

namespace ImportChart.Source

variable {recognise : Text → Option Found} {word w name rest : Text} {ws : List Text}

/-! ## Words -/

/-- A text without blanks. -/
def IsWord (t : Text) : Prop := ∀ c ∈ t, Text.isBlank c = false

instance (t : Text) : Decidable (IsWord t) := List.decidableBAll (fun c => Text.isBlank c = false) t

instance (name : Text) : Decidable (IsName name) := inferInstanceAs (Decidable (_ ∧ _))

/-- A text that is set off from what stands before it: it is empty or begins with a blank. -/
def IsApart (t : Text) : Prop := ∀ c ∈ t.head?, Text.isBlank c = true

/-- Words with a space between them. -/
def spaced (ws : List Text) : Text := Text.joinWith [' '] ws

theorem spaced_cons (w : Text) (hne : ws ≠ []) : spaced (w :: ws) = w ++ ' ' :: spaced ws := by
  rw [spaced, Text.joinWith_cons _ _ hne, List.append_assoc, List.singleton_append]
  rfl

theorem isApart_cons {b : Char} (h : Text.isBlank b = true) (t : Text) : IsApart (b :: t) := by
  rintro c ⟨⟩
  exact h

/-- A text is cut into its first word and the rest in one way only. -/
theorem eq_of_append_eq {v : Text} {t u : Text} (hv : IsWord v) (hw : IsWord w) (ht : IsApart t) (hu : IsApart u)
    (h : v ++ t = w ++ u) : v = w := by
  have hfirst {v t : Text} (hv : IsWord v) (ht : IsApart t) : (v ++ t).takeWhile (!Text.isBlank ·) = v :=
    takeWhile_append_of_head (fun c hc => by simp [hv c hc]) fun c hc => by simp [ht c hc]
  rw [← hfirst hv ht, h, hfirst hw hu]

theorem IsWord.append {v : Text} (hv : IsWord v) (hw : IsWord w) : IsWord (v ++ w) :=
  List.forall_mem_append.mpr ⟨hv, hw⟩

theorem IsWord.suffix (h : IsWord w) {v : Text} (hv : v <:+ w) : IsWord v := fun c hc => h c (hv.subset hc)

theorem isWord_of_isName (h : IsName name) : IsWord name :=
  fun c hc => isBlank_of_isNameChar (List.all_eq_true.mp h.2 c hc)

/-- A word whose last character is none that names have. -/
def IsMark (w : Text) : Prop := IsWord w ∧ ∀ c ∈ w.getLast?, isNameChar c = false

instance (w : Text) : Decidable (IsMark w) :=
  decidable_of_iff (IsWord w ∧ w.getLast?.all (!isNameChar ·) = true)
    (and_congr_right' (by simp only [Option.all_eq_true, Bool.not_eq_true', Option.mem_def]))

theorem IsWord.append_mark {v : Text} (hv : IsWord v) (hw : IsMark w) (hne : w ≠ []) : IsMark (v ++ w) := by
  refine ⟨hv.append hw.1, ?_⟩
  rw [List.getLast?_append, List.getLast?_eq_some_getLast hne, Option.some_or, ← List.getLast?_eq_some_getLast hne]
  exact hw.2

/-- No name ends a mark. -/
theorem IsMark.not_suffix (hw : IsMark w) (hname : IsName name) : ¬name <:+ w := by
  rintro ⟨front, rfl⟩
  have hlast := hw.2 (name.getLast hname.1) (by
    rw [List.getLast?_append, List.getLast?_eq_some_getLast hname.1]
    rfl)
  rw [List.all_eq_true.mp hname.2 _ (List.getLast_mem hname.1)] at hlast
  cases hlast

/-! ## Forms that open with a word -/

/-- What is recognised begins with a word and a blank behind it. -/
structure Opens (recognise : Text → Option Found) (word : Text) : Prop where
  isName : IsName word
  opens : ∀ {t found}, recognise t = some found → ∃ gap, IsGap gap ∧ word ++ gap <+: t

theorem opens_className? : Opens className? "class" where
  isName := ⟨by decide, by decide⟩
  opens h := by
    obtain ⟨span, extra, rfl, hspan, -⟩ := recognises_className?.sound h
    obtain ⟨hgap⟩ := hspan
    exact ⟨_, hgap, by simp only [List.append_assoc, List.prefix_append_right_inj, List.prefix_append]⟩

theorem opens_functionName? : Opens functionName? "function" where
  isName := ⟨by decide, by decide⟩
  opens h := by
    obtain ⟨span, extra, rfl, hspan, -⟩ := recognises_functionName?.sound h
    obtain ⟨hgap⟩ := hspan
    exact ⟨_, hgap, by simp only [List.append_assoc, List.prefix_append_right_inj, List.prefix_append]⟩

theorem opens_arrowName? : Opens arrowName? "const" where
  isName := ⟨by decide, by decide⟩
  opens h := by
    obtain ⟨span, extra, rfl, hspan, -⟩ := recognises_arrowName?.sound h
    obtain ⟨hgap⟩ := hspan
    exact ⟨_, hgap, by simp only [List.append_assoc, List.prefix_append_right_inj, List.prefix_append]⟩

theorem opens_importTarget? : Opens importTarget? "import" where
  isName := ⟨by decide, by decide⟩
  opens h := by
    obtain ⟨span, extra, rfl, hspan, -⟩ := recognises_importTarget?.sound h
    obtain ⟨hclause, -⟩ := hspan
    cases hclause with
    | bare hgap => exact ⟨_, hgap, by simp only [List.append_assoc, List.prefix_append_right_inj, List.prefix_append]⟩
    | names hgap => exact ⟨_, hgap, by simp only [List.append_assoc, List.prefix_append_right_inj, List.prefix_append]⟩

namespace Opens

theorem isWord (h : Opens recognise word) : IsWord word := isWord_of_isName h.isName

/-- In a word nothing is recognised but at its end, if the word of the form is there. -/
theorem eq_word (h : Opens recognise word) (hw : IsWord w) (hrest : IsApart rest) {found : Found}
    (hfound : recognise (w ++ rest) = some found) : w = word := by
  obtain ⟨gap, hgap, u, heq⟩ := h.opens hfound
  rw [List.append_assoc] at heq
  refine eq_of_append_eq hw h.isWord hrest ?_ heq.symm
  obtain ⟨b, bs, rfl⟩ := List.exists_cons_of_ne_nil hgap.1
  exact isApart_cons (hgap.2 b List.mem_cons_self) _

theorem silent_word (h : Opens recognise word) (hw : IsWord w) (hrest : IsApart rest)
    (hend : word <:+ w → recognise (word ++ rest) = none) : Silent recognise w rest := by
  intro v _ hv
  refine Option.eq_none_iff_forall_ne_some.mpr fun found hfound => ?_
  obtain rfl := h.eq_word (hw.suffix hv) hrest hfound
  rw [hend hv] at hfound
  cases hfound

/-- Before the word of a form, in a longer word, nothing is recognised. -/
theorem silent_before (h : Opens recognise word) (hw : IsWord w) (hrest : IsApart rest) :
    Silent recognise w (word ++ rest) := by
  intro v hne hv
  refine Option.eq_none_iff_forall_ne_some.mpr fun found hfound => ?_
  have hword : IsWord (v ++ word) := List.forall_mem_append.mpr ⟨hw.suffix hv, h.isWord⟩
  rw [← List.append_assoc] at hfound
  exact hne (List.append_left_eq_self.mp (h.eq_word hword hrest hfound))

theorem silent_blank (h : Opens recognise word) {b : Char} (hb : Text.isBlank b = true) (rest : Text) :
    Silent recognise [b] rest := by
  refine silent_cons.mpr ⟨Option.eq_none_iff_forall_ne_some.mpr fun found hfound => ?_, silent_nil _ _⟩
  -- the word would begin with the blank
  obtain ⟨gap, -, hprefix⟩ := h.opens hfound
  obtain ⟨c, cs, rfl⟩ := List.exists_cons_of_ne_nil h.isName.1
  obtain rfl : c = b := (List.cons_prefix_cons.mp hprefix).1
  rw [h.isWord c List.mem_cons_self] at hb
  cases hb

theorem silent_spaced_cons (h : Opens recognise word) (hw : IsWord w)
    (hend : word <:+ w → recognise (spaced (word :: ws) ++ rest) = none) (hne : ws ≠ [])
    (htail : Silent recognise (spaced ws) rest) : Silent recognise (spaced (w :: ws)) rest := by
  have happend (v : Text) : spaced (v :: ws) ++ rest = v ++ (' ' :: (spaced ws ++ rest)) := by
    rw [spaced_cons _ hne, List.append_assoc, List.cons_append]
  rw [happend] at hend
  rw [spaced_cons _ hne, silent_append, silent_cons]
  have hspace := h.silent_blank (by decide : Text.isBlank ' ' = true) (spaced ws ++ rest)
  exact ⟨h.silent_word hw (isApart_cons (by decide) _) hend, (silent_cons.mp hspace).1, htail⟩

/-- A word with another end is passed over. -/
theorem silent_other (h : Opens recognise word) (hw : IsWord w) (hend : ¬word <:+ w) (hne : ws ≠ [])
    (htail : Silent recognise (spaced ws) rest) : Silent recognise (spaced (w :: ws)) rest :=
  h.silent_spaced_cons hw (fun hsuffix => absurd hsuffix hend) hne htail

/-- Marks are silent. -/
theorem silent_marks (h : Opens recognise word) (hws : ∀ w ∈ ws, IsMark w) (hrest : IsApart rest) :
    Silent recognise (spaced ws) rest := by
  induction ws with
  | nil => exact silent_nil _ _
  | cons w ws ih =>
    obtain ⟨hw, hws⟩ := List.forall_mem_cons.mp hws
    have hend : ¬word <:+ w := hw.not_suffix h.isName
    by_cases hne : ws = []
    · subst hne
      exact h.silent_word hw.1 hrest fun hsuffix => absurd hsuffix hend
    · exact h.silent_other hw.1 hend hne (ih hws)

end Opens

/-! ## Calls of `require` -/

/-- A call of `require` goes on with a blank or a quotation mark. -/
theorem exists_of_requireTarget? {t : Text} {found : Found} (h : requireTarget? t = some found) :
    ∃ u, t = ("require(" : Text) ++ u ∧ ∀ c ∈ u.head?, Text.isBlank c = true ∨ isQuote c = true := by
  obtain ⟨span, extra, rfl, hspan, -⟩ := recognises_requireTarget?.sound h
  obtain @⟨space, quoted, space', -, -, hspace, hquoted, -⟩ := hspan
  refine ⟨space ++ (quoted ++ (space' ++ (")" ++ (extra ++ found.rest)))), by simp only [List.append_assoc], ?_⟩
  cases space with
  | nil => exact fun c hc => .inr (hquoted.head _ c hc)
  | cons b space =>
    rintro c ⟨⟩
    exact .inl (hspace b List.mem_cons_self)

theorem silent_requireTarget?_blank {b : Char} (hb : Text.isBlank b = true) (rest : Text) :
    Silent requireTarget? [b] rest := by
  refine silent_cons.mpr ⟨Option.eq_none_iff_forall_ne_some.mpr fun found hfound => ?_, silent_nil _ _⟩
  obtain ⟨u, heq, -⟩ := exists_of_requireTarget? hfound
  obtain rfl : b = 'r' := (List.cons.inj heq).1
  exact absurd hb (by decide)

/-- Without a parenthesis there is no call. -/
theorem silent_requireTarget? {span : Text} (h : '(' ∉ span) (hrest : IsApart rest) :
    Silent requireTarget? span rest := by
  intro w _ hw
  refine Option.eq_none_iff_forall_ne_some.mpr fun found hfound => ?_
  obtain ⟨u, heq, -⟩ := exists_of_requireTarget? hfound
  have hw : '(' ∉ w := fun hc => h (hw.subset hc)
  rcases List.append_eq_append_iff.mp heq with ⟨a, hword, hrestEq⟩ | ⟨a, rfl, -⟩
  · cases a with
    | nil => exact hw (by rw [← List.append_nil w, ← hword]; decide)
    | cons x a =>
      -- `require(` would go on behind the piece, but there is a blank
      have hblank : Text.isBlank x = true := hrest x (by rw [hrestEq]; rfl)
      have hmem : x ∈ ("require(" : Text) := by rw [hword]; simp
      have hcall : IsWord "require(" := by decide
      exact absurd hblank (Bool.eq_false_iff.mp (hcall x hmem))
  · exact hw (List.mem_append_left _ (by decide))

/-- An empty pair of parentheses is no call. -/
theorem silent_requireTarget?_emptyCall {span : Text} (h : '(' ∉ span) (rest : Text) :
    Silent requireTarget? (span ++ "()") rest := by
  refine silent_append.mpr ⟨?_, silent_cons.mpr ⟨rfl, silent_cons.mpr ⟨rfl, silent_nil _ _⟩⟩⟩
  intro w _ hw
  refine Option.eq_none_iff_forall_ne_some.mpr fun found hfound => ?_
  obtain ⟨u, heq, hu⟩ := exists_of_requireTarget? hfound
  have hfree : ∀ c ∈ w, decide (c ≠ '(') = true := fun c hc => decide_eq_true fun h' => h (hw.subset (h' ▸ hc))
  -- the first parenthesis is the one of the pair
  have hbehind := congrArg (List.dropWhile fun c => decide (c ≠ '(')) heq
  rw [dropWhile_append_of_head hfree (by rintro c ⟨⟩; rfl)] at hbehind
  obtain rfl : ')' :: rest = u := (List.cons.inj hbehind).2
  exact absurd (hu ')' rfl) (by decide)

end ImportChart.Source
