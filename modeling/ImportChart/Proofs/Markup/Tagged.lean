import ImportChart.Markup.Line

/-!
# Lines that are shown

A line is shown if every tag in it opens a style that has its own name for its normal form, or closes the style that
was opened last.

- `IsStyle`: such a tag;
- `Tagged`: the parts of such a line, with the styles that are open before them; `Tagged.exists_render`;
- `IsTagged`: the same of the text of a line, behind any plain part; `IsTagged.plain`, `IsTagged.opening` and
  `IsTagged.closing` go through a line from its beginning;
- `IsTagged.last`: a text in a style at the end of a line, with backslashes in it that may make the closing tag plain.
-/

namespace ImportChart.Markup

variable {t tag rest : Text} {styles : List Text} {ps : List Piece}

/-! ## Tags -/

/-- Whether a text stands in brackets as a tag. -/
def isTag : Text → Bool
  | c :: body => isTagStart c && body.all fun d => d != ']' && d != '['
  | [] => false

/-- A text that opens a style as a tag, and closes it behind a slash. -/
structure IsStyle (tag : Text) : Prop where
  opens : isTag tag = true ∧ splitTag tag = (tag, none) ∧ tag.head? ≠ some '/'
  closes : isTag ('/' :: tag) = true ∧ splitTag ('/' :: tag) = ('/' :: tag, none) ∧ Text.trim tag = tag
  name : styleName tag = .ok tag

/-- A word that is no colour with components is its own normal form, whether it is the name of a colour or none. -/
theorem styleName_word (hword : Text.words tag = [tag] ∧ Text.trim tag = tag ∧ Text.lower tag = tag)
    (hspecial : tag ∉ (["none", "on", "not", "link"] : List Text)) (hattribute : Attribute.ofName? tag = none)
    (hcomponents : components? tag = none) : styleName tag = .ok tag := by
  obtain ⟨hwords, htrim, hlower⟩ := hword
  simp only [List.mem_cons, List.not_mem_nil, or_false, not_or] at hspecial
  obtain ⟨hnone, hon, hnot, hlink⟩ := hspecial
  have hcolour : readColour tag = .ok tag ∨ readColour tag = .error .malformed := by
    simp only [readColour, hlower, hcomponents]
    split
    · exact Or.inl rfl
    · exact Or.inr rfl
  have hread : Style.read [tag] {} = (readColour tag).map fun c => { colour := some c } := by
    simp only [Style.read, hlower, beq_false_of_ne hon, beq_false_of_ne hnot, beq_false_of_ne hlink, hattribute,
      Bool.false_eq_true, if_false]
    cases readColour tag <;> rfl
  have hnormal : normalForm tag = .ok tag := by
    rw [normalForm, htrim, beq_false_of_ne hnone, hwords, hread]
    rcases hcolour with hcolour | hcolour
    · rw [hcolour]
      rfl
    · rw [hcolour]
      exact congrArg Except.ok hlower
  rw [styleName, hnormal]

theorem isStyle_cyan : IsStyle "cyan" :=
  ⟨by decide, by decide, styleName_word (by decide) (by decide) (by decide) (by decide)⟩

theorem isStyle_green : IsStyle "green" :=
  ⟨by decide, by decide, styleName_word (by decide) (by decide) (by decide) (by decide)⟩

theorem isStyle_yellow : IsStyle "yellow" :=
  ⟨by decide, by decide, styleName_word (by decide) (by decide) (by decide) (by decide)⟩

/-- A style without parameters. -/
def plainStyle (tag : Text) : Opened := ⟨tag, none⟩

/-- The style that was opened last is closed. -/
theorem IsStyle.close (h : IsStyle tag) (opened : List Opened) :
    close (Text.trim tag) (plainStyle tag :: opened) = .ok (plainStyle tag, opened) := by
  have hne : tag.isEmpty = false := by
    cases tag with
    | nil => cases h.opens.1
    | cons => rfl
  have hfind : (plainStyle tag :: opened).find? (fun o => o.name = tag) = some (plainStyle tag) := by
    simp [plainStyle]
  rw [h.closes.2.2, Markup.close, hne]
  simp only [Bool.false_eq_true, if_false, h.name, bind, Except.bind, hfind, List.erase_cons_head]
  rfl

/-! ## Parts -/

/-- Parts of a line whose tags open styles, and close those that were opened last. -/
inductive Tagged : List Text → List Piece → Prop
  | nil (styles : List Text) : Tagged styles []
  | plain {styles : List Text} {ps : List Piece} (t : Text) (h : Tagged styles ps) : Tagged styles (.plain t :: ps)
  | opening {styles : List Text} {ps : List Piece} {tag : Text} (htag : IsStyle tag) (h : Tagged (tag :: styles) ps) :
    Tagged styles (.tag tag :: ps)
  | closing {styles : List Text} {ps : List Piece} {tag : Text} (htag : IsStyle tag) (h : Tagged styles ps) :
    Tagged (tag :: styles) (.tag ('/' :: tag) :: ps)

/-- The tags of such parts can be opened and closed. -/
theorem Tagged.exists_renderPieces (h : Tagged styles ps) :
    ∃ shown tags, renderPieces (styles.map plainStyle) ps = .ok (shown, tags) ∧ ∀ o ∈ tags, o.parameters = none := by
  induction h with
  | nil styles => exact ⟨[], styles.map plainStyle, rfl, List.forall_mem_map.mpr fun _ _ => rfl⟩
  | plain t _ ih =>
    obtain ⟨shown, tags, hrender, htags⟩ := ih
    refine ⟨Emoji.replace (Text.replaceAll "\\[" "[" t) ++ shown, tags, ?_, htags⟩
    rw [renderPieces, hrender]
    rfl
  | @opening styles ps tag htag _ ih =>
    obtain ⟨shown, tags, hrender, htags⟩ := ih
    refine ⟨shown, tags, ?_, htags⟩
    rw [renderPieces, htag.opens.2.1]
    split
    · next heq => exact absurd (congrArg List.head? (Prod.mk.inj heq).1) htag.opens.2.2
    · next heq =>
      obtain ⟨rfl, rfl⟩ := Prod.mk.inj heq
      rw [htag.name]
      exact hrender
  | @closing styles ps tag htag _ ih =>
    obtain ⟨shown, tags, hrender, htags⟩ := ih
    refine ⟨shown, plainStyle tag :: tags, ?_, List.forall_mem_cons.mpr ⟨rfl, htags⟩⟩
    rw [renderPieces, htag.closes.2.1]
    simp only [List.map_cons, htag.close, hrender, bind, Except.bind]
    rfl

/-- **A line of such parts is shown.** -/
theorem Tagged.exists_render (h : Tagged [] (pieces t)) : ∃ shown, render t = .ok shown := by
  obtain ⟨shown, tags, hrender, htags⟩ := h.exists_renderPieces
  have hstyles : tags.forM Opened.checkStyle = .ok () := by
    clear hrender
    induction tags with
    | nil => rfl
    | cons o tags ih =>
      obtain ⟨ho, htags⟩ := List.forall_mem_cons.mp htags
      have hstyle : o.checkStyle = .ok () := by rw [Opened.checkStyle, ho]
      exact (congrArg (· >>= fun _ => tags.forM Opened.checkStyle) hstyle).trans (ih htags)
  rw [List.map_nil] at hrender
  rw [render, hrender]
  simp only [bind, Except.bind, hstyles]
  exact ⟨_, rfl⟩

/-! ## Texts cut into parts -/

theorem takeTag?_of_head? (h : t.head? ≠ some '[') : takeTag? t = none := by
  unfold takeTag?
  split
  · exact absurd rfl h
  · rfl

theorem takeTag?_bracketed (h : isTag tag = true) (rest : Text) :
    takeTag? (bracketed tag ++ rest) = some (tag, rest) := by
  cases tag with
  | nil => cases h
  | cons c body =>
    obtain ⟨hstart, hbody⟩ := Bool.and_eq_true_iff.mp h
    have htake : (body ++ ']' :: rest).takeWhile (fun d => d != ']' && d != '[') = body := by
      rw [List.takeWhile_append_of_pos (List.all_eq_true.mp hbody), List.takeWhile_cons_of_neg (by simp),
        List.append_nil]
    have htext : bracketed (c :: body) ++ rest = '[' :: c :: (body ++ ']' :: rest) := by simp [bracketed]
    rw [htext, takeTag?, if_pos hstart]
    simp only [htake, List.drop_left]

/-- A tag behind an even number of backslashes is a tag, and one behind an odd number is plain. -/
theorem piecesFrom_bracketed (h : isTag tag = true) (plain : Text) (slashes : Nat) (rest : Text) :
    ∃ before, piecesFrom plain slashes (bracketed tag ++ rest) =
      .plain before :: (if slashes % 2 = 1 then .plain (bracketed tag) else .tag tag) :: piecesFrom [] 0 rest := by
  refine ⟨(List.replicate (slashes / 2) '\\' ++ plain).reverse, ?_⟩
  rw [piecesFrom]
  split
  · next tag' after htake =>
    rw [takeTag?_bracketed h] at htake
    obtain ⟨rfl, rfl⟩ := Prod.mk.inj (Option.some.inj htake)
    split
    · rfl
    · rfl
  · next htake =>
    rw [takeTag?_bracketed h] at htake
    cases htake

/-- A character that is no bracket and no backslash belongs to a plain part. -/
theorem piecesFrom_cons {c : Char} (hopen : c ≠ '[') (hslash : c ≠ '\\') (plain : Text) (slashes : Nat) (rest : Text) :
    piecesFrom plain slashes (c :: rest) = piecesFrom (c :: (List.replicate slashes '\\' ++ plain)) 0 rest := by
  have hnone : takeTag? (c :: rest) = none := takeTag?_of_head? (by simpa using hopen)
  rw [piecesFrom]
  split
  · next htake =>
    rw [hnone] at htake
    cases htake
  · simp [hslash]

/-- A backslash is counted. -/
theorem piecesFrom_slash (plain : Text) (slashes : Nat) (rest : Text) :
    piecesFrom plain slashes ('\\' :: rest) = piecesFrom plain (slashes + 1) rest := by
  have hnone : takeTag? ('\\' :: rest) = none := takeTag?_of_head? (by simp)
  rw [piecesFrom]
  split
  · next htake =>
    rw [hnone] at htake
    cases htake
  · simp

theorem piecesFrom_nil (plain : Text) (slashes : Nat) :
    piecesFrom plain slashes [] = [.plain (List.replicate slashes '\\' ++ plain).reverse] := by
  rw [piecesFrom]
  rfl

/-! ## Texts of lines -/

/-- The text of a line from some place on, with the styles that are open there. No backslash stands before it. -/
def IsTagged (styles : List Text) (t : Text) : Prop := ∀ plain, Tagged styles (piecesFrom plain 0 t)

namespace IsTagged

theorem nil (styles : List Text) : IsTagged styles [] := by
  intro plain
  rw [piecesFrom_nil]
  exact .plain _ (.nil styles)

/-- A text without brackets and backslashes is plain. -/
theorem plain (hopen : '[' ∉ t) (hslash : '\\' ∉ t) (h : IsTagged styles rest) : IsTagged styles (t ++ rest) := by
  induction t with
  | nil => exact h
  | cons c t ih =>
    rw [List.mem_cons, not_or] at hopen hslash
    intro plain
    rw [List.cons_append, piecesFrom_cons (Ne.symm hopen.1) (Ne.symm hslash.1)]
    exact ih hopen.2 hslash.2 _

/-- A tag opens a style. -/
theorem opening (htag : IsStyle tag) (h : IsTagged (tag :: styles) rest) :
    IsTagged styles (bracketed tag ++ rest) := by
  intro plain
  obtain ⟨before, hpieces⟩ := piecesFrom_bracketed htag.opens.1 plain 0 rest
  rw [hpieces]
  exact .plain _ (.opening htag (h []))

/-- A tag closes the style that was opened last. -/
theorem closing (htag : IsStyle tag) (h : IsTagged styles rest) :
    IsTagged (tag :: styles) (bracketed ('/' :: tag) ++ rest) := by
  intro plain
  obtain ⟨before, hpieces⟩ := piecesFrom_bracketed htag.closes.1 plain 0 rest
  rw [hpieces]
  exact .plain _ (.closing htag (h []))

/-- **A text without brackets in a style, at the end of a line.** A backslash at its end makes the closing tag plain. -/
theorem last (htag : IsStyle tag) (ht : '[' ∉ t) (styles : List Text) :
    IsTagged (tag :: styles) (t ++ bracketed ('/' :: tag)) := by
  have hall (plain : Text) (slashes : Nat) :
      Tagged (tag :: styles) (piecesFrom plain slashes (t ++ bracketed ('/' :: tag))) := by
    induction t generalizing plain slashes with
    | nil =>
      obtain ⟨before, hpieces⟩ := piecesFrom_bracketed htag.closes.1 plain slashes []
      rw [List.append_nil] at hpieces
      rw [List.nil_append, hpieces]
      split
      · exact .plain _ (.plain _ (nil _ []))
      · exact .plain _ (.closing htag (nil _ []))
    | cons c t ih =>
      rw [List.mem_cons, not_or] at ht
      rw [List.cons_append]
      by_cases hslash : c = '\\'
      · rw [hslash, piecesFrom_slash]
        exact ih ht.2 plain (slashes + 1)
      · rw [piecesFrom_cons (Ne.symm ht.1) hslash]
        exact ih ht.2 _ 0
  exact fun plain => hall plain 0

/-- **Such a line is shown.** -/
theorem exists_render (h : IsTagged [] t) : ∃ shown, render t = .ok shown := Tagged.exists_render (h [])

end IsTagged

end ImportChart.Markup
