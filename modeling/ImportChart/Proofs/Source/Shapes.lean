import ImportChart.Proofs.Source.Names
import ImportChart.Proofs.Text.Characters
import Mathlib.Data.List.TakeWhile

/-!
# The shapes of declarations

A shape says which texts are a declaration of one kind and what is captured in them, without regard to how they are
found: pieces of text stand one behind the other, and nothing is said of greed or of the order in which something is
tried.

- `ImportShape`, `RequireShape`, `FunctionShape`, `ArrowShape` and `ClassShape`;
- `Recognises`: a recogniser takes only texts of a shape, and wherever a text of the shape begins it takes one;
- each of the five recognisers does so (`recognises_importTarget?` and its siblings). No choice is ever open: a
  character that ends one piece cannot belong to it, so that a text is cut into pieces in at most one way.
-/

namespace ImportChart.Source

/-! ## Shapes -/

/-- Which texts are a declaration of one kind: the text, what is captured in it, and what stands behind it. -/
abbrev Shape := (span capture behind : Text) → Prop

/-- Blanks, or nothing. -/
def IsSpace (t : Text) : Prop := ∀ c ∈ t, Text.isBlank c = true

/-- One blank or more. -/
def IsGap (t : Text) : Prop := t ≠ [] ∧ IsSpace t

/-- A capture between two quotation marks: one character or more, none of them a quotation mark. -/
inductive IsQuoted (capture : Text) : Text → Prop
  | between {opening closing : Char} (hopening : isQuote opening = true) (hne : capture ≠ [])
      (hfree : ∀ c ∈ capture, isQuote c = false) (hclosing : isQuote closing = true) :
      IsQuoted capture (opening :: capture ++ [closing])

/-- What stands between `import` and its target: blanks only, or blanks, something, `from` and blanks again, where
something is one character or more, none of them a quotation mark or a semicolon. -/
inductive IsClause : Text → Prop
  | bare {gap : Text} (hgap : IsGap gap) : IsClause gap
  | names {gap names gap' : Text} (hgap : IsGap gap) (hne : names ≠ [])
      (hnames : ∀ c ∈ names, isClauseChar c = true) (hgap' : IsGap gap') : IsClause (gap ++ names ++ "from" ++ gap')

/-- `import "target"` and `import something from "target"`. -/
inductive ImportShape : Shape
  | target {clause quoted capture behind : Text} (hclause : IsClause clause) (hquoted : IsQuoted capture quoted) :
      ImportShape (("import" : Text) ++ clause ++ quoted) capture behind

/-- `require("target")`. -/
inductive RequireShape : Shape
  | call {space quoted space' capture behind : Text} (hspace : IsSpace space) (hquoted : IsQuoted capture quoted)
      (hspace' : IsSpace space') : RequireShape (("require(" : Text) ++ space ++ quoted ++ space' ++ ")") capture behind

/-- `function name(`. -/
inductive FunctionShape : Shape
  | header {gap name space behind : Text} (hgap : IsGap gap) (hname : IsName name) (hspace : IsSpace space) :
      FunctionShape (("function" : Text) ++ gap ++ name ++ space ++ "(") name behind

/-- `const name = (parameters) =>`, also with `async` before the parameters, which hold no parentheses. -/
inductive ArrowShape : Shape
  | constant {gap name space₁ space₂ word space₃ parameters space₄ behind : Text} (hgap : IsGap gap)
      (hname : IsName name) (hspace₁ : IsSpace space₁) (hspace₂ : IsSpace space₂) (hword : word = [] ∨ word = "async")
      (hspace₃ : IsSpace space₃) (hparameters : ∀ c ∈ parameters, isParameterChar c = true)
      (hspace₄ : IsSpace space₄) :
      ArrowShape (("const" : Text) ++ gap ++ name ++ space₁ ++ "=" ++ space₂ ++ word ++ space₃ ++ "(" ++ parameters ++
        ")" ++ space₄ ++ "=>") name behind

/-- A function in either form. -/
inductive CallableShape : Shape
  | function {span capture behind : Text} (h : FunctionShape span capture behind) : CallableShape span capture behind
  | arrow {span capture behind : Text} (h : ArrowShape span capture behind) : CallableShape span capture behind

/-- `class name`, where the name goes on as long as it can. -/
inductive ClassShape : Shape
  | header {gap name behind : Text} (hgap : IsGap gap) (hname : IsName name)
      (hlongest : ∀ c ∈ behind.head?, isNameChar c = false) :
      ClassShape (("class" : Text) ++ gap ++ name) name behind

/-- A recogniser takes the texts of a shape: what it takes is one, at most with semicolons behind it, and where one
begins it takes something. No text of the shape begins with a semicolon. -/
structure Recognises (recognise : Text → Option Found) (shape : Shape) : Prop where
  sound : ∀ {t found}, recognise t = some found → ∃ span extra, t = span ++ (extra ++ found.rest) ∧
    shape span found.capture (extra ++ found.rest) ∧ ∀ c ∈ extra, c = ';'
  complete : ∀ {span capture behind}, shape span capture behind → (recognise (span ++ behind)).isSome = true
  begins : ∀ {span capture behind}, shape span capture behind → ∃ c rest, span = c :: rest ∧ c ≠ ';'

variable {t u capture : Text} {found : Found}

/-! ## Classes of characters -/

/-- Blanks are no quotation marks, and they belong to no name. -/
theorem isQuote_of_isBlank {c : Char} (h : Text.isBlank c = true) : isQuote c = false := by
  cases hq : isQuote c with
  | false => rfl
  | true =>
    simp only [isQuote, Bool.or_eq_true, beq_iff_eq] at hq
    rcases hq with rfl | rfl <;> revert h <;> decide

theorem isBlank_of_isQuote {c : Char} (h : isQuote c = true) : Text.isBlank c = false := by
  cases hb : Text.isBlank c with
  | false => rfl
  | true => rw [isQuote_of_isBlank hb] at h; cases h

theorem isBlank_of_isNameChar {c : Char} (h : isNameChar c = true) : Text.isBlank c = false := by
  simp only [isNameChar, Bool.or_eq_true, beq_iff_eq] at h
  rcases h with (h | rfl) | rfl
  · exact Text.isBlank_of_isAlphanum h
  · decide
  · decide

theorem isClauseChar_of_isBlank {c : Char} (h : Text.isBlank c = true) : isClauseChar c = true := by
  have hne : c ≠ ';' := by
    rintro rfl
    revert h
    decide
  simp [isClauseChar, isQuote_of_isBlank h, hne]

/-! ## Pieces -/

section Pieces

variable {p : Char → Bool} {a b : Text}

/-- A run of characters of a class ends at the first other one. -/
theorem takeWhile_append_of_head (ha : ∀ c ∈ a, p c = true) (hb : ∀ c ∈ b.head?, p c = false) :
    (a ++ b).takeWhile p = a := by
  rw [List.takeWhile_append_of_pos ha]
  cases b with
  | nil => simp
  | cons c b => simp [hb c rfl]

theorem dropWhile_append_of_head (ha : ∀ c ∈ a, p c = true) (hb : ∀ c ∈ b.head?, p c = false) :
    (a ++ b).dropWhile p = b := by
  rw [List.dropWhile_append_of_pos ha]
  cases b with
  | nil => rfl
  | cons c b => simp [hb c rfl]

theorem head?_dropWhile (p : Char → Bool) (t : Text) : ∀ c ∈ (t.dropWhile p).head?, p c = false := by
  intro c hc
  have h := List.head?_dropWhile_not p t
  rw [Option.mem_def.mp hc] at h
  exact h

end Pieces

theorem after?_eq_some_iff {word : Text} : after? word t = some u ↔ t = word ++ u := by
  constructor
  · intro h
    unfold after? at h
    split at h
    · next hprefix =>
      obtain ⟨rest, rfl⟩ := List.isPrefixOf_iff_prefix.mp hprefix
      rw [List.drop_left] at h
      rw [Option.some.inj h]
    · cases h
  · rintro rfl
    exact after?_append word u

/-- What `trimStart` leaves out is blank. -/
theorem exists_space (t : Text) : ∃ space, IsSpace space ∧ t = space ++ Text.trimStart t :=
  ⟨t.takeWhile Text.isBlank, fun _ hc => List.mem_takeWhile_imp hc, List.takeWhile_append_dropWhile.symm⟩

theorem trimStart_space (h : IsSpace t) (hu : ∀ c ∈ u.head?, Text.isBlank c = false) :
    Text.trimStart (t ++ u) = u :=
  dropWhile_append_of_head h hu

theorem exists_gap (h : afterBlanks? t = some u) : ∃ gap, IsGap gap ∧ t = gap ++ u := by
  cases t with
  | nil => cases h
  | cons c cs =>
    rw [afterBlanks?] at h
    split at h
    · next hblank =>
      obtain ⟨space, hspace, hcs⟩ := exists_space cs
      refine ⟨c :: space, ⟨List.cons_ne_nil _ _, ?_⟩, ?_⟩
      · intro x hx
        rcases List.mem_cons.mp hx with rfl | hx
        · exact hblank
        · exact hspace x hx
      · rw [← Option.some.inj h, List.cons_append, ← hcs]
    · cases h

theorem afterBlanks?_gap (h : IsGap t) (hu : ∀ c ∈ u.head?, Text.isBlank c = false) :
    afterBlanks? (t ++ u) = some u := by
  obtain ⟨hne, hblank⟩ := h
  obtain ⟨c, cs, rfl⟩ := List.exists_cons_of_ne_nil hne
  have hspace : IsSpace cs := fun x hx => hblank x (List.mem_cons_of_mem _ hx)
  rw [List.cons_append, afterBlanks?, if_pos (hblank c List.mem_cons_self), trimStart_space hspace hu]

/-- A name that is found goes on as long as it can. -/
theorem eq_append_of_name? (h : name? t = some found) :
    t = found.capture ++ found.rest ∧ ∀ c ∈ found.rest.head?, isNameChar c = false := by
  unfold name? at h
  dsimp only at h
  split at h
  · cases h
  · obtain rfl := Option.some.inj h
    exact ⟨List.takeWhile_append_dropWhile.symm, head?_dropWhile isNameChar t⟩

theorem name?_append (h : IsName t) (hu : ∀ c ∈ u.head?, isNameChar c = false) : name? (t ++ u) = some ⟨t, u⟩ := by
  have hall : ∀ c ∈ t, isNameChar c = true := List.all_eq_true.mp h.2
  have hne : t.isEmpty = false := by simpa using h.1
  simp only [name?, takeWhile_append_of_head hall hu, dropWhile_append_of_head hall hu, hne]
  rfl

/-- A name begins with no blank. -/
theorem isBlank_head_name (h : IsName t) (u : Text) : ∀ c ∈ (t ++ u).head?, Text.isBlank c = false := by
  obtain ⟨hne, hall⟩ := h
  obtain ⟨c, cs, rfl⟩ := List.exists_cons_of_ne_nil hne
  intro x hx
  obtain rfl := Option.some.inj hx
  exact isBlank_of_isNameChar (List.all_eq_true.mp hall c List.mem_cons_self)

theorem exists_quoted (h : quotedTarget? t = some found) :
    ∃ quoted, IsQuoted found.capture quoted ∧ t = quoted ++ found.rest := by
  cases t with
  | nil => cases h
  | cons opening cs =>
    simp only [quotedTarget?] at h
    split at h
    · cases h
    · next closing rest hrest =>
      split at h
      · next hmarks =>
        obtain ⟨hopening, hne⟩ := Bool.and_eq_true_iff.mp hmarks
        obtain rfl := Option.some.inj h
        have hclosing : isQuote closing = true := by
          have hhead := head?_dropWhile (!isQuote ·) cs closing (by rw [hrest]; rfl)
          simpa using hhead
        refine ⟨_, .between hopening (by simpa using hne) ?_ hclosing, ?_⟩
        · intro c hc
          simpa using List.mem_takeWhile_imp hc
        · have hcs := List.takeWhile_append_dropWhile (p := (!isQuote ·)) (l := cs)
          rw [hrest] at hcs
          simp only [List.cons_append, List.append_assoc, List.nil_append]
          rw [hcs]
      · cases h

theorem quotedTarget?_append {quoted : Text} (h : IsQuoted capture quoted) (u : Text) :
    quotedTarget? (quoted ++ u) = some ⟨capture, u⟩ := by
  obtain ⟨hopening, hne, hfree, hclosing⟩ := h
  rename_i opening closing
  have hall : ∀ c ∈ capture, (!isQuote c) = true := by
    intro c hc
    rw [hfree c hc]
    rfl
  have hhead : ∀ c ∈ (closing :: u).head?, (!isQuote c) = false := by
    intro c hc
    obtain rfl := Option.some.inj hc
    rw [hclosing]
    rfl
  have hcapture : capture.isEmpty = false := by simpa using hne
  simp only [List.cons_append, List.append_assoc, List.nil_append, quotedTarget?,
    takeWhile_append_of_head hall hhead, dropWhile_append_of_head hall hhead, hopening, hcapture]
  rfl

/-- A quoted target begins with a quotation mark. -/
theorem IsQuoted.head {quoted : Text} (h : IsQuoted capture quoted) (u : Text) :
    ∀ c ∈ (quoted ++ u).head?, isQuote c = true := by
  obtain ⟨hopening, -, -, -⟩ := h
  intro c hc
  rw [← Option.some.inj hc]
  exact hopening

theorem IsQuoted.isBlank_head {quoted : Text} (h : IsQuoted capture quoted) (u : Text) :
    ∀ c ∈ (quoted ++ u).head?, Text.isBlank c = false :=
  fun c hc => isBlank_of_isQuote (h.head u c hc)

/-! ## Recognisers -/

theorem recognises_requireTarget? : Recognises requireTarget? RequireShape where
  sound {t found} h := by
    simp only [requireTarget?, Option.bind_eq_bind, Option.bind_eq_some_iff, Option.pure_def, Option.some_inj] at h
    obtain ⟨t₁, hword, inner, hinner, rest, hclose, rfl⟩ := h
    obtain ⟨space, hspace, ht₁⟩ := exists_space t₁
    obtain ⟨quoted, hquoted, hrest⟩ := exists_quoted hinner
    obtain ⟨space', hspace', hinnerRest⟩ := exists_space inner.rest
    refine ⟨_, [], ?_, .call hspace hquoted hspace', by simp⟩
    rw [after?_eq_some_iff.mp hword, ht₁, hrest, hinnerRest, after?_eq_some_iff.mp hclose]
    simp only [List.append_assoc, List.nil_append]
  complete h := by
    obtain ⟨hspace, hquoted, hspace'⟩ := h
    simp only [requireTarget?, List.append_assoc, after?_append, Option.bind_eq_bind, Option.bind_some,
      trimStart_space hspace (hquoted.isBlank_head _), quotedTarget?_append hquoted]
    rw [trimStart_space hspace' (by rintro c ⟨⟩; decide), after?_append]
    rfl
  begins h := by
    obtain ⟨-, -, -⟩ := h
    exact ⟨_, _, rfl, by decide⟩

theorem recognises_className? : Recognises className? ClassShape where
  sound {t found} h := by
    simp only [className?, Option.bind_eq_bind, Option.bind_eq_some_iff] at h
    obtain ⟨t₀, hword, t₁, hgap, hname⟩ := h
    obtain ⟨gap, hgap, ht₀⟩ := exists_gap hgap
    obtain ⟨ht₁, hlongest⟩ := eq_append_of_name? hname
    refine ⟨_, [], ?_, .header hgap (isName_of_name? hname) hlongest, by simp⟩
    rw [after?_eq_some_iff.mp hword, ht₀, ht₁]
    simp only [List.append_assoc, List.nil_append]
  complete h := by
    obtain ⟨hgap, hname, hlongest⟩ := h
    simp only [className?, List.append_assoc, after?_append, Option.bind_eq_bind, Option.bind_some,
      afterBlanks?_gap hgap (isBlank_head_name hname _), name?_append hname hlongest]
    rfl
  begins h := by
    obtain ⟨-, -, -⟩ := h
    exact ⟨_, _, rfl, by decide⟩

/-- Behind blanks a name does not go on. -/
theorem isNameChar_head_space (h : IsSpace t) (hu : ∀ c ∈ u.head?, isNameChar c = false) :
    ∀ c ∈ (t ++ u).head?, isNameChar c = false := by
  cases t with
  | nil => exact hu
  | cons b t =>
    intro c hc
    obtain rfl := Option.some.inj hc
    have hblank := h b List.mem_cons_self
    cases hname : isNameChar b with
    | false => rfl
    | true => rw [isBlank_of_isNameChar hname] at hblank; cases hblank

theorem recognises_functionName? : Recognises functionName? FunctionShape where
  sound {t found} h := by
    simp only [functionName?, Option.bind_eq_bind, Option.bind_eq_some_iff, Option.pure_def, Option.some_inj] at h
    obtain ⟨t₁, hword, t₂, hgap, inner, hinner, rest, hopen, rfl⟩ := h
    obtain ⟨gap, hgap, ht₁⟩ := exists_gap hgap
    obtain ⟨ht₂, -⟩ := eq_append_of_name? hinner
    obtain ⟨space, hspace, hrest⟩ := exists_space inner.rest
    have hname : IsName inner.capture := isName_of_name? hinner
    refine ⟨_, [], ?_, .header hgap hname hspace, by simp⟩
    rw [after?_eq_some_iff.mp hword, ht₁, ht₂, hrest, after?_eq_some_iff.mp hopen]
    simp only [List.append_assoc, List.nil_append]
  complete h := by
    obtain ⟨hgap, hname, hspace⟩ := h
    simp only [functionName?, List.append_assoc, after?_append, Option.bind_eq_bind, Option.bind_some,
      afterBlanks?_gap hgap (isBlank_head_name hname _)]
    rw [name?_append hname (isNameChar_head_space hspace (by rintro c ⟨⟩; decide)), Option.bind_some,
      trimStart_space hspace (by rintro c ⟨⟩; decide), after?_append]
    rfl
  begins h := by
    obtain ⟨-, -, -⟩ := h
    exact ⟨_, _, rfl, by decide⟩

/-- What stands between the equals sign and the parameters of an arrow function, without the blanks: the word `async`
is passed over, and the blanks behind it. -/
def afterWord (t : Text) : Text := ((after? "async" t).map Text.trimStart).getD t

theorem exists_word (t : Text) : ∃ space word space', IsSpace space ∧ (word = [] ∨ word = "async") ∧ IsSpace space' ∧
    t = space ++ (word ++ (space' ++ afterWord (Text.trimStart t))) := by
  obtain ⟨space, hspace, ht⟩ := exists_space t
  unfold afterWord
  cases hword : after? "async" (Text.trimStart t) with
  | none => exact ⟨space, [], [], hspace, Or.inl rfl, by simp [IsSpace], ht⟩
  | some u =>
    obtain ⟨space', hspace', hu⟩ := exists_space u
    refine ⟨space, "async", space', hspace, Or.inr rfl, hspace', ?_⟩
    rw [Option.map_some, Option.getD_some, ← hu, ← after?_eq_some_iff.mp hword]
    exact ht

theorem afterWord_append {space word space' : Text} (hspace : IsSpace space) (hword : word = [] ∨ word = "async")
    (hspace' : IsSpace space') (u : Text) :
    afterWord (Text.trimStart (space ++ (word ++ (space' ++ (("(" : Text) ++ u))))) = ("(" : Text) ++ u := by
  have hopen : ∀ c ∈ (("(" : Text) ++ u).head?, Text.isBlank c = false := by rintro c ⟨⟩; decide
  rcases hword with rfl | rfl
  · have hboth : IsSpace (space ++ space') := fun c hc => (List.mem_append.mp hc).elim (hspace c) (hspace' c)
    have hnone : after? "async" (("(" : Text) ++ u) = none := rfl
    rw [List.nil_append, ← List.append_assoc, trimStart_space hboth hopen, afterWord, hnone]
    rfl
  · have hhead : ∀ c ∈ (("async" : Text) ++ (space' ++ (("(" : Text) ++ u))).head?, Text.isBlank c = false := by
      rintro c ⟨⟩; decide
    rw [trimStart_space hspace hhead, afterWord, after?_append, Option.map_some, Option.getD_some,
      trimStart_space hspace' hopen]

theorem recognises_arrowName? : Recognises arrowName? ArrowShape where
  sound {t found} h := by
    simp only [arrowName?, Option.bind_eq_bind, Option.bind_eq_some_iff, Option.pure_def, Option.some_inj] at h
    obtain ⟨t₁, hconst, t₂, hgap, inner, hinner, t₃, hequals, t₄, hopen, t₅, hclose, rest, harrow, rfl⟩ := h
    obtain ⟨gap, hgap, ht₁⟩ := exists_gap hgap
    obtain ⟨ht₂, -⟩ := eq_append_of_name? hinner
    obtain ⟨space₁, hspace₁, hrest⟩ := exists_space inner.rest
    obtain ⟨space₂, word, space₃, hspace₂, hword, hspace₃, ht₃⟩ := exists_word t₃
    obtain ⟨space₄, hspace₄, ht₅⟩ := exists_space t₅
    have hname : IsName inner.capture := isName_of_name? hinner
    have hparameters : ∀ c ∈ t₄.takeWhile isParameterChar, isParameterChar c = true :=
      fun c hc => List.mem_takeWhile_imp hc
    have ht₄ : t₄ = t₄.takeWhile isParameterChar ++ (")" ++ t₅) := by
      rw [← after?_eq_some_iff.mp hclose, List.takeWhile_append_dropWhile]
    rw [afterWord, after?_eq_some_iff.mp hopen] at ht₃
    rw [after?_eq_some_iff.mp harrow] at ht₅
    refine ⟨_, [], ?_, .constant hgap hname hspace₁ hspace₂ hword hspace₃ hparameters hspace₄, by simp⟩
    calc t = "const" ++ (gap ++ (inner.capture ++ (space₁ ++ ("=" ++ t₃)))) := by
          rw [after?_eq_some_iff.mp hconst, ht₁, ht₂, ← after?_eq_some_iff.mp hequals, ← hrest]
      _ = "const" ++ (gap ++ (inner.capture ++ (space₁ ++ ("=" ++ (space₂ ++ (word ++ (space₃ ++ ("(" ++
            (t₄.takeWhile isParameterChar ++ (")" ++ (space₄ ++ ("=>" ++ rest)))))))))))) := by
          rw [← ht₅, ← ht₄, ← ht₃]
      _ = _ := by simp only [List.append_assoc, List.nil_append]
  complete h := by
    obtain ⟨hgap, hname, hspace₁, hspace₂, hword, hspace₃, hparameters, hspace₄⟩ := h
    simp only [arrowName?, List.append_assoc, after?_append, Option.bind_eq_bind, Option.bind_some,
      afterBlanks?_gap hgap (isBlank_head_name hname _)]
    rw [name?_append hname (isNameChar_head_space hspace₁ (by rintro c ⟨⟩; decide)), Option.bind_some,
      trimStart_space hspace₁ (by rintro c ⟨⟩; decide), after?_append, Option.bind_some, ← afterWord,
      afterWord_append hspace₂ hword hspace₃, after?_append, Option.bind_some,
      dropWhile_append_of_head hparameters (by rintro c ⟨⟩; decide), after?_append, Option.bind_some,
      trimStart_space hspace₄ (by rintro c ⟨⟩; decide), after?_append]
    rfl
  begins h := by
    obtain ⟨-, -, -, -, -, -, -, -⟩ := h
    exact ⟨_, _, rfl, by decide⟩

theorem recognises_callableName? : Recognises callableName? CallableShape where
  sound h := by
    rcases Option.or_eq_some_iff.mp h with hfunction | ⟨-, harrow⟩
    · obtain ⟨span, extra, ht, hshape, hextra⟩ := recognises_functionName?.sound hfunction
      exact ⟨span, extra, ht, .function hshape, hextra⟩
    · obtain ⟨span, extra, ht, hshape, hextra⟩ := recognises_arrowName?.sound harrow
      exact ⟨span, extra, ht, .arrow hshape, hextra⟩
  complete h := by
    rw [callableName?, Option.isSome_or, Bool.or_eq_true]
    cases h with
    | function hfunction => exact Or.inl (recognises_functionName?.complete hfunction)
    | arrow harrow => exact Or.inr (recognises_arrowName?.complete harrow)
  begins h := by
    cases h with
    | function hfunction => exact recognises_functionName?.begins hfunction
    | arrow harrow => exact recognises_arrowName?.begins harrow

/-! ## Imports -/

/-- What `trimEnd` leaves out is blank. -/
theorem exists_trimEnd (t : Text) : ∃ space, IsSpace space ∧ t = Text.trimEnd t ++ space := by
  obtain ⟨space, hspace, ht⟩ := exists_space t.reverse
  refine ⟨space.reverse, fun c hc => hspace c (List.mem_reverse.mp hc), ?_⟩
  rw [← List.reverse_inj, List.reverse_append, List.reverse_reverse, Text.trimEnd, Text.dropEndWhile,
    List.reverse_reverse]
  exact ht

theorem trimEnd_space (ht : ∀ c ∈ t.getLast?, Text.isBlank c = false) (hu : IsSpace u) :
    Text.trimEnd (t ++ u) = t := by
  have hreverse : IsSpace u.reverse := fun c hc => hu c (List.mem_reverse.mp hc)
  rw [Text.trimEnd, Text.dropEndWhile, List.reverse_append,
    dropWhile_append_of_head hreverse (by rwa [List.head?_reverse]), List.reverse_reverse]

theorem IsGap.head?_append (h : IsGap t) (u : Text) : ((t ++ u).head?.map Text.isBlank).getD false = true := by
  obtain ⟨hne, hblank⟩ := h
  obtain ⟨c, cs, rfl⟩ := List.exists_cons_of_ne_nil hne
  exact hblank c List.mem_cons_self

theorem IsGap.getLast?_append (h : IsGap u) (t : Text) : ((t ++ u).getLast?.map Text.isBlank).getD false = true := by
  obtain ⟨hne, hblank⟩ := h
  rw [List.getLast?_append, List.getLast?_eq_some_getLast hne, Option.some_or]
  exact hblank _ (List.getLast_mem hne)

/-- What passes the test of clauses is a clause, if it has no quotation marks and no semicolons. -/
theorem isClause_of_test (hall : ∀ c ∈ t, isClauseChar c = true) (h : isClause t = true) : IsClause t := by
  obtain ⟨hbound, hcore⟩ := Bool.and_eq_true_iff.mp h
  obtain ⟨hfirst, hlast⟩ := Bool.and_eq_true_iff.mp hbound
  obtain ⟨space, hspace, ht⟩ := exists_trimEnd t
  rcases Bool.or_eq_true_iff.mp hcore with hempty | hfrom
  · -- nothing but blanks
    have ht : t = space := by rw [ht, List.isEmpty_iff.mp hempty, List.nil_append]
    refine .bare ⟨?_, ht ▸ hspace⟩
    rintro rfl
    cases hfirst
  · -- the first blank is enough as a gap, and `names` is what stands between it and `from`
    obtain ⟨hsuffix, hlength⟩ := Bool.and_eq_true_iff.mp hfrom
    obtain ⟨front, hfront⟩ := List.isSuffixOf_iff_suffix.mp hsuffix
    rw [← hfront] at ht hlength
    obtain ⟨b, names, rfl, hne⟩ : ∃ b names, front = b :: names ∧ names ≠ [] := by
      cases front with
      | nil => simp at hlength
      | cons b names =>
        refine ⟨b, names, rfl, ?_⟩
        rintro rfl
        simp at hlength
    have hb : IsSpace [b] := by
      rw [ht] at hfirst
      simpa [IsSpace] using hfirst
    have hnames : ∀ c ∈ names, isClauseChar c = true := fun c hc => hall c (by rw [ht]; simp [hc])
    have hspaceNe : space ≠ [] := by
      rintro rfl
      rw [ht, List.append_nil, List.getLast?_append] at hlast
      exact absurd hlast (by decide : ¬Text.isBlank 'm' = true)
    have hclause : IsClause ([b] ++ names ++ "from" ++ space) :=
      .names ⟨List.cons_ne_nil _ _, hb⟩ hne hnames ⟨hspaceNe, hspace⟩
    rw [ht]
    exact hclause

/-- A clause passes the test of clauses. -/
theorem IsClause.isClause_eq_true (h : IsClause t) : isClause t = true := by
  unfold isClause
  cases h with
  | bare hgap =>
    have hcore : Text.trimEnd t = [] := trimEnd_space (t := []) (by simp) hgap.2
    have hfirst := hgap.head?_append []
    have hlast := hgap.getLast?_append []
    rw [List.append_nil] at hfirst
    rw [List.nil_append] at hlast
    simp only [hfirst, hlast, hcore]
    rfl
  | @names gap names gap' hgap hne hnames hgap' =>
    have hcore : Text.trimEnd (gap ++ names ++ "from" ++ gap') = gap ++ names ++ "from" := by
      refine trimEnd_space ?_ hgap'.2
      rw [List.getLast?_append]
      rintro c ⟨⟩
      decide
    have hfirst := hgap.head?_append (names ++ ("from" ++ gap'))
    rw [← List.append_assoc, ← List.append_assoc] at hfirst
    have hsuffix : ("from" : Text).isSuffixOf (gap ++ names ++ "from") = true :=
      List.isSuffixOf_iff_suffix.mpr (List.suffix_append _ _)
    have hlength : 6 ≤ (gap ++ names ++ "from").length := by
      have hgapLength := List.length_pos_iff.mpr hgap.1
      have hnamesLength := List.length_pos_iff.mpr hne
      simp only [List.length_append, String.length_toList]
      rw [show ("from" : String).length = 4 from rfl]
      omega
    simp only [hfirst, hgap'.getLast?_append, hcore, hsuffix, decide_eq_true hlength, Bool.and_self, Bool.or_true]

/-- A clause has no quotation marks and no semicolons. -/
theorem IsClause.all (h : IsClause t) : ∀ c ∈ t, isClauseChar c = true := by
  cases h with
  | bare hgap => exact fun c hc => isClauseChar_of_isBlank (hgap.2 c hc)
  | names hgap _ hnames hgap' =>
    intro c hc
    simp only [List.mem_append] at hc
    rcases hc with ((hc | hc) | hc) | hc
    · exact isClauseChar_of_isBlank (hgap.2 c hc)
    · exact hnames c hc
    · exact List.all_eq_true.mp (by decide : (("from" : Text).all isClauseChar) = true) c hc
    · exact isClauseChar_of_isBlank (hgap'.2 c hc)

theorem recognises_importTarget? : Recognises importTarget? ImportShape where
  sound {t found} h := by
    simp only [importTarget?, Option.bind_eq_bind, Option.bind_eq_some_iff, Option.pure_def] at h
    obtain ⟨t₁, hword, h⟩ := h
    split at h
    · next hclause =>
      simp only [Option.bind_eq_some_iff, Option.some_inj] at h
      obtain ⟨inner, hinner, rfl⟩ := h
      have hclause := isClause_of_test (fun c hc => List.mem_takeWhile_imp hc) hclause
      obtain ⟨quoted, hquoted, ht₁⟩ := exists_quoted hinner
      have ht : t = ("import" : Text) ++ t₁.takeWhile isClauseChar ++ quoted ++ inner.rest := by
        rw [after?_eq_some_iff.mp hword, List.append_assoc, List.append_assoc, ← ht₁,
          List.takeWhile_append_dropWhile]
      -- a semicolon behind the target is taken, too
      cases hsemicolon : after? ";" inner.rest with
      | none => exact ⟨_, [], ht, .target hclause hquoted, by simp⟩
      | some rest =>
        refine ⟨_, ";", ?_, .target hclause hquoted, fun c hc => List.mem_singleton.mp hc⟩
        rw [ht, Option.getD_some, ← after?_eq_some_iff.mp hsemicolon]
    · cases h
  complete h := by
    obtain ⟨hclause, hquoted⟩ := h
    have hmark := fun behind => hquoted.head behind
    have hends : ∀ u : Text, (∀ c ∈ u.head?, isQuote c = true) → ∀ c ∈ u.head?, isClauseChar c = false := by
      intro u hu c hc
      simp [isClauseChar, hu c hc]
    simp only [importTarget?, List.append_assoc, after?_append, Option.bind_eq_bind, Option.bind_some,
      takeWhile_append_of_head hclause.all (hends _ (hmark _)),
      dropWhile_append_of_head hclause.all (hends _ (hmark _)), hclause.isClause_eq_true, if_true,
      quotedTarget?_append hquoted]
    rfl
  begins h := by
    obtain ⟨-, -⟩ := h
    exact ⟨_, _, rfl, by decide⟩

end ImportChart.Source
