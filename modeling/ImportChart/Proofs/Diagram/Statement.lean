import ImportChart.Diagram.Render
import ImportChart.Source.Pattern

/-!
# Statements of a diagram and how they are read back

Behind its head a diagram is a list of statements, one behind the other. `Statement.line` writes a statement;
`statement?` reads the one that a text begins with and gives the text behind it. A label may hold any text, line feeds
and the look of other statements included, for it ends at the first quotation mark.

- `unescape_escape`: a label without the escape in it can be read back;
- `statement?_text`: so can a statement, whatever stands behind it;
- `flatMap_text_injective`: hence no text is written by two different lists of statements.
-/

namespace ImportChart.Diagram

open Ident (isIdentChar)
open Source (after?)

variable {label word : Text}

/-! ## Labels -/

/-- A label with its quotation marks escaped. -/
def escape (label : Text) : Text := label.flatMap fun c => if c == '"' then quoteEscape else [c]

/-- The label that an escaped label stands for. -/
def unescape (t : Text) : Text := Text.replaceAll quoteEscape ['"'] t

theorem quotedLabel_eq (label : Text) : quotedLabel label = '"' :: escape label ++ ['"'] := rfl

theorem escape_quote (label : Text) : escape ('"' :: label) = quoteEscape ++ escape label := rfl

theorem escape_cons {c : Char} (h : c ≠ '"') (label : Text) : escape (c :: label) = c :: escape label := by
  simp [escape, List.flatMap_cons, h]

theorem quote_notMem_escape (label : Text) : '"' ∉ escape label := by
  induction label with
  | nil => simp [escape]
  | cons c label ih =>
    by_cases h : c = '"'
    · subst h
      rw [escape_quote, List.mem_append, not_or]
      exact ⟨by decide, ih⟩
    · rw [escape_cons h, List.mem_cons, not_or]
      exact ⟨Ne.symm h, ih⟩

/-- What has no part in an escape begins an escaped label exactly if it begins the label. -/
theorem prefix_escape_iff : ∀ {part label : Text}, '"' ∉ part → '#' ∉ part → (part <+: escape label ↔ part <+: label)
  | [], _, _, _ => by simp
  | _ :: _, [], _, _ => by simp [escape]
  | p :: part, c :: label, hquote, hsharp => by
    rw [List.mem_cons, not_or] at hquote hsharp
    by_cases h : c = '"'
    · subst h
      have hescape : ¬p :: part <+: quoteEscape ++ escape label := by
        intro hprefix
        exact hsharp.1 (List.cons_prefix_cons.mp hprefix).1.symm
      have hlabel : ¬p :: part <+: '"' :: label := by
        intro hprefix
        exact hquote.1 (List.cons_prefix_cons.mp hprefix).1.symm
      rw [escape_quote]
      exact iff_of_false hescape hlabel
    · rw [escape_cons h, List.cons_prefix_cons, List.cons_prefix_cons, prefix_escape_iff hquote.2 hsharp.2]

/-- **A label is read back**, unless it holds an escape itself. -/
theorem unescape_escape (h : ¬quoteEscape <:+: label) : unescape (escape label) = label := by
  induction label with
  | nil => exact Text.replaceAll_nil _ _
  | cons c label ih =>
    rw [List.infix_cons_iff, not_or] at h
    by_cases hc : c = '"'
    · subst hc
      rw [escape_quote, unescape, Text.replaceAll_append (by decide)]
      exact congrArg ('"' :: ·) (ih h.2)
    · have hno : ¬quoteEscape <+: c :: escape label := by
        -- behind its first character the escape has no part of an escape, so it would stand in the label
        intro hprefix
        obtain ⟨hsharp, hrest⟩ := List.cons_prefix_cons.mp hprefix
        refine h.1 (List.cons_prefix_cons.mpr ⟨hsharp, ?_⟩)
        exact (prefix_escape_iff (by decide) (by decide)).mp hrest
      rw [escape_cons hc, unescape, Text.replaceAll_cons hno]
      exact congrArg (c :: ·) (ih h.2)

/-! ## Statements -/

/-- A statement below the head of a diagram. -/
inductive Statement where
  /-- The box of a file begins. -/
  | openBox (id label : Text)
  /-- A symbol in a box. -/
  | symbol (id label : Text)
  | closeBox
  /-- A package. -/
  | package (id label : Text)
  /-- A solid edge, also to or from an anchor. -/
  | edge (src dst : Text)
  /-- A dotted edge. -/
  | chain (src dst : Text)
  deriving DecidableEq, Repr

/-- What gives a node its label, as it is written. -/
def labelled (id label : Text) : Text := id ++ '[' :: quotedLabel label ++ [']']

/-- A statement as it is written. -/
def Statement.line : Statement → Text
  | .openBox id label => indent ++ "subgraph " ++ labelled id label
  | .symbol id label => indent ++ indent ++ labelled id label
  | .closeBox => indent ++ "end"
  | .package id label => indent ++ labelled id label
  | .edge src dst => edgeLine src dst
  | .chain src dst => chainLine src dst

/-- A statement with the line feed behind it. -/
def Statement.text (s : Statement) : Text := s.line ++ ['\n']

/-- The words of a statement. -/
def Statement.words : Statement → List Text
  | .openBox id _ | .symbol id _ | .package id _ => [id]
  | .closeBox => []
  | .edge src dst | .chain src dst => [src, dst]

/-- The label of a statement. -/
def Statement.label? : Statement → Option Text
  | .openBox _ label | .symbol _ label | .package _ label => some label
  | _ => none

/-- A word of identifier characters that neither opens nor closes a box. -/
def IsPlainWord (word : Text) : Prop :=
  word ≠ [] ∧ word.all isIdentChar = true ∧ word ≠ "subgraph" ∧ word ≠ "end"

/-- A statement whose words are plain and whose labels hold no escape. -/
def Statement.Clear : Statement → Prop
  | .openBox id label | .symbol id label | .package id label => IsPlainWord id ∧ ¬quoteEscape <:+: label
  | .closeBox => True
  | .edge src dst | .chain src dst => IsPlainWord src ∧ IsPlainWord dst

theorem Statement.clear_iff {s : Statement} :
    s.Clear ↔ (∀ word ∈ s.words, IsPlainWord word) ∧ ∀ label ∈ s.label?, ¬quoteEscape <:+: label := by
  cases s <;> simp [Clear, words, label?]

/-! ## Reading -/

/-- The word that a text begins with, and the text behind it. -/
def splitWord (t : Text) : Text × Text := (t.takeWhile isIdentChar, t.dropWhile isIdentChar)

/-- A label in brackets and quotation marks at the end of a line. -/
def bracketed? (t : Text) : Option (Text × Text) := do
  let t ← after? "[\"" t
  let rest ← after? "\"]\n" (t.dropWhile (· ≠ '"'))
  return (unescape (t.takeWhile (· ≠ '"')), rest)

/-- A word with its label. -/
def labelled? (make : Text → Text → Statement) (t : Text) : Option (Statement × Text) := do
  let (label, rest) ← bracketed? (splitWord t).2
  return (make (splitWord t).1 label, rest)

/-- The word at the end of a line that an edge leads to. -/
def target? (make : Text → Statement) (t : Text) : Option (Statement × Text) := do
  let rest ← after? ['\n'] (splitWord t).2
  return (make (splitWord t).1, rest)

/-- The statement that a text begins with. -/
def statement? (t : Text) : Option (Statement × Text) := do
  let t ← after? indent t
  match after? indent t, after? "subgraph " t, after? "end\n" t with
  | some t, _, _ => labelled? .symbol t
  | none, some t, _ => labelled? .openBox t
  | none, none, some rest => return (.closeBox, rest)
  | none, none, none =>
    match after? " --> " (splitWord t).2, after? " -.-> " (splitWord t).2 with
    | some dst, _ => target? (.edge (splitWord t).1) dst
    | none, some dst => target? (.chain (splitWord t).1) dst
    | none, none => labelled? .package t

/-! ## What is written is read -/

section

variable {c : Char} {rest : Text}

theorem splitWord_append (h : word.all isIdentChar = true) (hc : isIdentChar c = false) (rest : Text) :
    splitWord (word ++ c :: rest) = (word, c :: rest) := by
  have hall : ∀ x ∈ word, isIdentChar x = true := List.all_eq_true.mp h
  have hneg : ¬isIdentChar c = true := by simp [hc]
  rw [splitWord, List.takeWhile_append_of_pos hall, List.dropWhile_append_of_pos hall,
    List.takeWhile_cons_of_neg hneg, List.dropWhile_cons_of_neg hneg, List.append_nil]

/-- A line that begins with a plain word is not indented further. -/
theorem after?_indent_eq_none (h : IsPlainWord word) (t : Text) : after? indent (word ++ t) = none := by
  obtain ⟨hne, hall, -, -⟩ := h
  obtain ⟨x, xs, rfl⟩ := List.exists_cons_of_ne_nil hne
  apply Source.after?_eq_none
  intro hprefix
  have hx : ' ' = x := (List.cons_prefix_cons.mp hprefix).1
  subst hx
  exact absurd (List.all_eq_true.mp hall ' ' List.mem_cons_self) (by decide)

/-- A line that begins with a word does not begin with another one. -/
theorem after?_keyword_eq_none (keyword : Text) (sep : Char) (h : word.all isIdentChar = true)
    (hc : isIdentChar c = false) (hkeyword : keyword.all isIdentChar = true) (hsep : isIdentChar sep = false)
    (hne : word ≠ keyword) : after? (keyword ++ [sep]) (word ++ c :: rest) = none := by
  apply Source.after?_eq_none
  rintro ⟨t, ht⟩
  rw [List.append_assoc, List.singleton_append] at ht
  have hsplit := splitWord_append hkeyword hsep t
  rw [ht, splitWord_append h hc] at hsplit
  exact hne (congrArg Prod.fst hsplit)

theorem bracketed?_append (h : ¬quoteEscape <:+: label) (rest : Text) :
    bracketed? ('[' :: quotedLabel label ++ [']'] ++ '\n' :: rest) = some (label, rest) := by
  have hall : ∀ x ∈ escape label, (decide (x ≠ '"')) = true := by
    intro x hx
    simp only [decide_eq_true_eq]
    rintro rfl
    exact quote_notMem_escape label hx
  have htext : '[' :: quotedLabel label ++ [']'] ++ '\n' :: rest =
      ("[\"" : Text) ++ (escape label ++ '"' :: ']' :: '\n' :: rest) := by
    simp [quotedLabel_eq]
  have hend : '"' :: ']' :: '\n' :: rest = ("\"]\n" : Text) ++ rest := rfl
  rw [bracketed?, htext, Source.after?_append]
  simp only [Option.bind_eq_bind, Option.bind_some]
  rw [List.takeWhile_append_of_pos hall, List.dropWhile_append_of_pos hall, List.takeWhile_cons_of_neg (by simp),
    List.dropWhile_cons_of_neg (by simp), List.append_nil, unescape_escape h, hend, Source.after?_append]
  rfl

theorem labelled?_append {id : Text} (make : Text → Text → Statement) (hid : id.all isIdentChar = true)
    (h : ¬quoteEscape <:+: label) (rest : Text) :
    labelled? make (labelled id label ++ '\n' :: rest) = some (make id label, rest) := by
  have htext : labelled id label ++ '\n' :: rest = id ++ '[' :: (quotedLabel label ++ [']'] ++ '\n' :: rest) := by
    simp [labelled]
  rw [labelled?, htext, splitWord_append hid (by decide)]
  have hlabel := bracketed?_append h rest
  rw [List.cons_append, List.cons_append] at hlabel
  rw [hlabel]
  rfl

theorem target?_append (make : Text → Statement) (h : word.all isIdentChar = true) (rest : Text) :
    target? make (word ++ '\n' :: rest) = some (make word, rest) := by
  have hend : '\n' :: rest = ['\n'] ++ rest := rfl
  rw [target?, splitWord_append h (by decide), hend, Source.after?_append]
  rfl

/-- A line that begins with a plain word holds an edge or a package. -/
theorem statement?_of_plain (h : IsPlainWord word) (hc : isIdentChar c = false) (rest : Text) :
    statement? (indent ++ (word ++ c :: rest)) =
      match after? " --> " (c :: rest), after? " -.-> " (c :: rest) with
      | some dst, _ => target? (.edge word) dst
      | none, some dst => target? (.chain word) dst
      | none, none => labelled? .package (word ++ c :: rest) := by
  have hbox : after? "subgraph " (word ++ c :: rest) = none :=
    after?_keyword_eq_none "subgraph" ' ' h.2.1 hc (by decide) (by decide) h.2.2.1
  have hclose : after? "end\n" (word ++ c :: rest) = none :=
    after?_keyword_eq_none "end" '\n' h.2.1 hc (by decide) (by decide) h.2.2.2
  rw [statement?, Source.after?_append]
  simp only [Option.bind_eq_bind, Option.bind_some]
  rw [after?_indent_eq_none h, hbox, hclose, splitWord_append h.2.1 hc]

/-- **A statement is read back**, whatever stands behind it. -/
theorem statement?_text {s : Statement} (h : s.Clear) (rest : Text) : statement? (s.text ++ rest) = some (s, rest) := by
  cases s with
  | openBox id label =>
    have htext : (Statement.openBox id label).text ++ rest =
        indent ++ (("subgraph " : Text) ++ (labelled id label ++ '\n' :: rest)) := by
      simp [Statement.text, Statement.line]
    have hindent : after? indent (("subgraph " : Text) ++ (labelled id label ++ '\n' :: rest)) = none := rfl
    rw [htext, statement?, Source.after?_append]
    simp only [Option.bind_eq_bind, Option.bind_some]
    rw [hindent, Source.after?_append]
    exact labelled?_append .openBox h.1.2.1 h.2 rest
  | symbol id label =>
    have htext : (Statement.symbol id label).text ++ rest =
        indent ++ (indent ++ (labelled id label ++ '\n' :: rest)) := by
      simp [Statement.text, Statement.line]
    rw [htext, statement?, Source.after?_append]
    simp only [Option.bind_eq_bind, Option.bind_some]
    rw [Source.after?_append]
    exact labelled?_append .symbol h.1.2.1 h.2 rest
  | closeBox => rfl
  | package id label =>
    have htext : labelled id label ++ '\n' :: rest = id ++ '[' :: (quotedLabel label ++ [']'] ++ '\n' :: rest) := by
      simp [labelled]
    have hlabel := labelled?_append .package h.1.2.1 h.2 rest
    rw [htext] at hlabel
    rw [Statement.text, Statement.line, List.append_assoc, List.append_assoc, List.singleton_append, htext,
      statement?_of_plain h.1 (by decide)]
    exact hlabel
  | edge src dst =>
    have htext : (Statement.edge src dst).text ++ rest =
        indent ++ (src ++ ' ' :: (("--> " : Text) ++ (dst ++ '\n' :: rest))) := by
      simp [Statement.text, Statement.line, edgeLine]
    rw [htext, statement?_of_plain h.1 (by decide)]
    exact target?_append (.edge src) h.2.2.1 rest
  | chain src dst =>
    have htext : (Statement.chain src dst).text ++ rest =
        indent ++ (src ++ ' ' :: (("-.-> " : Text) ++ (dst ++ '\n' :: rest))) := by
      simp [Statement.text, Statement.line, chainLine]
    rw [htext, statement?_of_plain h.1 (by decide)]
    exact target?_append (.chain src) h.2.2.1 rest

theorem Statement.text_ne_nil (s : Statement) : s.text ≠ [] := by
  intro h
  exact absurd (List.append_eq_nil_iff.mp h).2 (List.cons_ne_nil _ _)

/-- **A text is written by one list of statements at most.** -/
theorem flatMap_text_injective : ∀ {ss ss' : List Statement}, (∀ s ∈ ss, s.Clear) → (∀ s ∈ ss', s.Clear) →
    ss.flatMap Statement.text = ss'.flatMap Statement.text → ss = ss'
  | [], [], _, _, _ => rfl
  | [], s' :: ss', _, _, h => by
    have hnil := List.append_eq_nil_iff.mp h.symm
    exact absurd hnil.1 s'.text_ne_nil
  | s :: ss, [], _, _, h => by
    have hnil := List.append_eq_nil_iff.mp h
    exact absurd hnil.1 s.text_ne_nil
  | s :: ss, s' :: ss', hclear, hclear', h => by
    rw [List.flatMap_cons, List.flatMap_cons] at h
    have hread := congrArg statement? h
    rw [statement?_text (hclear s List.mem_cons_self), statement?_text (hclear' s' List.mem_cons_self)] at hread
    obtain ⟨hs, hrest⟩ := Prod.mk.inj (Option.some.inj hread)
    have htail := flatMap_text_injective (fun x hx => hclear x (List.mem_cons_of_mem _ hx))
      (fun x hx => hclear' x (List.mem_cons_of_mem _ hx)) hrest
    rw [hs, htail]

end

end ImportChart.Diagram
