import ImportChart.Proofs.Source.Words

/-!
# Declarations in lines

Six forms in which declarations are usually written, each in a line of its own. What stands behind the line begins with
a blank, and is arbitrary otherwise.

- `Declaration`: the forms, with the names and targets that they are written with;
- `captures_className?_line`, `captures_callableName?_line`: the class and the function of a line;
- `imports_line`: the import of a line.
-/

namespace ImportChart.Source

/-! ## Declarations in their usual form -/

/-- A target that has no blank, no quotation mark and no opening parenthesis, as letters, digits, and the other
characters of paths and packages are none of them. -/
def IsTarget (target : Text) : Prop :=
  target ≠ [] ∧ ∀ c ∈ target, Text.isBlank c = false ∧ isQuote c = false ∧ c ≠ '('

instance (target : Text) : Decidable (IsTarget target) :=
  decidable_of_iff (target ≠ [] ∧ target.all (fun c => !Text.isBlank c && !isQuote c && c != '(') = true)
    (and_congr_right' (by simp only [List.all_eq_true, Bool.and_eq_true, Bool.not_eq_true', bne_iff_ne, and_assoc]))

/-- A declaration in one of the forms in which it is usually written. -/
inductive Declaration where
  | importAll (target : Text)
  | importName (name target : Text)
  | requireName (name target : Text)
  | function (name : Text)
  | arrow (name : Text)
  | classNamed (name : Text)
  deriving DecidableEq, Repr

namespace Declaration

/-- The words that a declaration is written with. -/
def words : Declaration → List Text
  | importAll target => ["import", ("\"" : Text) ++ target ++ "\";"]
  | importName name target => ["import", name, "from", ("\"" : Text) ++ target ++ "\";"]
  | requireName name target => ["const", name, "=", ("require(\"" : Text) ++ target ++ "\");"]
  | function name => ["function", name ++ "()", "{}"]
  | arrow name => ["const", name, "=", "()", "=>", "{};"]
  | classNamed name => ["class", name, "{}"]

/-- The line that a declaration is written in. -/
def line (d : Declaration) : Text := spaced d.words

/-- The names of declarations are names, and their targets are targets. A name that is imported does not end with
`class`: the `from` behind it would be read as the name of a class. -/
def WellFormed : Declaration → Prop
  | importAll target => IsTarget target
  | importName name target => IsName name ∧ ¬("class" : Text) <:+ name ∧ IsTarget target
  | requireName name target => IsName name ∧ IsTarget target
  | function name => IsName name
  | arrow name => IsName name
  | classNamed name => IsName name

instance : (d : Declaration) → Decidable d.WellFormed
  | importAll target => inferInstanceAs (Decidable (IsTarget target))
  | importName name target =>
    inferInstanceAs (Decidable (IsName name ∧ ¬("class" : Text) <:+ name ∧ IsTarget target))
  | requireName name target => inferInstanceAs (Decidable (IsName name ∧ IsTarget target))
  | function name => inferInstanceAs (Decidable (IsName name))
  | arrow name => inferInstanceAs (Decidable (IsName name))
  | classNamed name => inferInstanceAs (Decidable (IsName name))

/-- What a declaration imports. -/
def target? : Declaration → Option Text
  | importAll target => some target
  | importName _ target => some target
  | requireName _ target => some target
  | _ => none

/-- The function that a declaration declares. -/
def function? : Declaration → Option Text
  | function name => some name
  | arrow name => some name
  | _ => none

/-- The class that a declaration declares. -/
def class? : Declaration → Option Text
  | classNamed name => some name
  | _ => none

/-- Whether a declaration is a call of `require`. -/
def requires : Declaration → Bool
  | requireName _ _ => true
  | _ => false

section

variable (name target : Text)

@[simp] theorem line_importAll : (importAll target).line = ("import \"" : Text) ++ target ++ "\";" := rfl

@[simp] theorem line_importName :
    (importName name target).line = ("import " : Text) ++ name ++ " from \"" ++ target ++ "\";" := by
  simp [line, words, spaced, Text.joinWith]

@[simp] theorem line_requireName :
    (requireName name target).line = ("const " : Text) ++ name ++ " = require(\"" ++ target ++ "\");" := by
  simp [line, words, spaced, Text.joinWith]

@[simp] theorem line_function : (function name).line = ("function " : Text) ++ name ++ "() {}" := by
  simp [line, words, spaced, Text.joinWith]

@[simp] theorem line_arrow : (arrow name).line = ("const " : Text) ++ name ++ " = () => {};" := by
  simp [line, words, spaced, Text.joinWith]

@[simp] theorem line_classNamed : (classNamed name).line = ("class " : Text) ++ name ++ " {}" := by
  simp [line, words, spaced, Text.joinWith]

end

end Declaration

variable {d : Declaration} {name target rest : Text}

/-! ## The words of a line -/

theorem IsTarget.isWord (h : IsTarget target) : IsWord target := fun c hc => (h.2 c hc).1

theorem isMark_quoted (h : IsTarget target) : ∀ w ∈ [("\"" : Text) ++ target ++ "\";"], IsMark w := by
  have hword : IsWord (("\"" : Text) ++ target) := .append (by decide) h.isWord
  exact List.forall_mem_singleton.mpr (hword.append_mark (by decide) (by decide))

theorem isMark_call (h : IsTarget target) :
    ∀ w ∈ [("=" : Text), ("require(\"" : Text) ++ target ++ "\");"], IsMark w := by
  have hword : IsWord (("require(\"" : Text) ++ target) := .append (by decide) h.isWord
  rw [List.forall_mem_cons, List.forall_mem_singleton]
  exact ⟨by decide, hword.append_mark (by decide) (by decide)⟩

theorem isMark_header (h : IsName name) : ∀ w ∈ [name ++ "()", ("{}" : Text)], IsMark w := by
  rw [List.forall_mem_cons, List.forall_mem_singleton]
  exact ⟨(isWord_of_isName h).append_mark (by decide) (by decide), by decide⟩

theorem isMark_arrow : ∀ w ∈ [("=" : Text), "()", "=>", "{};"], IsMark w := by decide

theorem isMark_body : ∀ w ∈ [("{}" : Text)], IsMark w := by decide

theorem isGap_space : IsGap [' '] := ⟨List.cons_ne_nil _ _, List.forall_mem_singleton.mpr (by decide)⟩

section

variable {recognise : Text → Option Found} {word first : Text} {marks : List Text}

/-- A line of a keyword and marks is silent for a form that opens with another keyword. -/
theorem Opens.silent_keyword (h : Opens recognise word) (hfirst : IsWord first ∧ ¬word <:+ first) (hne : marks ≠ [])
    (hmarks : ∀ w ∈ marks, IsMark w) (hrest : IsApart rest) : Silent recognise (spaced (first :: marks)) rest :=
  h.silent_other hfirst.1 hfirst.2 hne (h.silent_marks hmarks hrest)

/-- So is a line of a keyword, a name, and marks, if the form cannot begin at the end of the name. -/
theorem Opens.silent_named (h : Opens recognise word) (hfirst : IsWord first ∧ ¬word <:+ first) (hname : IsName name)
    (hend : recognise (spaced (word :: marks) ++ rest) = none) (hne : marks ≠ []) (hmarks : ∀ w ∈ marks, IsMark w)
    (hrest : IsApart rest) : Silent recognise (spaced (first :: name :: marks)) rest :=
  h.silent_other hfirst.1 hfirst.2 (List.cons_ne_nil _ _)
    (h.silent_spaced_cons (isWord_of_isName hname) (fun _ => hend) hne (h.silent_marks hmarks hrest))

end

/-! ## Classes -/

theorem className?_append (hname : IsName name) (hrest : ∀ c ∈ rest.head?, isNameChar c = false) :
    className? (("class " : Text) ++ name ++ rest) = some ⟨name, rest⟩ := by
  have hsplit : ("class " : Text) ++ name ++ rest = "class" ++ ([' '] ++ (name ++ rest)) := rfl
  rw [hsplit]
  simp only [className?, after?_append, Option.bind_eq_bind, Option.bind_some,
    afterBlanks?_gap isGap_space (isBlank_head_name hname _), name?_append hname hrest]

/-- **The class of a line**, with whatever begins behind it. -/
theorem captures_className?_line (hd : d.WellFormed) (hrest : IsApart rest) :
    captures className? (d.line ++ rest) = d.class?.toList ++ captures className? rest := by
  have h := opens_className?
  cases d with
  | importAll target =>
    exact captures_of_silent (h.silent_keyword (by decide) (by simp) (isMark_quoted hd) hrest)
  | importName name target =>
    obtain ⟨hname, hend, htarget⟩ := hd
    exact captures_of_silent (h.silent_other (by decide) (by decide) (by simp)
      (h.silent_other (isWord_of_isName hname) hend (by simp)
      (h.silent_keyword (by decide) (by simp) (isMark_quoted htarget) hrest)))
  | requireName name target =>
    exact captures_of_silent (h.silent_named (by decide) hd.1 rfl (by simp) (isMark_call hd.2) hrest)
  | function name =>
    exact captures_of_silent (h.silent_keyword (by decide) (by simp) (isMark_header hd) hrest)
  | arrow name =>
    exact captures_of_silent (h.silent_named (by decide) hd rfl (by simp) isMark_arrow hrest)
  | classNamed name =>
    have hmatch : className? (("class " : Text) ++ name ++ ((" {}" : Text) ++ rest)) = some ⟨name, " {}" ++ rest⟩ :=
      className?_append hd (by rintro c ⟨⟩; decide)
    have hsilent : Silent className? (" {}" : Text) rest :=
      silent_append.mpr ⟨h.silent_blank (by decide) _, h.silent_marks isMark_body hrest⟩
    have hline : (Declaration.classNamed name).line ++ rest =
        ("class " : Text) ++ name ++ ((" {}" : Text) ++ rest) := by
      simp
    rw [hline, captures_of_match hmatch (by simp), captures_of_silent hsilent]
    rfl

/-! ## Functions -/

theorem functionName?_append (hname : IsName name) (rest : Text) :
    functionName? (("function " : Text) ++ name ++ "(" ++ rest) = some ⟨name, rest⟩ := by
  have hsplit : ("function " : Text) ++ name ++ "(" ++ rest = "function" ++ ([' '] ++ (name ++ ("(" ++ rest))) := by
    simp
  rw [hsplit]
  simp only [functionName?, after?_append, Option.bind_eq_bind, Option.bind_some,
    afterBlanks?_gap isGap_space (isBlank_head_name hname _)]
  rw [name?_append hname (by rintro c ⟨⟩; decide), Option.bind_some]
  rfl

theorem arrowName?_append (hname : IsName name) (rest : Text) :
    arrowName? (("const " : Text) ++ name ++ " = () =>" ++ rest) = some ⟨name, rest⟩ := by
  have hsplit : ("const " : Text) ++ name ++ " = () =>" ++ rest =
      "const" ++ ([' '] ++ (name ++ (" = () =>" ++ rest))) := by
    simp
  rw [hsplit]
  simp only [arrowName?, after?_append, Option.bind_eq_bind, Option.bind_some,
    afterBlanks?_gap isGap_space (isBlank_head_name hname _)]
  rw [name?_append hname (by rintro c ⟨⟩; decide), Option.bind_some]
  rfl

/-- A constant that is required is no arrow function. -/
theorem arrowName?_require (hname : IsName name) (target rest : Text) :
    arrowName? ((Declaration.requireName name target).line ++ rest) = none := by
  have hsplit : (Declaration.requireName name target).line ++ rest =
      "const" ++ ([' '] ++ (name ++ (" = require(\"" ++ (target ++ "\");" ++ rest)))) := by
    simp
  rw [hsplit]
  simp only [arrowName?, after?_append, Option.bind_eq_bind, Option.bind_some,
    afterBlanks?_gap isGap_space (isBlank_head_name hname _)]
  rw [name?_append hname (by rintro c ⟨⟩; decide), Option.bind_some]
  rfl

theorem silent_callableName? {span : Text} (hfunction : Silent functionName? span rest)
    (harrow : Silent arrowName? span rest) : Silent callableName? span rest :=
  hfunction.or harrow

theorem silent_callableName?_blank {b : Char} (hb : Text.isBlank b = true) (rest : Text) :
    Silent callableName? [b] rest :=
  silent_callableName? (opens_functionName?.silent_blank hb rest) (opens_arrowName?.silent_blank hb rest)

theorem callableName?_of_functionName? {t : Text} {found : Found} (h : functionName? t = some found) :
    callableName? t = some found := by
  rw [callableName?, h, Option.some_or]

/-- **The function of a line**, with whatever begins behind it. -/
theorem captures_callableName?_line (hd : d.WellFormed) (hrest : IsApart rest) :
    captures callableName? (d.line ++ rest) = d.function?.toList ++ captures callableName? rest := by
  have hf := opens_functionName?
  have ha := opens_arrowName?
  cases d with
  | importAll target =>
    exact captures_of_silent (silent_callableName?
      (hf.silent_keyword (by decide) (by simp) (isMark_quoted hd) hrest)
      (ha.silent_keyword (by decide) (by simp) (isMark_quoted hd) hrest))
  | importName name target =>
    obtain ⟨hname, -, htarget⟩ := hd
    have hword := isWord_of_isName hname
    exact captures_of_silent (silent_callableName?
      (hf.silent_other (by decide) (by decide) (by simp) (hf.silent_spaced_cons hword (fun _ => rfl) (by simp)
        (hf.silent_keyword (by decide) (by simp) (isMark_quoted htarget) hrest)))
      (ha.silent_other (by decide) (by decide) (by simp) (ha.silent_spaced_cons hword (fun _ => rfl) (by simp)
        (ha.silent_keyword (by decide) (by simp) (isMark_quoted htarget) hrest))))
  | requireName name target =>
    exact captures_of_silent (silent_callableName?
      (hf.silent_named (by decide) hd.1 rfl (by simp) (isMark_call hd.2) hrest)
      (ha.silent_spaced_cons (by decide) (fun _ => arrowName?_require hd.1 target rest) (by simp)
        (ha.silent_spaced_cons (isWord_of_isName hd.1) (fun _ => rfl) (by simp)
        (ha.silent_marks (isMark_call hd.2) hrest))))
  | function name =>
    have hmatch := callableName?_of_functionName? (functionName?_append hd (") {}" ++ rest))
    have hmarks : ∀ w ∈ [(")" : Text), "{}"], IsMark w := by decide
    have hline : (Declaration.function name).line ++ rest =
        ("function " : Text) ++ name ++ "(" ++ ((") {}" : Text) ++ rest) := by
      simp
    have hsilent : Silent callableName? (") {}" : Text) rest :=
      silent_callableName? (hf.silent_marks hmarks hrest) (ha.silent_marks hmarks hrest)
    rw [hline, captures_of_match hmatch (by simp), captures_of_silent hsilent]
    rfl
  | arrow name =>
    have hmatch : callableName? (("const " : Text) ++ name ++ " = () =>" ++ ((" {};" : Text) ++ rest)) =
        some ⟨name, (" {};" : Text) ++ rest⟩ := by
      rw [callableName?, arrowName?_append hd]
      rfl
    have hmarks : ∀ w ∈ [("{};" : Text)], IsMark w := by decide
    have hline : (Declaration.arrow name).line ++ rest =
        ("const " : Text) ++ name ++ " = () =>" ++ ((" {};" : Text) ++ rest) := by
      simp
    have hsilent {recognise : Text → Option Found} {word : Text} (h : Opens recognise word) :
        Silent recognise (" {};" : Text) rest :=
      silent_append.mpr ⟨h.silent_blank (by decide) _, h.silent_marks hmarks hrest⟩
    rw [hline, captures_of_match hmatch (by simp), captures_of_silent (silent_callableName? (hsilent hf) (hsilent ha))]
    rfl
  | classNamed name =>
    exact captures_of_silent (silent_callableName?
      (hf.silent_named (by decide) hd rfl (by simp) isMark_body hrest)
      (ha.silent_named (by decide) hd rfl (by simp) isMark_body hrest))

/-! ## Imports -/

theorem paren_notMem_of_isName (h : IsName name) : '(' ∉ name := by
  intro hc
  exact absurd (List.all_eq_true.mp h.2 _ hc) (by decide)

/-- A line that requires nothing holds no call of `require`. -/
theorem silent_requireTarget?_line (hd : d.WellFormed) (hother : d.requires = false) (hrest : IsApart rest) :
    Silent requireTarget? d.line rest := by
  cases d with
  | importAll target =>
    refine silent_requireTarget? ?_ hrest
    have htarget : '(' ∉ target := fun hc => (hd.2 _ hc).2.2 rfl
    simp [htarget]
  | importName name target =>
    refine silent_requireTarget? ?_ hrest
    have htarget : '(' ∉ target := fun hc => (hd.2.2.2 _ hc).2.2 rfl
    simp [htarget, paren_notMem_of_isName hd.1]
  | requireName name target => cases hother
  | function name =>
    have hspan : '(' ∉ ("function " : Text) ++ name := by simp [paren_notMem_of_isName hd]
    have hline : (Declaration.function name).line = ("function " : Text) ++ name ++ "()" ++ " {}" := by
      simp
    rw [hline]
    exact silent_append.mpr ⟨silent_requireTarget?_emptyCall hspan _, silent_requireTarget? (by decide) hrest⟩
  | arrow name =>
    have hspan : '(' ∉ ("const " : Text) ++ name ++ " = " := by simp [paren_notMem_of_isName hd]
    have hline : (Declaration.arrow name).line = ("const " : Text) ++ name ++ " = " ++ "()" ++ " => {};" := by
      simp
    rw [hline]
    exact silent_append.mpr ⟨silent_requireTarget?_emptyCall hspan _, silent_requireTarget? (by decide) hrest⟩
  | classNamed name =>
    refine silent_requireTarget? ?_ hrest
    simp [paren_notMem_of_isName hd]

/-- What follows `import` up to the first quotation mark or semicolon. -/
theorem importTarget?_clause {clause t : Text} (hall : ∀ c ∈ clause, isClauseChar c = true)
    (hstop : ∀ c ∈ t.head?, isClauseChar c = false) :
    importTarget? (("import" : Text) ++ (clause ++ t)) =
      if isClause clause then
        (quotedTarget? t).map fun found => { found with rest := (after? ";" found.rest).getD found.rest }
      else none := by
  simp only [importTarget?, after?_append, Option.bind_eq_bind, Option.bind_some, takeWhile_append_of_head hall hstop,
    dropWhile_append_of_head hall hstop, Option.pure_def]
  split
  · cases quotedTarget? t <;> rfl
  · rfl

theorem isClauseChar_of_isNameChar {c : Char} (h : isNameChar c = true) : isClauseChar c = true := by
  have hquote : ¬isQuote c = true := by
    intro hq
    simp only [isQuote, Bool.or_eq_true, beq_iff_eq] at hq
    rcases hq with rfl | rfl <;> exact absurd h (by decide)
  have hne : c ≠ ';' := by
    rintro rfl
    exact absurd h (by decide)
  simp [isClauseChar, hquote, hne]

theorem isClauseChar_of_mem_name (h : IsName name) : ∀ c ∈ name, isClauseChar c = true :=
  fun c hc => isClauseChar_of_isNameChar (List.all_eq_true.mp h.2 c hc)

theorem importTarget?_quoted {clause : Text} (hclause : IsClause clause) (htarget : IsTarget target) (rest : Text) :
    importTarget? (("import" : Text) ++ (clause ++ (("\"" : Text) ++ target ++ "\"" ++ (";" ++ rest)))) =
      some ⟨target, rest⟩ := by
  have hquoted : IsQuoted target (("\"" : Text) ++ target ++ "\"") :=
    .between rfl htarget.1 (fun c hc => (htarget.2 c hc).2.1) rfl
  rw [importTarget?_clause hclause.all (by rintro c ⟨⟩; decide), hclause.isClause_eq_true, if_pos rfl,
    quotedTarget?_append hquoted, Option.map_some, after?_append]
  rfl

/-! ## The imports of a line -/

theorem requireTarget?_quoted (htarget : IsTarget target) (rest : Text) :
    requireTarget? (("require(\"" : Text) ++ target ++ "\")" ++ rest) = some ⟨target, rest⟩ := by
  have hquoted : IsQuoted target (("\"" : Text) ++ target ++ "\"") :=
    .between rfl htarget.1 (fun c hc => (htarget.2 c hc).2.1) rfl
  have hsplit : ("require(\"" : Text) ++ target ++ "\")" ++ rest =
      "require(" ++ (("\"" : Text) ++ target ++ "\"" ++ (")" ++ rest)) := by
    simp
  have htrim : Text.trimStart (("\"" : Text) ++ target ++ "\"" ++ (")" ++ rest)) =
      ("\"" : Text) ++ target ++ "\"" ++ (")" ++ rest) := rfl
  simp only [hsplit, requireTarget?, after?_append, htrim, quotedTarget?_append hquoted, Option.bind_eq_bind,
    Option.bind_some]
  rfl

/-- **The import of a line**, with whatever begins behind it. Only a class can have a name that begins an import that
is closed further on. -/
theorem imports_line (hd : d.WellFormed) (hrest : IsApart rest)
    (hnone : ∀ name, d = .classNamed name → ("import" : Text) <:+ name →
      importTarget? (("import {}" : Text) ++ rest) = none) :
    (extract (d.line ++ rest)).imports = d.target?.toList ++ (extract rest).imports := by
  have h := opens_importTarget?
  cases d with
  | importAll target =>
    have hsilent := silent_requireTarget?_line hd rfl hrest
    have hmatch := importTarget?_quoted (.bare isGap_space) hd rest
    have hline : ("import" : Text) ++ ([' '] ++ (("\"" : Text) ++ target ++ "\"" ++ (";" ++ rest))) =
        (Declaration.importAll target).line ++ rest := by
      simp
    rw [hline] at hmatch
    exact imports_of_import hmatch (by simp) hsilent
  | importName name target =>
    have hsilent := silent_requireTarget?_line hd rfl hrest
    obtain ⟨hname, -, htarget⟩ := hd
    have hnames : ∀ c ∈ name ++ " ", isClauseChar c = true :=
      List.forall_mem_append.mpr ⟨isClauseChar_of_mem_name hname, List.all_eq_true.mp rfl⟩
    have hclause : IsClause ([' '] ++ (name ++ " ") ++ "from" ++ [' ']) :=
      .names isGap_space (by simp) hnames isGap_space
    have hmatch := importTarget?_quoted hclause htarget rest
    have hline : ("import" : Text) ++ (([' '] ++ (name ++ " ") ++ "from" ++ [' ']) ++
        (("\"" : Text) ++ target ++ "\"" ++ (";" ++ rest))) = (Declaration.importName name target).line ++ rest := by
      simp
    rw [hline] at hmatch
    exact imports_of_import hmatch (by simp) hsilent
  | requireName name target =>
    have hline : Silent importTarget? (Declaration.requireName name target).line rest :=
      h.silent_named (by decide) hd.1 rfl (by simp) (isMark_call hd.2) hrest
    have hsplit : (Declaration.requireName name target).line =
        (("const " : Text) ++ name ++ " =" ++ " ") ++ ((("require(\"" : Text) ++ target ++ "\")") ++ ";") := by
      simp
    rw [hsplit] at hline
    obtain ⟨hfront, hbehind⟩ := silent_append.mp hline
    obtain ⟨hcall, hend⟩ := silent_append.mp hbehind
    have hfront' : Silent requireTarget? (("const " : Text) ++ name ++ " =" ++ " ")
        ((("require(\"" : Text) ++ target ++ "\")") ++ ";" ++ rest) := by
      have hparen : '(' ∉ ("const " : Text) ++ name ++ " =" := by simp [paren_notMem_of_isName hd.1]
      exact silent_append.mpr ⟨silent_requireTarget? hparen (isApart_cons (by decide) _),
        silent_cons.mpr ⟨rfl, silent_nil _ _⟩⟩
    rw [hsplit, List.append_assoc, imports_of_silent hfront hfront', List.append_assoc,
      imports_of_require (requireTarget?_quoted hd.2 _) (by simp) hcall, imports_of_silent hend
        (silent_cons.mpr ⟨rfl, silent_nil _ _⟩)]
    rfl
  | function name =>
    exact imports_of_silent (h.silent_keyword (by decide) (by simp) (isMark_header hd) hrest)
      (silent_requireTarget?_line hd rfl hrest)
  | arrow name =>
    exact imports_of_silent (h.silent_named (by decide) hd rfl (by simp) isMark_arrow hrest)
      (silent_requireTarget?_line hd rfl hrest)
  | classNamed name =>
    refine imports_of_silent ?_ (silent_requireTarget?_line hd rfl hrest)
    exact h.silent_other (by decide) (by decide) (by simp) (h.silent_spaced_cons (isWord_of_isName hd)
      (fun hsuffix => hnone name rfl hsuffix) (by simp) (h.silent_marks isMark_body hrest))

end ImportChart.Source
