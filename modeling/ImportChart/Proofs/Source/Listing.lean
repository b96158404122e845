import ImportChart.Proofs.Source.Line

/-!
# Declarations one per line

A form can run over the end of a line: where the name of a class ends with `import`, an import may begin there. It goes
on to the next quotation mark or semicolon, and what is found then is the import of the line in which it ends, or
nothing at all. So nothing is lost when declarations are written one per line.

- `captures_linesBehind`: what each line adds to a scan, all lines add;
- `importTarget?_linesBehind`: what closes a clause that its line leaves open;
- `imports_swallowed`: what is extracted when an import begins in the name of a class;
- `imports_linesBehind`: the imports of all lines, by the number of lines that are left;
- `extract_listing`: declarations that are written one per line are extracted.
-/

namespace ImportChart.Source

variable {d : Declaration} {ds : List Declaration} {name target clause rest ending : Text}

/-- Declarations, one per line. -/
def listing (ds : List Declaration) : Text := Text.joinWith "\n" (ds.map Declaration.line)

/-- The lines of declarations behind another line, with the end of the text. -/
def linesBehind (ds : List Declaration) (ending : Text) : Text := (ds.flatMap fun d => '\n' :: d.line) ++ ending

/-! ## Lines behind a line -/

theorem linesBehind_cons (d : Declaration) (ds : List Declaration) (ending : Text) :
    linesBehind (d :: ds) ending = '\n' :: (d.line ++ linesBehind ds ending) := by
  simp [linesBehind]

theorem linesBehind_append (as bs : List Declaration) (ending : Text) :
    linesBehind (as ++ bs) ending = linesBehind as [] ++ linesBehind bs ending := by
  simp [linesBehind]

theorem newline_listing (hne : ds ≠ []) : '\n' :: listing ds = linesBehind ds [] := by
  induction ds with
  | nil => exact absurd rfl hne
  | cons d ds ih =>
    by_cases hnil : ds = []
    · subst hnil
      simp [listing, linesBehind, Text.joinWith]
    · rw [linesBehind_cons, ← ih hnil, listing, List.map_cons, Text.joinWith_cons _ _ (by simpa using hnil)]
      simp [listing]

theorem isApart_linesBehind (hending : IsSpace ending) (ds : List Declaration) : IsApart (linesBehind ds ending) := by
  cases ds with
  | nil => exact fun c hc => hending c (List.mem_of_mem_head? hc)
  | cons d ds =>
    rw [linesBehind_cons]
    exact isApart_cons (by decide) _

/-- Where no form begins with a blank, blanks are silent. -/
theorem silent_space {recognise : Text → Option Found} {space : Text}
    (hblank : ∀ {b : Char}, Text.isBlank b = true → ∀ rest, Silent recognise [b] rest) (hspace : IsSpace space)
    (rest : Text) : Silent recognise space rest := by
  induction space with
  | nil => exact silent_nil _ _
  | cons b space ih =>
    obtain ⟨hb, hspace⟩ := List.forall_mem_cons.mp hspace
    exact silent_append.mpr ⟨hblank hb _, ih hspace⟩

/-- A line end in front of a text changes nothing. -/
theorem extract_newline (t : Text) : extract ('\n' :: t) = extract t := by
  have hblank : Text.isBlank '\n' = true := by decide
  have himports := imports_of_silent (opens_importTarget?.silent_blank hblank t) (silent_requireTarget?_blank hblank t)
  have hfunctions := captures_of_silent (silent_callableName?_blank hblank t)
  have hclasses := captures_of_silent (opens_className?.silent_blank hblank t)
  show Declarations.mk (extract (['\n'] ++ t)).imports (captures callableName? (['\n'] ++ t))
    (captures className? (['\n'] ++ t)) = _
  rw [himports, hfunctions, hclasses]
  rfl

/-- What each line adds to a scan, all lines add. -/
theorem captures_linesBehind {recognise : Text → Option Found} {get : Declaration → Option Text}
    (hblank : ∀ {b : Char}, Text.isBlank b = true → ∀ rest, Silent recognise [b] rest)
    (hline : ∀ {d rest}, d.WellFormed → IsApart rest →
      captures recognise (d.line ++ rest) = (get d).toList ++ captures recognise rest)
    (hending : IsSpace ending) (hds : ∀ d ∈ ds, d.WellFormed) :
    captures recognise (linesBehind ds ending) = ds.filterMap get := by
  induction ds with
  | nil =>
    have hsilent := captures_of_silent (silent_space hblank hending [])
    rw [List.append_nil] at hsilent
    exact hsilent.trans (captures_nil recognise)
  | cons d ds ih =>
    obtain ⟨hd, hds⟩ := List.forall_mem_cons.mp hds
    have hnewline : Silent recognise ['\n'] (d.line ++ linesBehind ds ending) := hblank (by decide) _
    rw [linesBehind_cons]
    refine (captures_of_silent hnewline).trans ?_
    rw [hline hd (isApart_linesBehind hending ds), ih hds]
    cases hget : get d <;> simp [hget]

theorem silent_requireTarget?_linesBehind (hds : ∀ d ∈ ds, d.WellFormed) (hother : ∀ d ∈ ds, d.requires = false)
    (hrest : IsApart rest) : Silent requireTarget? (linesBehind ds []) rest := by
  induction ds with
  | nil => exact silent_nil _ _
  | cons d ds ih =>
    obtain ⟨hd, hds⟩ := List.forall_mem_cons.mp hds
    obtain ⟨hfirst, hother⟩ := List.forall_mem_cons.mp hother
    have hbehind : IsApart (linesBehind ds [] ++ rest) := by
      cases ds with
      | nil => exact hrest
      | cons d ds =>
        rw [linesBehind_cons]
        exact isApart_cons (by decide) _
    have hsplit : linesBehind (d :: ds) [] = ['\n'] ++ (d.line ++ linesBehind ds []) := linesBehind_cons d ds []
    rw [hsplit]
    exact silent_append.mpr ⟨silent_requireTarget?_blank (by decide) _,
      silent_append.mpr ⟨silent_requireTarget?_line hd hfirst hbehind, ih hds hother⟩⟩

/-! ## Clauses that are left open -/

/-- What stands behind `import` without a quotation mark or semicolon so far: a blank, and what goes on with it. -/
structure IsOpen (clause : Text) : Prop where
  head : ∃ b bs, clause = b :: bs ∧ Text.isBlank b = true
  all : ∀ c ∈ clause, isClauseChar c = true

theorem IsOpen.append {t : Text} (h : IsOpen clause) (ht : ∀ c ∈ t, isClauseChar c = true) : IsOpen (clause ++ t) := by
  obtain ⟨⟨b, bs, rfl, hb⟩, hall⟩ := h
  exact ⟨⟨b, bs ++ t, rfl, hb⟩, List.forall_mem_append.mpr ⟨hall, ht⟩⟩

/-- The beginning of the declaration of a constant leaves it open. -/
theorem IsOpen.append_constant {t : Text} (h : IsOpen clause) (hname : IsName name)
    (ht : ∀ c ∈ t, isClauseChar c = true) : IsOpen (clause ++ "\nconst " ++ name ++ t) :=
  ((h.append (List.all_eq_true.mp rfl)).append (isClauseChar_of_mem_name hname)).append ht

/-- With a name and `from` behind it, it is a clause. -/
theorem IsOpen.isClause_from (h : IsOpen clause) (hname : IsName name) :
    IsClause (clause ++ "\nimport " ++ name ++ " " ++ "from" ++ " ") := by
  obtain ⟨⟨b, bs, rfl, hb⟩, hall⟩ := h
  have hnames : ∀ c ∈ bs ++ "\nimport " ++ name ++ " ", isClauseChar c = true := by
    simp only [List.forall_mem_append]
    exact ⟨⟨⟨(List.forall_mem_cons.mp hall).2, List.all_eq_true.mp rfl⟩, isClauseChar_of_mem_name hname⟩,
      List.all_eq_true.mp rfl⟩
  have hclause : IsClause ([b] ++ (bs ++ "\nimport " ++ name ++ " ") ++ "from" ++ [' ']) :=
    .names ⟨List.cons_ne_nil _ _, List.forall_mem_singleton.mpr hb⟩ (by simp) hnames isGap_space
  simpa using hclause

/-- A clause ends with a blank. -/
theorem isClause_append_eq_false (t : Text) {u : Text} {c : Char} (hlast : u.getLast? = some c)
    (hc : Text.isBlank c = false) : isClause (t ++ u) = false := by
  have hlast : (t ++ u).getLast? = some c := by rw [List.getLast?_append, hlast, Option.some_or]
  simp only [isClause, hlast, Option.map_some, Option.getD_some, hc, Bool.and_false, Bool.false_and]

/-- Before its last blanks, a clause ends with `from`. -/
theorem isClause_import_eq_false (clause : Text) : isClause (clause ++ "\nimport" ++ " ") = false := by
  have hcore : Text.trimEnd (clause ++ "\nimport" ++ " ") = clause ++ "\nimport" := by
    refine trimEnd_space ?_ isGap_space.2
    rw [List.getLast?_append]
    rintro c ⟨⟩
    decide
  have hsuffix : ("from" : Text).isSuffixOf (clause ++ "\nimport") = false := by
    rw [Bool.eq_false_iff]
    intro h
    have hsuffix := List.isSuffixOf_iff_suffix.mp h
    exact absurd (List.suffix_of_suffix_length_le hsuffix (List.suffix_append clause _) (by decide)) (by decide)
  have hempty : (clause ++ "\nimport").isEmpty = false := by simp
  simp only [isClause, hcore, hsuffix, hempty, Bool.false_and, Bool.or_false, Bool.and_false]

/-- The declarations whose lines have neither a quotation mark nor a semicolon. -/
def Declaration.goesOn : Declaration → Bool
  | .function _ => true
  | .classNamed _ => true
  | _ => false

theorem isClauseChar_line (hd : d.WellFormed) (h : d.goesOn = true) : ∀ c ∈ '\n' :: d.line, isClauseChar c = true := by
  cases d with
  | function name =>
    have hline : '\n' :: (Declaration.function name).line = ("\nfunction " : Text) ++ name ++ "() {}" := by simp
    rw [hline, List.forall_mem_append, List.forall_mem_append]
    exact ⟨⟨List.all_eq_true.mp rfl, isClauseChar_of_mem_name hd⟩, List.all_eq_true.mp rfl⟩
  | classNamed name =>
    have hline : '\n' :: (Declaration.classNamed name).line = ("\nclass " : Text) ++ name ++ " {}" := by simp
    rw [hline, List.forall_mem_append, List.forall_mem_append]
    exact ⟨⟨List.all_eq_true.mp rfl, isClauseChar_of_mem_name hd⟩, List.all_eq_true.mp rfl⟩
  | _ => cases h

/-- Such a line declares no import. -/
theorem target?_of_goesOn (h : d.goesOn = true) : d.target? = none ∧ d.requires = false := by
  cases d <;> first | exact ⟨rfl, rfl⟩ | cases h

/-- Lines with one import in all, and without a call of `require`. -/
structure HoldsImport (lines : List Declaration) (target : Text) : Prop where
  targets : lines.filterMap Declaration.target? = [target]
  other : ∀ d ∈ lines, d.requires = false

/-- **A clause that its line leaves open is closed by the first import that comes**, or the form is not there at all. -/
theorem importTarget?_linesBehind (hending : IsSpace ending) (hds : ∀ d ∈ ds, d.WellFormed) (h : IsOpen clause) :
    importTarget? (("import" : Text) ++ (clause ++ linesBehind ds ending)) = none ∨
      ∃ lines behind target, ds = lines ++ behind ∧ HoldsImport lines target ∧
        importTarget? (("import" : Text) ++ (clause ++ linesBehind ds ending)) =
          some ⟨target, linesBehind behind ending⟩ := by
  induction ds generalizing clause with
  | nil =>
    left
    have hall : ∀ c ∈ clause ++ ending, isClauseChar c = true :=
      List.forall_mem_append.mpr ⟨h.all, fun c hc => isClauseChar_of_isBlank (hending c hc)⟩
    have hmatch := importTarget?_clause (t := []) hall (by simp)
    rw [List.append_nil] at hmatch
    rw [linesBehind, List.flatMap_nil, List.nil_append, hmatch]
    split <;> rfl
  | cons d ds ih =>
    obtain ⟨hd, hds⟩ := List.forall_mem_cons.mp hds
    by_cases hgoes : d.goesOn = true
    · -- the line belongs to the clause
      obtain ⟨hnone, hother⟩ := target?_of_goesOn hgoes
      have hsplit : clause ++ linesBehind (d :: ds) ending = clause ++ '\n' :: d.line ++ linesBehind ds ending := by
        rw [linesBehind_cons, List.append_assoc, List.cons_append]
      rw [hsplit]
      refine (ih hds (h.append (isClauseChar_line hd hgoes))).imp_right ?_
      rintro ⟨lines, behind, target, rfl, hlines, hsome⟩
      refine ⟨d :: lines, behind, target, rfl, ⟨?_, List.forall_mem_cons.mpr ⟨hother, hlines.other⟩⟩, hsome⟩
      rw [List.filterMap_cons_none hnone, hlines.targets]
    · -- the clause ends in this line
      cases d with
      | importAll target =>
        left
        have hsplit : clause ++ linesBehind (.importAll target :: ds) ending =
            (clause ++ "\nimport" ++ " ") ++ (("\"" : Text) ++ (target ++ ("\";" ++ linesBehind ds ending))) := by
          simp [linesBehind]
        have hopen : IsOpen (clause ++ "\nimport" ++ " ") :=
          (h.append (List.all_eq_true.mp rfl)).append (List.all_eq_true.mp rfl)
        rw [hsplit, importTarget?_clause hopen.all (by rintro c ⟨⟩; decide), isClause_import_eq_false]
        rfl
      | importName name target =>
        right
        obtain ⟨hname, -, htarget⟩ := hd
        have hsplit : clause ++ linesBehind (.importName name target :: ds) ending =
            clause ++ "\nimport " ++ name ++ " " ++ "from" ++ " " ++
              (("\"" : Text) ++ target ++ "\"" ++ (";" ++ linesBehind ds ending)) := by
          simp [linesBehind]
        have hmatch := importTarget?_quoted (h.isClause_from hname) htarget (linesBehind ds ending)
        rw [hsplit]
        exact ⟨[.importName name target], ds, target, rfl, ⟨rfl, List.forall_mem_singleton.mpr rfl⟩, hmatch⟩
      | requireName name target =>
        left
        have hsplit : clause ++ linesBehind (.requireName name target :: ds) ending =
            (clause ++ "\nconst " ++ name ++ " = require(") ++
              (("\"" : Text) ++ (target ++ ("\");" ++ linesBehind ds ending))) := by
          simp [linesBehind]
        have hopen : IsOpen (clause ++ "\nconst " ++ name ++ " = require(") :=
          h.append_constant hd.1 (List.all_eq_true.mp rfl)
        rw [hsplit, importTarget?_clause hopen.all (by rintro c ⟨⟩; decide),
          isClause_append_eq_false _ (rfl : (" = require(" : Text).getLast? = some '(') (by decide)]
        rfl
      | arrow name =>
        left
        have hsplit : clause ++ linesBehind (.arrow name :: ds) ending =
            (clause ++ "\nconst " ++ name ++ " = () => {}") ++ ((";" : Text) ++ linesBehind ds ending) := by
          simp [linesBehind]
        have hopen : IsOpen (clause ++ "\nconst " ++ name ++ " = () => {}") :=
          h.append_constant hd (List.all_eq_true.mp rfl)
        rw [hsplit, importTarget?_clause hopen.all (by rintro c ⟨⟩; decide),
          isClause_append_eq_false _ (rfl : (" = () => {}" : Text).getLast? = some '}') (by decide)]
        rfl
      | _ => exact absurd rfl hgoes

/-! ## Lines that are swallowed -/

/-- No import begins before the one in the name of a class. -/
theorem silent_importTarget?_before (hname : IsWord name) (hrest : IsApart rest) :
    Silent importTarget? (("class" : Text) ++ ([' '] ++ name)) ("import" ++ rest) := by
  have h := opens_importTarget?
  have hclass : Silent importTarget? "class" ([' '] ++ name ++ ("import" ++ rest)) :=
    h.silent_word (by decide) (isApart_cons (by decide) _) fun hsuffix => absurd hsuffix (by decide)
  exact silent_append.mpr ⟨hclass, silent_append.mpr ⟨h.silent_blank (by decide) _, h.silent_before hname hrest⟩⟩

/-- **An import may begin in the name of a class.** The lines up to the next import are swallowed then, and this import
is what is found. -/
theorem imports_swallowed {lines behind : List Declaration} (hending : IsSpace ending)
    (hname : IsName (name ++ "import")) (hds : ∀ d ∈ lines, d.WellFormed) (hlines : HoldsImport lines target)
    (hmatch : importTarget? (("import {}" : Text) ++ linesBehind (lines ++ behind) ending) =
      some ⟨target, linesBehind behind ending⟩) :
    (extract ((Declaration.classNamed (name ++ "import")).line ++ linesBehind (lines ++ behind) ending)).imports =
      target :: (extract (linesBehind behind ending)).imports := by
  have hrest := isApart_linesBehind hending (lines ++ behind)
  have hline := silent_requireTarget?_line (d := .classNamed (name ++ "import")) hname rfl hrest
  have hsplit : (Declaration.classNamed (name ++ "import")).line =
      ("class" : Text) ++ ([' '] ++ name) ++ "import {}" := by simp
  rw [hsplit] at hline ⊢
  obtain ⟨hbefore, hclass⟩ := silent_append.mp hline
  have hword : IsWord name := fun c hc => isWord_of_isName hname c (List.mem_append_left _ hc)
  have hbefore' : Silent importTarget? (("class" : Text) ++ ([' '] ++ name))
      (("import {}" : Text) ++ linesBehind (lines ++ behind) ending) :=
    silent_importTarget?_before hword (isApart_cons (by decide : Text.isBlank ' ' = true) _)
  rw [List.append_assoc, imports_of_silent hbefore' hbefore]
  rw [linesBehind_append] at hclass hmatch ⊢
  rw [← List.append_assoc] at hmatch ⊢
  have hswallowed := silent_requireTarget?_linesBehind hds hlines.other (isApart_linesBehind hending behind)
  exact imports_of_import hmatch (by simp) (silent_append.mpr ⟨hclass, hswallowed⟩)

/-! ## All lines -/

/-- **The imports of lines of declarations.** -/
theorem imports_linesBehind (hending : IsSpace ending) (hds : ∀ d ∈ ds, d.WellFormed) :
    (extract (linesBehind ds ending)).imports = ds.filterMap Declaration.target? := by
  -- lines may be swallowed, so the induction is on their number
  induction hlength : ds.length using Nat.strong_induction_on generalizing ds with
  | _ n ih =>
    cases ds with
    | nil =>
      have hsilent := imports_of_silent (silent_space opens_importTarget?.silent_blank hending [])
        (silent_space silent_requireTarget?_blank hending [])
      rw [List.append_nil] at hsilent
      exact hsilent.trans imports_nil
    | cons d ds =>
      obtain ⟨hd, hbelow⟩ := List.forall_mem_cons.mp hds
      rw [List.length_cons] at hlength
      rw [linesBehind_cons, extract_newline]
      by_cases hnone : ∀ name, d = .classNamed name → ("import" : Text) <:+ name →
          importTarget? (("import {}" : Text) ++ linesBehind ds ending) = none
      · rw [imports_line hd (isApart_linesBehind hending ds) hnone, ih ds.length (by omega) hbelow rfl]
        cases htarget : d.target? <;> simp [htarget]
      · push Not at hnone
        obtain ⟨name, rfl, ⟨before, rfl⟩, hmatch⟩ := hnone
        have hopen : IsOpen " {}" := ⟨⟨' ', "{}", rfl, by decide⟩, List.all_eq_true.mp rfl⟩
        obtain ⟨lines, behind, target, rfl, hlines, hsome⟩ :=
          (importTarget?_linesBehind hending hbelow hopen).resolve_left hmatch
        obtain ⟨hwell, hbehind⟩ := List.forall_mem_append.mp hbelow
        rw [List.length_append] at hlength
        rw [imports_swallowed hending hd hwell hlines hsome, ih behind.length (by omega) hbehind rfl,
          List.filterMap_cons_none rfl, List.filterMap_append, hlines.targets]
        rfl

/-- **Declarations that are written one per line are extracted**, each with its name or target, in their order, and
nothing else is. -/
theorem extract_listing (hds : ∀ d ∈ ds, d.WellFormed) (hending : IsSpace ending) :
    extract (listing ds ++ ending) = {
      imports := ds.filterMap Declaration.target?
      functions := ds.filterMap Declaration.function?
      classes := ds.filterMap Declaration.class? } := by
  have hlines : extract (listing ds ++ ending) = extract (linesBehind ds ending) := by
    by_cases hnil : ds = []
    · subst hnil
      rfl
    · have happend : linesBehind ds ending = linesBehind ds [] ++ ending := by simp [linesBehind]
      rw [happend, ← newline_listing hnil, List.cons_append, extract_newline]
  have hfunctions := captures_linesBehind silent_callableName?_blank captures_callableName?_line hending hds
  have hclasses := captures_linesBehind opens_className?.silent_blank captures_className?_line hending hds
  rw [hlines, ← imports_linesBehind hending hds, ← hfunctions, ← hclasses]
  rfl

/-- Keywords as names: the import that begins in the name of the class is closed two lines below. -/
theorem extract_listing_keywords :
    let ds : List Declaration := [.classNamed "import", .function "const", .importName "from" "./a",
      .requireName "function" "b", .arrow "require", .importAll "import"]
    (∀ d ∈ ds, d.WellFormed) ∧ IsSpace "\n" ∧ extract (listing ds ++ "\n") = {
      imports := ["./a", "b", "import"], functions := ["const", "require"], classes := ["import"] } := by
  have hds : ∀ d ∈ ([.classNamed "import", .function "const", .importName "from" "./a",
      .requireName "function" "b", .arrow "require", .importAll "import"] : List Declaration), d.WellFormed := by
    decide
  have hending : IsSpace "\n" := List.forall_mem_singleton.mpr (by decide)
  exact ⟨hds, hending, extract_listing hds hending⟩

end ImportChart.Source
