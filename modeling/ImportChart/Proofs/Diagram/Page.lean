import ImportChart.Diagram.Page
import ImportChart.Proofs.Text.Between
import ImportChart.Proofs.Text.Numerals

/-!
# What a page gives back

A page is a fixed text with the title in two places and the diagram in one. Both are escaped, and what is escaped has
none of the characters that make markup, so the page has the elements that it has without them, and the places where
they stand are found by these elements.

- `unescape_escape`: a text is read back from its entities, also if it holds entities itself;
- `isMarkup`, `notMem_escape`: nothing that is escaped makes markup;
- `title?_render`, `heading?_render`, `diagram?_render`: what is found between the elements of a page;
- `render_embeds`: a page gives back what it was made of.
-/

namespace ImportChart.Page

variable {c : Char} {t diagram title : Text} {size : Int}

/-! ## Entities -/

/-- A text with the five entities as the characters that they stand for. -/
def unescape : Text → Text
  | '&' :: 'a' :: 'm' :: 'p' :: ';' :: t => '&' :: unescape t
  | '&' :: 'l' :: 't' :: ';' :: t => '<' :: unescape t
  | '&' :: 'g' :: 't' :: ';' :: t => '>' :: unescape t
  | '&' :: 'q' :: 'u' :: 'o' :: 't' :: ';' :: t => '"' :: unescape t
  | '&' :: '#' :: 'x' :: '2' :: '7' :: ';' :: t => '\'' :: unescape t
  | c :: t => c :: unescape t
  | [] => []

theorem unescape_cons (h : c ≠ '&') (t : Text) : unescape (c :: t) = c :: unescape t := by
  conv_lhs => unfold unescape
  split <;> simp_all

/-- One character is read back, whatever stands behind it. -/
theorem unescape_escapeChar_append (c : Char) (t : Text) : unescape (escapeChar c ++ t) = c :: unescape t := by
  unfold escapeChar
  split_ifs with hamp hlt hgt hquot hapos
  · rw [beq_iff_eq.mp hamp]; rfl
  · rw [beq_iff_eq.mp hlt]; rfl
  · rw [beq_iff_eq.mp hgt]; rfl
  · rw [beq_iff_eq.mp hquot]; rfl
  · rw [beq_iff_eq.mp hapos]; rfl
  · exact unescape_cons (by simpa using hamp) t

/-- **A text is read back from its entities**, whatever it holds. -/
theorem unescape_escape (t : Text) : unescape (escape t) = t := by
  induction t with
  | nil => rfl
  | cons c t ih => rw [escape, List.flatMap_cons, unescape_escapeChar_append, ← escape, ih]

/-! ## Markup -/

/-- The characters that begin and end elements and quoted values. -/
def isMarkup (c : Char) : Bool := c == '<' || c == '>' || c == '"' || c == '\''

theorem isMarkup_of_mem_escapeChar {x : Char} (h : c ∈ escapeChar x) : isMarkup c = false := by
  have hnone (entity : Text) (hentity : (entity.all fun c => !isMarkup c) = true) (c : Char) (hc : c ∈ entity) :
      isMarkup c = false := by simpa using List.all_eq_true.mp hentity c hc
  unfold escapeChar at h
  split_ifs at h with hamp hlt hgt hquot hapos
  · exact hnone "&amp;" (by decide) c h
  · exact hnone "&lt;" (by decide) c h
  · exact hnone "&gt;" (by decide) c h
  · exact hnone "&quot;" (by decide) c h
  · exact hnone "&#x27;" (by decide) c h
  · rw [List.mem_singleton.mp h]
    simp [isMarkup, hlt, hgt, hquot, hapos]

/-- **Nothing that is escaped makes markup.** -/
theorem notMem_escape (hc : isMarkup c = true) (t : Text) : c ∉ escape t := by
  intro hmem
  obtain ⟨x, -, hx⟩ := List.mem_flatMap.mp hmem
  rw [isMarkup_of_mem_escapeChar hx] at hc
  cases hc

/-- **A page has as many characters that make markup as the page without title and diagram.** -/
theorem count_render (hc : isMarkup c = true) (diagram title : Text) (size : Int) :
    (render diagram title size).count c = (render [] [] size).count c := by
  have hnone (t : Text) : (escape t).count c = 0 := List.count_eq_zero.mpr (notMem_escape hc t)
  simp only [render, List.count_append, hnone]

/-! ## The elements of a page -/

/-- The line that opens the diagram. -/
def diagramOpening : Text := "<pre class=\"mermaid\">\n"

/-- The line that closes the diagram. -/
def diagramClosing : Text := "\n    </pre>"

/-- The title of a page. -/
def title? (page : Text) : Option Text := Text.between? "<title>" "</title>" page

/-- The heading of a page. -/
def heading? (page : Text) : Option Text := Text.between? "<h1>" "</h1>" page

/-- What stands on a page between the line that opens the diagram and the one that closes it. -/
def diagram? (page : Text) : Option Text := Text.between? diagramOpening diagramClosing page

-- The fixed parts of a page are literals. They are taken for lists of characters before anything is computed.

set_option maxRecDepth 10000 in
/-- The first part of a page ends with its only mark. -/
theorem beforeTitle_spec : Text.behind? "<title>" beforeTitle = some [] ∧ Text.isClear "<h1>" beforeTitle = true ∧
    Text.isClear diagramOpening beforeTitle = true := by
  obtain ⟨part, hpart, hspec⟩ : ∃ part, beforeTitle = part ∧ Text.behind? "<title>" part = some [] ∧
      Text.isClear "<h1>" part = true ∧ Text.isClear diagramOpening part = true :=
    ⟨_, String.toList_ofList, by decide +kernel⟩
  rw [hpart]
  exact hspec

set_option maxRecDepth 10000 in
/-- The part behind the title ends with the mark of the heading. -/
theorem beforeHeading_spec : ("</title>" : Text) <+: beforeHeading ∧ Text.behind? "<h1>" beforeHeading = some [] ∧
    Text.isClear diagramOpening beforeHeading = true := by
  obtain ⟨part, hpart, hspec⟩ : ∃ part, beforeHeading = part ∧ ("</title>" : Text) <+: part ∧
      Text.behind? "<h1>" part = some [] ∧ Text.isClear diagramOpening part = true :=
    ⟨_ ++ _ ++ _, congrArg₂ _ (congrArg₂ _ String.toList_ofList String.toList_ofList) String.toList_ofList,
      by decide +kernel⟩
  rw [hpart]
  exact hspec

/-- The part behind the heading ends with the mark of the diagram. -/
theorem beforeDiagram_spec :
    ("</h1>" : Text) <+: beforeDiagram ∧ Text.behind? diagramOpening beforeDiagram = some [] := by
  decide +kernel

set_option maxRecDepth 10000 in
theorem beforeSize_spec : diagramClosing <+: beforeSize := by
  obtain ⟨part, hpart, hspec⟩ : ∃ part, beforeSize = part ∧ diagramClosing <+: part :=
    ⟨_, String.toList_ofList, by decide +kernel⟩
  rw [hpart]
  exact hspec

/-- No element begins in what is escaped. -/
theorem isClear_escape {opening : Text} (hopening : opening.head? = some '<') (t : Text) :
    Text.isClear opening (escape t) = true := by
  obtain ⟨q, rfl⟩ := List.head?_eq_some_iff.mp hopening
  exact Text.isClear_of_notMem (notMem_escape rfl t)

/-- **What is escaped is found between the marks of an element**, if none of the kind begins ahead of it. -/
theorem between?_escape {opening closing ahead mark after : Text} (hahead : Text.isClear opening ahead = true)
    (hopening : Text.behind? opening mark = some []) (hclosing : closing <+: after) (hbracket : '<' ∈ closing)
    (hmark : Text.beginsOnce closing = true) (t rest : Text) :
    Text.between? opening closing (ahead ++ (mark ++ (escape t ++ (after ++ rest)))) = some (escape t) :=
  Text.between?_append hahead hopening hclosing hmark
    (fun hcloses => notMem_escape rfl t (hcloses.subset hbracket)) rest

theorem title?_render (diagram title : Text) (size : Int) :
    title? (render diagram title size) = some (escape title) := by
  have hpage : render diagram title size = [] ++ (beforeTitle ++ (escape title ++ (beforeHeading ++
      (escape title ++ beforeDiagram ++ escape diagram ++ beforeSize ++ Text.ofInt size ++ afterSize)))) := by
    rw [List.nil_append]
    simp only [render, List.append_assoc]
  rw [title?, hpage]
  exact between?_escape rfl beforeTitle_spec.1 beforeHeading_spec.1 (by decide) (by decide) title _

theorem heading?_render (diagram title : Text) (size : Int) :
    heading? (render diagram title size) = some (escape title) := by
  have hpage : render diagram title size = (beforeTitle ++ escape title) ++ (beforeHeading ++ (escape title ++
      (beforeDiagram ++ (escape diagram ++ beforeSize ++ Text.ofInt size ++ afterSize)))) := by
    simp only [render, List.append_assoc]
  have hahead : Text.isClear "<h1>" (beforeTitle ++ escape title) = true :=
    Text.isClear_append beforeTitle_spec.2.1 (isClear_escape rfl title)
  rw [heading?, hpage]
  exact between?_escape hahead beforeHeading_spec.2.1 beforeDiagram_spec.1 (by decide) (by decide) title _

theorem diagram?_render (diagram title : Text) (size : Int) :
    diagram? (render diagram title size) = some (escape diagram) := by
  have hpage : render diagram title size = ((beforeTitle ++ escape title) ++ (beforeHeading ++ escape title)) ++
      (beforeDiagram ++ (escape diagram ++ (beforeSize ++ (Text.ofInt size ++ afterSize)))) := by
    simp only [render, List.append_assoc]
  have hahead : Text.isClear diagramOpening ((beforeTitle ++ escape title) ++ (beforeHeading ++ escape title)) = true :=
    Text.isClear_append (Text.isClear_append beforeTitle_spec.2.2 (isClear_escape rfl title))
      (Text.isClear_append beforeHeading_spec.2.2 (isClear_escape rfl title))
  rw [diagram?, hpage]
  exact between?_escape hahead beforeDiagram_spec.2 beforeSize_spec (by decide) (by decide) diagram _

/-! ## The whole page -/

/-- An element of a page holds a text: it has no angle bracket in it, and its entities stand for the text. -/
def Holds (element : Option Text) (t : Text) : Prop :=
  ∃ block, element = some block ∧ '<' ∉ block ∧ '>' ∉ block ∧ unescape block = t

theorem holds_escape (t : Text) : Holds (some (escape t)) t :=
  ⟨escape t, rfl, notMem_escape rfl t, notMem_escape rfl t, unescape_escape t⟩

/-- A text is known by what holds it. -/
theorem Holds.eq {element : Option Text} {t' : Text} (h : Holds element t) (h' : Holds element t') : t = t' := by
  obtain ⟨block, hblock, -, -, rfl⟩ := h
  obtain ⟨block', hblock', -, -, rfl⟩ := h'
  rw [Option.some.inj (hblock.symm.trans hblock')]

theorem holds_render (diagram title : Text) (size : Int) :
    Holds (title? (render diagram title size)) title ∧ Holds (heading? (render diagram title size)) title ∧
      Holds (diagram? (render diagram title size)) diagram := by
  rw [title?_render, heading?_render, diagram?_render]
  exact ⟨holds_escape title, holds_escape title, holds_escape diagram⟩

/-- Pages are equal only if they are made of the same. -/
theorem render_inj {diagram' title' : Text} {size' : Int} :
    render diagram title size = render diagram' title' size' ↔ diagram = diagram' ∧ title = title' ∧ size = size' := by
  constructor
  · intro hpages
    obtain ⟨htitle, -, hdiagram⟩ := holds_render diagram title size
    obtain ⟨htitle', -, hdiagram'⟩ := holds_render diagram' title' size'
    rw [hpages] at htitle hdiagram
    obtain rfl := htitle.eq htitle'
    obtain rfl := hdiagram.eq hdiagram'
    -- what is left to differ is the numeral
    have hnumerals : Text.ofInt size = Text.ofInt size' := List.append_cancel_left (List.append_cancel_right hpages)
    exact ⟨rfl, rfl, Text.ofInt_inj.mp hnumerals⟩
  · rintro ⟨rfl, rfl, rfl⟩
    rfl

/-- **A page gives back what it was made of, and nothing in it is taken for markup.** It has as many angle brackets and
quotation marks as the page without title and diagram; title, heading and diagram are found between the elements of the
page, with no angle bracket in them and their entities standing for what was given; and pages are equal only if title,
diagram and size are. -/
theorem render_embeds (diagram title : Text) (size : Int) :
    (∀ c ∈ ['<', '>', '"', '\''], (render diagram title size).count c = (render [] [] size).count c) ∧
      Holds (title? (render diagram title size)) title ∧ Holds (heading? (render diagram title size)) title ∧
      Holds (diagram? (render diagram title size)) diagram ∧
      ∀ diagram' title' size', render diagram title size = render diagram' title' size' ↔
        diagram = diagram' ∧ title = title' ∧ size = size' := by
  have hmarkup : ∀ c ∈ ['<', '>', '"', '\''], isMarkup c = true := List.all_eq_true.mp rfl
  obtain ⟨htitle, hheading, hdiagram⟩ := holds_render diagram title size
  exact ⟨fun c hc => count_render (hmarkup c hc) diagram title size, htitle, hheading, hdiagram,
    fun _ _ _ => render_inj⟩

end ImportChart.Page
