import ImportChart.Source.Extract

/-!
# The names that are extracted

Whatever stands in a text, the functions and classes that are extracted from it have names of one character or more,
each a letter, a digit, `_` or `$`. Nothing of the kind holds of imports: a target may have any character but
quotation marks.

- `exists_of_mem_scan`: what a scan captures, a recogniser captured somewhere in the text;
- `hasNames_extract`: so functions and classes have names.
-/

namespace ImportChart.Source

variable {recognise : Text → Option Found} {t : Text} {found : Found} {name : Text}

theorem exists_of_mem_scanFrom {hit : Hit} : ∀ {position : Nat} {t : Text}, hit ∈ scanFrom recognise position t →
    ∃ u found, recognise u = some found ∧ hit.capture = found.capture := by
  intro position t
  fun_induction scanFrom recognise position t with
  | case1 => simp
  | case2 position c cs _ ih => exact ih
  | case3 position c cs found hfound _ stop ih =>
    intro hhit
    rcases List.mem_cons.mp hhit with rfl | hhit
    · exact ⟨c :: cs, found, hfound, rfl⟩
    · exact ih hhit
  | case4 position c cs _ _ _ ih => exact ih

/-- **What is captured by a scan of a text was captured by the recogniser.** -/
theorem exists_of_mem_scan (h : name ∈ (scan recognise t).map Hit.capture) :
    ∃ u found, recognise u = some found ∧ found.capture = name := by
  obtain ⟨hit, hhit, rfl⟩ := List.mem_map.mp h
  obtain ⟨u, found, hfound, hcapture⟩ := exists_of_mem_scanFrom hhit
  exact ⟨u, found, hfound, hcapture.symm⟩

/-- A name: one character or more, each of those that names have. -/
def IsName (name : Text) : Prop := name ≠ [] ∧ name.all isNameChar = true

theorem isName_of_name? (h : name? t = some found) : IsName found.capture := by
  unfold name? at h
  dsimp only at h
  split at h
  · cases h
  · next hne =>
    obtain rfl := Option.some.inj h
    exact ⟨by simpa using hne, List.all_takeWhile⟩

theorem isName_of_functionName? (h : functionName? t = some found) : IsName found.capture := by
  simp only [functionName?, Option.bind_eq_bind, Option.bind_eq_some_iff, Option.pure_def, Option.some_inj] at h
  obtain ⟨_, -, _, -, inner, hname, _, -, rfl⟩ := h
  have hinner : IsName inner.capture := isName_of_name? hname
  exact hinner

theorem isName_of_arrowName? (h : arrowName? t = some found) : IsName found.capture := by
  simp only [arrowName?, Option.bind_eq_bind, Option.bind_eq_some_iff, Option.pure_def, Option.some_inj] at h
  obtain ⟨_, -, _, -, inner, hname, _, -, _, -, _, -, _, -, rfl⟩ := h
  have hinner : IsName inner.capture := isName_of_name? hname
  exact hinner

/-- Functions and classes with names. -/
structure Declarations.HasNames (x : Declarations) : Prop where
  functions : ∀ name ∈ x.functions, IsName name
  classes : ∀ name ∈ x.classes, IsName name

/-- **What is extracted has names**, whatever the text. -/
theorem hasNames_extract (t : Text) : (extract t).HasNames where
  functions name h := by
    obtain ⟨u, found, hfound, rfl⟩ := exists_of_mem_scan h
    rcases Option.or_eq_some_iff.mp hfound with hfunction | ⟨-, harrow⟩
    · exact isName_of_functionName? hfunction
    · exact isName_of_arrowName? harrow
  classes name h := by
    obtain ⟨u, found, hfound, rfl⟩ := exists_of_mem_scan h
    simp only [className?, Option.bind_eq_bind, Option.bind_eq_some_iff] at hfound
    obtain ⟨_, -, _, -, hname⟩ := hfound
    exact isName_of_name? hname

end ImportChart.Source
