import ImportChart.Path.Basic

/-!
# Absolute paths in normal form

`rooted slashes cs` is the path with the components `cs` behind the root. Between proper components it is in normal
form, and this form is kept on the way down a tree.

- `exists_rooted`: every absolute normal form is such a path;
- `normalize_rooted`: such a path is its own normal form, so `absolute` leaves it (`absolute_rooted`);
- `join_rooted`, `foldl_join_rooted`: going down adds components, and going up takes the last one (`parent_rooted`);
- `joinComponents_injective`: the components can be read off the text.
-/

namespace ImportChart.Path

variable {slashes c : Text} {cs : List Text}

/-- A component that stands for itself: it is not empty, is no point and no `..`, and has no slash. -/
def IsComponent (c : Text) : Prop := c ≠ [] ∧ c ≠ ['.'] ∧ c ≠ up ∧ '/' ∉ c

instance (c : Text) : Decidable (IsComponent c) := inferInstanceAs (Decidable (_ ∧ _ ∧ _ ∧ _))

/-- The beginnings of absolute paths. -/
def IsRoot (slashes : Text) : Prop := slashes = "/" ∨ slashes = "//"

/-- Components with slashes between them. -/
def joinComponents (cs : List Text) : Text := Text.joinWith ['/'] cs

/-- The path with the given components behind the root. -/
def rooted (slashes : Text) (cs : List Text) : Text := slashes ++ joinComponents cs

/-! ## Components -/

/-- The components of a path have no slash and are neither empty nor a point. -/
theorem mem_components {p : Text} (h : c ∈ components p) : c ≠ [] ∧ c ≠ ['.'] ∧ '/' ∉ c := by
  rw [components, List.mem_filter] at h
  have hkept := h.2
  simp only [Bool.and_eq_true, decide_eq_true_eq] at hkept
  exact ⟨hkept.1, hkept.2, Text.notMem_of_mem_splitOn h.1⟩

theorem components_slash (p : Text) : components ('/' :: p) = components p := by
  rw [components, Text.splitOn, if_pos rfl, List.filter_cons_of_neg (by simp)]
  rfl

theorem components_joinComponents (h : ∀ c ∈ cs, IsComponent c) : components (joinComponents cs) = cs := by
  cases cs with
  | nil => rfl
  | cons first rest =>
    have hslash : ∀ c ∈ first :: rest, '/' ∉ c := fun c hc => (h c hc).2.2.2
    rw [components, joinComponents, Text.splitOn_joinWith (List.cons_ne_nil _ _) hslash, List.filter_eq_self]
    intro c hc
    simp [(h c hc).1, (h c hc).2.1]

theorem joinComponents_injective {cs' : List Text} (h : ∀ c ∈ cs, IsComponent c) (h' : ∀ c ∈ cs', IsComponent c)
    (heq : joinComponents cs = joinComponents cs') : cs = cs' := by
  rw [← components_joinComponents h, heq, components_joinComponents h']

theorem joinComponents_concat (hne : cs ≠ []) (c : Text) :
    joinComponents (cs ++ [c]) = joinComponents cs ++ '/' :: c := by
  rw [joinComponents, Text.joinWith_concat _ hne, List.append_assoc, List.singleton_append]
  rfl

theorem joinComponents_cons (c : Text) (hne : cs ≠ []) : joinComponents (c :: cs) = c ++ '/' :: joinComponents cs := by
  rw [joinComponents, Text.joinWith_cons _ c hne, List.append_assoc, List.singleton_append]
  rfl

theorem joinComponents_append {cs' : List Text} (hne : cs ≠ []) (hne' : cs' ≠ []) :
    joinComponents (cs ++ cs') = joinComponents cs ++ '/' :: joinComponents cs' := by
  induction cs with
  | nil => exact absurd rfl hne
  | cons c cs ih =>
    by_cases hnil : cs = []
    · subst hnil
      exact joinComponents_cons c hne'
    · rw [List.cons_append, joinComponents_cons c (by simp [hnil]), ih hnil, joinComponents_cons c hnil,
        List.append_assoc, List.cons_append]

theorem mem_joinComponents {x : Char} (h : x ∈ joinComponents cs) : x = '/' ∨ ∃ c ∈ cs, x ∈ c := by
  induction cs with
  | nil => simp [joinComponents, Text.joinWith] at h
  | cons c cs ih =>
    by_cases hnil : cs = []
    · subst hnil
      exact Or.inr ⟨c, List.mem_singleton_self c, h⟩
    · rw [joinComponents_cons c hnil, List.mem_append, List.mem_cons] at h
      rcases h with h | h | h
      · exact Or.inr ⟨c, List.mem_cons_self, h⟩
      · exact Or.inl h
      · rcases ih h with h | ⟨c', hc', h⟩
        · exact Or.inl h
        · exact Or.inr ⟨c', List.mem_cons_of_mem _ hc', h⟩

theorem head?_joinComponents (h : ∀ c ∈ cs, IsComponent c) : (joinComponents cs).head? ≠ some '/' := by
  cases cs with
  | nil => simp [joinComponents, Text.joinWith]
  | cons first rest =>
    obtain ⟨hne, -, -, hslash⟩ := h first List.mem_cons_self
    obtain ⟨x, xs, rfl⟩ := List.exists_cons_of_ne_nil hne
    have hhead : (joinComponents ((x :: xs) :: rest)).head? = some x := by
      cases rest <;> simp [joinComponents, Text.joinWith]
    rw [hhead]
    rintro ⟨⟩
    exact hslash List.mem_cons_self

theorem getLast?_joinComponents (h : ∀ c ∈ cs, IsComponent c) : (joinComponents cs).getLast? ≠ some '/' := by
  rcases List.eq_nil_or_concat cs with rfl | ⟨before, last, rfl⟩
  · simp [joinComponents, Text.joinWith]
  · rw [List.concat_eq_append] at h ⊢
    obtain ⟨hne, -, -, hslash⟩ := h last (by simp)
    have hlast : (joinComponents (before ++ [last])).getLast? = last.getLast? := by
      by_cases hbefore : before = []
      · subst hbefore
        rfl
      · obtain ⟨x, xs, rfl⟩ := List.exists_cons_of_ne_nil hne
        rw [joinComponents_concat hbefore]
        simp [List.getLast?_append, List.getLast?_cons]
    rw [hlast]
    intro heq
    exact hslash (List.mem_of_getLast? heq)

/-! ## Normal form -/

/-- Rooted components in which no `..` is left do not change. -/
theorem foldl_pushComponent (h : ∀ c ∈ cs, c ≠ up) (stack : List Text) :
    cs.foldl (pushComponent true) stack = cs.reverse ++ stack := by
  induction cs generalizing stack with
  | nil => rfl
  | cons c cs ih =>
    have hpush : pushComponent true stack c = c :: stack := by simp [pushComponent, h c List.mem_cons_self]
    rw [List.foldl_cons, hpush, ih fun c hc => h c (List.mem_cons_of_mem _ hc)]
    simp

/-- In a rooted path every `..` goes away, and no component is new. -/
theorem mem_foldl_pushComponent (cs stack : List Text) (hstack : ∀ c ∈ stack, c ≠ up) :
    ∀ c ∈ cs.foldl (pushComponent true) stack, c ≠ up ∧ (c ∈ cs ∨ c ∈ stack) := by
  induction cs generalizing stack with
  | nil => exact fun c hc => ⟨hstack c hc, Or.inr hc⟩
  | cons first cs ih =>
    have hpush : ∀ c ∈ pushComponent true stack first, c ≠ up ∧ (c = first ∨ c ∈ stack) := by
      intro c hc
      unfold pushComponent at hc
      split at hc
      · next hfirst =>
        rcases List.mem_cons.mp hc with rfl | hc
        · exact ⟨hfirst, Or.inl rfl⟩
        · exact ⟨hstack c hc, Or.inr hc⟩
      · cases stack with
        | nil => simp at hc
        | cons top below =>
          have htop : top ≠ up := hstack top List.mem_cons_self
          simp only [if_neg htop] at hc
          exact ⟨hstack c (List.mem_cons_of_mem _ hc), Or.inr (List.mem_cons_of_mem _ hc)⟩
    intro c hc
    obtain ⟨hup, hmem⟩ := ih _ (fun c hc => (hpush c hc).1) c hc
    refine ⟨hup, ?_⟩
    rcases hmem with hmem | hmem
    · exact Or.inl (List.mem_cons_of_mem _ hmem)
    · rcases (hpush c hmem).2 with rfl | hmem
      · exact Or.inl List.mem_cons_self
      · exact Or.inr hmem

/-- The components of an absolute normal form stand for themselves. -/
theorem isComponent_of_mem_collapse {p : Text} (h : c ∈ collapse true (components p)) : IsComponent c := by
  rw [collapse, List.mem_reverse] at h
  obtain ⟨hup, hmem⟩ := mem_foldl_pushComponent (components p) [] (by simp) c h
  obtain ⟨hne, hpoint, hslash⟩ := mem_components (hmem.resolve_right (by simp))
  exact ⟨hne, hpoint, hup, hslash⟩

theorem isRoot_rootOf {p : Text} (h : isAbsolute p = true) : IsRoot (rootOf p) := by
  unfold rootOf
  split
  · exact Or.inl rfl
  · exact Or.inr rfl
  · exact Or.inl rfl
  · next hno =>
    cases p with
    | nil => simp [isAbsolute] at h
    | cons x xs =>
      simp only [isAbsolute, List.head?_cons, Option.some_beq_some, beq_iff_eq] at h
      exact absurd (h ▸ rfl) (hno xs)

theorem IsRoot.ne_nil (h : IsRoot slashes) : slashes ≠ [] := by
  rcases h with rfl | rfl <;> decide

theorem isAbsolute_rooted (h : IsRoot slashes) (cs : List Text) : isAbsolute (rooted slashes cs) = true := by
  rcases h with rfl | rfl <;> rfl

theorem rootOf_rooted (h : IsRoot slashes) (hcs : ∀ c ∈ cs, IsComponent c) : rootOf (rooted slashes cs) = slashes := by
  have hhead := head?_joinComponents hcs
  rcases h with rfl | rfl
  · show rootOf ('/' :: joinComponents cs) = _
    cases hj : joinComponents cs with
    | nil => rfl
    | cons x xs =>
      rw [hj] at hhead
      have hx : x ≠ '/' := fun hx => hhead (by rw [hx]; rfl)
      simp [rootOf, hx]
  · show rootOf ('/' :: '/' :: joinComponents cs) = _
    cases hj : joinComponents cs with
    | nil => rfl
    | cons x xs =>
      rw [hj] at hhead
      have hx : x ≠ '/' := fun hx => hhead (by rw [hx]; rfl)
      simp [rootOf, hx]

theorem components_rooted (h : IsRoot slashes) (hcs : ∀ c ∈ cs, IsComponent c) :
    components (rooted slashes cs) = cs := by
  rcases h with rfl | rfl
  · exact (components_slash _).trans (components_joinComponents hcs)
  · exact (components_slash _).trans ((components_slash _).trans (components_joinComponents hcs))

theorem rooted_injective {cs' : List Text} (h : IsRoot slashes) (hcs : ∀ c ∈ cs, IsComponent c)
    (hcs' : ∀ c ∈ cs', IsComponent c) (heq : rooted slashes cs = rooted slashes cs') : cs = cs' := by
  rw [← components_rooted h hcs, heq, components_rooted h hcs']

/-- The normal form of an absolute path. -/
theorem normalize_eq_rooted {p : Text} (h : isAbsolute p = true) :
    normalize p = rooted (rootOf p) (collapse true (components p)) := by
  have hne : rootOf p ≠ [] := (isRoot_rootOf h).ne_nil
  rw [normalize, h]
  simp only [List.isEmpty_iff, List.append_eq_nil_iff, hne, false_and, if_false]
  rfl

/-- **A rooted path is its own normal form.** -/
theorem normalize_rooted (h : IsRoot slashes) (hcs : ∀ c ∈ cs, IsComponent c) :
    normalize (rooted slashes cs) = rooted slashes cs := by
  have hcollapse : collapse true cs = cs := by
    rw [collapse, foldl_pushComponent fun c hc => (hcs c hc).2.2.1]
    simp
  rw [normalize_eq_rooted (isAbsolute_rooted h cs), rootOf_rooted h hcs, components_rooted h hcs, hcollapse]

theorem join_of_isAbsolute {p : Text} (h : isAbsolute p = true) (base : Text) : join base p = p := if_pos h

theorem isAbsolute_join {base : Text} (h : isAbsolute base = true) (p : Text) : isAbsolute (join base p) = true := by
  obtain ⟨xs, rfl⟩ : ∃ xs, base = '/' :: xs := by
    cases base with
    | nil => cases h
    | cons x xs => exact ⟨xs, by simpa [isAbsolute] using h⟩
  rw [join]
  split
  · assumption
  · split <;> rfl

/-- A rooted path is its own normal form, wherever it is seen from. -/
theorem absolute_rooted (here : Text) (h : IsRoot slashes) (hcs : ∀ c ∈ cs, IsComponent c) :
    absolute here (rooted slashes cs) = rooted slashes cs := by
  rw [absolute, join_of_isAbsolute (isAbsolute_rooted h cs), normalize_rooted h hcs]

/-- **What is seen from an absolute path is a rooted path.** -/
theorem exists_rooted {here : Text} (h : isAbsolute here = true) (p : Text) :
    ∃ slashes cs, IsRoot slashes ∧ (∀ c ∈ cs, IsComponent c) ∧ absolute here p = rooted slashes cs := by
  have habs := isAbsolute_join h p
  exact ⟨_, _, isRoot_rootOf habs, fun c hc => isComponent_of_mem_collapse hc, normalize_eq_rooted habs⟩

/-! ## Going down -/

theorem IsComponent.isAbsolute_eq_false (h : IsComponent c) : isAbsolute c = false := by
  obtain ⟨hne, -, -, hslash⟩ := h
  obtain ⟨x, xs, rfl⟩ := List.exists_cons_of_ne_nil hne
  have hx : x ≠ '/' := fun hx => hslash (hx ▸ List.mem_cons_self)
  simp [isAbsolute, hx]

/-- Below the root no slash is at the end. -/
theorem getLast?_rooted (hcs : ∀ c ∈ cs, IsComponent c) (hnil : cs ≠ []) : (rooted slashes cs).getLast? ≠ some '/' := by
  have hj : joinComponents cs ≠ [] := by
    intro hj
    have hcomponents := components_joinComponents hcs
    rw [hj] at hcomponents
    exact hnil hcomponents.symm
  obtain ⟨x, hx⟩ := List.getLast?_isSome.mpr hj |> Option.isSome_iff_exists.mp
  rw [rooted, List.getLast?_append, hx, Option.some_or, ← hx]
  exact getLast?_joinComponents hcs

theorem join_rooted (h : IsRoot slashes) (hcs : ∀ c ∈ cs, IsComponent c) (hc : IsComponent c) :
    join (rooted slashes cs) c = rooted slashes (cs ++ [c]) := by
  have hempty : (rooted slashes cs).isEmpty = false := by simp [rooted, h.ne_nil]
  rw [join, hc.isAbsolute_eq_false, hempty]
  by_cases hnil : cs = []
  · subst hnil
    rcases h with rfl | rfl <;> rfl
  · have hbeq : ((rooted slashes cs).getLast? == some '/') = false := by simpa using getLast?_rooted hcs hnil
    rw [hbeq, rooted, rooted, joinComponents_concat hnil]
    simp

/-- What is under a rooted path is one component below it. -/
theorem under_rooted (h : IsRoot slashes) (hcs : ∀ c ∈ cs, IsComponent c) (hc : IsComponent c) :
    under (rooted slashes cs) c = rooted slashes (cs ++ [c]) := by
  have hcomponents : components c = [c] := components_joinComponents (List.forall_mem_singleton.mpr hc)
  have hne : (slashes ++ Text.joinWith "/" (cs ++ [c])).isEmpty = false := by simp [h.ne_nil]
  simp only [under, hc.isAbsolute_eq_false, rootOf_rooted h hcs, components_rooted h hcs, hcomponents, hne,
    Bool.false_eq_true, if_false]
  rfl

theorem foldl_join_rooted (h : IsRoot slashes) {names : List Text} (hnames : ∀ c ∈ names, IsComponent c) :
    ∀ {cs : List Text}, (∀ c ∈ cs, IsComponent c) →
      names.foldl join (rooted slashes cs) = rooted slashes (cs ++ names) := by
  induction names with
  | nil => intro cs _; simp
  | cons name names ih =>
    intro cs hcs
    have hname : IsComponent name := hnames name List.mem_cons_self
    have hcs' : ∀ c ∈ cs ++ [name], IsComponent c := by
      intro c hc
      rcases List.mem_append.mp hc with hc | hc
      · exact hcs c hc
      · rw [List.mem_singleton.mp hc]
        exact hname
    rw [List.foldl_cons, join_rooted h hcs hname, ih (fun c hc => hnames c (List.mem_cons_of_mem _ hc)) hcs']
    simp

/-- A character of a path further down is one of the path above, a slash, or one of a name on the way. -/
theorem mem_rooted_append {names : List Text} {x : Char} (h : x ∈ rooted slashes (cs ++ names)) :
    x ∈ rooted slashes cs ∨ x = '/' ∨ ∃ c ∈ names, x ∈ c := by
  by_cases hnames : names = []
  · subst hnames
    rw [List.append_nil] at h
    exact Or.inl h
  · by_cases hcs : cs = []
    · subst hcs
      rcases List.mem_append.mp h with h | h
      · exact Or.inl (List.mem_append_left _ h)
      · exact Or.inr (mem_joinComponents h)
    · rw [rooted, joinComponents_append hcs hnames, ← List.append_assoc, List.mem_append, List.mem_cons] at h
      rcases h with h | h | h
      · exact Or.inl h
      · exact Or.inr (Or.inl h)
      · exact Or.inr (mem_joinComponents h)

/-! ## Going up -/

/-- The part of a path before its last component. -/
def stem (slashes : Text) (cs : List Text) : Text := if cs = [] then slashes else rooted slashes cs ++ ['/']

theorem rooted_concat (slashes : Text) (cs : List Text) (c : Text) :
    rooted slashes (cs ++ [c]) = stem slashes cs ++ c := by
  unfold stem
  split
  · next h =>
    subst h
    rfl
  · next h => rw [rooted, rooted, joinComponents_concat h, List.append_assoc, List.append_assoc, List.singleton_append]

theorem getLast?_stem (h : IsRoot slashes) (cs : List Text) : (stem slashes cs).getLast? = some '/' := by
  unfold stem
  split
  · rcases h with rfl | rfl <;> rfl
  · exact List.getLast?_concat

/-- A text behind a slash is cut off at this slash. -/
theorem takeWhile_reverse_append {before name : Text} (hbefore : before.getLast? = some '/') (hname : '/' ∉ name) :
    (before ++ name).reverse.takeWhile (· ≠ '/') = name.reverse ∧
      (before ++ name).reverse.dropWhile (· ≠ '/') = before.reverse := by
  obtain ⟨start, rfl⟩ := List.getLast?_eq_some_iff.mp hbefore
  have hall : ∀ x ∈ name.reverse, decide (x ≠ '/') = true := by
    intro x hx
    exact decide_eq_true fun heq => hname (heq ▸ List.mem_reverse.mp hx)
  simp only [List.reverse_append, List.reverse_singleton, List.singleton_append]
  rw [List.takeWhile_append_of_pos hall, List.dropWhile_append_of_pos hall]
  simp

theorem baseName_rooted (h : IsRoot slashes) (hc : IsComponent c) : baseName (rooted slashes (cs ++ [c])) = c := by
  rw [baseName, rooted_concat, (takeWhile_reverse_append (getLast?_stem h cs) hc.2.2.2).1, List.reverse_reverse]

/-- **The path above a rooted path has one component less.** -/
theorem parent_rooted (h : IsRoot slashes) (hcs : ∀ c ∈ cs, IsComponent c) (hc : IsComponent c) :
    parent (rooted slashes (cs ++ [c])) = rooted slashes cs := by
  have hhead : Text.dropEndWhile (· ≠ '/') (rooted slashes (cs ++ [c])) = stem slashes cs := by
    rw [Text.dropEndWhile, rooted_concat, (takeWhile_reverse_append (getLast?_stem h cs) hc.2.2.2).2,
      List.reverse_reverse]
  simp only [parent, hhead]
  by_cases hnil : cs = []
  · subst hnil
    rcases h with rfl | rfl <;> rfl
  · have hne : rooted slashes cs ≠ [] := List.append_ne_nil_of_left_ne_nil h.ne_nil _
    have hlast : (rooted slashes cs).getLast? ≠ some '/' := getLast?_rooted hcs hnil
    have hstem : Text.dropEndWhile (· == '/') (rooted slashes cs ++ ['/']) = rooted slashes cs := by
      obtain ⟨start, last, hconcat⟩ := (List.eq_nil_or_concat (rooted slashes cs)).resolve_left hne
      rw [hconcat, List.concat_eq_append, List.getLast?_concat] at hlast
      have hslash : (last == '/') = false := beq_false_of_ne fun heq => hlast (congrArg some heq)
      rw [hconcat, List.concat_eq_append, Text.dropEndWhile]
      simp [hslash]
    rw [stem, if_neg hnil, hstem, if_neg (by simpa using hne)]

end ImportChart.Path
