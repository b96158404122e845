import ImportChart.Proofs.Path.Rooted

/-!
# The way from one file to another one

An import names a file by the way to it: up to the deepest folder that both files are in, and from there down. Seen
from the folder of the importing file, this way leads to the path of the imported one.

- `prefix_commonPart_iff`: what the deepest common folder is;
- `components_climb_append`, `foldl_pushComponent_up`: every `../` takes one component away;
- `absolute_join_climb`: what is seen from a folder by going up and down;
- `absolute_join_relative`: so the way from one file to another one leads there.
-/

namespace ImportChart.Path

variable {slashes : Text} {cs ds names : List Text} {k : Nat}

/-- The components that two paths begin with in common. -/
def commonPart : List Text → List Text → List Text
  | c :: cs, d :: ds => if c = d then c :: commonPart cs ds else []
  | _, _ => []

/-- The text that leads up so many folders. -/
def climb (k : Nat) : Text := if k = 0 then "./" else (List.replicate k ("../" : Text)).flatten

/-- The import by which the file at one path names the file at another one: up to the deepest folder that both are
in, and from there down. -/
def relative (origin target : Text) : Text :=
  let folder := components (parent origin)
  let shared := (commonPart folder (components (parent target))).length
  climb (folder.length - shared) ++ joinComponents ((components target).drop shared)

/-! ## The deepest common folder -/

/-- **The common part of two paths is the longest one that both begin with.** -/
theorem prefix_commonPart_iff : names <+: commonPart cs ds ↔ names <+: cs ∧ names <+: ds := by
  induction cs generalizing ds names with
  | nil =>
    have hnone : commonPart [] ds = [] := by simp [commonPart]
    rw [hnone, List.prefix_nil]
    exact ⟨by rintro rfl; simp, fun h => h.1⟩
  | cons c cs ih =>
    cases ds with
    | nil =>
      rw [commonPart, List.prefix_nil]
      · exact ⟨by rintro rfl; simp, fun h => h.2⟩
      · simp
    | cons d ds =>
      rw [commonPart]
      cases names with
      | nil => simp
      | cons name names =>
        split
        · next heq =>
          subst heq
          rw [List.cons_prefix_cons, List.cons_prefix_cons, List.cons_prefix_cons, ih, and_and_left]
        · next hne =>
          refine ⟨fun h => absurd h (by simp), ?_⟩
          rintro ⟨hc, hd⟩
          rw [List.cons_prefix_cons] at hc hd
          exact absurd (hc.1.symm.trans hd.1) hne

/-! ## Going up -/

theorem splitOn_append_cons (sep : Char) (a b : Text) :
    Text.splitOn sep (a ++ sep :: b) = Text.splitOn sep a ++ Text.splitOn sep b := by
  induction a with
  | nil => simp [Text.splitOn]
  | cons c a ih =>
    rw [List.cons_append, Text.splitOn, Text.splitOn]
    split
    · rw [ih, List.cons_append]
    · obtain ⟨piece, pieces, hsplit⟩ := List.exists_cons_of_ne_nil (Text.splitOn_ne_nil sep a)
      rw [ih, hsplit]
      rfl

theorem components_append (a b : Text) : components (a ++ '/' :: b) = components a ++ components b := by
  rw [components, splitOn_append_cons, List.filter_append]
  rfl

/-- The components of a way that goes up first. -/
theorem components_climb_append (k : Nat) (p : Text) :
    components (climb k ++ p) = List.replicate k up ++ components p := by
  have hups (k : Nat) : components ((List.replicate k ("../" : Text)).flatten ++ p) =
      List.replicate k up ++ components p := by
    induction k with
    | zero => rfl
    | succ k ih =>
      have hstep : (List.replicate (k + 1) ("../" : Text)).flatten ++ p =
          up ++ '/' :: ((List.replicate k ("../" : Text)).flatten ++ p) := rfl
      rw [hstep, components_append, ih]
      rfl
  rw [climb]
  split
  · next hzero =>
    subst hzero
    exact components_append ['.'] p
  · exact hups k

theorem head?_climb_append (k : Nat) (p : Text) : (climb k ++ p).head? = some '.' := by
  cases k <;> rfl

/-- Every step up takes away the component added last. -/
theorem foldl_pushComponent_up (stack : List Text) (h : ∀ c ∈ stack, c ≠ up) (k : Nat) :
    (List.replicate k up).foldl (pushComponent true) stack = stack.drop k := by
  induction k generalizing stack with
  | zero => rfl
  | succ k ih =>
    rw [List.replicate_succ, List.foldl_cons]
    cases stack with
    | nil =>
      have hpush : pushComponent true [] up = [] := rfl
      rw [hpush, ih [] h]
      simp
    | cons c stack =>
      have hpush : pushComponent true (c :: stack) up = stack := by
        simp [pushComponent, h c List.mem_cons_self]
      rw [hpush, ih stack fun c hc => h c (List.mem_cons_of_mem _ hc)]
      rfl

/-- Going up and down again leaves the beginning of a path, and what was gone down. -/
theorem collapse_up (hcs : ∀ c ∈ cs, IsComponent c) (hnames : ∀ c ∈ names, IsComponent c) (k : Nat) :
    collapse true (cs ++ (List.replicate k up ++ names)) = cs.take (cs.length - k) ++ names := by
  have hstack : ∀ c ∈ cs.reverse ++ [], c ≠ up := by
    intro c hc
    exact (hcs c (by simpa using hc)).2.2.1
  rw [collapse, List.foldl_append, List.foldl_append, foldl_pushComponent fun c hc => (hcs c hc).2.2.1,
    foldl_pushComponent_up _ hstack, foldl_pushComponent fun c hc => (hnames c hc).2.2.1, List.reverse_append,
    List.reverse_reverse, List.append_nil, List.drop_reverse, List.reverse_reverse]

theorem joinComponents_concat_append (cs : List Text) (c ending : Text) :
    joinComponents (cs ++ [c ++ ending]) = joinComponents (cs ++ [c]) ++ ending := by
  by_cases hnil : cs = []
  · subst hnil
    rfl
  · rw [joinComponents_concat hnil, joinComponents_concat hnil, List.append_assoc, List.cons_append]

/-! ## What is seen from a folder -/

theorem rootOf_append (h : IsRoot slashes) {p : Text} (hp : p.head? ≠ some '/') : rootOf (slashes ++ p) = slashes := by
  rcases h with rfl | rfl
  · cases p with
    | nil => rfl
    | cons x xs =>
      have hx : x ≠ '/' := fun hx => hp (by rw [hx]; rfl)
      simp [rootOf, hx]
  · cases p with
    | nil => rfl
    | cons x xs =>
      have hx : x ≠ '/' := fun hx => hp (by rw [hx]; rfl)
      simp [rootOf, hx]

/-- What a way leads to that begins in a folder. -/
theorem absolute_join_of_head? (here : Text) (hroot : IsRoot slashes) (hcs : ∀ c ∈ cs, IsComponent c) {p : Text}
    (hp : p.head? ≠ some '/') :
    absolute here (join (rooted slashes cs) p) = rooted slashes (collapse true (cs ++ components p)) := by
  have hrelative : isAbsolute p = false := by simpa [isAbsolute] using hp
  have hempty : (rooted slashes cs).isEmpty = false := by simp [rooted, hroot.ne_nil]
  -- the slashes at the beginning are kept, and the components are added to those of the folder
  have hjoin : rootOf (join (rooted slashes cs) p) = slashes ∧
      components (join (rooted slashes cs) p) = cs ++ components p := by
    rw [join, hrelative, hempty]
    by_cases hnil : cs = []
    · subst hnil
      rcases hroot with rfl | rfl
      · exact ⟨rootOf_append (.inl rfl) hp, components_slash p⟩
      · exact ⟨rootOf_append (.inr rfl) hp, (components_slash _).trans (components_slash p)⟩
    · have hlast : ((rooted slashes cs).getLast? == some '/') = false := by simpa using getLast?_rooted hcs hnil
      have hhead : (joinComponents cs ++ '/' :: p).head? ≠ some '/' := by
        have hfirst := head?_joinComponents hcs
        cases hj : joinComponents cs with
        | nil => exact absurd ((components_joinComponents hcs).symm.trans (congrArg components hj)) hnil
        | cons x xs => rwa [hj] at hfirst
      simp only [hlast, Bool.false_or, Bool.false_eq_true, if_false]
      refine ⟨?_, by rw [components_append, components_rooted hroot hcs]⟩
      rw [rooted, List.append_assoc]
      exact rootOf_append hroot hhead
  have habs := isAbsolute_join (isAbsolute_rooted hroot cs) p
  rw [absolute, join_of_isAbsolute habs, normalize_eq_rooted habs, hjoin.1, hjoin.2]

/-- **Going up and then down leads to the names gone down, below what is left of the folder.** -/
theorem absolute_join_climb (here : Text) (hroot : IsRoot slashes) (hcs : ∀ c ∈ cs, IsComponent c)
    (hnames : ∀ c ∈ names, IsComponent c) (k : Nat) :
    absolute here (join (rooted slashes cs) (climb k ++ joinComponents names)) =
      rooted slashes (cs.take (cs.length - k) ++ names) := by
  rw [absolute_join_of_head? here hroot hcs (by rw [head?_climb_append]; decide), components_climb_append,
    components_joinComponents hnames, collapse_up hcs hnames]

/-! ## From one file to another one -/

/-- The way between two files, by their components. -/
theorem relative_rooted (hroot : IsRoot slashes) {g f : Text} (hg : ∀ c ∈ cs ++ [g], IsComponent c)
    (hf : ∀ c ∈ ds ++ [f], IsComponent c) :
    relative (rooted slashes (cs ++ [g])) (rooted slashes (ds ++ [f])) =
      climb (cs.length - (commonPart cs ds).length) ++
        joinComponents (ds.drop (commonPart cs ds).length ++ [f]) := by
  have hcs : ∀ c ∈ cs, IsComponent c := fun c hc => hg c (List.mem_append_left _ hc)
  have hds : ∀ c ∈ ds, IsComponent c := fun c hc => hf c (List.mem_append_left _ hc)
  have hshared : (commonPart cs ds).length ≤ ds.length :=
    (prefix_commonPart_iff.mp (List.prefix_refl (commonPart cs ds))).2.length_le
  simp only [relative, parent_rooted hroot hcs (hg g (by simp)), parent_rooted hroot hds (hf f (by simp)),
    components_rooted hroot hcs, components_rooted hroot hds, components_rooted hroot hf,
    List.drop_append_of_le_length hshared]

/-- **The way from one file to another one leads there.** -/
theorem absolute_join_relative (here : Text) (hroot : IsRoot slashes) {g f : Text}
    (hg : ∀ c ∈ cs ++ [g], IsComponent c) (hf : ∀ c ∈ ds ++ [f], IsComponent c) :
    absolute here (join (parent (rooted slashes (cs ++ [g])))
      (relative (rooted slashes (cs ++ [g])) (rooted slashes (ds ++ [f])))) = rooted slashes (ds ++ [f]) := by
  have hcs : ∀ c ∈ cs, IsComponent c := fun c hc => hg c (List.mem_append_left _ hc)
  obtain ⟨hfolder, hbelow⟩ := prefix_commonPart_iff.mp (List.prefix_refl (commonPart cs ds))
  have hnames : ∀ c ∈ ds.drop (commonPart cs ds).length ++ [f], IsComponent c := by
    intro c hc
    rcases List.mem_append.mp hc with hc | hc
    · exact hf c (List.mem_append_left _ (List.mem_of_mem_drop hc))
    · exact hf c (List.mem_append_right _ hc)
  have hleft : cs.length - (cs.length - (commonPart cs ds).length) = (commonPart cs ds).length :=
    Nat.sub_sub_self hfolder.length_le
  have htake : cs.take (commonPart cs ds).length = ds.take (commonPart cs ds).length :=
    (List.prefix_iff_eq_take.mp hfolder).symm.trans (List.prefix_iff_eq_take.mp hbelow)
  rw [relative_rooted hroot hg hf, parent_rooted hroot hcs (hg g (by simp)), absolute_join_climb here hroot hcs hnames,
    hleft, htake, ← List.append_assoc, List.take_append_drop]

/-- An ending of the imported file is an ending of the way to it. -/
theorem relative_append (hroot : IsRoot slashes) {g f ending : Text} (hg : ∀ c ∈ cs ++ [g], IsComponent c)
    (hf : ∀ c ∈ ds ++ [f], IsComponent c) (hlong : ∀ c ∈ ds ++ [f ++ ending], IsComponent c) :
    relative (rooted slashes (cs ++ [g])) (rooted slashes (ds ++ [f ++ ending])) =
      relative (rooted slashes (cs ++ [g])) (rooted slashes (ds ++ [f])) ++ ending := by
  rw [relative_rooted hroot hg hlong, relative_rooted hroot hg hf, joinComponents_concat_append, List.append_assoc]

end ImportChart.Path
