import ImportChart.Proofs.Tree.Glance

/-!
# Folders by their resolved paths

- `exists_rooted_of_resolve`: a path with its links resolved is a rooted one;
- `locate_name`: the place of a name in a folder, by the path of the folder with the name behind it.
-/

namespace ImportChart.Disk

open Path (IsRoot IsComponent rooted)

variable {d : Disk} {root : Entry} {p c slashes name resolved : Text} {names names' above cs : List Text}
  {todo : List Pending} {begins : Bool}

/-! ## Resolved paths -/

theorem slash_notMem_of_mem_steps (h : c ∈ steps p) : '/' ∉ c :=
  Text.notMem_of_mem_splitOn (List.mem_of_mem_drop h)

theorem isComponent_of_stays (hslash : '/' ∉ c) (hstays : stays c = false) (hup : c ≠ Path.up) : IsComponent c := by
  rw [stays, Bool.or_eq_false_iff, beq_eq_false_iff_ne, List.isEmpty_eq_false_iff] at hstays
  exact ⟨hstays.1, hstays.2, hup, hslash⟩

/-- What is left of a path adds no name but the components in it. -/
theorem mem_unresolved (h : c ∈ Pending.unresolved begins names todo) :
    c ∈ names ∨ Pending.component c ∈ todo ∧ stays c = false := by
  induction todo generalizing begins names with
  | nil => exact Or.inl h
  | cons next todo ih =>
    cases next with
    | targetEnd => exact (ih h).imp_right fun hc => ⟨List.mem_cons_of_mem _ hc.1, hc.2⟩
    | component step =>
      have hkept {begin : Bool} : c ∈ (if begin then [] else names) → c ∈ names := by
        cases begin with
        | false => exact id
        | true => exact fun hc => nomatch hc
      have hstep : c ∈ (if stays step then [] else [step]) → c = step ∧ stays step = false := by
        cases stays step with
        | false => exact fun hc => ⟨List.mem_singleton.mp hc, rfl⟩
        | true => exact fun hc => nomatch hc
      rcases ih h with hc | ⟨hc, hstays⟩
      · refine (List.mem_append.mp hc).imp hkept fun hc => ?_
        obtain ⟨rfl, hstays⟩ := hstep hc
        exact ⟨List.mem_cons_self, hstays⟩
      · exact Or.inr ⟨List.mem_cons_of_mem _ hc, hstays⟩

/-- The names that are left as a text are components once every `..` has gone. -/
theorem isComponent_collapse_unresolved (hnames : ∀ c ∈ names, IsComponent c)
    (htodo : ∀ c, Pending.component c ∈ todo → '/' ∉ c) :
    ∀ c ∈ Path.collapse true (Pending.unresolved begins names todo), IsComponent c := by
  intro c hc
  rw [Path.collapse, List.mem_reverse] at hc
  obtain ⟨hup, hmem⟩ := Path.mem_foldl_pushComponent _ [] (by simp) c hc
  rcases mem_unresolved (hmem.resolve_right (by simp)) with hc | ⟨hc, hstays⟩
  · exact hnames c hc
  · exact isComponent_of_stays (htodo c hc) hstays hup

/-- Resolving links leads to names that stand for themselves. -/
theorem isComponent_of_resolveFrom {links : Nat} {opened : List (List Text)} (hnames : ∀ c ∈ names, IsComponent c)
    (htodo : ∀ c, Pending.component c ∈ todo → '/' ∉ c)
    (h : resolveFrom root links opened names todo = .ok names') : ∀ c ∈ names', IsComponent c := by
  have hbehind {next : Pending} {rest : List Pending} (h : ∀ c, Pending.component c ∈ next :: rest → '/' ∉ c) :
      ∀ c, Pending.component c ∈ rest → '/' ∉ c := fun c hc => h c (List.mem_cons_of_mem _ hc)
  have hhere {names : List Text} {step : Text} {rest : List Pending} (hnames : ∀ c ∈ names, IsComponent c)
      (htodo : ∀ c, Pending.component c ∈ .component step :: rest → '/' ∉ c) (hstays : ¬stays step = true)
      (hup : step ≠ Path.up) : ∀ c ∈ names ++ [step], IsComponent c := by
    refine List.forall_mem_append.mpr ⟨hnames, List.forall_mem_singleton.mpr ?_⟩
    exact isComponent_of_stays (htodo step List.mem_cons_self) (eq_false_of_ne_true hstays) hup
  fun_induction resolveFrom root links opened names todo with
  | case1 => exact Except.ok.inj h ▸ hnames
  | case2 links opened names rest ih => exact ih hnames (hbehind htodo) h
  | case3 links opened names step rest hstays ih => exact ih hnames (hbehind htodo) h
  | case4 links opened names rest hstays ih =>
    exact ih (fun c hc => hnames c (List.dropLast_subset names hc)) (hbehind htodo) h
  | case5 => cases h
  | case6 links opened names step rest hstays hup hnul here l hget hopened =>
    exact Except.ok.inj h ▸ isComponent_collapse_unresolved (hhere hnames htodo hstays hup) (hbehind htodo)
  | case7 opened names step rest hstays hup hnul here l hget hopened =>
    exact Except.ok.inj h ▸ isComponent_collapse_unresolved (hhere hnames htodo hstays hup) (hbehind htodo)
  | case8 opened names step rest hstays hup hnul here l hget hopened links ih =>
    refine ih ?_ ?_ h
    · split
      · simp
      · exact hnames
    · intro c hc
      rcases List.mem_append.mp hc with hc | hc
      · obtain ⟨target, htarget, heq⟩ := List.mem_map.mp hc
        obtain rfl := Pending.component.inj heq
        exact slash_notMem_of_mem_steps htarget
      · rcases List.mem_cons.mp hc with hc | hc
        · cases hc
        · exact hbehind htodo c hc
  | case9 links opened names step rest hstays hup hnul here hget ih =>
    exact ih (hhere hnames htodo hstays hup) (hbehind htodo) h

/-- **A resolved path is a rooted one.** -/
theorem exists_rooted_of_resolve (h : d.resolve p = .ok resolved) :
    ∃ cs, (∀ c ∈ cs, IsComponent c) ∧ resolved = rooted "/" cs := by
  unfold resolve at h
  split at h
  · cases h
  · next names hnames =>
    refine ⟨names, isComponent_of_resolveFrom (List.forall_mem_nil _) (fun c hc => ?_) hnames, ?_⟩
    · obtain ⟨step, hstep, heq⟩ := List.mem_map.mp hc
      obtain rfl := Pending.component.inj heq
      exact slash_notMem_of_mem_steps hstep
    · dsimp only at h
      split at h
      · cases h
      · exact (Except.ok.inj h).symm

/-! ## Names in a folder -/

/-- **The place of a name in a folder** that may be searched, if the name is not that of a link. -/
theorem locate_name {making : Bool} (hs : IsRoot slashes) (hcs : ∀ c ∈ cs, IsComponent c) (hname : IsEntryName name)
    (hshort : (Utf8.encode (rooted slashes (cs ++ [name]))).length ≤ maxPathBytes) {entries : List (Text × Entry)}
    {folder : Access} (hroot : d.root.IsFolderAt [])
    (hfolder : d.place? (rooted slashes cs) = .ok (.occupied above (.folder entries folder)))
    (hsearch : folder.search = true) (hlink : ∀ l, d.root.get? (above ++ [name]) ≠ some (.link l)) :
    d.locate making (rooted slashes (cs ++ [name])) = .ok (placeAt d.root (above ++ [name])) := by
  have hnul : '\x00' ∉ rooted slashes (cs ++ [name]) := by
    intro hmem
    rcases Path.mem_rooted_append hmem with hmem | hmem | ⟨c, hc, hmem⟩
    · exact nul_notMem_of_leads (entry?_of_place? hfolder) hmem
    · exact absurd hmem (by decide)
    · exact hname.2.1 (List.mem_singleton.mp hc ▸ hmem)
  have hall : ∀ c ∈ cs ++ [name], IsComponent c :=
    List.forall_mem_append.mpr ⟨hcs, List.forall_mem_singleton.mpr hname.1⟩
  have haccess : d.root.accessAt above = folder := by rw [Entry.accessAt, get?_of_locate hroot hfolder]
  have hplace := hfolder
  rw [place?, locate_rooted hs hcs] at hplace
  split_ifs at hplace
  obtain ⟨-, links, hbelow⟩ := follow_append hplace
  rw [locate_rooted hs hall, if_neg hnul, if_neg (Nat.not_lt.mpr hshort), hbelow making [name] (by simp [hname.1.1])]
  exact follow_last (haccess ▸ hsearch) (stays_eq_false hname.1) hname.1.2.2.1 hname.2.2 hlink

end ImportChart.Disk
