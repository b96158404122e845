import ImportChart.Proofs.Scan.Tree

/-!
# Looking up what is below a folder

A path below a folder is followed like the path of the folder first, and from there through the tree.

- `follow_append`: once a path has led to a folder, what stands behind it is followed from there;
- `follow_of_get?`: the names of a file in the tree lead to this file, unless a folder on the way may not be searched;
- `Disk.LeadsTo`: a path leads to a folder; `LeadsTo.lookup_file` says that the path of a file below it leads to this
  file, or that looking it up is a fault.
-/

namespace ImportChart

open Path (IsRoot IsComponent rooted)

namespace Disk

variable {root t e : Entry} {links : Nat} {name : Text} {names todo names' rest : List Text}
  {entries : List (Text × Entry)} {access : Access} {content : Bytes}

/-! ## One step -/

theorem follow_empty (root : Entry) (making : Bool) (links : Nat) (names rest : List Text) :
    follow root making links names ([] :: rest) = follow root making links names rest := by
  have hstays : stays [] = true := rfl
  rw [follow, if_neg (by simp), if_pos hstays]

theorem stays_eq_false (h : IsComponent name) : stays name = false := by
  obtain ⟨hne, hpoint, -, -⟩ := h
  simp [stays, hne, hpoint]

/-- A folder that may not be searched is not passed through. -/
theorem follow_noRight {making : Bool} (hname : IsComponent name) (h : (root.accessAt names).search = false)
    (rest : List Text) : follow root making links names (name :: rest) = .error .noRight := by
  rw [follow, if_pos (by simp [hname.1, h])]

theorem follow_folder (hname : IsEntryName name) (hsearch : (root.accessAt names).search = true)
    (hget : root.get? (names ++ [name]) = some (.folder entries access)) (rest : List Text) :
    follow root false links names (name :: rest) = follow root false links (names ++ [name]) rest := by
  rw [follow]
  simp [stays_eq_false hname.1, hsearch, hname.1.2.2.1, Nat.not_lt.mpr hname.2.2, hget]

theorem follow_file (hname : IsEntryName name) (hsearch : (root.accessAt names).search = true)
    (hget : root.get? (names ++ [name]) = some (.file content access)) :
    follow root false links names [name] = .ok (.occupied (names ++ [name]) (.file content access)) := by
  rw [follow]
  simp [stays_eq_false hname.1, hsearch, hname.1.2.2.1, Nat.not_lt.mpr hname.2.2, hget]

/-! ## Whole paths -/

/-- A path to something with a name does not end in slashes. -/
theorem making_and_isTrailing {making : Bool} {rest : List Text} (hrest : (making && rest.all List.isEmpty) = false)
    (before : List Text) : (making && isTrailing (before ++ rest)) = false := by
  cases making with
  | false => rfl
  | true =>
    have hall : rest.all List.isEmpty = false := hrest
    simp [isTrailing, List.all_append, hall]

/-- **Behind a path to a folder, the rest is followed from there.** -/
theorem follow_append (h : follow root false links names todo = .ok (.occupied names' (.folder entries access))) :
    (root.get? names').getD .emptyFolder = .folder entries access ∧
      ∃ links', ∀ making rest, (making && rest.all List.isEmpty) = false →
        follow root making links names (todo ++ rest) = follow root making links' names' rest := by
  -- the cases are the steps that lead on; every other step ends the way at something that is no folder
  fun_induction follow root false links names todo with
  | case1 links names =>
    obtain ⟨rfl, hget⟩ := Place.occupied.inj (Except.ok.inj h)
    exact ⟨hget, links, fun making rest _ => rfl⟩
  | case3 links names step todo hsearch hstays ih =>
    obtain ⟨hget, links', hrest⟩ := ih h
    refine ⟨hget, links', fun making rest hname => ?_⟩
    rw [List.cons_append, follow, if_neg hsearch, if_pos hstays, hrest making rest hname]
  | case4 links names todo hsearch hstays ih =>
    obtain ⟨hget, links', hrest⟩ := ih h
    refine ⟨hget, links', fun making rest hname => ?_⟩
    rw [List.cons_append, follow, if_neg hsearch, if_neg hstays, if_pos rfl, hrest making rest hname]
  | case9 links names step todo hsearch hstays hup _ hshort _ _ hget ih =>
    obtain ⟨hget', links', hrest⟩ := ih h
    refine ⟨hget', links', fun making rest hname => ?_⟩
    rw [List.cons_append, follow, if_neg hsearch, if_neg hstays, if_neg hup, making_and_isTrailing hname,
      if_neg Bool.false_ne_true, if_neg hshort, hget]
    exact hrest making rest hname
  | case13 names step todo hsearch hstays hup _ hshort target hget links ih =>
    obtain ⟨hget', links', hrest⟩ := ih h
    refine ⟨hget', links', fun making rest hname => ?_⟩
    rw [List.cons_append, follow, if_neg hsearch, if_neg hstays, if_neg hup, making_and_isTrailing hname,
      if_neg Bool.false_ne_true, if_neg hshort, hget]
    have hbehind := hrest making rest hname
    rw [List.append_assoc] at hbehind
    exact hbehind
  | _ => cases h

theorem proper_of_follow {making : Bool} (hroot : root.Proper)
    (h : follow root making links names todo = .ok (.occupied names' e)) : e.Proper := by
  fun_induction follow root making links names todo with
  | case1 links names =>
    obtain ⟨-, rfl⟩ := Place.occupied.inj (Except.ok.inj h)
    cases hget : root.get? names with
    | none =>
      -- a way up can lead to where nothing is, which counts as an empty folder
      exact .folder (by simp) List.Pairwise.nil (by simp)
    | some e =>
      exact Entry.get?_induction
        (fun entries access hfolder => by cases hfolder with | folder _ _ hbelow => exact hbelow) hroot hget
  | case3 _ _ _ _ _ _ ih => exact ih h
  | case4 _ _ _ _ _ ih => exact ih h
  | case9 _ _ _ _ _ _ _ _ _ _ _ _ ih => exact ih h
  | case10 =>
    obtain ⟨-, rfl⟩ := Place.occupied.inj (Except.ok.inj h)
    exact .file _ _
  | case13 _ _ _ _ _ _ _ _ _ _ _ ih => exact ih h
  | _ => cases h

/-- **The names of a file lead to this file**, unless a folder on the way may not be searched. -/
theorem follow_of_get? (hnames : ∀ c ∈ todo, IsEntryName c) (hne : todo ≠ []) (ht : root.get? names = some t)
    (h : t.get? todo = some (.file content access)) :
    follow root false links names todo = .ok (.occupied (names ++ todo) (.file content access)) ∨
      follow root false links names todo = .error .noRight := by
  induction todo generalizing names t with
  | nil => exact absurd rfl hne
  | cons name rest ih =>
    obtain ⟨hname, hrest⟩ := List.forall_mem_cons.mp hnames
    cases hsearch : (root.accessAt names).search with
    | false => exact Or.inr (follow_noRight hname.1 hsearch rest)
    | true =>
      obtain ⟨sub, hchild, hsub⟩ := Option.bind_eq_some_iff.mp h
      have hget : root.get? (names ++ [name]) = some sub := by
        rw [Entry.get?_append, ht]
        exact congrArg (Option.bind · (Entry.get? [])) hchild
      cases rest with
      | nil =>
        obtain rfl := Option.some.inj hsub
        exact Or.inl (follow_file hname hsearch hget)
      | cons next rest =>
        cases sub with
        | folder entries' access' =>
          have hbelow := ih hrest (List.cons_ne_nil _ _) hget hsub
          rw [List.append_assoc, List.singleton_append] at hbelow
          rwa [follow_folder hname hsearch hget]
        | _ => cases hsub

/-! ## What is asked for -/

variable {d : Disk} {slashes p : Text} {cs : List Text}

theorem probe_eq_some_iff : d.probe p = .ok (some e) ↔ d.entry? p = .ok e := by
  unfold probe
  cases d.entry? p with
  | ok found => simp
  | error cause => cases hfault : cause.isFault <;> simp [hfault]

theorem probe_eq_error_iff {f : Fault} :
    d.probe p = .error f ↔ ∃ cause, d.entry? p = .error cause ∧ cause.isFault = true ∧ f = ⟨cause, p⟩ := by
  unfold probe
  split
  · next hentry => simp [hentry]
  · next cause hentry => cases hfault : cause.isFault <;> simp [hentry, hfault, @eq_comm _ f]

theorem read_eq_ok_iff {content : Bytes} :
    d.read p = .ok content ↔ ∃ access, d.entry? p = .ok (.file content access) ∧ access.read = true := by
  unfold read
  split
  · next content' access hentry => cases hread : access.read <;> simp [hentry, hread]
  · next hother hentry =>
    refine ⟨(nomatch ·), ?_⟩
    rintro ⟨access, hfile, -⟩
    exact absurd (Except.ok.inj (hentry.symm.trans hfile)) (hother content access)
  · next hentry => simp [hentry]

theorem isFile_iff : d.isFile p = true ↔ ∃ content access, d.entry? p = .ok (.file content access) := by
  unfold isFile
  split
  · next hentry => simp [hentry]
  · next hother =>
    refine ⟨(nomatch ·), ?_⟩
    rintro ⟨content, access, hentry⟩
    exact absurd hentry (hother content access)

/-! ## Rooted paths -/

theorem nul_notMem_of_leads (h : d.entry? p = .ok e) : '\x00' ∉ p := by
  intro hmem
  have hany : p.any (· == '\x00') = true := List.any_eq_true.mpr ⟨_, hmem, rfl⟩
  unfold entry? place? locate at h
  rw [if_pos hany] at h
  cases h

theorem length_le_of_leads (h : d.entry? p = .ok e) : (Utf8.encode p).length ≤ maxPathBytes := by
  rw [← Nat.not_lt]
  intro hlong
  unfold entry? place? locate at h
  rw [if_pos hlong] at h
  split_ifs at h

theorem proper_of_leads (hdisk : d.root.Proper) (h : d.entry? p = .ok e) : e.Proper := by
  unfold entry? place? locate at h
  split_ifs at h
  split at h
  · next hfollow =>
    rw [← Except.ok.inj h]
    exact proper_of_follow hdisk hfollow
  · cases h
  · cases h

/-- The slashes at the beginning of a path are steps that stay. -/
theorem follow_steps_rooted {making : Bool} (hroot : IsRoot slashes) (hcs : ∀ c ∈ cs, IsComponent c) :
    follow root making links names (steps (rooted slashes cs)) = follow root making links names cs := by
  have hsplit : follow root making links names (Text.splitOn '/' (Path.joinComponents cs)) =
      follow root making links names cs := by
    cases cs with
    | nil => exact follow_empty root making links names []
    | cons c rest =>
      rw [Path.joinComponents, Text.splitOn_joinWith (List.cons_ne_nil _ _) fun c hc => (hcs c hc).2.2.2]
  rw [← hsplit, steps, Path.isAbsolute_rooted hroot]
  rcases hroot with rfl | rfl
  · rfl
  · exact follow_empty root making links names _

/-- A rooted path is followed, unless it cannot be looked up at all. -/
theorem locate_rooted {making : Bool} (hroot : IsRoot slashes) (hcs : ∀ c ∈ cs, IsComponent c) :
    d.locate making (rooted slashes cs) =
      if '\x00' ∈ rooted slashes cs then .error .nulCharacter
      else if maxPathBytes < (Utf8.encode (rooted slashes cs)).length then .error .nameTooLong
      else follow d.root making maxLinks [] cs := by
  have habs := Path.isAbsolute_rooted hroot cs
  have hany : (rooted slashes cs).any (· == '\x00') = true ↔ '\x00' ∈ rooted slashes cs := by simp
  have hne : (rooted slashes cs).isEmpty = false := by
    cases hp : rooted slashes cs with
    | nil => rw [hp] at habs; cases habs
    | cons => rfl
  rw [locate, hne, Path.join_of_isAbsolute habs, follow_steps_rooted hroot hcs]
  simp only [hany, Bool.false_eq_true, if_false]

theorem place?_rooted (hroot : IsRoot slashes) (hcs : ∀ c ∈ cs, IsComponent c)
    (hnul : '\x00' ∉ rooted slashes cs) (hshort : (Utf8.encode (rooted slashes cs)).length ≤ maxPathBytes) :
    d.place? (rooted slashes cs) = follow d.root false maxLinks [] cs := by
  rw [place?, locate_rooted hroot hcs, if_neg hnul, if_neg (Nat.not_lt.mpr hshort)]

/-! ## Below a folder -/

/-- A path leads to a folder. -/
structure LeadsTo (d : Disk) (slashes : Text) (cs : List Text) (t : Entry) : Prop where
  isRoot : IsRoot slashes
  isComponent : ∀ c ∈ cs, IsComponent c
  entry : d.entry? (rooted slashes cs) = .ok t
  isFolder : t.isFolder = true

namespace LeadsTo

/-- A path further down is followed from the folder, unless it is too long. -/
theorem place?_append (h : d.LeadsTo slashes cs t) (hnames : ∀ c ∈ names, IsEntryName c) :
    ∃ links above, (d.root.get? above).getD .emptyFolder = t ∧
      (d.place? (rooted slashes (cs ++ names)) = .error .nameTooLong ∨
        d.place? (rooted slashes (cs ++ names)) = follow d.root false links above names) := by
  obtain ⟨entries, access, rfl⟩ : ∃ entries access, t = .folder entries access := by
    have hfolder := h.isFolder
    cases t <;> simp [Entry.isFolder] at hfolder ⊢
  have hfollow : ∃ above, follow d.root false maxLinks [] cs = .ok (.occupied above (.folder entries access)) := by
    rw [← place?_rooted h.isRoot h.isComponent (nul_notMem_of_leads h.entry) (length_le_of_leads h.entry)]
    have hentry := h.entry
    unfold entry? at hentry
    split at hentry
    · next above _ hplace => exact ⟨above, by rw [hplace, Except.ok.inj hentry]⟩
    · cases hentry
    · cases hentry
  obtain ⟨above, hfollow⟩ := hfollow
  obtain ⟨hget, links, hrest⟩ := follow_append hfollow
  have hcomponents : ∀ c ∈ cs ++ names, IsComponent c := by
    intro c hc
    rcases List.mem_append.mp hc with hc | hc
    · exact h.isComponent c hc
    · exact (hnames c hc).1
  have hnul : '\x00' ∉ rooted slashes (cs ++ names) := by
    intro hmem
    rcases Path.mem_rooted_append hmem with hmem | hmem | ⟨c, hc, hmem⟩
    · exact nul_notMem_of_leads h.entry hmem
    · exact absurd hmem (by decide)
    · exact (hnames c hc).2.1 hmem
  refine ⟨links, above, hget, ?_⟩
  rw [place?, locate_rooted h.isRoot hcomponents, if_neg hnul, hrest false names rfl]
  split
  · exact Or.inl rfl
  · exact Or.inr rfl

/-- **The path of a file below the folder leads to this file**, or it is a fault to look it up. -/
theorem lookup_file (h : d.LeadsTo slashes cs t) (hnames : ∀ c ∈ names, IsEntryName c) (hne : names ≠ [])
    (hget : t.get? names = some (.file content access)) :
    d.entry? (rooted slashes (cs ++ names)) = .ok (.file content access) ∨
      ∃ cause, d.entry? (rooted slashes (cs ++ names)) = .error cause ∧ cause.isFault = true := by
  obtain ⟨links, above, habove, hplace⟩ := h.place?_append hnames
  have habove : d.root.get? above = some t := by
    cases hroot : d.root.get? above with
    | some t' => rw [hroot] at habove; exact congrArg some habove
    | none =>
      -- then the folder is empty, and there is no file in it
      rw [hroot] at habove
      subst habove
      obtain ⟨name, rest, rfl⟩ := List.exists_cons_of_ne_nil hne
      cases hget
  unfold entry?
  rcases hplace with hlong | hplace
  · exact Or.inr ⟨.nameTooLong, by rw [hlong], rfl⟩
  · rw [hplace]
    rcases follow_of_get? hnames hne habove hget with hfollow | hfollow
    · exact Or.inl (by rw [hfollow])
    · exact Or.inr ⟨.noRight, by rw [hfollow], rfl⟩

end LeadsTo

end Disk

end ImportChart
