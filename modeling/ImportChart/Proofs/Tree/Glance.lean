import ImportChart.Proofs.Tree.Files

/-!
# What a change of one place does not show

A look at a path tells what it leads to, but not what is in a folder, and not why nothing is there. After a change of
one place every look is the same, but for the paths that lead to this place.

- `Disk.glance`: a look at a path; `isFile_eq_glance` reads off it whether there is a file;
- `Disk.LeadsAt`: the names that a path leads to, which no change of one place moves (`ChangedAt.leadsAt`);
- `ChangedAt.glance_eq`, `ChangedAt.resolve_eq`: what a look shows, and how links are resolved, after a change;
- `Entry.Unlinked`: a tree without links, in which a path leads to the names that are written in it
  (`names_of_place?_append`).
-/

namespace ImportChart

open Path (IsRoot IsComponent rooted)

namespace Entry

variable {t t' : Entry} {names target : List Text}

/-- There are no links in a tree. -/
inductive Unlinked : Entry → Prop
  | file (content : Bytes) (access : Access) : Unlinked (.file content access)
  | folder {entries : List (Text × Entry)} {access : Access} (below : ∀ p ∈ entries, Unlinked p.2) :
      Unlinked (.folder entries access)

theorem unlinked_of_folder {entries : List (Text × Entry)} {access : Access} (h : Unlinked (.folder entries access)) :
    ∀ p ∈ entries, Unlinked p.2 := by
  cases h with
  | folder hbelow => exact hbelow

theorem Unlinked.filter {entries : List (Text × Entry)} {access : Access} (h : Unlinked (.folder entries access))
    (keep : Text × Entry → Bool) : Unlinked (.folder (entries.filter keep) access) :=
  .folder fun p hp => unlinked_of_folder h p (List.mem_of_mem_filter hp)

theorem SameBut.symm (h : SameBut target t t') : SameBut target t' t := fun names hne => (h names hne).symm

end Entry

namespace Disk

open Entry (IsFolderAt SameBut)

variable {root root' : Entry} {making : Bool} {links : Nat} {names todo target above cs : List Text} {d d' : Disk}
  {p slashes : Text} {cause : Cause} {place : Place}

/-! ## Errors -/

/-- **After a change of one place a path that cannot be followed fails as before**, unless it fails for what is not
there. -/
theorem follow_error_sameBut (hsame : SameBut target root root') (hbefore : ¬root.IsFolderAt target)
    (hlink : ∀ l, root.get? target ≠ some (.link l)) (hnames : root.IsFolderAt names)
    (h : follow root making links names todo = .error cause) (hmissing : cause ≠ .missing)
    (hfolder : cause ≠ .notFolder) : follow root' making links names todo = .error cause := by
  have haccess : ∀ {names : List Text}, root.IsFolderAt names → root'.accessAt names = root.accessAt names := by
    intro names hfolder
    exact hsame.accessAt_eq fun heq => hbefore (heq ▸ hfolder)
  have hsame? : ∀ {names : List Text} {l : Text}, root.get? names = some (.link l) →
      root'.get? names = some (.link l) := by
    intro names l hget
    rw [hsame.get?_eq (fun heq => hlink l (heq ▸ hget)) (Entry.not_isFolderAt_of_get? hget (by simp)), hget]
  fun_induction follow root making links names todo with
  | case2 links names step rest hsearch =>
    rw [follow, haccess hnames, if_pos hsearch]
    exact h
  | case3 links names step rest hsearch hstays ih =>
    rw [follow, haccess hnames, if_neg hsearch, if_pos hstays]
    exact ih hnames h
  | case4 links names rest hsearch hstays ih =>
    rw [follow, haccess hnames, if_neg hsearch, if_neg hstays, if_pos rfl]
    exact ih hnames.dropLast h
  | case5 links names step rest hsearch hstays hup htrailing =>
    rw [follow, haccess hnames, if_neg hsearch, if_neg hstays, if_neg hup, if_pos htrailing]
    exact h
  | case6 links names step rest hsearch hstays hup htrailing hlong =>
    rw [follow, haccess hnames, if_neg hsearch, if_neg hstays, if_neg hup, if_neg htrailing, if_pos hlong]
    exact h
  | case8 => exact absurd (Except.error.inj h).symm hmissing
  | case9 links names step rest hsearch hstays hup htrailing hshort entries access hget ih =>
    have hnot : names ++ [step] ≠ target := fun heq => hbefore (heq ▸ ⟨entries, access, hget⟩)
    obtain ⟨entries', access', hget'⟩ := hsame.isFolderAt hnot ⟨entries, access, hget⟩
    rw [follow, haccess hnames, if_neg hsearch, if_neg hstays, if_neg hup, if_neg htrailing, if_neg hshort, hget']
    exact ih ⟨entries, access, hget⟩ h
  | case11 => exact absurd (Except.error.inj h).symm hfolder
  | case12 names step rest hsearch hstays hup htrailing hshort l hget =>
    rw [follow, haccess hnames, if_neg hsearch, if_neg hstays, if_neg hup, if_neg htrailing, if_neg hshort, hsame? hget]
    exact h
  | case13 names step rest hsearch hstays hup htrailing hshort l hget links ih =>
    rw [follow, haccess hnames, if_neg hsearch, if_neg hstays, if_neg hup, if_neg htrailing, if_neg hshort, hsame? hget]
    refine ih ?_ h
    split
    · exact hnames.nil
    · exact hnames
  | _ => cases h

/-! ## Looks -/

/-- What a look at a path shows: what it leads to, without what is in a folder, and no difference between the ways in
which nothing is there. -/
def glance (d : Disk) (p : Text) : Except Cause Entry :=
  match d.place? p with
  | .ok (.occupied _ e) => .ok e.surface
  | .ok (.free _) => .error .missing
  | .error .notFolder => .error .missing
  | .error cause => .error cause

theorem isFile_eq_glance (d : Disk) (p : Text) : d.isFile p =
    match d.glance p with
    | .ok (.file _ _) => true
    | _ => false := by
  unfold isFile entry? glance
  cases d.place? p with
  | ok place =>
    cases place with
    | free => rfl
    | occupied names e => cases e <;> rfl
  | error cause => cases cause <;> rfl

theorem lists_eq_glance (d : Disk) (p : Text) : d.lists p =
    match d.glance p with
    | .ok (.folder _ access) => access.read
    | _ => false := by
  unfold lists entry? glance
  cases d.place? p with
  | ok place =>
    cases place with
    | free => rfl
    | occupied names e => cases e <;> rfl
  | error cause => cases cause <;> rfl

theorem entry?_eq_linkLoop_iff (d : Disk) (p : Text) :
    d.entry? p = .error .linkLoop ↔ d.place? p = .error .linkLoop := by
  unfold entry?
  cases d.place? p with
  | ok place => cases place <;> simp
  | error cause => simp

theorem glance_of_error (h : d.place? p = .error cause) (hsoft : cause = .missing ∨ cause = .notFolder) :
    d.glance p = .error .missing := by
  rw [glance, h]
  rcases hsoft with rfl | rfl <;> rfl

/-- A path leads to names, whether something is there or not. -/
def LeadsAt (d : Disk) (p : Text) (names : List Text) : Prop := ∃ place, d.place? p = .ok place ∧ place.names = names

namespace ChangedAt

/-- A change can be taken back, if it has made no folder. -/
theorem symm (h : ChangedAt target d d') (hstill : ¬d'.root.IsFolderAt target) : ChangedAt target d' d :=
  ⟨h.here.symm, h.same.symm, hstill, h.still_no_link, h.no_link⟩

/-- A path leads to the names that it led to before the change. -/
theorem leadsAt (h : ChangedAt target d d') (hroot : d.root.IsFolderAt []) (hleads : d.LeadsAt p names) :
    d'.LeadsAt p names := by
  obtain ⟨place, hplace, rfl⟩ := hleads
  refine ⟨_, h.locate hroot hplace, ?_⟩
  unfold placeAt
  split <;> rfl

theorem locate_error (h : ChangedAt target d d') (hroot : d.root.IsFolderAt [])
    (hlocate : d.locate making p = .error cause) (hmissing : cause ≠ .missing) (hfolder : cause ≠ .notFolder) :
    d'.locate making p = .error cause := by
  unfold Disk.locate at hlocate ⊢
  rw [h.here]
  split_ifs at hlocate ⊢
  · exact hlocate
  · exact hlocate
  · exact hlocate
  · exact follow_error_sameBut h.same h.no_folder h.no_link hroot hlocate hmissing hfolder

/-- **A look at a path shows what it showed before the change**, if the path does not lead to the changed place. -/
theorem glance_eq (h : ChangedAt target d d') (hback : ChangedAt target d' d) (hroot : d.root.IsFolderAt [])
    (hp : ¬d.LeadsAt p target) : d'.glance p = d.glance p := by
  have hroot' := h.isFolderAt hroot
  cases hplace : d.place? p with
  | ok place =>
    have hne : place.names ≠ target := fun heq => hp ⟨place, hplace, heq⟩
    cases found_of_locate hroot hplace with
    | folder _ =>
      obtain ⟨entries', hplace'⟩ := h.place?_folder hroot hplace
      rw [glance, glance, hplace, hplace']
      rfl
    | file _ _ => rw [glance, glance, hplace, h.place?_file hroot hplace hne]
    | @free above name _ hget =>
      have hsame : d'.root.get? (above ++ [name]) = d.root.get? (above ++ [name]) :=
        h.same.get?_eq hne (Entry.not_isFolderAt_of_get? hget (by simp))
      have hplace' : d'.place? p = .ok (placeAt d'.root (above ++ [name])) := h.locate hroot hplace
      rw [placeAt, hsame, hget] at hplace'
      rw [glance, glance, hplace, hplace']
  | error cause =>
    by_cases hsoft : cause = .missing ∨ cause = .notFolder
    · rw [glance_of_error hplace hsoft]
      cases hplace' : d'.place? p with
      | ok place' =>
        -- then the path would lead somewhere before the change as well
        have hbefore : d.place? p = _ := hback.locate hroot' hplace'
        rw [hplace] at hbefore
        cases hbefore
      | error cause' =>
        refine glance_of_error hplace' ?_
        by_contra hhard
        rw [not_or] at hhard
        have hbefore : d.place? p = _ := hback.locate_error hroot' hplace' hhard.1 hhard.2
        rw [hplace] at hbefore
        exact not_or.mpr hhard (Except.error.inj hbefore ▸ hsoft)
    · rw [not_or] at hsoft
      have hplace' : d'.place? p = .error cause := h.locate_error hroot hplace hsoft.1 hsoft.2
      rw [glance, glance, hplace, hplace']

end ChangedAt

/-! ## Resolving links -/

/-- Links are resolved by what is known of the links, and by nothing else. -/
theorem resolveFrom_congr (h : ∀ names, linkAt? root' names = linkAt? root names) (links : Nat)
    (opened : List (List Text)) (names : List Text) (todo : List Pending) :
    resolveFrom root' links opened names todo = resolveFrom root links opened names todo := by
  fun_induction resolveFrom root links opened names todo with
  | case1 => rw [resolveFrom]
  | case2 links opened names rest ih => rw [resolveFrom, ih]
  | case3 links opened names step rest hstays ih => rw [resolveFrom, if_pos hstays, ih]
  | case4 links opened names rest hstays ih => rw [resolveFrom, if_neg hstays, if_pos rfl, ih]
  | case5 links opened names step rest hstays hup hnul =>
    rw [resolveFrom, if_neg hstays, if_neg hup, if_pos hnul]
  | case6 links opened names step rest hstays hup hnul here l hlink hopened =>
    have hlink' : linkAt? root' (names ++ [step]) = some l := (h _).trans hlink
    rw [resolveFrom, if_neg hstays, if_neg hup, if_neg hnul]
    simp only [hlink']
    exact if_pos hopened
  | case7 opened names step rest hstays hup hnul here l hlink hopened =>
    have hlink' : linkAt? root' (names ++ [step]) = some l := (h _).trans hlink
    rw [resolveFrom, if_neg hstays, if_neg hup, if_neg hnul]
    simp only [hlink']
    exact if_neg hopened
  | case8 opened names step rest hstays hup hnul here l hlink hopened links ih =>
    have hlink' : linkAt? root' (names ++ [step]) = some l := (h _).trans hlink
    rw [resolveFrom, if_neg hstays, if_neg hup, if_neg hnul]
    simp only [hlink', dite_eq_ite] at ih ⊢
    exact (if_neg hopened).trans ih
  | case9 links opened names step rest hstays hup hnul here hlink ih =>
    have hlink' : linkAt? root' (names ++ [step]) = none := (h _).trans hlink
    rw [resolveFrom, if_neg hstays, if_neg hup, if_neg hnul]
    simp only [hlink']
    exact ih

namespace ChangedAt

theorem get?_link (h : ChangedAt target d d') {l : Text} (hget : d.root.get? names = some (.link l)) :
    d'.root.get? names = some (.link l) := by
  have hne : names ≠ target := fun heq => h.no_link l (heq ▸ hget)
  rw [h.same.get?_eq hne (Entry.not_isFolderAt_of_get? hget (by simp)), hget]

/-- What is known of a link does not change, as the folders on the way to it keep their rights. -/
theorem linkAt?_of_link (h : ChangedAt target d d') {l : Text} (hget : d.root.get? names = some (.link l)) :
    linkAt? d'.root names = linkAt? d.root names := by
  have haccess : ∀ n ∈ List.range names.length, (d'.root.accessAt (names.take n)).search =
      (d.root.accessAt (names.take n)).search := by
    intro n hn
    have hfolder := Entry.isFolderAt_take hget (List.mem_range.mp hn)
    rw [h.same.accessAt_eq fun heq => h.no_folder (heq ▸ hfolder)]
  have hall : (List.range names.length).all (fun n => (d'.root.accessAt (names.take n)).search) =
      (List.range names.length).all fun n => (d.root.accessAt (names.take n)).search := by
    rw [Bool.eq_iff_iff, List.all_eq_true, List.all_eq_true]
    exact forall₂_congr fun n hn => by rw [haccess n hn]
  rw [linkAt?, linkAt?, hget, h.get?_link hget, hall]

theorem linkAt?_eq (h : ChangedAt target d d') (hback : ChangedAt target d' d) (names : List Text) :
    linkAt? d'.root names = linkAt? d.root names := by
  by_cases hlink : ∃ l, d.root.get? names = some (.link l)
  · exact h.linkAt?_of_link hlink.choose_spec
  · by_cases hlink' : ∃ l, d'.root.get? names = some (.link l)
    · exact (hback.linkAt?_of_link hlink'.choose_spec).symm
    · have hnone : ∀ {root : Entry}, (¬∃ l, root.get? names = some (.link l)) → linkAt? root names = none := by
        intro root hno
        unfold linkAt?
        split
        · next hget => exact absurd ⟨_, hget⟩ hno
        · rfl
      rw [hnone hlink, hnone hlink']

/-- **The links of a path are resolved as before the change.** -/
theorem resolve_eq (h : ChangedAt target d d') (hback : ChangedAt target d' d) (hroot : d.root.IsFolderAt [])
    (p : Text) : d'.resolve p = d.resolve p := by
  have hloop : ∀ q, d'.entry? q = .error .linkLoop ↔ d.entry? q = .error .linkLoop := by
    intro q
    rw [entry?_eq_linkLoop_iff, entry?_eq_linkLoop_iff]
    exact ⟨fun hq => hback.locate_error (h.isFolderAt hroot) hq (by decide) (by decide),
      fun hq => h.locate_error hroot hq (by decide) (by decide)⟩
  rw [resolve, resolve, h.here, resolveFrom_congr (h.linkAt?_eq hback)]
  split
  · rfl
  · next names _ =>
    by_cases hq : d.entry? ('/' :: Text.joinWith "/" names) = .error .linkLoop
    · simp only [hq, (hloop _).mpr hq]
    · have hq' := mt (hloop _).mp hq
      dsimp only
      split
      · contradiction
      · rfl

end ChangedAt

/-! ## Trees without links -/

/-- Where there are no links, steps lead to the names that are written in them. -/
theorem names_of_follow {t : Entry} (hget : root.get? above = some t) (ht : t.Unlinked)
    (hnames : ∀ c ∈ names, IsComponent c) (h : follow root making links above names = .ok place) :
    place.names = above ++ names := by
  induction names generalizing above t with
  | nil =>
    rw [follow] at h
    rw [← Except.ok.inj h, Place.names, List.append_nil]
  | cons name names ih =>
    obtain ⟨hname, hnames⟩ := List.forall_mem_cons.mp hnames
    rw [follow] at h
    split at h
    · cases h
    rw [stays_eq_false hname, if_neg Bool.false_ne_true, if_neg hname.2.2.1] at h
    split at h
    · cases h
    split at h
    · cases h
    cases hstep : root.get? (above ++ [name]) with
    | none =>
      simp only [hstep] at h
      split_ifs at h with hempty
      rw [List.isEmpty_iff.mp hempty, ← Except.ok.inj h, Place.names]
    | some e =>
      have he : e.Unlinked := by
        rw [Entry.get?_append, hget] at hstep
        exact Entry.get?_induction (fun _ _ => Entry.unlinked_of_folder) ht hstep
      cases e with
      | file content access =>
        simp only [hstep] at h
        split_ifs at h with hempty
        rw [List.isEmpty_iff.mp hempty, ← Except.ok.inj h, Place.names]
      | folder entries access =>
        simp only [hstep] at h
        rw [ih hstep he hnames h, List.append_assoc, List.singleton_append]
      | link l => cases he

/-- **Below a folder without links, a path leads to the names that are written in it.** -/
theorem names_of_place?_append {entries : List (Text × Entry)} {access : Access} (hs : IsRoot slashes)
    (hcs : ∀ c ∈ cs, IsComponent c) (hnames : ∀ c ∈ names, IsComponent c)
    (hfolder : d.place? (rooted slashes cs) = .ok (.occupied above (.folder entries access)))
    (hget : d.root.get? above = some (.folder entries access)) (hlinks : (Entry.folder entries access).Unlinked)
    (h : d.place? (rooted slashes (cs ++ names)) = .ok place) : place.names = above ++ names := by
  have hbelow : ∀ c ∈ cs ++ names, IsComponent c := by
    intro c hc
    rcases List.mem_append.mp hc with hc | hc
    · exact hcs c hc
    · exact hnames c hc
  rw [place?, locate_rooted hs hcs] at hfolder
  rw [place?, locate_rooted hs hbelow] at h
  split_ifs at hfolder h
  obtain ⟨-, links, hrest⟩ := follow_append hfolder
  rw [hrest false names rfl] at h
  exact names_of_follow hget hlinks hnames h

end Disk

end ImportChart
