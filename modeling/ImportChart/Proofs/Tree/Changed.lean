import ImportChart.Proofs.Scan.Lookup

/-!
# Following paths after a change

Writing a file, making a folder and removing a file change what one list of names leads to. Every path is followed as
before, up to the place that was changed.

- `Entry.SameBut`: two trees differ at one place only; `Entry.sameBut_put` and `Entry.sameBut_erase` say so of a change
  in a folder;
- `Disk.Found`: what following a path can find;
- `Disk.follow_sameBut`: what a path leads to after a change.
-/

namespace ImportChart

namespace Entry

variable {t t' e new : Entry} {name : Text} {names above target : List Text}

/-- What an entry is, without what is in a folder. -/
def surface : Entry → Entry
  | .folder _ access => .folder [] access
  | e => e

/-- Names lead to a folder. -/
def IsFolderAt (t : Entry) (names : List Text) : Prop :=
  ∃ entries access, t.get? names = some (.folder entries access)

/-- Two trees are the same, with all rights, but for what one list of names leads to and for what is in the folders on
the way. -/
def SameBut (target : List Text) (t t' : Entry) : Prop :=
  ∀ names, names ≠ target → (t'.get? names).map surface = (t.get? names).map surface

/-! ## One place -/

theorem isFolderAt_of_get?_concat (h : t.get? (above ++ [name]) = some e) : t.IsFolderAt above := by
  rw [get?_append] at h
  obtain ⟨parent, hparent, hchild⟩ := Option.bind_eq_some_iff.mp h
  cases parent with
  | folder entries access => exact ⟨entries, access, hparent⟩
  | _ => cases hchild

/-- On the way to an entry there are folders. -/
theorem isFolderAt_take {n : Nat} (h : t.get? names = some e) (hn : n < names.length) :
    t.IsFolderAt (names.take n) := by
  have hsplit : names = names.take n ++ names[n] :: names.drop (n + 1) := by
    rw [← List.drop_eq_getElem_cons hn, List.take_append_drop]
  rw [hsplit, get?_append] at h
  obtain ⟨parent, hparent, hchild⟩ := Option.bind_eq_some_iff.mp h
  cases parent with
  | folder entries access => exact ⟨entries, access, hparent⟩
  | _ => cases hchild

theorem not_isFolderAt_of_get? {found : Option Entry} (h : t.get? names = found)
    (hfound : ∀ entries access, found ≠ some (.folder entries access)) : ¬t.IsFolderAt names :=
  fun ⟨entries, access, hfolder⟩ => hfound entries access (h.symm.trans hfolder)

theorem IsFolderAt.dropLast (h : t.IsFolderAt names) : t.IsFolderAt names.dropLast := by
  rcases List.eq_nil_or_concat names with rfl | ⟨above, name, rfl⟩
  · exact h
  · obtain ⟨entries, access, hget⟩ := h
    rw [List.concat_eq_append] at hget ⊢
    rw [List.dropLast_concat]
    exact isFolderAt_of_get?_concat hget

theorem IsFolderAt.nil (h : t.IsFolderAt names) : t.IsFolderAt [] := by
  obtain ⟨entries, access, hget⟩ := h
  cases names with
  | nil => exact ⟨entries, access, hget⟩
  | cons name names =>
    cases t with
    | folder entries access => exact ⟨entries, access, rfl⟩
    | _ => cases hget

theorem isFolderAt_nil (h : t.isFolder = true) : t.IsFolderAt [] := by
  cases t with
  | folder entries access => exact ⟨entries, access, rfl⟩
  | _ => cases h

theorem surface_eq_self (h : e.isFolder = false) : e.surface = e := by
  cases e <;> first | rfl | cases h

/-- The rights that names lead to show on the surface. -/
theorem accessAt_eq_surface (names : List Text) (t : Entry) : t.accessAt names =
    match (t.get? names).map surface with
    | some (.file _ access) => access
    | some (.folder _ access) => access
    | _ => { read := true } := by
  rw [accessAt]
  cases t.get? names with
  | none => rfl
  | some e => cases e <;> rfl

theorem isFolder_surface (e : Entry) : e.surface.isFolder = e.isFolder := by cases e <;> rfl

namespace SameBut

/-- What is no folder is the same elsewhere. -/
theorem get?_eq (h : SameBut target t t') (hne : names ≠ target) (hget : ¬t.IsFolderAt names) :
    t'.get? names = t.get? names := by
  have hsame := h names hne
  cases hold : t.get? names with
  | none =>
    rw [hold] at hsame
    exact Option.map_eq_none_iff.mp hsame
  | some e =>
    have hfile : e.isFolder = false := by
      cases e with
      | folder entries access => exact absurd ⟨entries, access, hold⟩ hget
      | _ => rfl
    rw [hold, Option.map_some, surface_eq_self hfile] at hsame
    obtain ⟨e', he', hsurface⟩ := Option.map_eq_some_iff.mp hsame
    have hfile' : e'.isFolder = false := by rw [← isFolder_surface, hsurface, hfile]
    rw [he', ← hsurface, surface_eq_self hfile']

/-- The rights are the same elsewhere. -/
theorem accessAt_eq (h : SameBut target t t') (hne : names ≠ target) : t'.accessAt names = t.accessAt names := by
  rw [accessAt_eq_surface, accessAt_eq_surface, h names hne]

theorem get?_folder {entries : List (Text × Entry)} {access : Access} (h : SameBut target t t') (hne : names ≠ target)
    (hget : t.get? names = some (.folder entries access)) :
    ∃ entries', t'.get? names = some (.folder entries' access) := by
  have hsame := h names hne
  rw [hget, Option.map_some] at hsame
  obtain ⟨e', he', hsurface⟩ := Option.map_eq_some_iff.mp hsame
  cases e' with
  | folder entries' access' =>
    obtain ⟨-, rfl⟩ := Entry.folder.inj hsurface
    exact ⟨entries', he'⟩
  | _ => cases hsurface

theorem isFolderAt (h : SameBut target t t') (hne : names ≠ target) (hget : t.IsFolderAt names) :
    t'.IsFolderAt names := by
  obtain ⟨entries, access, hold⟩ := hget
  obtain ⟨entries', hnew⟩ := h.get?_folder hne hold
  exact ⟨entries', access, hnew⟩

theorem trans {t'' : Entry} (h : SameBut target t t') (h' : SameBut target t' t'') : SameBut target t t'' :=
  fun names hne => (h' names hne).trans (h names hne)

end SameBut

/-! ## Putting and erasing -/

theorem get?_put_self (h : t.IsFolderAt above) (name : Text) (new : Entry) :
    (t.put (above ++ [name]) new).get? (above ++ [name]) = some new := by
  induction above generalizing t with
  | nil =>
    obtain ⟨entries, access, hget⟩ := h
    obtain rfl := Option.some.inj hget
    simp [put, get?, child?, find?_setEntry_self]
  | cons first above ih =>
    obtain ⟨entries, access, hget⟩ := h
    cases t with
    | folder entries' access' =>
      obtain ⟨sub, hsub, hget⟩ := Option.bind_eq_some_iff.mp hget
      have hsub : find? first entries' = some sub := hsub
      simp only [List.cons_append, put, get?, child?, find?_setEntry_self, hsub, Option.getD_some, Option.bind_some]
      exact ih ⟨entries, access, hget⟩
    | _ => cases hget

/-- A change of one entry of a folder, which was no folder and holds nothing. -/
theorem sameBut_child {entries entries' : List (Text × Entry)} (access : Access)
    (hbefore : ∀ e, find? name entries = some e → e.isFolder = false)
    (hothers : ∀ other, other ≠ name → find? other entries' = find? other entries)
    (hnew : ∀ e, find? name entries' = some e → ∀ other, e.child? other = none) :
    SameBut [name] (.folder entries access) (.folder entries' access) := by
  intro names hne
  cases names with
  | nil => rfl
  | cons first names =>
    by_cases hfirst : first = name
    · subst hfirst
      obtain ⟨second, names, rfl⟩ := List.exists_cons_of_ne_nil fun hnil : names = [] => hne (by rw [hnil])
      have hnone {e : Entry} (h : ∀ other, e.child? other = none) : e.get? (second :: names) = none := by
        rw [get?, h, Option.bind_none]
      have hold : (find? first entries).bind (get? (second :: names)) = none := by
        refine Option.bind_eq_none_iff.mpr fun e he => hnone fun other => ?_
        have hfile := hbefore e he
        cases e <;> first | rfl | cases hfile
      have hnow : (find? first entries').bind (get? (second :: names)) = none :=
        Option.bind_eq_none_iff.mpr fun e he => hnone (hnew e he)
      exact congrArg (Option.map surface) (hnow.trans hold.symm)
    · exact congrArg (fun o : Option Entry => (o.bind (get? names)).map surface) (hothers first hfirst)

/-- A change below one entry of a folder. -/
theorem SameBut.below {entries : List (Text × Entry)} {first : Text} {sub sub' : Entry} (h : SameBut target sub sub')
    (hsub : find? first entries = some sub) (access : Access) :
    SameBut (first :: target) (.folder entries access) (.folder (setEntry first sub' entries) access) := by
  intro names hne
  cases names with
  | nil => rfl
  | cons name names =>
    by_cases hname : name = first
    · subst hname
      have hsame := h names fun heq => hne (by rw [heq])
      simpa [get?, child?, find?_setEntry_self, hsub] using hsame
    · simp [get?, child?, find?_setEntry_of_ne hname]

theorem isFolder_eq_false_of_find? {entries : List (Text × Entry)} {access : Access}
    (h : ¬IsFolderAt (.folder entries access) [name]) (hfind : find? name entries = some e) : e.isFolder = false := by
  cases e with
  | folder entries' access' => exact absurd ⟨entries', access', congrArg (Option.bind · (get? [])) hfind⟩ h
  | _ => rfl

/-- **Setting an entry in a folder leaves all else**, if there was no folder and the new entry holds nothing. -/
theorem sameBut_put (h : t.IsFolderAt above) (hbefore : ¬t.IsFolderAt (above ++ [name]))
    (hnew : ∀ other, new.child? other = none) : SameBut (above ++ [name]) t (t.put (above ++ [name]) new) := by
  obtain ⟨entries, access, hget⟩ := h
  induction above generalizing t with
  | nil =>
    obtain rfl := Option.some.inj hget
    refine sameBut_child access (fun e => isFolder_eq_false_of_find? hbefore) ?_ ?_
    · exact fun other hother => find?_setEntry_of_ne hother _ _
    · intro e he
      rw [find?_setEntry_self] at he
      rw [← Option.some.inj he]
      exact hnew
  | cons first above ih =>
    cases t with
    | folder entries' access' =>
      obtain ⟨sub, hsub, hget⟩ := Option.bind_eq_some_iff.mp hget
      have hsub : find? first entries' = some sub := hsub
      have hbelow : ¬sub.IsFolderAt (above ++ [name]) := by
        rintro ⟨entries'', access'', hfolder⟩
        refine hbefore ⟨entries'', access'', ?_⟩
        rw [List.cons_append, get?, child?, hsub]
        exact hfolder
      simp only [List.cons_append, put, hsub, Option.getD_some]
      exact (ih hbelow hget).below hsub access'
    | _ => cases hget

theorem find?_filter_ne (name other : Text) (entries : List (Text × Entry)) :
    find? other (entries.filter (·.1 ≠ name)) = if other = name then none else find? other entries := by
  induction entries with
  | nil => simp [find?]
  | cons p rest ih =>
    obtain ⟨n, e⟩ := p
    by_cases hn : n = name
    · rw [List.filter_cons_of_neg (by simp [hn]), ih, find?]
      split
      · rfl
      · next hother => rw [if_neg fun heq => hother (heq.symm.trans hn)]
    · rw [List.filter_cons_of_pos (by simp [hn]), find?, find?, ih]
      split
      · next heq => rw [if_neg fun hother => hn (heq.trans hother)]
      · rfl

theorem erase_below {entries : List (Text × Entry)} {first : Text} (hsub : find? first entries = some e)
    (hne : names ≠ []) (access : Access) : erase (first :: names) (.folder entries access) =
      .folder (setEntry first (erase names e) entries) access := by
  obtain ⟨second, rest, rfl⟩ := List.exists_cons_of_ne_nil hne
  rw [erase, hsub]
  simp

theorem get?_erase_self (h : t.IsFolderAt above) (name : Text) :
    (t.erase (above ++ [name])).get? (above ++ [name]) = none := by
  obtain ⟨entries, access, hget⟩ := h
  induction above generalizing t with
  | nil =>
    obtain rfl := Option.some.inj hget
    have hnone := find?_filter_ne name name entries
    rw [if_pos rfl] at hnone
    exact congrArg (Option.bind · (get? [])) hnone
  | cons first above ih =>
    cases t with
    | folder entries' access' =>
      obtain ⟨sub, hsub, hget⟩ := Option.bind_eq_some_iff.mp hget
      have hsub : find? first entries' = some sub := hsub
      rw [List.cons_append, erase_below hsub (by simp)]
      simpa [get?, child?, find?_setEntry_self] using ih hget
    | _ => cases hget

/-- The folder of an entry that is removed keeps the others. -/
theorem get?_erase_above {entries : List (Text × Entry)} {access : Access}
    (h : t.get? above = some (.folder entries access)) (name : Text) :
    (t.erase (above ++ [name])).get? above = some (.folder (entries.filter (·.1 ≠ name)) access) := by
  induction above generalizing t with
  | nil =>
    obtain rfl := Option.some.inj h
    rfl
  | cons first above ih =>
    cases t with
    | folder entries' access' =>
      obtain ⟨sub, hsub, hget⟩ := Option.bind_eq_some_iff.mp h
      have hsub : find? first entries' = some sub := hsub
      rw [List.cons_append, erase_below hsub (by simp)]
      simpa [get?, child?, find?_setEntry_self] using ih hget
    | _ => cases h

/-- **Removing an entry of a folder leaves all else**, if it is no folder. -/
theorem sameBut_erase (h : t.IsFolderAt above) (hbefore : ¬t.IsFolderAt (above ++ [name])) :
    SameBut (above ++ [name]) t (t.erase (above ++ [name])) := by
  obtain ⟨entries, access, hget⟩ := h
  induction above generalizing t with
  | nil =>
    obtain rfl := Option.some.inj hget
    refine sameBut_child access (fun e => isFolder_eq_false_of_find? hbefore) ?_ ?_
    · intro other hother
      rw [find?_filter_ne, if_neg hother]
    · intro e he
      rw [find?_filter_ne, if_pos rfl] at he
      cases he
  | cons first above ih =>
    cases t with
    | folder entries' access' =>
      obtain ⟨sub, hsub, hget⟩ := Option.bind_eq_some_iff.mp hget
      have hsub : find? first entries' = some sub := hsub
      have hbelow : ¬sub.IsFolderAt (above ++ [name]) := by
        rintro ⟨entries'', access'', hfolder⟩
        refine hbefore ⟨entries'', access'', ?_⟩
        rw [List.cons_append, get?, child?, hsub]
        exact hfolder
      have hsame := (ih hbelow hget).below hsub access'
      rw [List.cons_append, erase_below hsub (by simp)]
      exact hsame
    | _ => cases hget

end Entry

/-- The names of a place. -/
def Place.names : Place → List Text
  | .occupied names _ => names
  | .free names => names

namespace Disk

open Entry (IsFolderAt SameBut)

variable {root root' : Entry} {making : Bool} {links : Nat} {names todo target : List Text} {p : Place}

/-! ## What following finds -/

/-- The place that names lead to, links not followed. -/
def placeAt (root : Entry) (names : List Text) : Place :=
  match root.get? names with
  | none => .free names
  | some e => .occupied names e

theorem names_placeAt (root : Entry) (names : List Text) : (placeAt root names).names = names := by
  unfold placeAt
  split <;> rfl

/-- What following a path finds: a folder, or a file or nothing in a folder. -/
inductive Found (root : Entry) : Place → Prop
  | folder {names : List Text} {entries : List (Text × Entry)} {access : Access}
      (at_names : root.get? names = some (.folder entries access)) :
      Found root (.occupied names (.folder entries access))
  | file {above : List Text} {name : Text} {content : Bytes} {access : Access} (above_folder : root.IsFolderAt above)
      (at_names : root.get? (above ++ [name]) = some (.file content access)) :
      Found root (.occupied (above ++ [name]) (.file content access))
  | free {above : List Text} {name : Text} (above_folder : root.IsFolderAt above)
      (at_names : root.get? (above ++ [name]) = none) : Found root (.free (above ++ [name]))

theorem Found.placeAt_eq (h : Found root p) : placeAt root p.names = p := by
  cases h with
  | folder hget => rw [placeAt, Place.names, hget]
  | file _ hget => rw [placeAt, Place.names, hget]
  | free _ hget => rw [placeAt, Place.names, hget]

/-- **What a path leads to is found there.** -/
theorem found_of_follow (hnames : root.IsFolderAt names) (h : follow root making links names todo = .ok p) :
    Found root p := by
  fun_induction follow root making links names todo with
  | case1 links names =>
    obtain ⟨entries, access, hget⟩ := hnames
    rw [hget] at h
    obtain rfl := Except.ok.inj h
    exact .folder hget
  | case3 links names step rest hsearch hstays ih => exact ih hnames h
  | case4 links names rest hsearch hstays ih => exact ih hnames.dropLast h
  | case7 links names step rest _ _ _ _ _ hget _ =>
    obtain rfl := Except.ok.inj h
    exact .free hnames hget
  | case9 links names step rest _ _ _ _ _ entries access hget ih => exact ih ⟨entries, access, hget⟩ h
  | case10 links names step rest _ _ _ _ _ content access hget _ =>
    obtain rfl := Except.ok.inj h
    exact .file hnames hget
  | case13 names step rest _ _ _ _ _ target hget links ih =>
    refine ih ?_ h
    split
    · exact hnames.nil
    · exact hnames
  | _ => cases h

/-- The last step of a path leads to its place, if this is no link. -/
theorem follow_last {step : Text} (hsearch : (root.accessAt names).search = true) (hstays : stays step = false)
    (hup : step ≠ Path.up) (hshort : (Utf8.encode step).length ≤ maxNameBytes)
    (hlink : ∀ l, root.get? (names ++ [step]) ≠ some (.link l)) :
    follow root making links names [step] = .ok (placeAt root (names ++ [step])) := by
  rw [follow, hsearch, hstays, if_neg (by simp), if_neg Bool.false_ne_true, if_neg hup, isTrailing, List.isEmpty_nil]
  simp only [Bool.not_true, Bool.false_and, Bool.and_false, Bool.false_eq_true, if_false,
    if_neg (Nat.not_lt.mpr hshort)]
  cases hget : root.get? (names ++ [step]) with
  | none => simp [placeAt, hget]
  | some e =>
    cases e with
    | file content access => simp [placeAt, hget]
    | link l => exact absurd hget (hlink l)
    | folder entries access => simp [follow, placeAt, hget]

/-- A step that is looked up is looked up in a folder that may be searched. -/
theorem search_eq_true {step : Text} (hsearch : ¬(!step.isEmpty && !(root.accessAt names).search) = true)
    (hstays : ¬stays step = true) : (root.accessAt names).search = true := by
  have hne : step.isEmpty = false := by
    rw [stays, Bool.or_eq_true, not_or] at hstays
    exact eq_false_of_ne_true hstays.1
  simpa [hne] using hsearch

/-- **After a change of one place every path leads where it led**, if there was no folder and no link, and is no link
now. -/
theorem follow_sameBut (hsame : SameBut target root root') (hbefore : ¬root.IsFolderAt target)
    (hlink : ∀ l, root.get? target ≠ some (.link l)) (hlink' : ∀ l, root'.get? target ≠ some (.link l))
    (hnames : root.IsFolderAt names) (h : follow root making links names todo = .ok p) :
    follow root' making links names todo = .ok (placeAt root' p.names) := by
  have hkept : ∀ {names : List Text}, root.IsFolderAt names → root'.IsFolderAt names := by
    intro names hfolder
    exact hsame.isFolderAt (fun heq => hbefore (heq ▸ hfolder)) hfolder
  have haccess : ∀ {names : List Text}, root.IsFolderAt names → root'.accessAt names = root.accessAt names := by
    intro names hfolder
    exact hsame.accessAt_eq fun heq => hbefore (heq ▸ hfolder)
  -- what was neither a folder nor a link does not become a link
  have hend : ∀ {names : List Text}, ¬root.IsFolderAt names → (∀ l, root.get? names ≠ some (.link l)) →
      ∀ l, root'.get? names ≠ some (.link l) := by
    intro names hfolder hno
    by_cases htarget : names = target
    · rw [htarget]
      exact hlink'
    · rw [hsame.get?_eq htarget hfolder]
      exact hno
  fun_induction follow root making links names todo with
  | case1 links names =>
    obtain ⟨entries, access, hget⟩ := hkept hnames
    obtain rfl := Except.ok.inj h
    rw [follow, placeAt, Place.names, hget]
    rfl
  | case3 links names step rest hsearch hstays ih =>
    rw [follow, haccess hnames, if_neg hsearch, if_pos hstays]
    exact ih hnames h
  | case4 links names rest hsearch hstays ih =>
    rw [follow, haccess hnames, if_neg hsearch, if_neg hstays, if_pos rfl]
    exact ih hnames.dropLast h
  | case7 links names step rest hsearch hstays hup _ hshort hget hrest =>
    obtain rfl := List.isEmpty_iff.mp hrest
    obtain rfl := Except.ok.inj h
    refine follow_last (haccess hnames ▸ search_eq_true hsearch hstays) (by simpa using hstays) hup
      (Nat.not_lt.mp hshort) (hend ?_ (by simp [hget]))
    exact Entry.not_isFolderAt_of_get? hget (by simp)
  | case9 links names step rest hsearch hstays hup htrailing hshort entries access hget ih =>
    obtain ⟨entries', access', hget'⟩ := hkept ⟨entries, access, hget⟩
    rw [follow, haccess hnames, if_neg hsearch, if_neg hstays, if_neg hup, if_neg htrailing, if_neg hshort, hget']
    exact ih ⟨entries, access, hget⟩ h
  | case10 links names step rest hsearch hstays hup _ hshort content access hget hrest =>
    obtain rfl := List.isEmpty_iff.mp hrest
    obtain rfl := Except.ok.inj h
    refine follow_last (haccess hnames ▸ search_eq_true hsearch hstays) (by simpa using hstays) hup
      (Nat.not_lt.mp hshort) (hend ?_ (by simp [hget]))
    exact Entry.not_isFolderAt_of_get? hget (by simp)
  | case13 names step rest hsearch hstays hup htrailing hshort l hget links ih =>
    have hget' : root'.get? (names ++ [step]) = some (.link l) := by
      rw [hsame.get?_eq (fun heq => hlink l (heq ▸ hget)) (Entry.not_isFolderAt_of_get? hget (by simp)), hget]
    rw [follow, haccess hnames, if_neg hsearch, if_neg hstays, if_neg hup, if_neg htrailing, if_neg hshort, hget']
    refine ih ?_ h
    split
    · exact hnames.nil
    · exact hnames
  | _ => cases h

/-- A path that leads to something to be made leads there as well when nothing is to be made. -/
theorem follow_of_making (h : follow root true links names todo = .ok p) :
    follow root false links names todo = .ok p := by
  generalize hmaking : true = making at h
  fun_induction follow root making links names todo with
  | case1 links names =>
    rw [follow]
    exact h
  | case3 links names step rest hsearch hstays ih =>
    rw [follow, if_neg hsearch, if_pos hstays]
    exact ih h
  | case4 links names rest hsearch hstays ih =>
    rw [follow, if_neg hsearch, if_neg hstays, if_pos rfl]
    exact ih h
  | case7 links names step rest hsearch hstays hup _ hshort hget hrest =>
    rw [follow, if_neg hsearch, if_neg hstays, if_neg hup, if_neg (by simp), if_neg hshort, hget]
    simp only [hrest, if_true]
    exact h
  | case9 links names step rest hsearch hstays hup htrailing hshort entries access hget ih =>
    rw [follow, if_neg hsearch, if_neg hstays, if_neg hup, if_neg (by simp), if_neg hshort, hget]
    exact ih h
  | case10 links names step rest hsearch hstays hup _ hshort content access hget hrest =>
    rw [follow, if_neg hsearch, if_neg hstays, if_neg hup, if_neg (by simp), if_neg hshort, hget]
    simp only [hrest, if_true]
    exact h
  | case13 names step rest hsearch hstays hup htrailing hshort l hget links ih =>
    rw [follow, if_neg hsearch, if_neg hstays, if_neg hup, if_neg (by simp), if_neg hshort, hget]
    exact ih h
  | _ => cases h

end Disk

end ImportChart
