import ImportChart.Proofs.Tree.Changed

/-!
# Writing and removing files, and making folders

- `ChangedAt`: one disk is another one after a change of one place, and paths lead where they led
  (`ChangedAt.locate`);
- `Wrote`: a file was opened and given a content, and its path leads to it; `exists_wrote` and `write_error` say how a
  write ends;
- `toOption_entry?_ensureFolder`: making a folder, with the folders on the way to it, makes no file below it appear or
  vanish;
- `remove_file`: the name of a file that is removed is free.
-/

namespace ImportChart

/-! ## Room -/

namespace Access

variable {a : Access} {content : Bytes}

/-- What there is room for is a beginning. -/
theorem fit_isPrefix (a : Access) (content : Bytes) : a.fit content <+: content := by
  unfold fit
  split
  · exact List.prefix_rfl
  · exact List.take_prefix _ _

theorem fit_of_holds (h : a.holds content = true) : a.fit content = content :=
  (a.fit_isPrefix content).eq_of_length (of_decide_eq_true h)

theorem fit_ne_of_not_holds (h : a.holds content = false) : a.fit content ≠ content := by
  intro heq
  rw [holds, heq, decide_eq_true rfl] at h
  cases h

theorem holds_nil (a : Access) : a.holds [] = true :=
  decide_eq_true (congrArg List.length (List.prefix_nil.mp (a.fit_isPrefix [])))

theorem holds_of_room (h : a.room = none) (content : Bytes) : a.holds content = true := by
  rw [holds, fit, h]
  exact decide_eq_true rfl

end Access

namespace Disk

open Entry (IsFolderAt SameBut)
open Path (IsRoot IsComponent rooted)

variable {d d' : Disk} {making : Bool} {links : Nat} {slashes p c : Text} {cs rest names above target : List Text}
  {content : Bytes} {place : Place} {e : Entry} {access folder : Access} {entries : List (Text × Entry)}

/-! ## One change -/

/-- One disk is another one after a change of one place, where no folder was and no link was or is. -/
structure ChangedAt (target : List Text) (d d' : Disk) : Prop where
  here : d'.here = d.here
  same : SameBut target d.root d'.root
  no_folder : ¬d.root.IsFolderAt target
  no_link : ∀ l, d.root.get? target ≠ some (.link l)
  still_no_link : ∀ l, d'.root.get? target ≠ some (.link l)

theorem found_of_locate (hroot : d.root.IsFolderAt []) (h : d.locate making p = .ok place) : Found d.root place := by
  unfold locate at h
  split_ifs at h
  exact found_of_follow hroot h

/-- What a path leads to is there. -/
theorem get?_of_locate (hroot : d.root.IsFolderAt []) (h : d.locate making p = .ok (.occupied names e)) :
    d.root.get? names = some e := by
  have hplace := (found_of_locate hroot h).placeAt_eq
  unfold placeAt at hplace
  split at hplace
  · cases hplace
  · next hget => exact hget.trans (congrArg some (Place.occupied.inj hplace).2)

/-- Where a path leads to nothing, nothing is there. -/
theorem get?_eq_none_of_locate (hroot : d.root.IsFolderAt []) (h : d.locate making p = .ok (.free names)) :
    d.root.get? names = none := by
  have hplace := (found_of_locate hroot h).placeAt_eq
  unfold placeAt at hplace
  split at hplace
  · assumption
  · cases hplace

theorem locate_of_making (h : d.locate true p = .ok place) : d.locate false p = .ok place := by
  unfold locate at h ⊢
  split_ifs at h ⊢
  exact follow_of_making h

namespace ChangedAt

theorem isFolderAt (h : ChangedAt target d d') (hnames : d.root.IsFolderAt names) : d'.root.IsFolderAt names :=
  h.same.isFolderAt (fun heq => h.no_folder (heq ▸ hnames)) hnames

/-- **Paths lead where they led before the change.** -/
theorem locate (h : ChangedAt target d d') (hroot : d.root.IsFolderAt []) (hlocate : d.locate making p = .ok place) :
    d'.locate making p = .ok (placeAt d'.root place.names) := by
  unfold Disk.locate at hlocate ⊢
  rw [h.here]
  split_ifs at hlocate ⊢
  exact follow_sameBut h.same h.no_folder h.no_link h.still_no_link hroot hlocate

/-- A path to a folder leads to this folder, with its rights. -/
theorem place?_folder (h : ChangedAt target d d') (hroot : d.root.IsFolderAt [])
    (hplace : d.place? p = .ok (.occupied above (.folder entries access))) :
    ∃ entries', d'.place? p = .ok (.occupied above (.folder entries' access)) := by
  have hget := get?_of_locate hroot hplace
  obtain ⟨entries', hget'⟩ := h.same.get?_folder (fun heq => h.no_folder (heq ▸ ⟨entries, access, hget⟩)) hget
  refine ⟨entries', (h.locate hroot hplace).trans ?_⟩
  rw [placeAt, Place.names, hget']

/-- A path to a file at another place leads to this file. -/
theorem place?_file (h : ChangedAt target d d') (hroot : d.root.IsFolderAt [])
    (hplace : d.place? p = .ok (.occupied names (.file content access))) (hne : names ≠ target) :
    d'.place? p = .ok (.occupied names (.file content access)) := by
  have hget := get?_of_locate hroot hplace
  refine (h.locate hroot hplace).trans ?_
  rw [placeAt, Place.names, h.same.get?_eq hne (Entry.not_isFolderAt_of_get? hget (by simp)), hget]

/-- Two changes of one place are one change of it. -/
theorem trans {d'' : Disk} (h : ChangedAt target d d') (h' : ChangedAt target d' d'') : ChangedAt target d d'' :=
  ⟨h'.here.trans h.here, h.same.trans h'.same, h.no_folder, h.no_link, h'.still_no_link⟩

end ChangedAt

/-- Setting what was no folder and no link, in a folder, is a change of one place. -/
theorem changedAt_put {name : Text} {new : Entry} (habove : d.root.IsFolderAt above)
    (hfolder : ¬d.root.IsFolderAt (above ++ [name])) (hlink : ∀ l, d.root.get? (above ++ [name]) ≠ some (.link l))
    (hnew : ∀ other, new.child? other = none) (hnolink : ∀ l, new ≠ .link l) :
    ChangedAt (above ++ [name]) d { d with root := d.root.put (above ++ [name]) new } := by
  refine ⟨rfl, Entry.sameBut_put habove hfolder hnew, hfolder, hlink, fun l hl => ?_⟩
  rw [Entry.get?_put_self habove] at hl
  exact hnolink l (Option.some.inj hl)

/-- Erasing a file is a change of one place. -/
theorem changedAt_erase {name : Text}
    (hget : d.root.get? (above ++ [name]) = some (.file content access)) :
    ChangedAt (above ++ [name]) d { d with root := d.root.erase (above ++ [name]) } := by
  have habove : d.root.IsFolderAt above := Entry.isFolderAt_of_get?_concat hget
  have hfile := Entry.not_isFolderAt_of_get? hget (by simp)
  have hgone := Entry.get?_erase_self habove name
  exact ⟨rfl, Entry.sameBut_erase habove hfile, hfile, by simp [hget], by simp [hgone]⟩

/-! ## Files -/

theorem openToWrite_eq_ok_iff : d.openToWrite p = .ok (names, access) ↔
    (∃ old, d.locate true p = .ok (.occupied names (.file old access)) ∧ access.write = true) ∨
      d.locate true p = .ok (.free names) ∧ (d.root.accessAt names.dropLast).write = true ∧
        access = (d.root.accessAt names.dropLast).inside := by
  unfold openToWrite
  split
  · next names' _ access' hlocate =>
    rw [hlocate]
    constructor
    · intro h
      split_ifs at h with hwrite
      obtain ⟨rfl, rfl⟩ := Prod.mk.inj (Except.ok.inj h)
      exact Or.inl ⟨_, rfl, hwrite⟩
    · rintro (⟨old, h, hwrite⟩ | ⟨h, -⟩)
      · obtain ⟨rfl, hfile⟩ := Place.occupied.inj (Except.ok.inj h)
        obtain ⟨rfl, rfl⟩ := Entry.file.inj hfile
        exact if_pos hwrite
      · cases h
  · next hother hlocate =>
    rw [hlocate]
    refine ⟨(nomatch ·), ?_⟩
    rintro (⟨old, h, -⟩ | ⟨h, -⟩)
    · obtain ⟨rfl, rfl⟩ := Place.occupied.inj (Except.ok.inj h)
      exact absurd rfl (hother _ _)
    · cases h
  · next names' hlocate =>
    rw [hlocate]
    constructor
    · intro h
      dsimp only at h
      split_ifs at h with hwrite
      obtain ⟨rfl, rfl⟩ := Prod.mk.inj (Except.ok.inj h)
      exact Or.inr ⟨rfl, hwrite, rfl⟩
    · rintro (⟨old, h, -⟩ | ⟨h, hwrite, rfl⟩)
      · cases h
      · obtain rfl := Place.free.inj (Except.ok.inj h)
        exact if_pos hwrite
  · next hlocate => simp [hlocate]

theorem entry?_of_place? (h : d.place? p = .ok (.occupied names e)) : d.entry? p = .ok e := by
  unfold entry?
  rw [h]

theorem entry?_of_locate (h : d.locate true p = .ok (.occupied names e)) : d.entry? p = .ok e :=
  entry?_of_place? (locate_of_making h)

/-- A file was opened at a path and given a content: this is a change of one place, which the path leads to now. -/
structure Wrote (d : Disk) (p : Text) (names : List Text) (access : Access) (content : Bytes) (d' : Disk) : Prop where
  opened : d.openToWrite p = .ok (names, access)
  changed : ChangedAt names d d'
  found : d'.locate true p = .ok (.occupied names (.file content access))

namespace Wrote

theorem entry? (h : d.Wrote p names access content d') : d'.entry? p = .ok (.file content access) :=
  entry?_of_locate h.found

/-- A file that was there keeps its rights. -/
theorem access_eq {old : Bytes} {before : Access} (h : d.Wrote p names access content d')
    (hold : d.entry? p = .ok (.file old before)) : before = access := by
  rcases openToWrite_eq_ok_iff.mp h.opened with ⟨old', hlocate, -⟩ | ⟨hlocate, -⟩
  · rw [entry?_of_locate hlocate] at hold
    exact (Entry.file.inj (Except.ok.inj hold)).2.symm
  · unfold Disk.entry? place? at hold
    rw [locate_of_making hlocate] at hold
    cases hold

/-- The file can be opened again, to be given another content. -/
theorem reopen (h : d.Wrote p names access content d') : d'.openToWrite p = .ok (names, access) := by
  refine openToWrite_eq_ok_iff.mpr (Or.inl ⟨content, h.found, ?_⟩)
  rcases openToWrite_eq_ok_iff.mp h.opened with ⟨-, -, hwrite⟩ | ⟨-, -, rfl⟩
  · exact hwrite
  · rfl

/-- A file that is written twice is written. -/
theorem trans {content' : Bytes} {d'' : Disk} (h : d.Wrote p names access content d')
    (h' : d'.Wrote p names access content' d'') : d.Wrote p names access content' d'' :=
  ⟨h.opened, h.changed.trans h'.changed, h'.found⟩

end Wrote

/-- **A file that can be opened is written**, as far as there is room for its content. -/
theorem exists_wrote (hroot : d.root.IsFolderAt []) (h : d.openToWrite p = .ok (names, access)) (content : Bytes) :
    ∃ d', d.write p content = (if access.holds content then .ok () else .error ⟨.noRoom, p⟩, d') ∧
      d.Wrote p names access (access.fit content) d' := by
  -- the path leads to a file or to nothing, in a folder
  obtain ⟨above, name, place, rfl, habove, hlocate, hplace, hfile, hlink⟩ :
      ∃ above name place, names = above ++ [name] ∧ d.root.IsFolderAt above ∧ d.locate true p = .ok place ∧
        place.names = names ∧ ¬d.root.IsFolderAt names ∧ ∀ l, d.root.get? names ≠ some (.link l) := by
    rcases openToWrite_eq_ok_iff.mp h with ⟨old, hlocate, -⟩ | ⟨hlocate, -⟩
    · cases found_of_locate hroot hlocate with
      | @file above name _ _ habove hget =>
        exact ⟨above, name, _, rfl, habove, hlocate, rfl, Entry.not_isFolderAt_of_get? hget (by simp), by simp [hget]⟩
    · cases found_of_locate hroot hlocate with
      | @free above name habove hget =>
        exact ⟨above, name, _, rfl, habove, hlocate, rfl, Entry.not_isFolderAt_of_get? hget (by simp), by simp [hget]⟩
  have hchanged : ChangedAt (above ++ [name]) d
      { d with root := d.root.put (above ++ [name]) (.file (access.fit content) access) } :=
    changedAt_put habove hfile hlink (fun _ => rfl) (by simp)
  refine ⟨_, by rw [write, h], h, hchanged, (hchanged.locate hroot hlocate).trans ?_⟩
  rw [hplace, placeAt, Entry.get?_put_self habove]

/-- Where there is room for the content, it is written as it is. -/
theorem exists_wrote_of_holds (hroot : d.root.IsFolderAt []) (h : d.openToWrite p = .ok (names, access))
    (hholds : access.holds content = true) :
    ∃ d', d.write p content = (.ok (), d') ∧ d.Wrote p names access content d' := by
  obtain ⟨d', hwrite, hwrote⟩ := exists_wrote hroot h content
  rw [hholds, if_pos rfl] at hwrite
  rw [Access.fit_of_holds hholds] at hwrote
  exact ⟨d', hwrite, hwrote⟩

/-- A file that can be opened is emptied, and can be opened again to be filled. -/
theorem exists_emptied (hroot : d.root.IsFolderAt []) (h : d.openToWrite p = .ok (names, access)) :
    ∃ empty, d.write p [] = (.ok (), empty) ∧ d.Wrote p names access [] empty ∧ empty.root.IsFolderAt [] ∧
      empty.openToWrite p = .ok (names, access) := by
  obtain ⟨empty, hwrite, hwrote⟩ := exists_wrote_of_holds hroot h access.holds_nil
  exact ⟨empty, hwrite, hwrote, hwrote.changed.isFolderAt hroot, hwrote.reopen⟩

/-- **What is written is found** by the path that it was written to. -/
theorem wrote_of_write (hroot : d.root.IsFolderAt []) (h : d.write p content = (.ok (), d')) :
    ∃ names access, d.Wrote p names access content d' := by
  cases hopen : d.openToWrite p with
  | error f =>
    rw [write, hopen] at h
    cases h
  | ok opened =>
    obtain ⟨names, access⟩ := opened
    obtain ⟨made, hwrite, hwrote⟩ := exists_wrote hroot hopen content
    obtain ⟨hok, rfl⟩ := Prod.mk.inj (hwrite.symm.trans h)
    split_ifs at hok with hholds
    rw [Access.fit_of_holds hholds] at hwrote
    exact ⟨names, access, hwrote⟩

/-- **A write that fails** leaves everything as it was if the file could not be opened, and otherwise as much of the
content in the file as there was room for. -/
theorem write_error {f : Fault} (hroot : d.root.IsFolderAt []) (h : d.write p content = (.error f, d')) :
    d' = d ∧ d.openToWrite p = .error f ∨
      ∃ names access, access.holds content = false ∧ f = ⟨.noRoom, p⟩ ∧
        d.Wrote p names access (access.fit content) d' := by
  cases hopen : d.openToWrite p with
  | error g =>
    rw [write, hopen] at h
    obtain ⟨hfault, rfl⟩ := Prod.mk.inj h
    exact Or.inl ⟨rfl, congrArg Except.error (Except.error.inj hfault)⟩
  | ok opened =>
    obtain ⟨names, access⟩ := opened
    obtain ⟨made, hwrite, hwrote⟩ := exists_wrote hroot hopen content
    obtain ⟨hfault, rfl⟩ := Prod.mk.inj (hwrite.symm.trans h)
    split_ifs at hfault with hholds
    exact Or.inr ⟨names, access, eq_false_of_ne_true hholds, (Except.error.inj hfault).symm, hwrote⟩

/-- Opening a file to write nothing fails only if it cannot be opened. -/
theorem write_nil_error {f : Fault} (hroot : d.root.IsFolderAt []) (h : d.write p [] = (.error f, d')) :
    d' = d ∧ d.openToWrite p = .error f := by
  rcases write_error hroot h with hunopened | ⟨_, access, hholds, -⟩
  · exact hunopened
  · rw [access.holds_nil] at hholds
    cases hholds

/-! ## Folders -/

/-- A path behind a path to a folder is followed from there, unless it cannot be looked up at all. -/
theorem locate_append (hs : IsRoot slashes) (hcs : ∀ c ∈ cs, IsComponent c) (hrest : ∀ c ∈ rest, IsComponent c)
    (hne : rest ≠ [])
    (h : d.place? (rooted slashes cs) = .ok (.occupied above (.folder entries access))) :
    ∃ links, ∀ making, (∃ cause, d.locate making (rooted slashes (cs ++ rest)) = .error cause) ∨
      d.locate making (rooted slashes (cs ++ rest)) = follow d.root making links above rest := by
  have hall : ∀ c ∈ cs ++ rest, IsComponent c := by
    intro c hc
    exact (List.mem_append.mp hc).elim (hcs c) (hrest c)
  have hname : rest.all List.isEmpty = false := by
    obtain ⟨c, others, rfl⟩ := List.exists_cons_of_ne_nil hne
    simp [(hrest c List.mem_cons_self).1]
  rw [place?, locate_rooted hs hcs] at h
  split_ifs at h
  obtain ⟨-, links, hfollow⟩ := follow_append h
  refine ⟨links, fun making => ?_⟩
  rw [locate_rooted hs hall]
  split_ifs
  · exact Or.inl ⟨_, rfl⟩
  · exact Or.inl ⟨_, rfl⟩
  · exact Or.inr (hfollow making rest (by rw [hname, Bool.and_false]))

/-- A name is looked up in a folder only if the folder may be searched. -/
theorem search_of_locate (hs : IsRoot slashes) (hcs : ∀ c ∈ cs, IsComponent c) (hc : IsComponent c)
    (hroot : d.root.IsFolderAt [])
    (hplace : d.place? (rooted slashes cs) = .ok (.occupied above (.folder entries folder)))
    (h : d.locate making (rooted slashes (cs ++ [c])) = .ok place) : folder.search = true := by
  have haccess : d.root.accessAt above = folder := by rw [Entry.accessAt, get?_of_locate hroot hplace]
  obtain ⟨links, hlocate⟩ := locate_append hs hcs (List.forall_mem_singleton.mpr hc) (List.cons_ne_nil _ _) hplace
  rcases hlocate making with ⟨cause, herror⟩ | hfollow
  · rw [h] at herror
    cases herror
  · by_contra hsearch
    rw [h, follow_noRight hc (haccess ▸ eq_false_of_ne_true hsearch)] at hfollow
    cases hfollow

/-- Where following from a folder finds no entry, there is none. -/
theorem toOption_entry?_eq_none (hs : IsRoot slashes) (hcs : ∀ c ∈ cs, IsComponent c)
    (hrest : ∀ c ∈ rest, IsComponent c) (hne : rest ≠ [])
    (hplace : d.place? (rooted slashes cs) = .ok (.occupied above (.folder entries access)))
    (hfollow : ∀ links names e, follow d.root false links above rest ≠ .ok (.occupied names e)) :
    (d.entry? (rooted slashes (cs ++ rest))).toOption = none := by
  obtain ⟨links, hlocate⟩ := locate_append hs hcs hrest hne hplace
  unfold entry? place?
  rcases hlocate false with ⟨cause, herror⟩ | hlinks
  · rw [herror]
    rfl
  · rw [hlinks]
    split
    · next hfound => exact absurd hfound (hfollow _ _ _)
    · rfl
    · rfl

/-- A path that goes through a name that is not there leads to no entry. -/
theorem follow_of_get?_eq_none {root : Entry} (hc : IsComponent c) (hget : root.get? (names ++ [c]) = none)
    (rest : List Text) : follow root false links names (c :: rest) ≠ .ok (.occupied target e) := by
  rw [follow, stays_eq_false hc, if_neg Bool.false_ne_true, if_neg hc.2.2.1, hget]
  split_ifs <;> simp

/-- Neither does one that goes on through an empty folder. -/
theorem follow_of_noEntries {root : Entry} (hc : IsComponent c)
    (hget : root.get? (names ++ [c]) = some (.folder [] access)) (hrest : ∀ c ∈ rest, IsComponent c) (hne : rest ≠ []) :
    follow root false links names (c :: rest) ≠ .ok (.occupied target e) := by
  obtain ⟨next, others, rfl⟩ := List.exists_cons_of_ne_nil hne
  have hmissing : root.get? (names ++ [c] ++ [next]) = none := by
    rw [Entry.get?_append, hget]
    rfl
  rw [follow]
  split
  · simp
  rw [stays_eq_false hc, if_neg Bool.false_ne_true, if_neg hc.2.2.1, if_neg (by simp), hget]
  split
  · simp
  · exact follow_of_get?_eq_none (hrest next List.mem_cons_self) hmissing others

/-- The names of what is made are those of the folder that it is made in, with its own name behind them. -/
theorem place?_of_ownNames? (hs : IsRoot slashes) (hcs : ∀ c ∈ cs, IsComponent c) (hc : IsComponent c)
    (h : d.ownNames? (rooted slashes (cs ++ [c])) = .ok (names, folder)) :
    ∃ above entries, names = above ++ [c] ∧
      d.place? (rooted slashes cs) = .ok (.occupied above (.folder entries folder)) := by
  rw [ownNames?, Path.join_of_isAbsolute (Path.isAbsolute_rooted hs _), Path.parent_rooted hs hcs hc,
    Path.baseName_rooted hs hc] at h
  split at h
  · cases h
  · cases h
  · next above entries access hplace =>
    split_ifs at h
    obtain ⟨rfl, rfl⟩ := Prod.mk.inj (Except.ok.inj h)
    exact ⟨above, entries, rfl, hplace⟩
  · cases h

section

variable (hs : IsRoot slashes) (hcs : ∀ c ∈ cs, IsComponent c) (hc : IsComponent c)

include hs hcs hc

/-- A folder is made in a folder where nothing is. -/
theorem changedAt_of_makeFolder (hroot : d.root.IsFolderAt [])
    (h : d.makeFolder (rooted slashes (cs ++ [c])) = .ok d') :
    ∃ above entries folder access, d.place? (rooted slashes cs) = .ok (.occupied above (.folder entries folder)) ∧
      d.root.get? (above ++ [c]) = none ∧ ChangedAt (above ++ [c]) d d' ∧
      d'.root.get? (above ++ [c]) = some (.folder [] access) := by
  unfold makeFolder at h
  split at h
  · cases h
  · next names folder hnames =>
    obtain ⟨above, entries, rfl, hplace⟩ := place?_of_ownNames? hs hcs hc hnames
    split at h
    · cases h
    · next hget =>
      split_ifs at h
      obtain rfl := Except.ok.inj h
      have habove : d.root.IsFolderAt above := ⟨entries, folder, get?_of_locate hroot hplace⟩
      refine ⟨above, entries, folder, folder.inside, hplace, hget, ?_, Entry.get?_put_self habove _ _⟩
      exact changedAt_put habove (Entry.not_isFolderAt_of_get? hget (by simp)) (by simp [hget]) (fun _ => rfl)
        (by simp)

/-- Making a folder makes nothing below it appear or vanish. -/
theorem toOption_entry?_makeFolder (hrest : ∀ c ∈ rest, IsComponent c) (hne : rest ≠ []) (hroot : d.root.IsFolderAt [])
    (h : d.makeFolder (rooted slashes (cs ++ [c])) = .ok d') :
    d'.root.IsFolderAt [] ∧ (d'.entry? (rooted slashes (cs ++ c :: rest))).toOption =
      (d.entry? (rooted slashes (cs ++ c :: rest))).toOption := by
  have hall : ∀ x ∈ c :: rest, IsComponent x := List.forall_mem_cons.mpr ⟨hc, hrest⟩
  obtain ⟨above, entries, folder, access, hplace, hget, hchanged, hget'⟩ := changedAt_of_makeFolder hs hcs hc hroot h
  obtain ⟨entries', hplace'⟩ := hchanged.place?_folder hroot hplace
  refine ⟨hchanged.isFolderAt hroot, ?_⟩
  -- before, the name is missing; afterwards, what is behind it
  rw [toOption_entry?_eq_none hs hcs hall (List.cons_ne_nil _ _) hplace
      fun _ _ _ => follow_of_get?_eq_none hc hget rest,
    toOption_entry?_eq_none hs hcs hall (List.cons_ne_nil _ _) hplace'
      fun _ _ _ => follow_of_noEntries hc hget' hrest hne]

theorem toOption_entry?_makeUnlessThere (hrest : ∀ c ∈ rest, IsComponent c) (hne : rest ≠ [])
    (hroot : d.root.IsFolderAt []) (h : d.makeUnlessThere (rooted slashes (cs ++ [c])) = .ok d') :
    d'.root.IsFolderAt [] ∧ (d'.entry? (rooted slashes (cs ++ c :: rest))).toOption =
      (d.entry? (rooted slashes (cs ++ c :: rest))).toOption := by
  unfold makeUnlessThere at h
  split at h
  · next hmake =>
    obtain rfl := Except.ok.inj h
    exact toOption_entry?_makeFolder hs hcs hc hrest hne hroot hmake
  · split at h
    · obtain rfl := Except.ok.inj h
      exact ⟨hroot, rfl⟩
    · cases h
    · cases h

end

theorem toOption_entry?_ensureComponents (hs : IsRoot slashes) : ∀ {reversed rest : List Text} {d : Disk},
    (∀ c ∈ reversed, IsComponent c) → (∀ c ∈ rest, IsComponent c) → rest ≠ [] → d.root.IsFolderAt [] →
      (d.ensureComponents slashes reversed).2.root.IsFolderAt [] ∧
        (Disk.entry? (d.ensureComponents slashes reversed).2 (rooted slashes (reversed.reverse ++ rest))).toOption =
          (d.entry? (rooted slashes (reversed.reverse ++ rest))).toOption
  | [], rest, d, _, _, _, hroot => ⟨hroot, rfl⟩
  | c :: reversed, rest, d, hreversed, hrest, hne, hroot => by
    obtain ⟨hc, hreversed⟩ := List.forall_mem_cons.mp hreversed
    have habove : ∀ c ∈ reversed.reverse, IsComponent c := fun c h => hreversed c (List.mem_reverse.mp h)
    have hpath : slashes ++ Text.joinWith "/" (c :: reversed).reverse = rooted slashes (reversed.reverse ++ [c]) := by
      rw [List.reverse_cons]
      rfl
    have hthere {d d' : Disk} (hroot : d.root.IsFolderAt []) (h : d.makeUnlessThere _ = .ok d') :=
      toOption_entry?_makeUnlessThere hs habove hc hrest hne hroot h
    obtain ⟨hroot', hsame⟩ := toOption_entry?_ensureComponents hs hreversed
      (List.forall_mem_cons.mpr ⟨hc, hrest⟩) (List.cons_ne_nil c rest) hroot
    rw [List.reverse_cons, List.append_assoc, List.singleton_append]
    simp only [ensureComponents, hpath]
    split
    · next hmake => exact hthere hroot hmake
    · split
      · next hensure =>
        rw [hensure] at hroot' hsame
        exact ⟨hroot', hsame⟩
      · next hensure =>
        rw [hensure] at hroot' hsame
        split
        · next hmake =>
          obtain ⟨hroot'', hsame'⟩ := hthere hroot' hmake
          exact ⟨hroot'', hsame'.trans hsame⟩
        · exact ⟨hroot', hsame⟩
    · exact ⟨hroot, rfl⟩

/-- **Making a folder, with the folders on the way to it, makes nothing below it appear or vanish**, whether or not it
succeeds. -/
theorem toOption_entry?_ensureFolder (hs : IsRoot slashes) (hcs : ∀ c ∈ cs, IsComponent c)
    (hrest : ∀ c ∈ rest, IsComponent c) (hne : rest ≠ []) (hroot : d.root.IsFolderAt []) :
    (d.ensureFolder (rooted slashes cs)).2.root.IsFolderAt [] ∧
      (Disk.entry? (d.ensureFolder (rooted slashes cs)).2 (rooted slashes (cs ++ rest))).toOption =
        (d.entry? (rooted slashes (cs ++ rest))).toOption := by
  have hreversed : ∀ c ∈ cs.reverse, IsComponent c := fun c h => hcs c (List.mem_reverse.mp h)
  have hsame := toOption_entry?_ensureComponents hs hreversed hrest hne hroot
  rw [List.reverse_reverse] at hsame
  rw [ensureFolder, Path.rootOf_rooted hs hcs, Path.components_rooted hs hcs]
  exact hsame

/-- **A folder that is there is left as it is.** -/
theorem ensureFolder_of_folder (hs : IsRoot slashes) (hcs : ∀ c ∈ cs, IsComponent c) (hroot : d.root.IsFolderAt [])
    {entries : List (Text × Entry)} {access : Access}
    (h : d.entry? (rooted slashes cs) = .ok (.folder entries access)) :
    d.ensureFolder (rooted slashes cs) = (.ok (), d) := by
  rw [ensureFolder, Path.rootOf_rooted hs hcs, Path.components_rooted hs hcs]
  rcases List.eq_nil_or_concat cs with rfl | ⟨above, c, rfl⟩
  · rfl
  rw [List.concat_eq_append] at hcs h ⊢
  obtain ⟨habove, hc⟩ := List.forall_mem_append.mp hcs
  have hc := hc c (List.mem_singleton.mpr rfl)
  have hthere : d.makeUnlessThere (rooted slashes (above ++ [c])) = .ok d := by
    unfold makeUnlessThere
    split
    · next d' hmake =>
      obtain ⟨names, _, _, _, hplace, hget, -⟩ := changedAt_of_makeFolder hs habove hc hroot hmake
      have hnone := toOption_entry?_eq_none hs habove (List.forall_mem_singleton.mpr hc) (List.cons_ne_nil _ _) hplace
        fun _ _ _ => follow_of_get?_eq_none hc hget []
      rw [h] at hnone
      cases hnone
    · rw [probe_eq_some_iff.mpr h]
  have hpath : slashes ++ Text.joinWith "/" (c :: above.reverse).reverse = rooted slashes (above ++ [c]) := by
    rw [List.reverse_cons, List.reverse_reverse]
    rfl
  rw [List.reverse_append, List.reverse_singleton, List.singleton_append, ensureComponents, hpath, hthere]

/-! ## Removing -/

/-- **A file is removed** from a folder that may be changed, and its name is free. -/
theorem remove_file (hs : IsRoot slashes) (hcs : ∀ c ∈ cs, IsComponent c) (hc : IsComponent c)
    (hshort : (Utf8.encode c).length ≤ maxNameBytes) (hroot : d.root.IsFolderAt [])
    (hplace : d.place? (rooted slashes cs) = .ok (.occupied above (.folder entries folder)))
    (hwrite : folder.write = true)
    (hlocate : d.locate true (rooted slashes (cs ++ [c])) = .ok (.occupied (above ++ [c]) (.file content access))) :
    ∃ d', d.remove (rooted slashes (cs ++ [c])) = .ok d' ∧ ChangedAt (above ++ [c]) d d' ∧
      d'.locate true (rooted slashes (cs ++ [c])) = .ok (.free (above ++ [c])) := by
  have habove : d.root.IsFolderAt above := ⟨entries, folder, get?_of_locate hroot hplace⟩
  have hget := get?_of_locate hroot hlocate
  have hsearch := search_of_locate hs hcs hc hroot hplace hlocate
  have hnames : d.ownNames? (rooted slashes (cs ++ [c])) = .ok (above ++ [c], folder) := by
    rw [ownNames?, Path.join_of_isAbsolute (Path.isAbsolute_rooted hs _), Path.parent_rooted hs hcs hc,
      Path.baseName_rooted hs hc, hplace]
    simp only [hsearch, Bool.not_true, Bool.false_eq_true, if_false, if_neg (Nat.not_lt.mpr hshort)]
  have hgone := Entry.get?_erase_self habove c
  have hchanged := changedAt_erase hget
  refine ⟨{ d with root := d.root.erase (above ++ [c]) }, ?_, hchanged, ?_⟩
  · rw [remove, hnames]
    simp only [hget, hwrite, Entry.isFolder, Bool.not_true, Bool.false_eq_true, if_false]
  · rw [hchanged.locate hroot hlocate, placeAt, Place.names, hgone]

end Disk

end ImportChart
