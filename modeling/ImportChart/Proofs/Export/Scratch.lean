import ImportChart.Proofs.Export.Turns

/-!
# The files of an export

An export writes the diagram to one file, makes another one and fills it with the settings of the renderer. The first
one stays, and the second one is removed on every way out on which it was filled.

- `Disk.IsVacant`: nothing is at a path; what is written there and removed again leaves everything else
  (`IsVacant.remove_wrote`);
- `Scratched`: what becomes of the second file when it is made and filled (`scratched_writeScratch`);
- `tryAll_keeps`: the disk stays as it is while strategies are tried, and every program that is run sees this disk;
- `Tidy`: what an export leaves behind, whatever it comes to (`exportSvg_tidy`); where there is no room for the
  settings, the second file stays (`not_scratch_removed_full`).
-/

namespace ImportChart

open Path (IsRoot IsComponent rooted)

namespace Disk

variable {d d' : Disk} {p : Text} {names : List Text} {access : Access} {content : Bytes}

/-- Nothing is at a path. -/
inductive IsVacant (d : Disk) (p : Text) : Prop
  /-- The folder is there, and the name in it is free. -/
  | free {slashes c : Text} {cs above : List Text} {entries : List (Text × Entry)} {folder : Access}
      (isRoot : IsRoot slashes) (isComponent : ∀ c ∈ cs, IsComponent c) (name : IsEntryName c)
      (path : p = rooted slashes (cs ++ [c]))
      (folder : d.place? (rooted slashes cs) = .ok (.occupied above (.folder entries folder)))
      (place : d.locate true p = .ok (.free (above ++ [c]))) : IsVacant d p
  /-- The path leads nowhere. -/
  | nowhere (noPlace : ∀ making, ∃ cause, d.locate making p = .error cause) : IsVacant d p

theorem entry?_of_free (h : d.locate true p = .ok (.free names)) (e : Entry) : d.entry? p ≠ .ok e := by
  unfold entry? place?
  rw [locate_of_making h]
  simp

theorem IsVacant.entry?_ne (h : d.IsVacant p) (e : Entry) : d.entry? p ≠ .ok e := by
  cases h with
  | free _ _ _ _ _ hplace => exact entry?_of_free hplace e
  | nowhere hno =>
    obtain ⟨cause, hcause⟩ := hno false
    unfold entry? place?
    rw [hcause]
    simp

/-- **A file that is written where nothing was can be removed**, and no other place is changed by either. -/
theorem IsVacant.remove_wrote (h : d.IsVacant p) (hroot : d.root.IsFolderAt [])
    (hwrote : d.Wrote p names access content d') : d.root.get? names = none ∧ access.read = true ∧
      ∃ d'', d'.remove p = .ok d'' ∧ ChangedAt names d' d'' ∧ ∀ e, d''.entry? p ≠ .ok e := by
  have hopened := openToWrite_eq_ok_iff.mp hwrote.opened
  cases h with
  | @free slashes c cs above entries folder hs hcs hc hpath hfolder hplace =>
    rw [hplace] at hopened
    rcases hopened with ⟨_, hold, -⟩ | ⟨hfree, hwrite, rfl⟩
    · cases hold
    obtain rfl := Place.free.inj (Except.ok.inj hfree)
    have haccess : d.root.accessAt above = folder := by rw [Entry.accessAt, get?_of_locate hroot hfolder]
    rw [List.dropLast_concat, haccess] at hwrite
    obtain ⟨entries', hfolder'⟩ := hwrote.changed.place?_folder hroot hfolder
    have hfound := hwrote.found
    rw [hpath] at hfound
    obtain ⟨d'', hremove, hchanged, hgone⟩ :=
      remove_file hs hcs hc.1 hc.2.2 (hwrote.changed.isFolderAt hroot) hfolder' hwrite hfound
    rw [← hpath] at hremove hgone
    exact ⟨get?_eq_none_of_locate hroot hplace, rfl, d'', hremove, hchanged, entry?_of_free hgone⟩
  | nowhere hno =>
    obtain ⟨cause, hcause⟩ := hno true
    rw [hcause] at hopened
    rcases hopened with ⟨_, hold, -⟩ | ⟨hfree, -⟩
    · cases hold
    · cases hfree

end Disk

namespace Export

variable {r : Request} {m : Machine} {d : Disk}

/-! ## Making and filling the scratch file -/

/-- How making and filling the scratch file ends. -/
inductive Scratched (r : Request) (d : Disk) : Except ExportError Unit × Disk → Prop
  /-- It cannot be made. -/
  | refused {f : Fault} (unmade : d.write r.scratch [] = (.error f, d)) : Scratched r d (.error (.fault f), d)
  /-- It was made and could not be filled, and holds a beginning of the settings. -/
  | stranded {e : ExportError} {names : List Text} {access : Access} {left : Bytes} {empty after : Disk}
      (made : d.write r.scratch [] = (.ok (), empty)) (wrote : d.Wrote r.scratch names access left after)
      (isPrefix : left <+: Utf8.encode r.settings) (unfinished : left ≠ Utf8.encode r.settings) :
      Scratched r d (.error e, after)
  /-- It holds the settings. -/
  | filled {names : List Text} {access : Access} {after : Disk}
      (wrote : d.Wrote r.scratch names access (Utf8.encode r.settings) after) : Scratched r d (.ok (), after)

/-- The settings begin with what is written before a number that cannot be, and go on behind it. -/
theorem settings_eq (r : Request) : ∃ b bs, Utf8.encode r.settings = Utf8.encode Request.settingsHead ++ b :: bs := by
  have hsplit : Utf8.encode r.settings =
      Utf8.encode Request.settingsHead ++ Utf8.encode (Text.ofInt r.maxTextSize ++ "\x7d") := by
    rw [Request.settings, List.append_assoc]
    exact List.flatMap_append
  have hbehind : Utf8.encode (Text.ofInt r.maxTextSize ++ "\x7d") ≠ [] := by
    rw [Utf8.encode, List.flatMap_append]
    exact List.append_ne_nil_of_right_ne_nil _ (by decide)
  obtain ⟨b, bs, hbs⟩ := List.exists_cons_of_ne_nil hbehind
  exact ⟨b, bs, hsplit.trans (congrArg _ hbs)⟩

/-- **What becomes of the scratch file** when it is made and filled. -/
theorem scratched_writeScratch (hroot : d.root.IsFolderAt []) (r : Request) : Scratched r d (writeScratch r d) := by
  cases hopen : d.openToWrite r.scratch with
  | error f =>
    have hunmade : d.write r.scratch [] = (.error f, d) := by rw [Disk.write, hopen]
    simp only [writeScratch, hunmade]
    exact .refused hunmade
  | ok opened =>
    obtain ⟨names, access⟩ := opened
    obtain ⟨empty, hmade, hempty, hroot', hreopen⟩ := Disk.exists_emptied hroot hopen
    cases hsize : Text.isWritable r.maxTextSize with
    | true =>
      cases hholds : access.holds (Utf8.encode r.settings) with
      | true =>
        obtain ⟨after, hwrite, hwrote⟩ := Disk.exists_wrote_of_holds hroot' hreopen hholds
        simp only [writeScratch, hmade, hsize, if_true, hwrite]
        exact .filled (hempty.trans hwrote)
      | false =>
        obtain ⟨after, hwrite, hwrote⟩ := Disk.exists_wrote hroot' hreopen (Utf8.encode r.settings)
        rw [hholds, if_neg Bool.false_ne_true] at hwrite
        simp only [writeScratch, hmade, hsize, if_true, hwrite]
        exact .stranded hmade (hempty.trans hwrote) (access.fit_isPrefix _) (Access.fit_ne_of_not_holds hholds)
    | false =>
      -- whether or not there is room for it, what stands before the number is not all
      obtain ⟨after, hwrite, hwrote⟩ := Disk.exists_wrote hroot' hreopen (Utf8.encode Request.settingsHead)
      obtain ⟨b, bs, hsettings⟩ := settings_eq r
      have hbegins := access.fit_isPrefix (Utf8.encode Request.settingsHead)
      have hleft : access.fit (Utf8.encode Request.settingsHead) <+: Utf8.encode r.settings ∧
          access.fit (Utf8.encode Request.settingsHead) ≠ Utf8.encode r.settings := by
        rw [hsettings]
        refine ⟨hbegins.trans (List.prefix_append _ _), fun heq => ?_⟩
        have hlength := hbegins.length_le
        rw [heq, List.length_append, List.length_cons] at hlength
        omega
      cases hholds : access.holds (Utf8.encode Request.settingsHead) with
      | true =>
        rw [hholds, if_pos rfl] at hwrite
        simp only [writeScratch, hmade, hsize, Bool.false_eq_true, if_false, hwrite]
        exact .stranded hmade (hempty.trans hwrote) hleft.1 hleft.2
      | false =>
        rw [hholds, if_neg Bool.false_ne_true] at hwrite
        simp only [writeScratch, hmade, hsize, Bool.false_eq_true, if_false, hwrite]
        exact .stranded hmade (hempty.trans hwrote) hleft.1 hleft.2

/-! ## While strategies are tried -/

/-- **Trying strategies leaves the disk as it is**, and every program that is run sees this disk. -/
theorem tryAll_keeps (r : Request) (strategies : List Strategy) (m : Machine) (attempts : List Attempt) :
    (tryAll r m attempts strategies).2.disk = m.disk ∧
      ∃ calls, (tryAll r m attempts strategies).2.calls = m.calls ++ calls ∧ ∀ call ∈ calls, call.seen = m.disk := by
  induction strategies generalizing m attempts with
  | nil => exact ⟨rfl, [], (List.append_nil _).symm, List.forall_mem_nil _⟩
  | cons s rest ih =>
    cases hanswer : s.launcher m r.arguments with
    | undefined =>
      rw [tryAll, hanswer]
      exact ⟨rfl, [], (List.append_nil _).symm, List.forall_mem_nil _⟩
    | fault f =>
      rw [tryAll, hanswer]
      exact ⟨rfl, [], (List.append_nil _).symm, List.forall_mem_nil _⟩
    | absent =>
      rw [tryAll_absent hanswer]
      exact ih m _
    | words argv =>
      cases hreason : failureReason? r.timeout (nextOutcome m) with
      | none =>
        rw [tryAll_success hanswer hreason]
        exact ⟨rfl, [⟨argv, r.folder, r.timeout, m.disk⟩], rfl, List.forall_mem_singleton.mpr rfl⟩
      | some reason =>
        rw [tryAll_failure hanswer hreason]
        obtain ⟨hdisk, calls, hcalls, hseen⟩ := ih (m.run argv r.folder r.timeout).2
          (attempts ++ [⟨s.name, argv, reason⟩])
        refine ⟨hdisk, ⟨argv, r.folder, r.timeout, m.disk⟩ :: calls, ?_, List.forall_mem_cons.mpr ⟨rfl, hseen⟩⟩
        rw [hcalls, Machine.run, List.append_assoc, List.singleton_append]

/-! ## The whole export -/

/-- The diagram can be written and the scratch file made, but the scratch file cannot be filled. -/
def Stranded (r : Request) (m : Machine) : Prop :=
  Text.isBlankText r.diagram = false ∧ ∃ d made after e, m.disk.write r.rawPath (Utf8.encode r.diagram) = (.ok (), d) ∧
    d.write r.scratch [] = (.ok (), made) ∧ writeScratch r d = (.error e, after)

/-- What an export leaves behind. -/
structure Tidy (r : Request) (m : Machine) (result : Except ExportError Exported) (after : Machine) : Prop where
  /-- The file with the settings of the renderer is not there, unless it could not be filled. -/
  scratch_iff : (∃ e, after.disk.entry? r.scratch = .ok e) ↔ Stranded r m
  /-- If it could not be filled, it holds a beginning of the settings, and no program was run. -/
  scratch_left : Stranded r m → (∃ e, result = .error e) ∧ after.calls = m.calls ∧
    ∃ left access, after.disk.entry? r.scratch = .ok (.file left access) ∧
      left <+: Utf8.encode r.settings ∧ left ≠ Utf8.encode r.settings
  /-- Every program that was run has seen the settings of the renderer, and the diagram in its file. -/
  seen : ∃ calls, after.calls = m.calls ++ calls ∧ ∀ call ∈ calls,
    call.seen.read r.scratch =
        .ok (Utf8.encode (("\x7b\"maxTextSize\": " : Text) ++ Text.ofInt r.maxTextSize ++ "\x7d")) ∧
      ∃ access, call.seen.entry? r.rawPath = .ok (.file (Utf8.encode r.diagram) access)
  /-- A diagram that could be written is in its file. -/
  raw_kept : Text.isBlankText r.diagram = false →
    (∃ d, m.disk.write r.rawPath (Utf8.encode r.diagram) = (.ok (), d)) →
      ∃ access, after.disk.entry? r.rawPath = .ok (.file (Utf8.encode r.diagram) access)
  /-- A blank diagram is refused before anything is done. -/
  blank : Text.isBlankText r.diagram = true → result = .error .blank ∧ after = m

theorem exportSvg_of_writeScratch_error {e : ExportError} {after : Disk} (hblank : Text.isBlankText r.diagram = false)
    (hraw : m.disk.write r.rawPath (Utf8.encode r.diagram) = (.ok (), d))
    (hscratch : writeScratch r d = (.error e, after)) :
    exportSvg m r = (.error e, m.withDisk after) := by
  simp only [exportSvg, hblank, hraw, hscratch, Bool.false_eq_true, if_false]

/-- An export that makes no scratch file and runs no program is tidy. -/
theorem tidy_of_unmade {result : Except ExportError Exported} {after : Machine} (hstranded : ¬Stranded r m)
    (hgone : ∀ e, after.disk.entry? r.scratch ≠ .ok e) (hcalls : after.calls = m.calls)
    (hraw : Text.isBlankText r.diagram = false →
      (∃ d, m.disk.write r.rawPath (Utf8.encode r.diagram) = (.ok (), d)) →
        ∃ access, after.disk.entry? r.rawPath = .ok (.file (Utf8.encode r.diagram) access))
    (hblank : Text.isBlankText r.diagram = true → result = .error .blank ∧ after = m) : Tidy r m result after where
  scratch_iff := ⟨fun ⟨e, he⟩ => absurd he (hgone e), fun h => absurd h hstranded⟩
  scratch_left h := absurd h hstranded
  seen := ⟨[], hcalls.trans (List.append_nil _).symm, List.forall_mem_nil _⟩
  raw_kept := hraw
  blank := hblank

/-- An export that comes to try its strategies is tidy. -/
theorem tidy_of_filled {seen : Disk} {names target : List Text} {access settings : Access}
    (hblank : Text.isBlankText r.diagram = false) (hraw : m.disk.write r.rawPath (Utf8.encode r.diagram) = (.ok (), d))
    (hroot : d.root.IsFolderAt [])
    (hplace : d.place? r.rawPath = .ok (.occupied names (.file (Utf8.encode r.diagram) access)))
    (hvacant : d.IsVacant r.scratch) (hscratch : writeScratch r d = (.ok (), seen))
    (hwrote : d.Wrote r.scratch target settings (Utf8.encode r.settings) seen) :
    Tidy r m (exportSvg m r).1 (exportSvg m r).2 := by
  obtain ⟨hfree, hreadable, d', hremove, hchanged, hgone⟩ := hvacant.remove_wrote hroot hwrote
  -- the diagram is not where the settings are, so its file stays when they come and go
  have hne : names ≠ target := by
    rintro rfl
    rw [Disk.get?_of_locate hroot hplace] at hfree
    cases hfree
  have hseen := hwrote.changed.place?_file hroot hplace hne
  have hleft := hchanged.place?_file (hwrote.changed.isFolderAt hroot) hseen hne
  obtain ⟨hdisk, calls, hcalls, hsees⟩ := tryAll_keeps r r.strategies (m.withDisk seen) []
  have hremoved : (removeScratch r (tryAll r (m.withDisk seen) [] r.strategies).2).disk = d' := by
    have hsame : (tryAll r (m.withDisk seen) [] r.strategies).2.disk.remove r.scratch = .ok d' := by
      rw [hdisk]
      exact hremove
    rw [removeScratch, hsame]
    rfl
  have hstranded : ¬Stranded r m := by
    rintro ⟨-, made, _, after, e, hmade, -, herror⟩
    obtain rfl := (Prod.mk.inj (hraw.symm.trans hmade)).2
    rw [hscratch] at herror
    cases herror
  rw [exportSvg_eq_tryAll hblank hraw hscratch]
  refine ⟨⟨fun ⟨e, he⟩ => ?_, fun h => absurd h hstranded⟩, fun h => absurd h hstranded,
    ⟨calls, ?_, fun call hcall => ?_⟩, fun _ _ => ⟨access, ?_⟩, fun h => ?_⟩
  · rw [hremoved] at he
    exact absurd he (hgone e)
  · rw [calls_removeScratch]
    exact hcalls
  · rw [hsees call hcall]
    refine ⟨?_, access, Disk.entry?_of_place? hseen⟩
    exact Disk.read_eq_ok_iff.mpr ⟨_, hwrote.entry?, hreadable⟩
  · rw [hremoved]
    exact Disk.entry?_of_place? hleft
  · rw [hblank] at h
    cases h

/-- An export whose scratch file is made and cannot be filled is tidy but for this file. -/
theorem tidy_of_stranded {e : ExportError} {empty after : Disk} {names target : List Text} {access settings : Access}
    {left : Bytes} (hblank : Text.isBlankText r.diagram = false)
    (hraw : m.disk.write r.rawPath (Utf8.encode r.diagram) = (.ok (), d))
    (hroot : d.root.IsFolderAt [])
    (hplace : d.place? r.rawPath = .ok (.occupied names (.file (Utf8.encode r.diagram) access)))
    (hvacant : d.IsVacant r.scratch) (hmade : d.write r.scratch [] = (.ok (), empty))
    (hscratch : writeScratch r d = (.error e, after)) (hwrote : d.Wrote r.scratch target settings left after)
    (hbegins : left <+: Utf8.encode r.settings) (hne : left ≠ Utf8.encode r.settings) :
    Tidy r m (.error e) (m.withDisk after) := by
  have hfree := (hvacant.remove_wrote hroot hwrote).1
  have hother : names ≠ target := by
    rintro rfl
    rw [Disk.get?_of_locate hroot hplace] at hfree
    cases hfree
  have hkept := hwrote.changed.place?_file hroot hplace hother
  have hstranded : Stranded r m := ⟨hblank, d, empty, after, e, hraw, hmade, hscratch⟩
  exact {
    scratch_iff := ⟨fun _ => hstranded, fun _ => ⟨_, hwrote.entry?⟩⟩
    scratch_left := fun _ => ⟨⟨e, rfl⟩, rfl, left, settings, hwrote.entry?, hbegins, hne⟩
    seen := ⟨[], (List.append_nil _).symm, List.forall_mem_nil _⟩
    raw_kept := fun _ _ => ⟨access, Disk.entry?_of_place? hkept⟩
    blank := fun h => by rw [hblank] at h; cases h }

/-- **An export is tidy on every way out**: whatever the strategies answer and however their runs end, if nothing is
where the settings of the renderer are kept, before the diagram is written and afterwards. -/
theorem exportSvg_tidy (hroot : m.disk.root.isFolder = true) (hbefore : m.disk.IsVacant r.scratch)
    (hafter : (m.disk.write r.rawPath (Utf8.encode r.diagram)).2.IsVacant r.scratch) :
    Tidy r m (exportSvg m r).1 (exportSvg m r).2 := by
  have hfolder := Entry.isFolderAt_nil hroot
  cases hblank : Text.isBlankText r.diagram with
  | true =>
    rw [exportSvg, if_pos hblank]
    have hstranded : ¬Stranded r m := fun h => by rw [h.1] at hblank; cases hblank
    exact tidy_of_unmade hstranded hbefore.entry?_ne rfl (fun h => by rw [hblank] at h; cases h) fun _ => ⟨rfl, rfl⟩
  | false =>
    have hnot : ∀ {result : Except ExportError Exported} {after : Machine},
        Text.isBlankText r.diagram = true → result = .error .blank ∧ after = m := fun h => by rw [hblank] at h; cases h
    rcases hraw : m.disk.write r.rawPath (Utf8.encode r.diagram) with ⟨answer, d⟩
    rw [hraw] at hafter
    cases answer with
    | error f =>
      have hexport : exportSvg m r = (.error (.fault f), m.withDisk d) := by
        simp only [exportSvg, hblank, hraw, Bool.false_eq_true, if_false]
      have hunwritten : ¬∃ d', m.disk.write r.rawPath (Utf8.encode r.diagram) = (.ok (), d') := by
        rintro ⟨d', h⟩
        rw [hraw] at h
        cases h
      have hstranded : ¬Stranded r m := by
        rintro ⟨-, d', -, -, -, h, -⟩
        exact hunwritten ⟨d', h⟩
      rw [hexport]
      exact tidy_of_unmade hstranded hafter.entry?_ne rfl (fun _ h => absurd h hunwritten) hnot
    | ok =>
      obtain ⟨names, access, hwrote⟩ := Disk.wrote_of_write hfolder hraw
      have hroot' := hwrote.changed.isFolderAt hfolder
      have hplace := Disk.locate_of_making hwrote.found
      have hscratched := scratched_writeScratch hroot' r
      rcases hscratch : writeScratch r d with ⟨answer, seen⟩
      rw [hscratch] at hscratched
      cases hscratched with
      | refused hunmade =>
        rw [exportSvg_of_writeScratch_error hblank hraw hscratch]
        refine tidy_of_unmade ?_ hafter.entry?_ne rfl (fun _ _ => ⟨access, hwrote.entry?⟩) hnot
        rintro ⟨-, d', _, _, _, hraw', hmade, -⟩
        obtain rfl := (Prod.mk.inj (hraw.symm.trans hraw')).2
        rw [hunmade] at hmade
        cases hmade
      | stranded hmade hleft hbegins hne =>
        rw [exportSvg_of_writeScratch_error hblank hraw hscratch]
        exact tidy_of_stranded hblank hraw hroot' hplace hafter hmade hscratch hleft hbegins hne
      | filled hfilled => exact tidy_of_filled hblank hraw hroot' hplace hafter hscratch hfilled

/-! ## Samples -/

/-- The place for the settings is vacant when it is free, as long as its folder is there. -/
theorem isVacant_sample {entries : List (Text × Entry)} {folder : Access}
    (hfolder : d.place? "/tmp" = .ok (.occupied ["tmp"] (.folder entries folder)))
    (hplace : d.locate true "/tmp/settings.json" = .ok (.free ["tmp", "settings.json"])) :
    d.IsVacant "/tmp/settings.json" :=
  @Disk.IsVacant.free d _ "/" "settings.json" ["tmp"] ["tmp"] _ _ (Or.inl rfl) (by decide) (by decide) rfl hfolder
    hplace

/-- It is vacant on the sample disk, before the diagram is written and afterwards. -/
theorem isVacant_sampleDisk {a : Access} (hsearch : a.search = true) (strategies : List Strategy) :
    (sampleDisk a).IsVacant (sampleRequest strategies).scratch ∧
      ((sampleDisk a).write (sampleRequest strategies).rawPath
        (Utf8.encode (sampleRequest strategies).diagram)).2.IsVacant (sampleRequest strategies).scratch := by
  have hfolder : (sampleDisk a).place? "/tmp" = .ok (.occupied ["tmp"] (.folder [] a)) := by cbv
  obtain ⟨d', hraw, hchanged, hplace⟩ := write_sampleRaw hsearch strategies
  obtain ⟨entries, hfolder'⟩ := hchanged.place?_folder (Entry.isFolderAt_nil rfl) hfolder
  rw [hraw]
  exact ⟨isVacant_sample hfolder (locate_sampleScratch hsearch), isVacant_sample hfolder' hplace⟩

/-- The renderer fails, and the next strategy does not say how to start it. -/
theorem exportSvg_tidy_sample :
    let m := sampleMachine true [.exited 1 [] "no browser\n"]
    let r := sampleRequest [.installedBinary, .unspecified, .packageManager]
    m.disk.root.isFolder = true ∧ m.disk.IsVacant r.scratch ∧
      (m.disk.write r.rawPath (Utf8.encode r.diagram)).2.IsVacant r.scratch ∧
      Tidy r m (exportSvg m r).1 (exportSvg m r).2 := by
  intro m r
  obtain ⟨hbefore, hafter⟩ := isVacant_sampleDisk (a := true) rfl r.strategies
  exact ⟨rfl, hbefore, hafter, exportSvg_tidy rfl hbefore hafter⟩

/-- **A scratch file that cannot be filled stays.** Where there is room for five bytes only, it is made, holds the
beginning of the settings, and is not removed. -/
theorem not_scratch_removed_full :
    let m := sampleMachine { read := true, room := some 5 } []
    let r := sampleRequest [.installedBinary]
    m.disk.IsVacant r.scratch ∧ (m.disk.write r.rawPath (Utf8.encode r.diagram)).2.IsVacant r.scratch ∧
      (exportSvg m r).1 = .error (.fault ⟨.noRoom, r.scratch⟩) ∧
      ∃ access, (exportSvg m r).2.disk.entry? r.scratch = .ok (.file (Utf8.encode "\x7b\"max") access) := by
  intro m r
  have hroot : m.disk.root.IsFolderAt [] := Entry.isFolderAt_nil rfl
  obtain ⟨hbefore, hafter⟩ := isVacant_sampleDisk (a := { read := true, room := some 5 }) rfl r.strategies
  obtain ⟨d, hraw, hchanged, hplace⟩ := write_sampleRaw (a := { read := true, room := some 5 }) rfl r.strategies
  have hopen := openToWrite_sampleScratch rfl hchanged hplace
  obtain ⟨empty, hmade, hempty, hroot', hreopen⟩ := Disk.exists_emptied (hchanged.isFolderAt hroot) hopen
  obtain ⟨after, hfill, hwrote⟩ :=
    Disk.exists_wrote hroot' hreopen (Utf8.encode r.settings)
  have hscratch : writeScratch r d = (.error (.fault ⟨.noRoom, r.scratch⟩), after) := by
    have hsize : Text.isWritable r.maxTextSize = true := by decide
    have hmade' : d.write r.scratch [] = (.ok (), empty) := hmade
    have hfill' : empty.write r.scratch (Utf8.encode r.settings) = (.error ⟨.noRoom, r.scratch⟩, after) := hfill
    simp only [writeScratch, hmade', hsize, if_true, hfill']
  have hexport : exportSvg m r = (.error (.fault ⟨.noRoom, r.scratch⟩), m.withDisk after) :=
    exportSvg_of_writeScratch_error (by decide) hraw hscratch
  exact ⟨hbefore, hafter, by rw [hexport], _, by rw [hexport]; exact hwrote.entry?⟩

end Export

end ImportChart
