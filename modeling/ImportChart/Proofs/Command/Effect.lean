import ImportChart.Command.Run
import ImportChart.Proofs.Markup.Tagged

/-!
# How the steps of a command end

What a command shows does not matter to what it does next. So a step is told by the machine before and after it.

- `Ends`: a step ends well, with a result; `Stops`: it stops and leaves the machine as it is; `Leaves`: the machine
  afterwards, whether it ends well or stops;
- `Ends.bind`, `Ends.stops`, `Stops.bind`, `Ends.leaves` and `Leaves.bind`: steps one after the other;
- `run_of_ends`, `run_of_stops` and `run_of_leaves`: the response of the program, and the machine afterwards.
-/

namespace ImportChart.Command

open Effect

variable {α β : Type} {m m' m'' : Machine} {a : α} {b : β} {e : Effect α} {f : α → Effect β}

/-! ## Endings -/

/-- A step ends well on a machine, with a result and a machine afterwards, whatever has been shown before. -/
def Ends (e : Effect α) (m : Machine) (a : α) (m' : Machine) : Prop :=
  ∀ s : Session, s.machine = m → ∃ s' : Session, e.run.run s = (.ok a, s') ∧ s'.machine = m'

/-- A step stops on a machine, for another reason than wrong arguments, and leaves the machine as it is. -/
def Stops (e : Effect α) (m : Machine) : Prop :=
  ∀ s : Session, s.machine = m → ∃ (stop : Stop) (s' : Session), e.run.run s = (.error stop, s') ∧ s'.machine = m ∧
    ∀ message, stop ≠ .usage message

/-- A step leaves a machine behind, whether it ends well or stops. -/
def Leaves (e : Effect α) (m m' : Machine) : Prop :=
  ∀ s : Session, s.machine = m → (e.run.run s).2.machine = m'

/-! ## Steps one after the other -/

/-- What comes of a step is what the next one begins with. -/
theorem run_bind (e : Effect α) (f : α → Effect β) (s : Session) :
    (e >>= f).run.run s = match e.run.run s with
      | (.ok a, s') => (f a).run.run s'
      | (.error stop, s') => (.error stop, s') := by
  rw [ExceptT.run_bind, StateT.run_bind]
  obtain ⟨result, s'⟩ := e.run.run s
  cases result <;> rfl

theorem ends_pure (a : α) (m : Machine) : Ends (pure a) m a m := fun s hs => ⟨s, rfl, hs⟩

theorem Ends.bind (h : Ends e m a m') (hf : Ends (f a) m' b m'') : Ends (e >>= f) m b m'' := by
  intro s hs
  obtain ⟨s', hrun, hs'⟩ := h s hs
  obtain ⟨s'', hrun', hs''⟩ := hf s' hs'
  exact ⟨s'', by rw [run_bind, hrun]; exact hrun', hs''⟩

/-- A step that leaves the machine as it is, and one that stops. -/
theorem Ends.stops (h : Ends e m a m) (hf : Stops (f a) m) : Stops (e >>= f) m := by
  intro s hs
  obtain ⟨s', hrun, hs'⟩ := h s hs
  obtain ⟨stop, s'', hrun', hs''⟩ := hf s' hs'
  exact ⟨stop, s'', by rw [run_bind, hrun]; exact hrun', hs''⟩

theorem Stops.bind (h : Stops e m) (f : α → Effect β) : Stops (e >>= f) m := by
  intro s hs
  obtain ⟨stop, s', hrun, hs'⟩ := h s hs
  exact ⟨stop, s', by rw [run_bind, hrun], hs'⟩

theorem Ends.leaves (h : Ends e m a m') (hf : Leaves (f a) m' m'') : Leaves (e >>= f) m m'' := by
  intro s hs
  obtain ⟨s', hrun, hs'⟩ := h s hs
  rw [run_bind, hrun]
  exact hf s' hs'

/-- Steps that do not change the machine. -/
theorem Leaves.bind (h : Leaves e m m) (hf : ∀ a, Leaves (f a) m m) : Leaves (e >>= f) m m := by
  intro s hs
  have hm := h s hs
  rw [run_bind]
  generalize e.run.run s = r at hm
  obtain ⟨result, s'⟩ := r
  cases result with
  | ok a => exact hf a s' hm
  | error stop => exact hm

theorem leaves_forM {items : List β} {f : β → Effect PUnit} (h : ∀ b, Leaves (f b) m m) :
    Leaves (items.forM f) m m := by
  induction items with
  | nil => exact fun _ hs => hs
  | cons b items ih => exact (h b).bind fun _ => ih

/-! ## Single steps -/

theorem ends_disk (m : Machine) : Ends disk m m.disk m := fun s hs => ⟨s, by rw [← hs]; rfl, hs⟩

theorem stops_refused (m : Machine) : Stops (throw .refused : Effect α) m :=
  fun s hs => ⟨.refused, s, rfl, hs, fun _ => by simp⟩

theorem stops_fail (failure : Failure) (m : Machine) : Stops (fail failure : Effect α) m :=
  fun s hs => ⟨.failed failure, s, rfl, hs, fun _ => by simp⟩

theorem ends_emit (t : Text) (m : Machine) : Ends (emit t) m () m := fun _ hs => ⟨_, rfl, hs⟩

/-- A line is shown if its tags can be. -/
theorem ends_say {line : Text} (h : ∃ shown, Markup.render line = .ok shown) (m : Machine) :
    Ends (say line) m () m := by
  obtain ⟨shown, hrender⟩ := h
  rw [say, hrender]
  exact ends_emit _ m

/-- Showing a line does not change the machine, even if its tags cannot be shown. -/
theorem leaves_say (line : Text) (m : Machine) : Leaves (say line) m m := by
  intro s hs
  rw [say]
  cases Markup.render line with
  | ok shown => exact hs
  | error fault => exact hs

theorem ends_ofSettings {r : Except SettingsError α} (h : r = .ok a) (m : Machine) : Ends (ofSettings r) m a m := by
  subst h
  exact ends_pure a m

theorem ends_writeFile {path content : Text} {d : Disk} (h : m.disk.write path (Utf8.encode content) = (.ok (), d)) :
    Ends (writeFile path content) m () (m.withDisk d) := by
  refine (ends_disk m).bind ?_
  rw [h]
  exact fun s hs => ⟨_, rfl, by rw [← hs]⟩

/-- A file that cannot be opened is not written. -/
theorem stops_writeFile {path content : Text} {f : Fault}
    (h : m.disk.write path (Utf8.encode content) = (.error f, m.disk)) : Stops (writeFile path content) m := by
  refine (ends_disk m).stops ?_
  rw [h]
  rintro s rfl
  exact ⟨_, _, rfl, rfl, fun _ => by simp⟩

/-! ## Runs of the program -/

variable {places : Places} {arguments : List Text} {invocation : Invocation}

section

variable (hinvocation : Invocation.ofArguments arguments = some invocation)
include hinvocation

theorem run_of_ends (h : Ends (command places invocation) m () m') :
    (run places arguments m).1.exitCode = 0 ∧ (run places arguments m).2 = m' := by
  obtain ⟨s', hrun, hs'⟩ := h { machine := m } rfl
  rw [run, hinvocation]
  simp only [hrun, hs', and_true]
  rfl

theorem run_of_stops (h : Stops (command places invocation) m) :
    (run places arguments m).1.exitCode = 1 ∧ (run places arguments m).2 = m := by
  obtain ⟨stop, s', hrun, hs', hstop⟩ := h { machine := m } rfl
  rw [run, hinvocation]
  simp only [hrun, hs', and_true]
  cases stop with
  | usage message => exact absurd rfl (hstop message)
  | refused => rfl
  | failed failure => rfl

theorem run_of_leaves (h : Leaves (command places invocation) m m') : (run places arguments m).2 = m' := by
  rw [run, hinvocation]
  exact h { machine := m } rfl

end

end ImportChart.Command
