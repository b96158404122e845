import ImportChart.Tree.Disk

/-!
# Running programs

A `Machine` is a disk together with the programs that can be found and the outcomes that the next runs will have, so
that a run is a function. Every run is recorded with the disk that the program sees.
-/

namespace ImportChart

/-- How the run of a program ends. -/
inductive Outcome where
  /-- The program ended with an exit code, after writing to its two channels. -/
  | exited (code : Int) (output errors : Text)
  /-- The time limit was reached. -/
  | expired
  /-- The system could not start the program. -/
  | refused (reason : Text)
  deriving DecidableEq, Repr

/-- A run: what was called, where, with which time limit in seconds, and the disk that the program saw. -/
structure Call where
  argv : List Text
  folder : Text
  timeout : Int
  seen : Disk

/-- A disk with the programs and their outcomes. -/
structure Machine where
  disk : Disk
  /-- Where each program is found. -/
  programs : List (Text × Text)
  /-- The outcomes of the next runs; a run after the last of them succeeds without output. -/
  outcomes : List Outcome
  /-- The runs so far, the oldest first. -/
  calls : List Call

namespace Machine

/-- Where a program is found; an empty path counts as none. -/
def find? (m : Machine) (program : Text) : Option Text :=
  (m.programs.lookup program).filter fun path => !path.isEmpty

/-- Run a program. -/
def run (m : Machine) (argv : List Text) (folder : Text) (timeout : Int) : Outcome × Machine :=
  (m.outcomes.headD (.exited 0 [] []),
    { m with outcomes := m.outcomes.drop 1, calls := m.calls ++ [⟨argv, folder, timeout, m.disk⟩] })

/-- Change the disk. -/
def withDisk (m : Machine) (d : Disk) : Machine := { m with disk := d }

end Machine

end ImportChart
