import ImportChart.Source.Pattern

/-!
# Extracting declarations

`scan` goes through a text from left to right and looks for a form at every position that no earlier match covers.
`extract` does so for the forms of imports, functions and classes; the two forms of imports are scanned for apart and
merged by where they begin. Nothing is parsed: a declaration in a string or comment counts like any other.
-/

namespace ImportChart.Source

/-- A match: where it begins, where the text after it begins, and what it captures. -/
structure Hit where
  start : Nat
  stop : Nat
  capture : Text
  deriving DecidableEq, Repr

/-- The matches in a text that begins at a position. -/
def scanFrom (recognise : Text → Option Found) (position : Nat) : Text → List Hit
  | [] => []
  | c :: cs =>
    match recognise (c :: cs) with
    | none => scanFrom recognise (position + 1) cs
    | some found =>
      if found.rest.length ≤ cs.length then
        let stop := position + (cs.length + 1 - found.rest.length)
        ⟨position, stop, found.capture⟩ :: scanFrom recognise stop found.rest
      else scanFrom recognise (position + 1) cs
termination_by t => t.length

/-- The matches in a text, from left to right. -/
def scan (recognise : Text → Option Found) (t : Text) : List Hit := scanFrom recognise 0 t

/-- What a source file declares: in the order of the text, repetitions kept. -/
structure Declarations where
  imports : List Text := []
  functions : List Text := []
  classes : List Text := []
  deriving DecidableEq, Repr

/-- The matches of both forms of imports, by where they begin. -/
def importHits (t : Text) : List Hit :=
  List.merge (scan importTarget? t) (scan requireTarget? t) fun a b => a.start ≤ b.start

/-- The declarations of a source file. -/
def extract (t : Text) : Declarations where
  imports := (importHits t).map Hit.capture
  functions := (scan callableName? t).map Hit.capture
  classes := (scan className? t).map Hit.capture

/-! ## Texts with one match at most -/

section

variable {recognise : Text → Option Found} {t : Text}

/-- A text in which no form begins has no matches. -/
theorem scanFrom_eq_nil (position : Nat) (h : ∀ n < t.length, recognise (t.drop n) = none) :
    scanFrom recognise position t = [] := by
  induction t generalizing position with
  | nil => rw [scanFrom]
  | cons c cs ih =>
    have hfirst : recognise (c :: cs) = none := h 0 (Nat.zero_lt_succ _)
    rw [scanFrom, hfirst]
    exact ih (position + 1) fun n hn => h (n + 1) (Nat.succ_lt_succ hn)

/-- A text that begins with a form, behind which no other one begins, has this one match. -/
theorem scan_eq_singleton {found : Found} (h : recognise t = some found) (hlen : found.rest.length < t.length)
    (hrest : ∀ n < found.rest.length, recognise (found.rest.drop n) = none) :
    scan recognise t = [⟨0, t.length - found.rest.length, found.capture⟩] := by
  cases t with
  | nil => cases hlen
  | cons c cs =>
    have hle : found.rest.length ≤ cs.length := Nat.le_of_lt_succ hlen
    rw [scan, scanFrom, h]
    simp only [if_pos hle, scanFrom_eq_nil _ hrest, Nat.zero_add, List.length_cons]

/-- A text with a function at its beginning, and with nothing else that is declared, declares this function. -/
theorem extract_of_callableName? (t : Text) (found : Found) (h : callableName? t = some found)
    (hlen : found.rest.length < t.length)
    (hrest : ∀ n < found.rest.length, callableName? (found.rest.drop n) = none)
    (hother : ∀ n < t.length, importTarget? (t.drop n) = none ∧ requireTarget? (t.drop n) = none ∧
      className? (t.drop n) = none) :
    extract t = { functions := [found.capture] } := by
  have hfunctions := scan_eq_singleton h hlen hrest
  have himports : scan importTarget? t = [] := scanFrom_eq_nil 0 fun n hn => (hother n hn).1
  have hrequires : scan requireTarget? t = [] := scanFrom_eq_nil 0 fun n hn => (hother n hn).2.1
  have hclasses : scan className? t = [] := scanFrom_eq_nil 0 fun n hn => (hother n hn).2.2
  simp only [extract, importHits, hfunctions, himports, hrequires, hclasses, List.merge_right, List.map_nil,
    List.map_cons]

end

end ImportChart.Source
