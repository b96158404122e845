import ImportChart.Proofs.Text.Numerals
import Mathlib.Data.Nat.Digits.Defs

/-!
# The numerals of integers

- `IsDigitRun`: digits with single underscores between them, and their values;
- `IsNumeral`: a text is the numeral of an integer, told by its parts;
- `readInt_eq_ok_iff`: exactly the numerals are read, each as the integer that it is the numeral of.
-/

namespace ImportChart.Text

variable {c : Char} {t run digits : Text} {d n : Nat} {ds : List Nat} {k : Int}

/-! ## Digits and underscores -/

/-- Digits with single underscores between them, and the values of the digits. -/
inductive IsDigitRun : Text → List Nat → Prop
  | single {c : Char} {d : Nat} (h : digitValue? c = some d) : IsDigitRun [c] [d]
  | digit {c : Char} {d : Nat} {t : Text} {ds : List Nat} (h : digitValue? c = some d) (ht : IsDigitRun t ds) :
    IsDigitRun (c :: t) (d :: ds)
  | underscore {c : Char} {d : Nat} {t : Text} {ds : List Nat} (h : digitValue? c = some d) (ht : IsDigitRun t ds) :
    IsDigitRun (c :: '_' :: t) (d :: ds)

/-- What a digit is not. -/
theorem ne_of_digitValue? (h : digitValue? c = some d) {x : Char} (hx : digitValue? x = none) : c ≠ x := by
  rintro rfl
  rw [hx] at h
  cases h

theorem ne_underscore (h : digitValue? c = some d) : c ≠ '_' := ne_of_digitValue? h (by decide)

theorem isDecimalDigit_of_digitValue? (h : digitValue? c = some d) : isDecimalDigit c = true := by
  rw [isDecimalDigit, h]
  rfl

/-- Away from ASCII, no blank stands among the digits of a script. -/
theorem digitZeros_clear : ∀ z ∈ digitZeros, z + 9 < 0x85 ∨ (0xA0 < z ∧ z + 9 < 0x1680) ∨
    (0x1680 < z ∧ z + 9 < 0x2000) ∨ (0x205F < z ∧ z + 9 < 0x3000) ∨ 0x3000 < z := by decide

/-- No digit is a blank. -/
theorem isBlank_of_digitValue? (h : digitValue? c = some d) : isBlank c = false := by
  rw [digitValue?] at h
  split at h
  · split at h
    · next hdigit => exact isBlank_of_isAlphanum (by simp [Char.isAlphanum, hdigit])
    · cases h
  · next hcode =>
    obtain ⟨z, hz, -⟩ := Option.map_eq_some_iff.mp h
    have hrange := List.find?_some hz
    simp only [Bool.and_eq_true, decide_eq_true_eq] at hrange
    have hclear := digitZeros_clear z (List.mem_of_find?_eq_some hz)
    rw [Bool.eq_false_iff]
    simp only [isBlank, ne_eq, Bool.or_eq_true, Bool.and_eq_true, decide_eq_true_eq, beq_iff_eq]
    omega

theorem isNumeralBlank_of_digitValue? (h : digitValue? c = some d) : isNumeralBlank c = false := by
  rw [isNumeralBlank, isBlank_of_digitValue? h, Bool.false_and]

namespace IsDigitRun

theorem exists_cons (h : IsDigitRun run ds) : ∃ c rest d, run = c :: rest ∧ digitValue? c = some d := by
  cases h with
  | single h => exact ⟨_, _, _, rfl, h⟩
  | digit h _ => exact ⟨_, _, _, rfl, h⟩
  | underscore h _ => exact ⟨_, _, _, rfl, h⟩

theorem exists_getLast? (h : IsDigitRun run ds) : ∃ c d, run.getLast? = some c ∧ digitValue? c = some d := by
  induction h with
  | single h => exact ⟨_, _, rfl, h⟩
  | digit _ ht ih | underscore _ ht ih =>
    obtain ⟨c, d, hlast, hc⟩ := ih
    obtain ⟨first, rest, -, rfl, -⟩ := ht.exists_cons
    exact ⟨c, d, by simpa [List.getLast?_cons_cons] using hlast, hc⟩

theorem isDigit_or_underscore (h : IsDigitRun run ds) : ∀ c ∈ run, (isDecimalDigit c || c == '_') = true := by
  induction h with
  | single h => simp [isDecimalDigit_of_digitValue? h]
  | digit h _ ih => exact List.forall_mem_cons.mpr ⟨by simp [isDecimalDigit_of_digitValue? h], ih⟩
  | underscore h _ ih =>
    exact List.forall_mem_cons.mpr ⟨by simp [isDecimalDigit_of_digitValue? h], List.forall_mem_cons.mpr ⟨by simp, ih⟩⟩

/-- Without the underscores the digits are left. -/
theorem map_digits (h : IsDigitRun run ds) : (run.filter (· ≠ '_')).map digitValue? = ds.map some := by
  induction h with
  | single h => simp [ne_underscore h, h]
  | digit h _ ih => simpa [ne_underscore h, h] using ih
  | underscore h _ ih => simpa [ne_underscore h, h] using ih

theorem length_digits (h : IsDigitRun run ds) : (run.filter (· ≠ '_')).length = ds.length := by
  have hlength := congrArg List.length h.map_digits
  rwa [List.length_map, List.length_map] at hlength

theorem digits_ne_nil (h : IsDigitRun run ds) : run.filter (· ≠ '_') ≠ [] := by
  intro hnil
  have hmap := h.map_digits
  rw [hnil] at hmap
  cases h with
  | single _ => cases hmap
  | digit _ _ => cases hmap
  | underscore _ _ => cases hmap

end IsDigitRun

/-- The number that digits stand for, the last one being the ones. -/
theorem valueOfDigits_eq (h : digits.map digitValue? = ds.map some) :
    valueOfDigits 10 digits = Nat.ofDigits 10 ds.reverse := by
  induction ds using List.reverseRecOn generalizing digits with
  | nil =>
    rw [List.map_eq_nil_iff.mp h]
    rfl
  | append_singleton ds d ih =>
    rw [List.map_append] at h
    obtain ⟨front, last, rfl, hfront, hlast⟩ := List.map_eq_append_iff.mp h
    obtain ⟨c, rfl, hc⟩ := List.map_eq_singleton_iff.mp hlast
    have hvalue := ih hfront
    rw [valueOfDigits] at hvalue ⊢
    rw [List.foldl_append, hvalue, List.reverse_append, List.reverse_singleton, List.singleton_append,
      Nat.ofDigits_cons, List.foldl_cons, List.foldl_nil, hc]
    simp only
    omega

/-! ## Where underscores may stand -/

theorem go_cons (hc : c ≠ '_') (t : Text) : underscoresSeparate.go (c :: t) = underscoresSeparate.go t := by
  rw [underscoresSeparate.go]
  · rintro rfl -
    exact hc rfl
  · rintro next rest rfl -
    exact hc rfl

theorem underscoresSeparate_cons (hc : c ≠ '_') (t : Text) :
    underscoresSeparate (c :: t) = underscoresSeparate.go t := by
  rw [underscoresSeparate]
  rintro rfl
  exact hc rfl

theorem IsDigitRun.underscoresSeparate (h : IsDigitRun run ds) : underscoresSeparate run = true := by
  induction h with
  | single h =>
    rw [underscoresSeparate_cons (ne_underscore h)]
    rfl
  | digit h ht ih =>
    obtain ⟨c, rest, d, rfl, hc⟩ := ht.exists_cons
    rw [underscoresSeparate_cons (ne_underscore hc)] at ih
    rw [underscoresSeparate_cons (ne_underscore h), go_cons (ne_underscore hc), ih]
  | underscore h ht ih =>
    obtain ⟨c, rest, d, rfl, hc⟩ := ht.exists_cons
    rw [underscoresSeparate_cons (ne_underscore hc)] at ih
    rw [underscoresSeparate_cons (ne_underscore h), underscoresSeparate.go, ih]
    · simp [ne_underscore hc]

/-- Digits and underscores behind a digit are a run with it, if the underscores are in their places. -/
theorem exists_isDigitRun (hc : digitValue? c = some d) (hgo : underscoresSeparate.go t = true)
    (hchars : ∀ x ∈ t, (isDecimalDigit x || x == '_') = true) : ∃ ds, IsDigitRun (c :: t) ds := by
  have hdigit {x : Char} (hx : (isDecimalDigit x || x == '_') = true) (hne : x ≠ '_') :
      ∃ d, digitValue? x = some d := by
    rw [beq_false_of_ne hne, Bool.or_false] at hx
    exact Option.isSome_iff_exists.mp hx
  fun_induction underscoresSeparate.go t generalizing c d with
  | case1 => exact ⟨[d], .single hc⟩
  | case2 => cases hgo
  | case3 next rest ih =>
    obtain ⟨hne, hgo⟩ := Bool.and_eq_true_iff.mp hgo
    obtain ⟨hnext, hrest⟩ := List.forall_mem_cons.mp (List.forall_mem_cons.mp hchars).2
    obtain ⟨e, he⟩ := hdigit hnext (by simpa using hne)
    obtain ⟨ds, hds⟩ := ih he hgo hrest
    exact ⟨d :: ds, .underscore hc hds⟩
  | case4 next rest hlast hnot ih =>
    obtain ⟨hnext, hrest⟩ := List.forall_mem_cons.mp hchars
    have hne : next ≠ '_' := by
      rintro rfl
      cases rest with
      | nil => exact hlast rfl rfl
      | cons x rest => exact hnot x rest rfl rfl
    obtain ⟨e, he⟩ := hdigit hnext hne
    obtain ⟨ds, hds⟩ := ih he hgo hrest
    exact ⟨d :: ds, .digit hc hds⟩

/-! ## Numerals -/

/-- The integer with a sign in front of a natural number. -/
def signed (sign : Text) (n : Nat) : Int := if sign = ['-'] then -(n : Int) else n

/-- A text is the numeral of an integer: digits of any script, not more of them than are read, with single underscores
between them, a sign or none in front, and blanks around. -/
inductive IsNumeral : Text → Int → Prop
  | mk {before sign run after : Text} {ds : List Nat} (hbefore : ∀ c ∈ before, isNumeralBlank c = true)
    (hsign : sign = [] ∨ sign = ['+'] ∨ sign = ['-']) (hrun : IsDigitRun run ds) (hlimit : ds.length ≤ maxDigits)
    (hafter : ∀ c ∈ after, isNumeralBlank c = true) :
    IsNumeral (before ++ (sign ++ run) ++ after) (signed sign (Nat.ofDigits 10 ds.reverse))

/-- A sign is what stands before the body of a numeral. -/
theorem exists_sign (t : Text) : ∃ sign, t = sign ++ (takeSign t).2 ∧ (sign = [] ∨ sign = ['+'] ∨ sign = ['-']) ∧
    ((takeSign t).1 = true ↔ sign = ['-']) := by
  unfold takeSign
  split
  · exact ⟨['-'], rfl, by simp, by simp⟩
  · exact ⟨['+'], rfl, by simp, by simp⟩
  · exact ⟨[], rfl, by simp, by simp⟩

theorem takeSign_run {sign : Text} (hsign : sign = [] ∨ sign = ['+'] ∨ sign = ['-']) (hrun : IsDigitRun run ds) :
    takeSign (sign ++ run) = (decide (sign = ['-']), run) := by
  rcases hsign with rfl | rfl | rfl
  · obtain ⟨c, rest, d, rfl, hc⟩ := hrun.exists_cons
    have hminus : c ≠ '-' := ne_of_digitValue? hc (by decide)
    have hplus : c ≠ '+' := ne_of_digitValue? hc (by decide)
    rw [List.nil_append, takeSign]
    · rfl
    · intro cs heq
      exact hminus (List.cons.inj heq).1
    · intro cs heq
      exact hplus (List.cons.inj heq).1
  · rfl
  · rfl

/-- Blanks around a numeral are dropped. -/
theorem trimNumeral_run {before sign after : Text} (hbefore : ∀ c ∈ before, isNumeralBlank c = true)
    (hsign : sign = [] ∨ sign = ['+'] ∨ sign = ['-']) (hrun : IsDigitRun run ds)
    (hafter : ∀ c ∈ after, isNumeralBlank c = true) :
    trimNumeral (before ++ (sign ++ run) ++ after) = sign ++ run := by
  obtain ⟨c, rest, d, hcons, hc⟩ := hrun.exists_cons
  obtain ⟨x, e, hlast, hx⟩ := hrun.exists_getLast?
  refine dropEndWhile_dropWhile hbefore hafter (fun y hy => ?_) (fun y hy => ?_)
  · rcases hsign with rfl | rfl | rfl
    · rw [hcons] at hy
      exact Option.some.inj hy ▸ isNumeralBlank_of_digitValue? hc
    · exact Option.some.inj hy ▸ (by decide)
    · exact Option.some.inj hy ▸ (by decide)
  · rw [List.getLast?_append, hlast] at hy
    exact Option.some.inj hy ▸ isNumeralBlank_of_digitValue? hx

theorem readInt_of_isNumeral (h : IsNumeral t k) : readInt t = .ok k := by
  obtain ⟨hbefore, hsign, hrun, hlimit, hafter⟩ := h
  have htake := List.takeWhile_eq_self_iff.mpr hrun.isDigit_or_underscore
  have hempty := List.isEmpty_eq_false_iff.mpr hrun.digits_ne_nil
  rw [readInt, trimNumeral_run hbefore hsign hrun hafter, takeSign_run hsign hrun]
  simp only [htake, hempty, hrun.underscoresSeparate, hrun.length_digits, valueOfDigits_eq hrun.map_digits]
  simp [hlimit, signed]

/-- What is read without an error has digits, underscores in their places, and nothing else. -/
theorem readInt_eq_ok (h : readInt t = .ok k) :
    ∃ run ds, (takeSign (trimNumeral t)).2 = run ∧ IsDigitRun run ds ∧ ds.length ≤ maxDigits ∧
      k = if (takeSign (trimNumeral t)).1 then -((Nat.ofDigits 10 ds.reverse : Nat) : Int)
        else (Nat.ofDigits 10 ds.reverse : Nat) := by
  rw [readInt] at h
  generalize takeSign (trimNumeral t) = signAndBody at h ⊢
  obtain ⟨negative, body⟩ := signAndBody
  simp only at h ⊢
  split at h
  · cases h
  next hshape =>
  split at h
  · cases h
  next hlimit =>
  split at h
  · cases h
  next hlength =>
  have hbody : (body.takeWhile fun c => isDecimalDigit c || c == '_') = body :=
    (List.takeWhile_prefix _).eq_of_length (not_not.mp hlength)
  have hchars : ∀ c ∈ body, (isDecimalDigit c || c == '_') = true := List.takeWhile_eq_self_iff.mp hbody
  rw [hbody, Bool.or_eq_true, not_or, Bool.not_eq_true, Bool.not_eq_true', Bool.not_eq_false] at hshape
  rw [hbody] at hlimit h
  obtain ⟨hdigits, hseparate⟩ := hshape
  obtain ⟨ds, hrun⟩ : ∃ ds, IsDigitRun body ds := by
    rcases body with _ | ⟨c, rest⟩
    · cases hdigits
    have hc : c ≠ '_' := by
      rintro rfl
      cases hseparate
    obtain ⟨hfirst, hrest⟩ := List.forall_mem_cons.mp hchars
    rw [beq_false_of_ne hc, Bool.or_false] at hfirst
    obtain ⟨d, hd⟩ := Option.isSome_iff_exists.mp hfirst
    rw [underscoresSeparate_cons hc] at hseparate
    exact exists_isDigitRun hd hseparate hrest
  rw [hrun.length_digits] at hlimit
  rw [valueOfDigits_eq hrun.map_digits] at h
  exact ⟨body, ds, rfl, hrun, Nat.not_lt.mp hlimit, (Except.ok.inj h).symm⟩

theorem isNumeral_of_readInt (h : readInt t = .ok k) : IsNumeral t k := by
  obtain ⟨before, after, ht, hbefore, hafter⟩ := exists_dropEndWhile_dropWhile isNumeralBlank t
  obtain ⟨sign, hbody, hsign, hminus⟩ := exists_sign (trimNumeral t)
  obtain ⟨run, ds, hrest, hrun, hlimit, hvalue⟩ := readInt_eq_ok h
  have hk : k = signed sign (Nat.ofDigits 10 ds.reverse) := by
    rw [hvalue, signed]
    by_cases hneg : sign = ['-']
    · rw [if_pos hneg, if_pos (hminus.mpr hneg)]
    · rw [if_neg hneg, if_neg fun h => hneg (hminus.mp h)]
  have htext : t = before ++ (sign ++ run) ++ after := by
    rw [← hrest, ← hbody]
    exact ht
  rw [htext, hk]
  exact .mk hbefore hsign hrun hlimit hafter

/-- **Exactly the numerals are read**, each as the integer that it is the numeral of. -/
theorem readInt_eq_ok_iff : readInt t = .ok k ↔ IsNumeral t k := ⟨isNumeral_of_readInt, readInt_of_isNumeral⟩

end ImportChart.Text
