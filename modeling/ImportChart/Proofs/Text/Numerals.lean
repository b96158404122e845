import ImportChart.Document.Number
import ImportChart.Proofs.Text.Characters
import Mathlib.Algebra.Group.Nat.Defs
import Mathlib.Data.List.Induction

/-!
# Numerals that are written and read

- `isWritable_of_readInt`: an integer that is read is not too long to be written;
- `ofInt_inj`: different integers are written differently;
- `readNumber_ofInt`: a positive integer that is written is read as itself.
-/

namespace ImportChart

variable {c : Char} {t : Text} {n : Nat}

namespace Text

/-! ## Digits -/

theorem toNat_of_isDigit (h : c.isDigit = true) : 48 ≤ c.toNat ∧ c.toNat ≤ 57 := by
  simp only [Char.isDigit, Bool.and_eq_true, decide_eq_true_eq, UInt32.le_iff_toNat_le, ge_iff_le] at h
  exact h

theorem ne_of_isDigit (h : c.isDigit = true) {x : Char} (hx : x.isDigit = false) : c ≠ x := by
  rintro rfl
  rw [h] at hx
  cases hx

theorem toLower_of_isDigit (h : c.isDigit = true) : c.toLower = c := by
  have hcode := toNat_of_isDigit h
  exact toLower_eq_self (by omega)

theorem digitValue?_of_isDigit (h : c.isDigit = true) : digitValue? c = some (c.toNat - 48) := by
  have hcode := toNat_of_isDigit h
  rw [digitValue?, if_pos (by omega), if_pos h]

theorem digitChar_of_isDigit (h : c.isDigit = true) : Nat.digitChar (c.toNat - 48) = c := by
  have hcode := toNat_of_isDigit h
  have hchar := Nat.toNat_digitChar_of_lt_ten (n := c.toNat - 48) (by omega)
  exact Char.toNat_inj.mp (hchar.trans (by omega))

/-- The value of a digit of any script. -/
theorem digitValue?_lt {d : Nat} (h : digitValue? c = some d) : d < 10 := by
  rw [digitValue?] at h
  split at h
  · split at h
    · next hdigit =>
      obtain rfl := Option.some.inj h
      have hcode := toNat_of_isDigit hdigit
      omega
    · cases h
  · obtain ⟨first, hfirst, rfl⟩ := Option.map_eq_some_iff.mp h
    have hrange := List.find?_some hfirst
    simp only [Bool.and_eq_true, decide_eq_true_eq] at hrange
    omega

theorem valueOfDigits_lt (digits : Text) : valueOfDigits 10 digits < 10 ^ digits.length := by
  induction digits using List.reverseRecOn with
  | nil => decide
  | append_singleton digits c ih =>
    rw [List.length_append, List.length_singleton, Nat.pow_succ]
    rw [valueOfDigits] at ih ⊢
    rw [List.foldl_append, List.foldl_cons, List.foldl_nil]
    cases hvalue : digitValue? c with
    | none => simp only; omega
    | some d =>
      have hd := digitValue?_lt hvalue
      simp only
      omega

/-- **An integer that is read is not too long to be written.** -/
theorem isWritable_of_readInt {k : Int} (h : readInt t = .ok k) : isWritable k = true := by
  rw [readInt] at h
  cases hsign : takeSign (trimNumeral t) with
  | mk negative body =>
  rw [hsign] at h
  simp only at h
  generalize List.filter _ _ = digits at h
  split at h
  · cases h
  split at h
  · cases h
  next hlength =>
  split at h
  · cases h
  have hvalue : valueOfDigits 10 digits < 10 ^ maxDigits :=
    Nat.lt_of_lt_of_le (valueOfDigits_lt digits) (Nat.pow_le_pow_right (by decide) (Nat.not_lt.mp hlength))
  have habs : k.natAbs = valueOfDigits 10 digits := by
    obtain rfl := Except.ok.inj h
    split <;> simp
  rw [isWritable, decide_eq_true_eq, habs]
  exact (Nat.length_toDigits_le_iff (by decide) (by decide)).mpr hvalue

/-! ## Numerals of natural numbers -/

theorem isDigit_of_mem_ofNat (h : c ∈ ofNat n) : c.isDigit = true :=
  Nat.isDigit_of_mem_toDigits (by decide) (by decide) h

theorem isDigit_of_mem_ofInt {k : Int} (hk : 0 < k) (h : c ∈ ofInt k) : c.isDigit = true := by
  obtain ⟨n, rfl⟩ := Int.eq_ofNat_of_zero_le (Int.le_of_lt hk)
  exact isDigit_of_mem_ofNat h

/-- Numerals of different integers differ. -/
theorem ofInt_inj {j k : Int} : ofInt j = ofInt k ↔ j = k := by
  -- only a negative one begins with a sign
  have hsign (m : Nat) (t : Text) : ofNat m ≠ '-' :: t := by
    intro heq
    have hdigit : '-'.isDigit = true := isDigit_of_mem_ofNat (heq ▸ List.mem_cons_self)
    exact absurd hdigit (by decide)
  cases j with
  | ofNat m =>
    cases k with
    | ofNat n => exact ofNat_inj.trans Int.ofNat_inj.symm
    | negSucc n => exact iff_of_false (hsign m _) (by simp)
  | negSucc m =>
    cases k with
    | ofNat n => exact iff_of_false (Ne.symm (hsign n _)) (by simp)
    | negSucc n => simp [ofInt, ofNat_inj]

theorem ofNat_ne_nil : ofNat n ≠ [] := Nat.toDigits_ne_nil

/-- No superfluous zero is written. -/
theorem head?_ofNat (h : 0 < n) : (ofNat n).head? ≠ some '0' := by
  induction n using Nat.strongRecOn with
  | ind n ih =>
    rw [ofNat, Nat.toDigits_eq_if (by decide)]
    split
    · next hn =>
      intro hhead
      have hchar := Nat.toNat_digitChar_of_lt_ten hn
      rw [Option.some.inj hhead] at hchar
      have : '0'.toNat = 48 := rfl
      omega
    · have hfront := ih (n / 10) (by omega) (by omega)
      rw [ofNat] at hfront
      obtain ⟨c, digits, hdigits⟩ := List.exists_cons_of_ne_nil (Nat.toDigits_ne_nil (b := 10) (n := n / 10))
      rw [hdigits] at hfront ⊢
      exact hfront

end Text

namespace Document

theorem digitIn?_of_isDigit (h : c.isDigit = true) : digitIn? 10 c = some (c.toNat - 48) := by
  have hcode := Text.toNat_of_isDigit h
  rw [digitIn?, if_pos h]
  exact Option.filter_some_pos (decide_eq_true (by omega))

/-- A numeral stands for the number of which it is the numeral. -/
theorem naturalIn?_ofNat (n : Nat) : naturalIn? 10 (Text.ofNat n) = some n := by
  have hmap : ∀ digits : Text, (∀ c ∈ digits, c.isDigit = true) →
      digits.mapM (digitIn? 10) = some (digits.map fun c => c.toNat - 48) := by
    intro digits h
    induction digits with
    | nil => rfl
    | cons c digits ih =>
      obtain ⟨hc, hdigits⟩ := List.forall_mem_cons.mp h
      rw [List.mapM_cons, digitIn?_of_isDigit hc, ih hdigits]
      rfl
  have hvalue : (Text.ofNat n).foldl (fun n c => n * 10 + (c.toNat - 48)) 0 = n := by
    refine Eq.trans ?_ (Nat.ofDigitChars_toDigits (b := 10) (n := n) (by decide) (by decide))
    rw [Nat.ofDigitChars_eq_foldl]
    simp only [Nat.mul_comm 10]
    rfl
  rw [naturalIn?, if_neg (by simp [Text.ofNat_ne_nil]), hmap _ fun c => Text.isDigit_of_mem_ofNat, Option.map_some,
    List.foldl_map, hvalue]

/-! ## Texts of letters and digits -/

section Alphanum

variable (halnum : ∀ c ∈ t, c.isAlphanum = true)
include halnum

theorem asciiDigits_alphanum : Double.asciiDigits t = t := by
  refine (List.map_congr_left fun c hc => ?_).trans (List.map_id' t)
  by_cases hdigit : c.isDigit = true
  · rw [Text.digitValue?_of_isDigit hdigit]
    exact Text.digitChar_of_isDigit hdigit
  · have hcode := Text.toNat_of_isAlphanum (halnum c hc)
    rw [Text.digitValue?, if_pos (by omega), if_neg hdigit]

theorem trimNumeral_alphanum : Text.trimNumeral t = t := by
  have hblank : ∀ c ∈ t, Text.isNumeralBlank c = false := by
    intro c hc
    rw [Text.isNumeralBlank, Text.isBlank_of_isAlphanum (halnum c hc), Bool.false_and]
  have hdrop {t : Text} (h : ∀ c ∈ t, Text.isNumeralBlank c = false) : t.dropWhile Text.isNumeralBlank = t := by
    rcases t with _ | ⟨c, t⟩
    · rfl
    · exact List.dropWhile_cons_of_neg (by simp [h c List.mem_cons_self])
  rw [Text.trimNumeral, hdrop hblank, Text.dropEndWhile, hdrop (by simpa using hblank), List.reverse_reverse]

end Alphanum

/-! ## Texts of digits -/

section Digits

variable (hdigits : ∀ c ∈ t, c.isDigit = true)
include hdigits

theorem isAlphanum_of_digits : ∀ c ∈ t, c.isAlphanum = true := fun c hc => by simp [Char.isAlphanum, hdigits c hc]

theorem notMem_of_isDigit {x : Char} (hx : x.isDigit = false) : x ∉ t :=
  fun hmem => Text.ne_of_isDigit (hdigits x hmem) hx rfl

theorem takeSign_digits : Text.takeSign t = (false, t) := by
  rcases t with _ | ⟨c, t⟩
  · rfl
  · have hminus := Text.ne_of_isDigit (hdigits c List.mem_cons_self) (x := '-') rfl
    have hplus := Text.ne_of_isDigit (hdigits c List.mem_cons_self) (x := '+') rfl
    unfold Text.takeSign
    split
    · next heq => exact absurd (List.cons.inj heq).1 hminus
    · next heq => exact absurd (List.cons.inj heq).1 hplus
    · rfl

theorem hasFraction_digits : hasFraction t = false := by
  simp [hasFraction, notMem_of_isDigit hdigits]

theorem isSpecialName_digits (hne : t ≠ []) : isSpecialName t = false := by
  obtain ⟨c, t, rfl⟩ := List.exists_cons_of_ne_nil hne
  have hc := Text.toLower_of_isDigit (hdigits c List.mem_cons_self)
  have hi := Text.ne_of_isDigit (hdigits c List.mem_cons_self) (x := 'i') rfl
  have hn := Text.ne_of_isDigit (hdigits c List.mem_cons_self) (x := 'n') rfl
  simp [isSpecialName, Text.asciiLower, hc, hi, hn]

end Digits

/-- **A positive integer that is written is read as itself.** -/
theorem readNumber_ofInt {k : Int} (hpositive : 0 < k) (hwritable : Text.isWritable k = true) :
    readNumber (Text.ofInt k) = .ok (.integer k) := by
  obtain ⟨n, rfl⟩ := Int.eq_ofNat_of_zero_le (Int.le_of_lt hpositive)
  have hn : 0 < n := by omega
  have hdigits : ∀ c ∈ Text.ofNat n, c.isDigit = true := fun c => Text.isDigit_of_mem_ofNat
  have hlength : (Text.ofNat n).length ≤ Text.maxDigits := of_decide_eq_true hwritable
  have hnatural : natural? (Text.ofNat n) = some n := by
    unfold natural?
    split
    · next heq => exact absurd (congrArg List.head? heq) (Text.head?_ofNat hn)
    · rw [if_neg (Nat.not_lt.mpr hlength), naturalIn?_ofNat]
  have hinteger : readInteger? (Text.ofNat n) = some (n : Int) := by
    have halnum := isAlphanum_of_digits hdigits
    rw [readInteger?, asciiDigits_alphanum halnum, trimNumeral_alphanum halnum, takeSign_digits hdigits]
    simp only [hnatural]
    rfl
  have hfilter : (Text.ofNat n).filter (· != '_') = Text.ofNat n :=
    List.filter_eq_self.mpr fun c hc => bne_iff_ne.mpr (Text.ne_of_isDigit (hdigits c hc) rfl)
  have hunsigned : readUnsigned (Text.ofNat n) = .ok (.integer n) := by
    rw [readUnsigned, hasFraction_digits hdigits, isSpecialName_digits hdigits Text.ofNat_ne_nil, hinteger]
    rfl
  have htext : Text.ofInt n = Text.ofNat n := rfl
  rw [htext, readNumber, takeSign_digits hdigits]
  simp only [hfilter, hunsigned]
  rfl

end Document

end ImportChart
