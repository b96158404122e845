import ImportChart.Proofs.Document.RoundTrip

/-!
# Integers in base sixteen

The limit on the digits of an integer is one on the digits that are read or written in base ten. In base sixteen an
integer of any size stands in a document (`standsFor_hexadecimal`), and one with many digits is not written
(`isWritable_eq_false_iff`).
-/

namespace ImportChart.Document

variable {digits : Text} {n : Nat}

/-- The numeral of digits in base sixteen. -/
def hexadecimal (digits : Text) : Text := '0' :: 'x' :: digits

theorem isAlphanum_hexadecimal (h : ∀ c ∈ digits, c.isAlphanum = true) :
    ∀ c ∈ hexadecimal digits, c.isAlphanum = true :=
  List.forall_mem_cons.mpr ⟨by decide, List.forall_mem_cons.mpr ⟨by decide, h⟩⟩

theorem notMem_hexadecimal (h : ∀ c ∈ digits, c.isAlphanum = true) {x : Char} (hx : x.isAlphanum = false) :
    x ∉ hexadecimal digits :=
  fun hmem => Bool.false_ne_true (hx.symm.trans (isAlphanum_hexadecimal h x hmem))

/-- A numeral in base sixteen is read, however long it is. -/
theorem readNumber_hexadecimal (halnum : ∀ c ∈ digits, c.isAlphanum = true) (hvalue : naturalIn? 16 digits = some n) :
    readNumber (hexadecimal digits) = .ok (.integer n) := by
  have hall := isAlphanum_hexadecimal halnum
  have hsign : Text.takeSign (hexadecimal digits) = (false, hexadecimal digits) := rfl
  have hfilter : (hexadecimal digits).filter (· != '_') = hexadecimal digits := by
    refine List.filter_eq_self.mpr fun c hc => bne_iff_ne.mpr ?_
    rintro rfl
    exact notMem_hexadecimal halnum (by decide) hc
  have hfraction : hasFraction (hexadecimal digits) = false := by
    have hletter : 'x' ∈ hexadecimal digits := by simp [hexadecimal]
    simp [hasFraction, notMem_hexadecimal halnum (x := '.') (by decide), hletter]
  have hinteger : readInteger? (hexadecimal digits) = some (n : Int) := by
    have hnatural : natural? (hexadecimal digits) = some n := hvalue
    rw [readInteger?, asciiDigits_alphanum hall, trimNumeral_alphanum hall, hsign]
    simp only [hnatural]
    rfl
  have hunsigned : readUnsigned (hexadecimal digits) = .ok (.integer n) := by
    have hname : isSpecialName (hexadecimal digits) = false := rfl
    rw [readUnsigned, hfraction, hname, hinteger]
    rfl
  rw [readNumber, hsign]
  simp only [hfilter, hunsigned]
  rfl

/-- **A numeral in base sixteen stands for its integer**, however long it is. -/
theorem standsFor_hexadecimal (halnum : ∀ c ∈ digits, c.isAlphanum = true) (hvalue : naturalIn? 16 digits = some n) :
    StandsFor (hexadecimal digits) (.integer n) := by
  have hall := isAlphanum_hexadecimal halnum
  have hblank : ∀ c ∈ hexadecimal digits, Text.isBlank c = false := fun c hc => Text.isBlank_of_isAlphanum (hall c hc)
  have hlast : ∀ c ∈ (hexadecimal digits).getLast?, Text.isBlank c = false :=
    fun c hc => hblank c (List.mem_of_getLast? hc)
  have htrim : Text.trim (' ' :: hexadecimal digits) = hexadecimal digits :=
    Text.trim_space (fun c hc => hblank c (List.mem_of_head? hc)) hlast
  have hplain : isPlainNumeral (' ' :: hexadecimal digits) = true :=
    isPlainNumeral_of_notMem htrim (by decide) (fun _ => rfl) (notMem_hexadecimal halnum (by decide))
  refine ⟨List.cons_ne_nil _ _, notMem_hexadecimal halnum (by decide), ?_, hlast, rfl, ?_⟩
  · rintro c ⟨⟩
    decide
  · rw [hplain]
    exact readValue_numeral (by decide) hall rfl (readNumber_hexadecimal halnum hvalue)

/-- Zeros behind digits multiply their number. -/
theorem foldl_zeros (base k a : Nat) : (List.replicate k 0).foldl (fun n d => n * base + d) a = a * base ^ k := by
  induction k generalizing a with
  | zero => rw [Nat.pow_zero, Nat.mul_one, List.replicate_zero, List.foldl_nil]
  | succ k ih => rw [List.replicate_succ, List.foldl_cons, ih, Nat.pow_succ', Nat.add_zero, Nat.mul_assoc]

/-- A one with zeros behind it is a power of sixteen. -/
theorem naturalIn?_power (k : Nat) : naturalIn? 16 ('1' :: List.replicate k '0') = some (16 ^ k) := by
  have hzeros : (List.replicate k '0').mapM (digitIn? 16) = some (List.replicate k 0) := by
    induction k with
    | zero => rfl
    | succ k ih =>
      rw [List.replicate_succ, List.mapM_cons, ih]
      rfl
  have hone : digitIn? 16 '1' = some 1 := by decide
  rw [naturalIn?, List.mapM_cons, hone, hzeros]
  simp [foldl_zeros]

end ImportChart.Document

namespace ImportChart.Text

/-- An integer is not written exactly if it is too large for the limit on the digits. -/
theorem isWritable_eq_false_iff {n : Nat} : isWritable n = false ↔ 10 ^ maxDigits ≤ n := by
  rw [isWritable, decide_eq_false_iff_not, Int.natAbs_natCast, ofNat,
    Nat.length_toDigits_le_iff (by decide) (by decide), Nat.not_lt]

/-- Six digits in base ten are fewer than five zeros in base sixteen. -/
theorem isWritable_power {k : Nat} (h : maxDigits ≤ 6 * k) : isWritable (16 ^ (5 * k) : Nat) = false := by
  rw [isWritable_eq_false_iff]
  calc 10 ^ maxDigits ≤ 10 ^ (6 * k) := Nat.pow_le_pow_right (by decide) h
    _ = (10 ^ 6) ^ k := Nat.pow_mul 10 6 k
    _ ≤ (16 ^ 5) ^ k := Nat.pow_le_pow_left (by decide) k
    _ = 16 ^ (5 * k) := (Nat.pow_mul 16 5 k).symm

end ImportChart.Text
