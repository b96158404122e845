import ImportChart.Number.Double
import Mathlib.Data.Rat.Floor

/-!
# The integer part of a floating-point number

- `rational?`: the rational number that a floating-point number stands for, if it is finite;
- `truncate`: the integer that is nearest to a rational number on the side of zero;
- `toInt?_eq_ok_iff`: this is the integer part.
-/

namespace ImportChart.Double

variable {x : Double} {n : Int}

/-- The rational number that a finite number stands for. -/
def rational? : Double → Option ℚ
  | .finite negative mantissa exponent => some ((if negative then -1 else 1) * (mantissa * 2 ^ exponent))
  | .infinite _ | .nan => none

/-- The integer that is nearest to a number on the side of zero. -/
def truncate (q : ℚ) : Int := if 0 ≤ q then ⌊q⌋ else ⌈q⌉

/-- The magnitude of a number is the quotient that stands for it. -/
theorem ratio_eq (mantissa : Nat) (exponent : Int) :
    ((ratio mantissa exponent).1 : ℚ) / (ratio mantissa exponent).2 = mantissa * 2 ^ exponent := by
  unfold ratio
  split
  · next h =>
    obtain ⟨e, rfl⟩ := Int.eq_ofNat_of_zero_le h
    simp
  · next h =>
    obtain ⟨e, rfl⟩ := Int.exists_eq_neg_ofNat (Int.le_of_lt (Int.not_le.mp h))
    simp [div_eq_mul_inv]

/-- The quotient of two natural numbers is cut off toward zero, with either sign. -/
theorem truncate_div (num den : Nat) :
    truncate ((num : ℚ) / den) = (num / den : Nat) ∧ truncate (-((num : ℚ) / den)) = -((num / den : Nat) : Int) := by
  have hfloor : ⌊(num : ℚ) / den⌋ = ((num / den : Nat) : Int) := Rat.floor_natCast_div_natCast num den
  have hpositive : 0 ≤ (num : ℚ) / den := div_nonneg (Nat.cast_nonneg _) (Nat.cast_nonneg _)
  refine ⟨by rw [truncate, if_pos hpositive, hfloor], ?_⟩
  rw [truncate]
  split
  · next h =>
    have hzero : (num : ℚ) / den = 0 := le_antisymm (by simpa using h) hpositive
    rw [hzero] at hfloor ⊢
    simpa using hfloor.symm
  · rw [Int.ceil_neg, hfloor]

/-- **The integer part of a number is what is left when its fraction is cut off**, and only finite numbers have one. -/
theorem toInt?_eq_ok_iff : x.toInt? = .ok n ↔ ∃ q, x.rational? = some q ∧ n = truncate q := by
  cases x with
  | finite negative mantissa exponent =>
    obtain ⟨hpositive, hnegative⟩ := truncate_div (ratio mantissa exponent).1 (ratio mantissa exponent).2
    rw [ratio_eq] at hpositive hnegative
    simp only [toInt?, rational?, Except.ok.injEq, Option.some.injEq, exists_eq_left']
    cases negative with
    | false =>
      simp only [Bool.false_eq_true, if_false, one_mul, hpositive]
      exact eq_comm
    | true =>
      simp only [if_true, neg_one_mul, hnegative]
      exact eq_comm
  | infinite negative => simp [toInt?, rational?]
  | nan => simp [toInt?, rational?]

end ImportChart.Double
