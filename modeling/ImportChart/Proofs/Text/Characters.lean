import ImportChart.Text.Blank
import ImportChart.Text.Case
import Mathlib.Data.List.TakeWhile

/-!
# Letters and digits are not blank

The classes of characters are given by code points, so that what holds of a class is a fact about numbers.

- `toNat_of_isAlphanum`: the code points of the ASCII letters and digits;
- `isBlank_of_isAlphanum`: none of them is blank;
- `lower_eq_asciiLower`: in ASCII texts lower case is a matter of each character on its own;
- `trim_blanks`: blanks around a text are dropped, and nothing else;
- `isBlank_of_head?_trim`, `isBlank_of_getLast?_trim`: what is left neither begins nor ends with one.
-/

namespace ImportChart.Text

/-- The code points of the ASCII letters and digits. -/
theorem toNat_of_isAlphanum {c : Char} (h : c.isAlphanum = true) :
    (65 ≤ c.toNat ∧ c.toNat ≤ 90) ∨ (97 ≤ c.toNat ∧ c.toNat ≤ 122) ∨ (48 ≤ c.toNat ∧ c.toNat ≤ 57) := by
  rcases Bool.or_eq_true_iff.mp h with halpha | hdigit
  · rcases Bool.or_eq_true_iff.mp halpha with hupper | hlower
    · exact .inl (of_decide_eq_true hupper)
    · obtain ⟨hfrom, hto⟩ := Bool.and_eq_true_iff.mp hlower
      exact .inr (.inl ⟨of_decide_eq_true hfrom, of_decide_eq_true hto⟩)
  · obtain ⟨hfrom, hto⟩ := Bool.and_eq_true_iff.mp hdigit
    exact .inr (.inr ⟨of_decide_eq_true hfrom, of_decide_eq_true hto⟩)

theorem isBlank_of_isAlphanum {c : Char} (h : c.isAlphanum = true) : isBlank c = false := by
  have hcode := toNat_of_isAlphanum h
  rw [Bool.eq_false_iff]
  simp only [isBlank, ne_eq, Bool.or_eq_true, Bool.and_eq_true, decide_eq_true_eq, beq_iff_eq]
  omega

/-- Only the upper-case letters of ASCII are changed. -/
theorem toLower_eq_self {c : Char} (h : ¬(65 ≤ c.toNat ∧ c.toNat ≤ 90)) : c.toLower = c :=
  dif_neg fun ⟨hfrom, hto⟩ => h ⟨hfrom, hto⟩

theorem toLower_of_isBlank {c : Char} (h : isBlank c = true) : c.toLower = c := by
  simp only [isBlank, Bool.or_eq_true, Bool.and_eq_true, decide_eq_true_eq, beq_iff_eq] at h
  exact toLower_eq_self (by omega)

/-- The lower case of an ASCII character depends on nothing around it. -/
theorem lowerAfter_eq_asciiLower (before : Text) {t : Text} (h : ∀ c ∈ t, c.toNat < 128) :
    lowerAfter before t = asciiLower t := by
  induction t generalizing before with
  | nil => rfl
  | cons c cs ih =>
    have hc : c.toNat < 128 := h c List.mem_cons_self
    -- the two characters with a rule of their own lie beyond ASCII
    have hsigma : (c == 'Σ') = false := beq_false_of_ne fun heq => absurd hc (by rw [heq]; decide)
    have hdotted : (c == 'İ') = false := beq_false_of_ne fun heq => absurd hc (by rw [heq]; decide)
    rw [lowerAfter, ih _ fun x hx => h x (List.mem_cons_of_mem _ hx)]
    simp only [hsigma, hdotted, lowerChar, if_pos hc, asciiLower, List.map_cons]
    rfl

/-- **The lower case of an ASCII text** is that of its letters. -/
theorem lower_eq_asciiLower {t : Text} (h : ∀ c ∈ t, c.toNat < 128) : lower t = asciiLower t :=
  lowerAfter_eq_asciiLower [] h

/-- What is left between the blanks was there before. -/
theorem mem_of_mem_trim {c : Char} {t : Text} (h : c ∈ trim t) : c ∈ t := by
  have hstart : c ∈ trimStart t :=
    List.mem_reverse.mp ((List.dropWhile_suffix _).subset (List.mem_reverse.mp h))
  exact (List.dropWhile_suffix _).subset hstart

section

variable {p : Char → Bool} {before t after : Text}

theorem dropWhile_eq_self (h : ∀ c ∈ t.head?, p c = false) : t.dropWhile p = t := by
  rcases t with _ | ⟨c, t⟩
  · rfl
  · exact List.dropWhile_cons_of_neg (by simp [h c rfl])

/-- The characters of a kind are dropped at both ends of a text, and nothing else. -/
theorem dropEndWhile_dropWhile (hbefore : ∀ c ∈ before, p c = true) (hafter : ∀ c ∈ after, p c = true)
    (hfirst : ∀ c ∈ t.head?, p c = false) (hlast : ∀ c ∈ t.getLast?, p c = false) :
    dropEndWhile p ((before ++ t ++ after).dropWhile p) = t := by
  have hend : (t ++ after).reverse.dropWhile p = t.reverse := by
    rw [List.reverse_append, List.dropWhile_append_of_pos (by simpa using hafter),
      dropWhile_eq_self (by simpa using hlast)]
  rw [List.append_assoc, List.dropWhile_append_of_pos hbefore, dropEndWhile]
  cases t with
  | nil =>
    have hnil : after.dropWhile p = [] :=
      (congrArg _ after.append_nil.symm).trans (List.dropWhile_append_of_pos hafter)
    rw [List.nil_append, hnil]
    rfl
  | cons c t =>
    have hstart : (c :: t ++ after).dropWhile p = c :: t ++ after := dropWhile_eq_self (by simpa using hfirst)
    rw [hstart, hend, List.reverse_reverse]

/-- What is dropped at both ends of a text is of the kind. -/
theorem exists_dropEndWhile_dropWhile (p : Char → Bool) (t : Text) :
    ∃ before after, t = before ++ dropEndWhile p (t.dropWhile p) ++ after ∧ (∀ c ∈ before, p c = true) ∧
      ∀ c ∈ after, p c = true := by
  have hend (u : Text) : u = dropEndWhile p u ++ (u.reverse.takeWhile p).reverse := by
    rw [dropEndWhile, ← List.reverse_append, List.takeWhile_append_dropWhile, List.reverse_reverse]
  refine ⟨t.takeWhile p, ((t.dropWhile p).reverse.takeWhile p).reverse, ?_, fun c hc => List.mem_takeWhile_imp hc,
    fun c hc => List.mem_takeWhile_imp (List.mem_reverse.mp hc)⟩
  rw [List.append_assoc, ← hend, List.takeWhile_append_dropWhile]

theorem of_head?_dropWhile {c : Char} (h : (t.dropWhile p).head? = some c) : p c = false := by
  have hfirst := List.head?_dropWhile_not p t
  rwa [h] at hfirst

end

/-- **Blanks around a text that neither begins nor ends with one are dropped.** -/
theorem trim_blanks {before t after : Text} (hbefore : ∀ c ∈ before, isBlank c = true)
    (hafter : ∀ c ∈ after, isBlank c = true) (hfirst : ∀ c ∈ t.head?, isBlank c = false)
    (hlast : ∀ c ∈ t.getLast?, isBlank c = false) : trim (before ++ t ++ after) = t :=
  dropEndWhile_dropWhile hbefore hafter hfirst hlast

theorem trim_eq_self {t : Text} (hfirst : ∀ c ∈ t.head?, isBlank c = false)
    (hlast : ∀ c ∈ t.getLast?, isBlank c = false) : trim t = t := by
  have hnone : ∀ c ∈ ([] : Text), isBlank c = true := by simp
  have htrim := trim_blanks hnone hnone hfirst hlast
  rwa [List.append_nil] at htrim

theorem trim_space {t : Text} (hfirst : ∀ c ∈ t.head?, isBlank c = false)
    (hlast : ∀ c ∈ t.getLast?, isBlank c = false) : trim (' ' :: t) = t := by
  have hspace : ∀ c ∈ ([' '] : Text), isBlank c = true := List.forall_mem_singleton.mpr (by decide)
  have hnone : ∀ c ∈ ([] : Text), isBlank c = true := by simp
  have htrim := trim_blanks hspace hnone hfirst hlast
  rwa [List.append_nil] at htrim

theorem isBlank_of_head?_trim {c : Char} {t : Text} (h : (trim t).head? = some c) : isBlank c = false := by
  obtain ⟨rest, hrest⟩ : trim t <+: trimStart t := by
    rw [← List.reverse_suffix, trim, trimEnd, dropEndWhile, List.reverse_reverse]
    exact List.dropWhile_suffix _
  obtain ⟨cs, hcs⟩ := List.head?_eq_some_iff.mp h
  have hstart : (trimStart t).head? = some c := by
    rw [← hrest, hcs]
    rfl
  exact of_head?_dropWhile hstart

theorem isBlank_of_getLast?_trim {c : Char} {t : Text} (h : (trim t).getLast? = some c) : isBlank c = false := by
  rw [trim, trimEnd, dropEndWhile, List.getLast?_reverse] at h
  exact of_head?_dropWhile h

end ImportChart.Text
