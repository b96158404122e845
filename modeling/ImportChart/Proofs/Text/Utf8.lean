import ImportChart.Text.Utf8

/-!
# Strict decoding undoes encoding

The bytes that decode are those of a text, and they decode to this text: `decode_eq_some_iff`. So no bytes of another
form, such as an overlong one or a surrogate, are taken for a character.
-/

namespace ImportChart.Utf8

/-! ## Bytes -/

theorem toNat_byte {n : Nat} (h : n < 256) : (UInt8.ofNat n).toNat = n := by
  rw [UInt8.toNat_ofNat']
  omega

theorem byte_eq {b : UInt8} {n : Nat} (h : b.toNat = n) : UInt8.ofNat n = b := by
  rw [← h, UInt8.ofNat_toNat]

/-- A byte continues a character with six bits if its number says so. -/
theorem continuation?_eq_some_iff {b : UInt8} {x : Nat} : continuation? b = some x ↔ x < 64 ∧ b.toNat = 128 + x := by
  unfold continuation?
  dsimp only
  split
  · next hrange =>
    simp only [Bool.and_eq_true, decide_eq_true_eq] at hrange
    rw [Option.some_inj]
    omega
  · next hrange =>
    simp only [Bool.and_eq_true, decide_eq_true_eq] at hrange
    constructor
    · intro h
      cases h
    · intro h
      exact absurd (by omega) hrange

theorem continuation?_byte {x : Nat} (h : x < 64) : continuation? (.ofNat (128 + x)) = some x :=
  continuation?_eq_some_iff.mpr ⟨h, toNat_byte (by omega)⟩

/-! ## One character -/

theorem toNat_valid (c : Char) : c.toNat < 0xD800 ∨ 0xE000 ≤ c.toNat ∧ c.toNat < 0x110000 := by
  rcases c.valid with h | ⟨h, h'⟩
  · exact Or.inl h
  · exact Or.inr ⟨h, h'⟩

/-- The bytes of a character decode to it. -/
theorem decodeChar?_encodeChar (c : Char) (rest : Bytes) : decodeChar? (encodeChar c ++ rest) = some (c, rest) := by
  have hvalid := toNat_valid c
  have hchar : Char.ofNat c.toNat = c := Char.ofNat_toNat c
  generalize hn : c.toNat = n at hvalid hchar
  unfold encodeChar
  rw [hn]
  dsimp only
  split
  · next h₁ =>
    rw [List.cons_append, List.nil_append, decodeChar?.eq_def]
    simp only [toNat_byte (show n < 256 by omega), if_pos h₁, hchar]
  split
  · next h₁ h₂ =>
    have hvalue : (192 + n / 64 - 192) * 64 + n % 64 = n := by omega
    rw [List.cons_append, List.cons_append, List.nil_append, decodeChar?]
    simp only [toNat_byte (show 192 + n / 64 < 256 by omega), continuation?_byte (show n % 64 < 64 by omega)]
    rw [if_neg (by omega), if_neg (by omega), if_pos (by omega), hvalue, hchar]
  split
  · next h₁ h₂ h₃ =>
    have hvalue : (224 + n / 4096 - 224) * 4096 + n / 64 % 64 * 64 + n % 64 = n := by omega
    rw [List.cons_append, List.cons_append, List.cons_append, List.nil_append, decodeChar?]
    simp only [toNat_byte (show 224 + n / 4096 < 256 by omega), continuation?_byte (show n / 64 % 64 < 64 by omega),
      continuation?_byte (show n % 64 < 64 by omega)]
    rw [if_neg (by omega), if_neg (by omega), if_neg (by omega), if_pos (by omega), hvalue, if_neg, hchar]
    simp
    omega
  · next h₁ h₂ h₃ =>
    have hvalue : (240 + n / 262144 - 240) * 262144 + n / 4096 % 64 * 4096 + n / 64 % 64 * 64 + n % 64 = n := by omega
    rw [List.cons_append, List.cons_append, List.cons_append, List.cons_append, List.nil_append, decodeChar?]
    simp only [toNat_byte (show 240 + n / 262144 < 256 by omega),
      continuation?_byte (show n / 4096 % 64 < 64 by omega), continuation?_byte (show n / 64 % 64 < 64 by omega),
      continuation?_byte (show n % 64 < 64 by omega)]
    rw [if_neg (by omega), if_neg (by omega), if_neg (by omega), if_neg (by omega), if_pos (by omega), hvalue, if_neg,
      hchar]
    simp
    omega

theorem toNat_ofNat_of_valid {v : Nat} (h : v < 0xD800 ∨ 0xE000 ≤ v ∧ v < 0x110000) : (Char.ofNat v).toNat = v := by
  have hvalid : v.isValidChar := by
    rcases h with h | h
    · exact Or.inl h
    · exact Or.inr h
  rw [Char.ofNat, dif_pos hvalid]
  rfl

section

variable {b b₁ b₂ b₃ : UInt8} {x y z : Nat}

/-- A character of two bytes. -/
theorem encodeChar_two (hb : 0xC2 ≤ b.toNat ∧ b.toNat < 0xE0) (hx : continuation? b₁ = some x) :
    encodeChar (Char.ofNat ((b.toNat - 0xC0) * 64 + x)) = [b, b₁] := by
  obtain ⟨hx, hb₁⟩ := continuation?_eq_some_iff.mp hx
  have hn := toNat_ofNat_of_valid (v := (b.toNat - 0xC0) * 64 + x) (by omega)
  rw [encodeChar, hn, if_neg (by omega), if_pos (by omega), byte_eq (b := b) (by omega), byte_eq (b := b₁) (by omega)]

/-- A character of three bytes, unless two would do or it is a surrogate. -/
theorem encodeChar_three (hb : 0xE0 ≤ b.toNat ∧ b.toNat < 0xF0) (hx : continuation? b₁ = some x)
    (hy : continuation? b₂ = some y) {v : Nat} (hv : v = (b.toNat - 0xE0) * 4096 + x * 64 + y)
    (hvalid : ¬(v < 0x800 ∨ 0xD800 ≤ v ∧ v < 0xE000)) : encodeChar (Char.ofNat v) = [b, b₁, b₂] := by
  obtain ⟨hx, hb₁⟩ := continuation?_eq_some_iff.mp hx
  obtain ⟨hy, hb₂⟩ := continuation?_eq_some_iff.mp hy
  have hn := toNat_ofNat_of_valid (v := v) (by omega)
  rw [encodeChar, hn, if_neg (by omega), if_neg (by omega), if_pos (by omega), byte_eq (b := b) (by omega),
    byte_eq (b := b₁) (by omega), byte_eq (b := b₂) (by omega)]

/-- A character of four bytes, unless three would do or it is too large. -/
theorem encodeChar_four (hb : 0xF0 ≤ b.toNat ∧ b.toNat < 0xF5) (hx : continuation? b₁ = some x)
    (hy : continuation? b₂ = some y) (hz : continuation? b₃ = some z) {v : Nat}
    (hv : v = (b.toNat - 0xF0) * 262144 + x * 4096 + y * 64 + z) (hvalid : ¬(v < 0x10000 ∨ 0x110000 ≤ v)) :
    encodeChar (Char.ofNat v) = [b, b₁, b₂, b₃] := by
  obtain ⟨hx, hb₁⟩ := continuation?_eq_some_iff.mp hx
  obtain ⟨hy, hb₂⟩ := continuation?_eq_some_iff.mp hy
  obtain ⟨hz, hb₃⟩ := continuation?_eq_some_iff.mp hz
  have hn := toNat_ofNat_of_valid (v := v) (by omega)
  rw [encodeChar, hn, if_neg (by omega), if_neg (by omega), if_neg (by omega), byte_eq (b := b) (by omega),
    byte_eq (b := b₁) (by omega), byte_eq (b := b₂) (by omega), byte_eq (b := b₃) (by omega)]

end

/-- What decodes to a character begins with its bytes. -/
theorem encodeChar_of_decodeChar? {bs rest : Bytes} {c : Char} (h : decodeChar? bs = some (c, rest)) :
    encodeChar c ++ rest = bs := by
  unfold decodeChar? at h
  split at h
  · cases h
  next b tail =>
  dsimp only at h
  -- the first byte tells how many there are
  split at h
  · next h₁ =>
    obtain ⟨rfl, rfl⟩ := Prod.mk.inj (Option.some.inj h)
    have hn := toNat_ofNat_of_valid (v := b.toNat) (by omega)
    rw [encodeChar, hn, if_pos h₁, byte_eq rfl]
    rfl
  split at h
  · cases h
  split at h
  · split at h
    · split at h
      · next x hx =>
        obtain ⟨rfl, rfl⟩ := Prod.mk.inj (Option.some.inj h)
        rw [encodeChar_two (by omega) hx]
        rfl
      · cases h
    · cases h
  split at h
  · split at h
    · split at h
      · next x y hx hy =>
        split at h
        · cases h
        next hvalid =>
        obtain ⟨rfl, rfl⟩ := Prod.mk.inj (Option.some.inj h)
        rw [encodeChar_three (by omega) hx hy rfl (by simpa using hvalid)]
        rfl
      · cases h
    · cases h
  split at h
  · split at h
    · split at h
      · next x y z hx hy hz =>
        split at h
        · cases h
        next hvalid =>
        obtain ⟨rfl, rfl⟩ := Prod.mk.inj (Option.some.inj h)
        rw [encodeChar_four (by omega) hx hy hz rfl (by simpa using hvalid)]
        rfl
      · cases h
    · cases h
  · cases h

/-! ## Texts -/

theorem decode_of_decodeChar? {bs rest : Bytes} {c : Char} (h : decodeChar? bs = some (c, rest)) :
    decode bs = (decode rest).map (c :: ·) := by
  rw [decode.eq_def]
  split
  · next c' rest' h' =>
    rw [h] at h'
    obtain ⟨rfl, rfl⟩ := Prod.mk.inj (Option.some.inj h')
    rfl
  · next h' =>
    rw [h] at h'
    cases h'

/-- **Bytes decode to a text exactly if they encode it.** -/
theorem decode_eq_some_iff {bs : Bytes} {t : Text} : decode bs = some t ↔ encode t = bs := by
  constructor
  · intro h
    fun_induction decode bs generalizing t with
    | case1 bs c rest hchar ih =>
      obtain ⟨t', ht', rfl⟩ := Option.map_eq_some_iff.mp h
      rw [encode, List.flatMap_cons, ← encode, ih ht', encodeChar_of_decodeChar? hchar]
    | case2 bs _ hempty =>
      rw [← Option.some.inj h, List.isEmpty_iff.mp hempty]
      rfl
    | case3 => cases h
  · rintro rfl
    induction t with
    | nil => rw [decode.eq_def]; rfl
    | cons c t ih =>
      rw [encode, List.flatMap_cons, ← encode, decode_of_decodeChar? (decodeChar?_encodeChar c _), ih]
      rfl

/-- A text without carriage returns has the line ends that it is read with. -/
theorem unifyLineEnds_of_notMem {t : Text} (h : '\r' ∉ t) : unifyLineEnds t = t := by
  induction t with
  | nil => rfl
  | cons c t ih =>
    rw [List.mem_cons, not_or] at h
    unfold unifyLineEnds
    split
    · next heq => cases heq
    · next heq => exact absurd (List.cons.inj heq).1.symm h.1
    · next heq =>
      obtain ⟨rfl, rfl⟩ := List.cons.inj heq
      rw [ih h.2, if_neg (by simpa using Ne.symm h.1)]

/-- A text without carriage returns is read from its encoding as it is. -/
theorem readText_encode {t : Text} (h : '\r' ∉ t) : readText (encode t) = some t := by
  rw [readText, decode_eq_some_iff.mpr rfl, Option.map_some, unifyLineEnds_of_notMem h]

end ImportChart.Utf8
