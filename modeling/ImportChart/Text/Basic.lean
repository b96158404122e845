/-!
# Texts

A text is the list of its characters, so that functions on texts are recursions on lists and the lemmas on lists
apply to them.

- decimal numerals (`ofNat`, `ofInt`);
- occurrence of a part (`contains`, with `contains_iff`), replacement from left to right (`replaceAll`);
- cutting at a character (`splitOn`, `splitOnce`) and joining (`joinWith`); `joinWith_splitOn` and `splitOn_joinWith`
  say that each undoes the other.
-/

namespace ImportChart

/-- A text is the list of its characters. -/
abbrev Text := List Char

instance : Coe String Text := ⟨String.toList⟩

namespace Text

/-! ## Numerals -/

/-- The decimal numeral of a natural number. -/
def ofNat (n : Nat) : Text := Nat.toDigits 10 n

/-- Numerals of different numbers differ. -/
theorem ofNat_inj {m n : Nat} : ofNat m = ofNat n ↔ m = n := by
  refine ⟨fun h => ?_, fun h => h ▸ rfl⟩
  have hread := congrArg (Nat.ofDigitChars 10 · 0) h
  simpa [ofNat] using hread

/-- The decimal numeral of an integer, with a minus sign if it is negative. -/
def ofInt : Int → Text
  | .ofNat n => ofNat n
  | .negSucc n => '-' :: ofNat (n + 1)

/-! ## Parts of a text -/

/-- Whether `part` occurs in a text as a block of consecutive characters. -/
def contains (part : Text) : Text → Bool
  | [] => part.isEmpty
  | c :: cs => part.isPrefixOf (c :: cs) || contains part cs

/-- `contains` decides the infix relation. -/
theorem contains_iff {part t : Text} : contains part t = true ↔ part <:+: t := by
  induction t with
  | nil => cases part <;> simp [contains]
  | cons c cs ih => simp [contains, ih, List.infix_cons_iff]

/-- Replace every occurrence of `old`, from left to right and without overlap. An empty `old` occurs nowhere. -/
def replaceAll (old new : Text) : Text → Text
  | [] => []
  | c :: cs =>
    if old ≠ [] ∧ old.isPrefixOf (c :: cs) then new ++ replaceAll old new (cs.drop (old.length - 1))
    else c :: replaceAll old new cs
termination_by t => t.length
decreasing_by all_goals simp; try omega

/-- Nothing is replaced in the empty text. -/
@[simp] theorem replaceAll_nil (old new : Text) : replaceAll old new [] = [] := by rw [replaceAll]

/-- An occurrence at the beginning is replaced, and the rest is gone through behind it. -/
theorem replaceAll_append {old : Text} (h : old ≠ []) (new t : Text) :
    replaceAll old new (old ++ t) = new ++ replaceAll old new t := by
  obtain ⟨c, cs, rfl⟩ := List.exists_cons_of_ne_nil h
  have hprefix : (c :: cs).isPrefixOf (c :: (cs ++ t)) = true := by simp
  rw [List.cons_append, replaceAll, if_pos ⟨h, hprefix⟩]
  simp

/-- A character at which no occurrence begins stays. -/
theorem replaceAll_cons {old : Text} {c : Char} {t : Text} (h : ¬old <+: c :: t) (new : Text) :
    replaceAll old new (c :: t) = c :: replaceAll old new t := by
  rw [replaceAll, if_neg]
  rintro ⟨-, hprefix⟩
  exact h (List.isPrefixOf_iff_prefix.mp hprefix)

/-- The first occurrence of `part`: the text before it and the text after it. -/
def splitAtPart (part : Text) : Text → Option (Text × Text)
  | [] => if part.isEmpty then some ([], []) else none
  | c :: cs =>
    if part.isPrefixOf (c :: cs) then some ([], (c :: cs).drop part.length)
    else (splitAtPart part cs).map fun (before, after) => (c :: before, after)

/-- The pieces between the occurrences of the non-empty `part`, taken from left to right without overlap. -/
def splitOnPart (part t : Text) : List Text :=
  go t.length t
where
  /-- Cut at most `fuel` times; the length of the text is enough. -/
  go : Nat → Text → List Text
    | 0, t => [t]
    | fuel + 1, t =>
      match splitAtPart part t with
      | none => [t]
      | some (before, after) => if part.isEmpty then [t] else before :: go fuel after

/-! ## Cutting and joining -/

/-- The pieces between the occurrences of `sep`; there is one more piece than there are occurrences. -/
def splitOn (sep : Char) : Text → List Text
  | [] => [[]]
  | c :: cs =>
    if c = sep then [] :: splitOn sep cs
    else
      match splitOn sep cs with
      | [] => [[c]]
      | piece :: pieces => (c :: piece) :: pieces

/-- Cutting never gives the empty list. -/
theorem splitOn_ne_nil (sep : Char) (t : Text) : splitOn sep t ≠ [] := by
  cases t with
  | nil => simp [splitOn]
  | cons c cs =>
    rw [splitOn]
    split
    · simp
    · split <;> simp

/-- No piece holds the character at which a text is cut. -/
theorem notMem_of_mem_splitOn {sep : Char} {t piece : Text} (h : piece ∈ splitOn sep t) : sep ∉ piece := by
  induction t generalizing piece with
  | nil => simp [splitOn] at h; simp [h]
  | cons c cs ih =>
    rw [splitOn] at h
    split at h
    · rcases List.mem_cons.1 h with rfl | h
      · simp
      · exact ih h
    · next hc =>
      cases hs : splitOn sep cs with
      | nil => exact absurd hs (splitOn_ne_nil sep cs)
      | cons first rest =>
        rw [hs] at h ih
        rcases List.mem_cons.1 h with rfl | h
        · intro hm
          rcases List.mem_cons.1 hm with rfl | hm
          · exact hc rfl
          · exact ih List.mem_cons_self hm
        · exact ih (List.mem_cons_of_mem _ h)

/-- A text without the separator is one piece. -/
theorem splitOn_eq_singleton {sep : Char} {t : Text} (h : sep ∉ t) : splitOn sep t = [t] := by
  induction t with
  | nil => rfl
  | cons c cs ih =>
    rw [List.mem_cons, not_or] at h
    rw [splitOn, if_neg (Ne.symm h.1), ih h.2]

/-- The first piece ends at the first separator. -/
theorem splitOn_append {sep : Char} {piece : Text} (h : sep ∉ piece) (t : Text) :
    splitOn sep (piece ++ sep :: t) = piece :: splitOn sep t := by
  induction piece with
  | nil => rw [List.nil_append, splitOn, if_pos rfl]
  | cons c cs ih =>
    rw [List.mem_cons, not_or] at h
    rw [List.cons_append, splitOn, if_neg (Ne.symm h.1), ih h.2]

/-- Cut at the first `limit` occurrences of `sep` only. -/
def splitOnLimit (sep : Char) : Nat → Text → List Text
  | 0, t => [t]
  | _ + 1, [] => [[]]
  | limit + 1, c :: cs =>
    if c = sep then [] :: splitOnLimit sep limit cs
    else
      match splitOnLimit sep (limit + 1) cs with
      | [] => [[c]]
      | piece :: pieces => (c :: piece) :: pieces
termination_by _ t => t.length

/-- Cut at the first occurrence of `sep`; the second part is empty if there is none. -/
def splitOnce (sep : Char) (t : Text) : Text × Text :=
  (t.takeWhile (· ≠ sep), (t.dropWhile (· ≠ sep)).drop 1)

/-- The pieces with `sep` between them. -/
def joinWith (sep : Text) : List Text → Text
  | [] => []
  | [piece] => piece
  | piece :: next :: pieces => piece ++ sep ++ joinWith sep (next :: pieces)

/-- Joining with the separator undoes the cut. -/
theorem joinWith_splitOn (sep : Char) (t : Text) : joinWith [sep] (splitOn sep t) = t := by
  induction t with
  | nil => rfl
  | cons c cs ih =>
    rw [splitOn]
    match h : splitOn sep cs with
    | [] => exact absurd h (splitOn_ne_nil sep cs)
    | piece :: pieces =>
      rw [h] at ih
      split
      · next hc => subst hc; simp [joinWith, ih]
      · cases pieces with
        | nil => simpa [joinWith] using ih
        | cons q qs => simp only [joinWith, List.append_assoc, List.cons_append] at ih ⊢; rw [ih]

/-- The pieces are joined one by one. -/
theorem joinWith_cons (sep piece : Text) {pieces : List Text} (h : pieces ≠ []) :
    joinWith sep (piece :: pieces) = piece ++ sep ++ joinWith sep pieces := by
  cases pieces with
  | nil => exact absurd rfl h
  | cons next pieces => rfl

/-- One more piece comes behind a separator. -/
theorem joinWith_concat (sep : Text) {pieces : List Text} (h : pieces ≠ []) (piece : Text) :
    joinWith sep (pieces ++ [piece]) = joinWith sep pieces ++ sep ++ piece := by
  induction pieces with
  | nil => exact absurd rfl h
  | cons first pieces ih =>
    cases pieces with
    | nil => rfl
    | cons next pieces =>
      rw [List.cons_append, joinWith_cons _ _ (by simp), joinWith_cons _ _ (by simp), ih (by simp)]
      simp only [List.append_assoc]

/-- The cut undoes joining, if no piece holds the separator. -/
theorem splitOn_joinWith {sep : Char} {pieces : List Text} (hne : pieces ≠ []) (h : ∀ piece ∈ pieces, sep ∉ piece) :
    splitOn sep (joinWith [sep] pieces) = pieces := by
  induction pieces with
  | nil => exact absurd rfl hne
  | cons first pieces ih =>
    cases pieces with
    | nil => exact splitOn_eq_singleton (h first List.mem_cons_self)
    | cons next pieces =>
      have hrest := ih (by simp) fun piece hpiece => h piece (List.mem_cons_of_mem _ hpiece)
      rw [joinWith_cons _ _ (by simp), List.append_assoc, List.singleton_append,
        splitOn_append (h first List.mem_cons_self), hrest]

/-! ## Ends of a text -/

/-- Drop the characters of a class from the end. -/
def dropEndWhile (p : Char → Bool) (t : Text) : Text := (t.reverse.dropWhile p).reverse

/-- Whether the text ends with `tail`. -/
def endsWith (tail t : Text) : Bool := tail.isSuffixOf t

/-- Whether the text begins with `head`. -/
def startsWith (head t : Text) : Bool := head.isPrefixOf t

/-! ## Order -/

/-- Order by code points, a shorter text before its extensions. -/
def le (a b : Text) : Bool := List.le a b

/-- The distinct members of a list of texts, in order. -/
def sortedDistinct (ts : List Text) : List Text := (ts.mergeSort le).eraseDups

/-! ## Letters of the ASCII range -/

/-- The lower case of the ASCII letters; every other character stays. -/
def asciiLower (t : Text) : Text := t.map Char.toLower

end Text

end ImportChart
