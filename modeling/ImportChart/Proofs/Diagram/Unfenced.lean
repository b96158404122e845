import ImportChart.Proofs.Diagram.Document
import ImportChart.Proofs.Text.Characters
import ImportChart.Proofs.Text.Runs
import Mathlib.Data.List.Forall2

/-!
# A document without a fence

A document in which no fence is found is itself the diagram, without the triples of backticks in it.

- `HasFence`: a fence stands somewhere in a document, told by its parts;
- `isSome_body?_iff`, `firstBody?_eq_none_iff`: this is what is searched for, and the search misses none;
- `unwrap_eq_self`: a text without triples of backticks that neither begins nor ends with a blank stays as it is;
- `unwrap_unfenced`: a document without a fence becomes such a text, and keeps everything but backticks and the blanks
  around it.
-/

namespace ImportChart.Fence

variable {t u name : Text} {c : Char}

/-! ## Fences in a document -/

/-- The name of the language, in any letter case. -/
def IsLanguage (name : Text) : Prop := List.Forall₂ (fun lower c => isLetter lower c = true) "mermaid" name

/-- A text begins with a fence: three backticks, the name of the language between blanks, a line feed, a body, and a
closing. -/
def BeginsFence (t : Text) : Prop :=
  ∃ space name blanks body rest,
    Text.isBlankText space = true ∧ IsLanguage name ∧ Text.isBlankText blanks = true ∧
      t = ticks ++ (space ++ (name ++ (blanks ++ '\n' :: (body ++ (closing ++ rest)))))

/-- A fence stands somewhere in a text. -/
def HasFence (t : Text) : Prop := ∃ front fence, t = front ++ fence ∧ BeginsFence fence

theorem hasFence_cons_iff : HasFence (c :: t) ↔ BeginsFence (c :: t) ∨ HasFence t := by
  constructor
  · rintro ⟨front, fence, heq, hfence⟩
    cases front with
    | nil => exact Or.inl (heq ▸ hfence)
    | cons _ front => exact Or.inr ⟨front, fence, (List.cons.inj heq).2, hfence⟩
  · rintro (hfence | ⟨front, fence, rfl, hfence⟩)
    · exact ⟨[], _, rfl, hfence⟩
    · exact ⟨c :: front, fence, rfl, hfence⟩

/-- A fence begins with three backticks. -/
theorem HasFence.ticks_infix (h : HasFence t) : ticks <:+: t := by
  obtain ⟨front, fence, rfl, _, _, _, _, _, _, _, _, rfl⟩ := h
  exact ⟨front, _, List.append_assoc ..⟩

/-! ## The search -/

/-- The letters of a word are compared one by one, and none may be missing. -/
theorem forall₂_isLetter_iff (word t : Text) :
    List.Forall₂ (fun lower c => isLetter lower c = true) word (t.take word.length) ↔
      word.length ≤ t.length ∧ (List.zipWith isLetter word t).all id = true := by
  induction word generalizing t with
  | nil => simp
  | cons lower word ih =>
    cases t with
    | nil => simp
    | cons c t =>
      simp only [List.length_cons, List.take_succ_cons, List.forall₂_cons, ih, List.zipWith_cons_cons, List.all_cons,
        Nat.add_le_add_iff_right, Bool.and_eq_true, id]
      exact and_left_comm

theorem afterLanguage?_eq_some_iff : afterLanguage? t = some u ↔ ∃ name, IsLanguage name ∧ t = name ++ u := by
  have hname : IsLanguage (t.take 7) ↔
      (decide (t.length < 7) || !(List.zipWith isLetter ("mermaid" : Text) t).all id) = false := by
    rw [Bool.or_eq_false_iff, decide_eq_false_iff_not, Nat.not_lt, Bool.not_eq_false']
    exact forall₂_isLetter_iff "mermaid" t
  have hread : afterLanguage? t = some u ↔ IsLanguage (t.take 7) ∧ t.drop 7 = u := by
    have hlength : ("mermaid" : Text).length = 7 := rfl
    simp only [hname, afterLanguage?, hlength]
    cases (decide (t.length < 7) || !(List.zipWith isLetter ("mermaid" : Text) t).all id) <;> simp
  rw [hread]
  constructor
  · rintro ⟨hlanguage, rfl⟩
    exact ⟨_, hlanguage, (List.take_append_drop 7 t).symm⟩
  · rintro ⟨name, hlanguage, rfl⟩
    have hlength : name.length = 7 := hlanguage.length_eq.symm
    rw [← hlength, List.take_left, List.drop_left]
    exact ⟨hlanguage, rfl⟩

/-- The name of the language begins with a letter. -/
theorem IsLanguage.isBlank_head (h : IsLanguage name) (u : Text) :
    ∀ c ∈ (name ++ u).head?, Text.isBlank c = false := by
  have hword : ("mermaid" : Text) = 'm' :: "ermaid" := rfl
  rw [IsLanguage, hword] at h
  obtain ⟨c, rest, hletter, -, rfl⟩ := List.forall₂_cons_left_iff.mp h
  rintro _ ⟨⟩
  have hlower : c.toLower = 'm' := by simpa [isLetter] using hletter
  refine Bool.eq_false_iff.mpr fun hblank => ?_
  rw [Text.toLower_of_isBlank hblank] at hlower
  subst hlower
  cases hblank

/-- A body in front of a closing, behind blanks and a line feed. -/
def HasBody (t : Text) : Prop :=
  ∃ blanks body rest, Text.isBlankText blanks = true ∧ t = blanks ++ '\n' :: (body ++ (closing ++ rest))

theorem hasBody_cons_iff :
    HasBody (c :: t) ↔ Text.isBlank c = true ∧ (HasBody t ∨ c = '\n' ∧ closing <:+: t) := by
  constructor
  · rintro ⟨blanks, body, rest, hblanks, heq⟩
    cases blanks with
    | nil =>
      obtain ⟨rfl, rfl⟩ := List.cons.inj heq
      exact ⟨rfl, Or.inr ⟨rfl, body, rest, List.append_assoc ..⟩⟩
    | cons _ blanks =>
      obtain ⟨rfl, rfl⟩ := List.cons.inj heq
      obtain ⟨hc, hblanks⟩ := Bool.and_eq_true_iff.mp hblanks
      exact ⟨hc, Or.inl ⟨blanks, body, rest, hblanks, rfl⟩⟩
  · rintro ⟨hc, ⟨blanks, body, rest, hblanks, rfl⟩ | ⟨rfl, body, rest, rfl⟩⟩
    · exact ⟨c :: blanks, body, rest, Bool.and_eq_true_iff.mpr ⟨hc, hblanks⟩, rfl⟩
    · exact ⟨[], body, rest, rfl, by simp⟩

/-- **A body is found behind the name** if there is one, whichever of the line feeds it stands behind. -/
theorem isSome_bodyAfterBlanks?_iff : (bodyAfterBlanks? t).isSome = true ↔ HasBody t := by
  induction t with
  | nil => simp [bodyAfterBlanks?, HasBody]
  | cons c t ih =>
    have hhere : (if (c == '\n') = true then (Text.splitAtPart closing t).map Prod.fst else none).isSome = true ↔
        c = '\n' ∧ closing <:+: t := by
      have hcut : (Text.splitAtPart closing t).isSome = true ↔ closing <:+: t := by
        rw [Option.isSome_iff_ne_none, ne_eq, Text.splitAtPart_eq_none_iff, Classical.not_not]
      split
      · next hc => rw [Option.isSome_map, hcut, and_iff_right (beq_iff_eq.mp hc)]
      · next hc => exact iff_of_false Bool.false_ne_true fun h => hc (beq_iff_eq.mpr h.1)
    rw [hasBody_cons_iff, bodyAfterBlanks?]
    cases Text.isBlank c with
    | false => simp
    | true =>
      rw [← ih, ← hhere, ← Bool.or_eq_true, ← Option.isSome_or]
      simp

/-- **What is searched for at the beginning of a text is a fence.** -/
theorem isSome_body?_iff : (body? t).isSome = true ↔ BeginsFence t := by
  rw [body?]
  split
  · next hticks =>
    obtain ⟨u, rfl⟩ := List.isPrefixOf_iff_prefix.mp hticks
    have hdrop : (ticks ++ u).drop 3 = u := rfl
    rw [hdrop]
    constructor
    · intro h
      obtain ⟨body, hbody⟩ := Option.isSome_iff_exists.mp h
      obtain ⟨v, hv, hbody⟩ := Option.bind_eq_some_iff.mp hbody
      obtain ⟨name, hname, hu⟩ := afterLanguage?_eq_some_iff.mp hv
      obtain ⟨blanks, body, rest, hblanks, rfl⟩ := isSome_bodyAfterBlanks?_iff.mp (Option.isSome_of_eq_some hbody)
      refine ⟨u.takeWhile Text.isBlank, name, blanks, body, rest, List.all_takeWhile, hname, hblanks, ?_⟩
      rw [← hu, Text.trimStart, List.takeWhile_append_dropWhile]
    · rintro ⟨space, name, blanks, body, rest, hspace, hname, hblanks, hu⟩
      obtain rfl := List.append_cancel_left hu
      have hbody := isSome_bodyAfterBlanks?_iff.mpr ⟨blanks, body, rest, hblanks, rfl⟩
      have htrim := Text.dropWhile_eq_self (hname.isBlank_head (blanks ++ '\n' :: (body ++ (closing ++ rest))))
      rw [Text.trimStart, List.dropWhile_append_of_pos (List.all_eq_true.mp hspace), htrim,
        afterLanguage?_eq_some_iff.mpr ⟨name, hname, rfl⟩]
      exact hbody
  · next hno =>
    refine iff_of_false (by simp) ?_
    rintro ⟨_, _, _, _, _, -, -, -, rfl⟩
    exact hno (List.isPrefixOf_iff_prefix.mpr (List.prefix_append _ _))

/-- **No body is found exactly if no fence stands in the text.** -/
theorem firstBody?_eq_none_iff : firstBody? t = none ↔ ¬HasFence t := by
  induction t with
  | nil => exact iff_of_true rfl fun h => absurd h.ticks_infix (by decide)
  | cons c t ih =>
    rw [firstBody?, Option.or_eq_none_iff, ih, hasFence_cons_iff, not_or, ← isSome_body?_iff,
      Option.not_isSome_iff_eq_none]

instance (t : Text) : Decidable (HasFence t) :=
  decidable_of_iff (¬firstBody? t = none) (by rw [firstBody?_eq_none_iff, Classical.not_not])

/-! ## Without a fence -/

/-- What a document without a fence is read as: a text with no triple of backticks and no blanks around it, which has
all characters of the document in their order, but for backticks, and for blanks at the beginning and at the end. -/
structure Stripped (document text : Text) : Prop where
  not_ticks : ¬ticks <:+: text
  first_not_blank : ∀ c ∈ text.head?, Text.isBlank c = false
  last_not_blank : ∀ c ∈ text.getLast?, Text.isBlank c = false
  /-- Of each run of backticks as many are left as its triples leave over. -/
  kept : ∃ before after, Text.isBlankText before = true ∧ Text.isBlankText after = true ∧
    Text.Shortened 3 '\x60' document (before ++ text ++ after) ∧
    (before ++ text ++ after).filter (· ≠ '\x60') = document.filter (· ≠ '\x60')

theorem unwrap_of_not_hasFence (h : ¬HasFence t) : unwrap t = Text.trim (Text.replaceAll ticks [] t) := by
  rw [unwrap, firstBody?_eq_none_iff.mpr h]

/-- Taking triples out and dropping blanks leaves a text as it should be. -/
theorem stripped_trim (t : Text) : Stripped t (Text.trim (Text.replaceAll ticks [] t)) := by
  have hshort : Text.Shortened 3 '\x60' t (Text.replaceAll ticks [] t) :=
    Text.shortened_replaceAll (by decide) '\x60' t
  obtain ⟨before, after, heq, hbefore, hafter⟩ :=
    Text.exists_dropEndWhile_dropWhile Text.isBlank (Text.replaceAll ticks [] t)
  refine ⟨fun hticks => ?_, fun c => Text.isBlank_of_head?_trim, fun c => Text.isBlank_of_getLast?_trim,
    before, after, List.all_eq_true.mpr hbefore, List.all_eq_true.mpr hafter, ?_⟩
  · exact hshort.not_infix (by decide) (hticks.trans ⟨before, after, heq.symm⟩)
  · have htrim : before ++ Text.trim (Text.replaceAll ticks [] t) ++ after = Text.replaceAll ticks [] t := heq.symm
    rw [htrim]
    exact ⟨hshort, hshort.filter_ne⟩

/-- **Nothing is taken from a text that is stripped.** -/
theorem Stripped.unwrap_eq_self (h : Stripped t u) : unwrap u = u := by
  rw [unwrap_of_not_hasFence fun hfence => h.not_ticks hfence.ticks_infix, Text.replaceAll_eq_self h.not_ticks,
    Text.trim_eq_self h.first_not_blank h.last_not_blank]

/-- **A document without a fence is stripped**, and what it becomes is read as itself. -/
theorem unwrap_unfenced (h : ¬HasFence t) : Stripped t (unwrap t) ∧ unwrap (unwrap t) = unwrap t := by
  have hstripped : Stripped t (unwrap t) := unwrap_of_not_hasFence h ▸ stripped_trim t
  exact ⟨hstripped, hstripped.unwrap_eq_self⟩

/-- Runs of six, four, three and two backticks, and the name of the language with a word behind it. -/
def looseText : Text := " `````` see\n````mermaid x\n```  ``\n "

theorem unwrap_unfenced_loose :
    ¬HasFence looseText ∧ unwrap looseText = "see\n`mermaid x\n  ``" ∧ Stripped looseText (unwrap looseText) ∧
      unwrap (unwrap looseText) = unwrap looseText := by
  have hfence : ¬HasFence looseText := by decide +kernel
  have hunwrap : unwrap looseText = "see\n`mermaid x\n  ``" := by
    rw [unwrap_of_not_hasFence hfence]
    decide +kernel
  exact ⟨hfence, hunwrap, unwrap_unfenced hfence⟩

end ImportChart.Fence
