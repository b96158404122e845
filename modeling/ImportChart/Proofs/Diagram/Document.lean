import ImportChart.Diagram.Fence
import ImportChart.Proofs.Text.Marker

/-!
# A fence in a document

The first fence of a document is found behind everything that holds no three backticks, also where that ends in one
backtick or two, and its body begins behind the line of its language, blanks at the beginning of the body included.

- `body?_opening`: a body whose first line is not blank goes on to the first closing;
- `firstBody?_append`: no fence begins in front of the first three backticks;
- `unwrap_append_iff`: so a body comes back exactly if it holds no closing, whatever stands around its fence;
- `unwrap_surrounded_iff`: the same of a diagram that was put into a fence.
-/

namespace ImportChart.Fence

variable {front body rest t : Text}

/-- Not everything in the first line of a text is blank. -/
def HasFirstLine (t : Text) : Prop := ∃ c ∈ t.takeWhile (· ≠ '\n'), Text.isBlank c = false

instance (t : Text) : Decidable (HasFirstLine t) :=
  List.decidableBEx (fun c => Text.isBlank c = false) (t.takeWhile (· ≠ '\n'))

theorem hasFirstLine_cons {c : Char} (hc : Text.isBlank c = false) (cs : Text) : HasFirstLine (c :: cs) := by
  have hne : c ≠ '\n' := by
    rintro rfl
    cases hc
  refine ⟨c, ?_, hc⟩
  rw [List.takeWhile_cons_of_pos (by simpa using hne)]
  exact List.mem_cons_self

/-! ## The body of a fence -/

theorem afterLanguage?_append (t : Text) : afterLanguage? (("mermaid" : Text) ++ t) = some t := by
  have hlength : ¬(("mermaid" : Text) ++ t).length < ("mermaid" : Text).length := by simp
  have hletters : (List.zipWith isLetter ("mermaid" : Text) (("mermaid" : Text) ++ t)).all id = true := rfl
  simp only [afterLanguage?, hlength, hletters, List.drop_left]
  rfl

/-- In a line that is not blank the blanks of an opening do not end. -/
theorem bodyAfterBlanks?_eq_none (h : HasFirstLine t) : bodyAfterBlanks? t = none := by
  induction t with
  | nil =>
    obtain ⟨c, hc, -⟩ := h
    cases hc
  | cons c cs ih =>
    obtain ⟨x, hx, hblank⟩ := h
    have hc : c ≠ '\n' := by
      rintro rfl
      cases hx
    rw [List.takeWhile_cons_of_pos (by simpa using hc)] at hx
    rw [bodyAfterBlanks?]
    cases hcBlank : Text.isBlank c with
    | false => rfl
    | true =>
      have hrest : x ∈ cs.takeWhile (· ≠ '\n') := by
        rcases List.mem_cons.mp hx with rfl | hx
        · rw [hcBlank] at hblank
          cases hblank
        · exact hx
      have hno : (c == '\n') = false := by simpa using hc
      rw [ih ⟨x, hrest, hblank⟩, hno]
      rfl

/-- **The body of a fence goes from behind the line of its language to the first closing.** -/
theorem body?_opening (h : HasFirstLine t) :
    body? (ticks ++ ("mermaid" ++ '\n' :: t)) = (Text.splitAtPart closing t).map Prod.fst := by
  have hblanks : bodyAfterBlanks? ('\n' :: t) = (Text.splitAtPart closing t).map Prod.fst := by
    rw [bodyAfterBlanks?, bodyAfterBlanks?_eq_none h]
    rfl
  have htrim : Text.trimStart ((ticks ++ ("mermaid" ++ '\n' :: t)).drop 3) = "mermaid" ++ '\n' :: t := rfl
  rw [body?, if_pos (by simp), htrim, afterLanguage?_append, Option.bind_some, hblanks]

/-! ## The first fence of a document -/

/-- Three backticks that begin in front of a fence are followed by one more. -/
theorem body?_eq_none {c : Char} (h : ¬ticks <:+: c :: front) (rest : Text) :
    body? (c :: front ++ (ticks ++ rest)) = none := by
  have hletters (t : Text) : (afterLanguage? (Text.trimStart ('\x60' :: t))).bind bodyAfterBlanks? = none := by
    have hall : (List.zipWith isLetter ("mermaid" : Text) ('\x60' :: t)).all id = false := rfl
    have htrim : Text.trimStart ('\x60' :: t) = '\x60' :: t := rfl
    rw [htrim, afterLanguage?, hall]
    simp
  rw [body?]
  split
  · next hbegins =>
    rw [List.isPrefixOf_iff_prefix] at hbegins
    match front with
    | [] => exact hletters _
    | [_] => exact hletters _
    | d :: e :: front =>
      have hticks : ticks <+: c :: d :: e :: front := by
        simpa [ticks, List.cons_prefix_cons] using hbegins
      exact absurd hticks.isInfix h
  · rfl

/-- **No fence begins in front of the first three backticks.** -/
theorem firstBody?_append (h : ¬ticks <:+: front) (rest : Text) :
    firstBody? (front ++ (ticks ++ rest)) = firstBody? (ticks ++ rest) := by
  induction front with
  | nil => rfl
  | cons c front ih =>
    have hfront : ¬ticks <:+: front := fun hpart => h (hpart.trans (List.suffix_cons c front).isInfix)
    have hnone := body?_eq_none h rest
    rw [List.cons_append] at hnone ⊢
    rw [firstBody?, hnone, Option.none_or, ih hfront]

theorem HasFirstLine.append (h : HasFirstLine t) (rest : Text) : HasFirstLine (t ++ rest) := by
  obtain ⟨c, hc, hblank⟩ := h
  refine ⟨c, ?_, hblank⟩
  rw [List.takeWhile_append]
  split
  · exact List.mem_append_left _ ((List.takeWhile_prefix _).subset hc)
  · exact hc

/-- **A body comes back from a document exactly if it holds no closing**, whatever stands around its fence. -/
theorem unwrap_append_iff (hfront : ¬ticks <:+: front) (hbody : HasFirstLine body) (rest : Text) :
    unwrap (front ++ (ticks ++ ("mermaid" ++ '\n' :: (body ++ (closing ++ rest))))) = body ↔
      ¬closing <:+: body := by
  have hcut : (Text.splitAtPart closing (body ++ (closing ++ rest))).map Prod.fst = some body ↔
      ¬closing <:+: body := Text.map_fst_splitAtPart (by decide) body rest
  have hclosing : closing <:+: body ++ (closing ++ rest) := ⟨body, rest, List.append_assoc ..⟩
  -- the three backticks begin a fence, so that nothing behind it is looked at
  have hbegins := body?_opening (hbody.append (closing ++ rest))
  have hfirst : firstBody? (ticks ++ ("mermaid" ++ '\n' :: (body ++ (closing ++ rest)))) =
      (Text.splitAtPart closing (body ++ (closing ++ rest))).map Prod.fst := by
    have hsome : (body? (ticks ++ ("mermaid" ++ '\n' :: (body ++ (closing ++ rest))))).isSome = true := by
      rw [hbegins, Option.isSome_map, Option.isSome_iff_ne_none, ne_eq, Text.splitAtPart_eq_none_iff,
        Classical.not_not]
      exact hclosing
    rw [← hbegins]
    exact Option.or_eq_left_of_isSome hsome
  rw [unwrap, firstBody?_append hfront, hfirst, ← hcut]
  cases hsplit : Text.splitAtPart closing (body ++ (closing ++ rest)) with
  | none => exact absurd hclosing (Text.splitAtPart_eq_none_iff.mp hsplit)
  | some parts => rw [Option.map_some, Option.some_inj]

/-- **A diagram comes back from any document around its fence**, without the line feeds at its end, exactly if it has
no line feed with three backticks behind it. -/
theorem unwrap_surrounded_iff (front rest diagram : Text) (hfront : ¬ticks <:+: front)
    (hline : HasFirstLine (Text.dropEndWhile (· == '\n') diagram)) :
    unwrap (front ++ wrap diagram ++ rest) = Text.dropEndWhile (· == '\n') diagram ↔
      ¬closing <:+: Text.dropEndWhile (· == '\n') diagram := by
  have hdocument : front ++ wrap diagram ++ rest = front ++ (ticks ++ ("mermaid" ++ '\n' ::
      (Text.dropEndWhile (· == '\n') diagram ++ (closing ++ '\n' :: rest)))) := by
    simp [wrap]
  rw [hdocument]
  exact unwrap_append_iff hfront hline _

/-- A document that ends in two backticks. -/
def crowdedFront : Text := "see ``"

/-- A diagram that begins with blanks and backticks, and ends in two line feeds. -/
def crowdedDiagram : Text := "  ``` flowchart\n``\n\n"

/-- The diagram comes back from between these two backticks and another fence. -/
theorem unwrap_surrounded_iff_crowded :
    ¬ticks <:+: crowdedFront ∧ HasFirstLine (Text.dropEndWhile (· == '\n') crowdedDiagram) ∧
      ¬closing <:+: Text.dropEndWhile (· == '\n') crowdedDiagram ∧
      (unwrap (crowdedFront ++ wrap crowdedDiagram ++ "```mermaid\nother\n```") =
          Text.dropEndWhile (· == '\n') crowdedDiagram ↔
        ¬closing <:+: Text.dropEndWhile (· == '\n') crowdedDiagram) :=
  ⟨by decide +kernel, by decide +kernel, by decide +kernel,
    unwrap_surrounded_iff crowdedFront _ crowdedDiagram (by decide +kernel) (by decide +kernel)⟩

end ImportChart.Fence
