import ImportChart.Proofs.Source.Shapes
import Mathlib.Data.List.Nodup

/-!
# What is extracted is what is there

A scan goes on behind what it has found, so that it could miss what begins inside a match, and what it has passed over
without a match. `Covers` says what it finds all the same: places that hold a shape each, one behind the other, so that
no shape begins anywhere but at these places or inside them.

- `CoversBehind.skip`, `CoversBehind.take`: one step of the scan, over a character or over a match;
- `covers_scanFrom`: the scan from one position on covers the rest of the text, by the recursion of the scan;
- `covers_scan`: so does a whole scan with a recogniser that takes the texts of a shape;
- `extract_covers`: so does what is extracted, with the places of both forms of imports in one order.
-/

namespace ImportChart.Source

variable {recognise : Text → Option Found} {shape : Shape} {t : Text}

/-- The text between two positions. -/
def between (t : Text) (start stop : Nat) : Text := (t.take stop).drop start

/-- Places in a text that hold a shape each and miss none. -/
structure Covers (shape : Shape) (t : Text) (places : List Hit) : Prop where
  /-- No place overlaps with the ones behind it. -/
  ordered : places.Pairwise fun a b => a.stop ≤ b.start
  /-- At each place there is a text of the shape, with its capture. -/
  formed : ∀ p ∈ places, p.start < p.stop ∧ p.stop ≤ t.length ∧
    shape (between t p.start p.stop) p.capture (t.drop p.stop)
  /-- Where a text of the shape begins, there is one of the places, or it is inside one. -/
  complete : ∀ {n span capture behind}, t.drop n = span ++ behind → shape span capture behind →
    ∃ p ∈ places, p.start ≤ n ∧ n < p.stop

/-- Where a hit begins and what it captures. -/
def Hit.key (h : Hit) : Nat × Text := (h.start, h.capture)

/-- The place of a text in the text that it is a part of. -/
theorem between_append (front span behind : Text) :
    between (front ++ (span ++ behind)) front.length (front.length + span.length) = span := by
  have htake : (front ++ (span ++ behind)).take (front.length + span.length) = front ++ span := by
    rw [← List.append_assoc, ← List.length_append, List.take_left]
  rw [between, htake, List.drop_left]

/-- Places behind a part of a text that hold a shape each and miss none behind that part. -/
structure CoversBehind (shape : Shape) (front t : Text) (places : List Hit) : Prop where
  ordered : places.Pairwise fun a b => a.stop ≤ b.start
  behind : ∀ p ∈ places, front.length ≤ p.start
  formed : ∀ p ∈ places, p.start < p.stop ∧ p.stop ≤ (front ++ t).length ∧
    shape (between (front ++ t) p.start p.stop) p.capture ((front ++ t).drop p.stop)
  complete : ∀ {n span capture behind}, front.length ≤ n → (front ++ t).drop n = span ++ behind →
    shape span capture behind → ∃ p ∈ places, p.start ≤ n ∧ n < p.stop

namespace CoversBehind

/-- Nothing begins behind the end of a text. -/
theorem nil (hshape : Recognises recognise shape) (front : Text) : CoversBehind shape front [] [] where
  ordered := List.Pairwise.nil
  behind := by simp
  formed := by simp
  complete := by
    intro n span capture behind hn hdrop hspan
    obtain ⟨c, rest, rfl, -⟩ := hshape.begins hspan
    rw [List.append_nil, List.drop_eq_nil_of_le hn] at hdrop
    cases hdrop

variable {front : Text} {places : List Hit}

/-- A character where nothing is recognised is passed over. -/
theorem skip (hshape : Recognises recognise shape) {c : Char} {cs : Text} (hnone : recognise (c :: cs) = none)
    (h : CoversBehind shape (front ++ [c]) cs places) : CoversBehind shape front (c :: cs) places := by
  have htext : front ++ [c] ++ cs = front ++ c :: cs := List.append_cons .. |>.symm
  refine ⟨h.ordered, fun p hp => ?_, htext ▸ h.formed, ?_⟩
  · have hstart := h.behind p hp
    rw [List.length_append] at hstart
    exact Nat.le_of_succ_le hstart
  · intro n span capture behind hn hdrop hspan
    rcases Nat.eq_or_lt_of_le hn with rfl | hlt
    · -- the recogniser would take what begins here
      rw [List.drop_left] at hdrop
      have hsome := hshape.complete hspan
      rw [← hdrop, hnone] at hsome
      cases hsome
    · exact h.complete (by rwa [List.length_append]) (htext ▸ hdrop) hspan

/-- The text of a shape is a place; the semicolons that are taken with it are none and have none. -/
theorem take (hshape : Recognises recognise shape) {span extra rest capture : Text}
    (hspan : shape span capture (extra ++ rest)) (hextra : ∀ c ∈ extra, c = ';')
    (h : CoversBehind shape (front ++ span ++ extra) rest places) :
    CoversBehind shape front (span ++ (extra ++ rest))
      (⟨front.length, front.length + span.length, capture⟩ :: places) := by
  obtain ⟨b, span', hcons, -⟩ := hshape.begins hspan
  have hlength : 0 < span.length := by simp [hcons]
  have htext : front ++ span ++ extra ++ rest = front ++ (span ++ (extra ++ rest)) := by
    simp only [List.append_assoc]
  have hbehind : ∀ p ∈ places, front.length + span.length + extra.length ≤ p.start := by
    intro p hp
    have hstart := h.behind p hp
    rwa [List.length_append, List.length_append] at hstart
  refine ⟨?_, ?_, ?_, ?_⟩
  · refine List.pairwise_cons.mpr ⟨fun p hp => ?_, h.ordered⟩
    exact Nat.le_trans (Nat.le_add_right _ _) (hbehind p hp)
  · refine List.forall_mem_cons.mpr ⟨Nat.le_refl _, fun p hp => ?_⟩
    have hstart := hbehind p hp
    omega
  · refine List.forall_mem_cons.mpr ⟨?_, htext ▸ h.formed⟩
    refine ⟨by simp only; omega, by simp only [List.length_append]; omega, ?_⟩
    simp only
    rw [between_append, ← List.append_assoc, ← List.length_append, List.drop_left]
    exact hspan
  · intro n other capture' behind hn hdrop hother
    by_cases hinside : n < front.length + span.length
    · exact ⟨_, List.mem_cons_self, hn, hinside⟩
    by_cases hafter : front.length + span.length + extra.length ≤ n
    · have hafter : (front ++ span ++ extra).length ≤ n := by rwa [List.length_append, List.length_append]
      obtain ⟨p, hp, hplace⟩ := h.complete hafter (htext ▸ hdrop) hother
      exact ⟨p, List.mem_cons_of_mem _ hp, hplace⟩
    · -- between the shape and the end of the match there are semicolons
      obtain ⟨c', rest', rfl, hc'⟩ := hshape.begins hother
      have hindex : n - (front.length + span.length) < extra.length := by omega
      have hsemicolon : (front ++ (span ++ (extra ++ rest)))[n]? =
          some extra[n - (front.length + span.length)] := by
        rw [← List.append_assoc, List.getElem?_append_right (by simpa using Nat.not_lt.mp hinside),
          List.length_append, List.getElem?_append_left hindex, List.getElem?_eq_getElem hindex]
      rw [← List.head?_drop, hdrop] at hsemicolon
      exact absurd (hextra _ (Option.some.inj hsemicolon ▸ List.getElem_mem hindex)) hc'

end CoversBehind

/-- **The matches of a scan cover the text from where it begins.** What a recogniser takes behind the shape is no part
of the place. -/
theorem covers_scanFrom (hshape : Recognises recognise shape) (position : Nat) (t : Text) :
    ∀ front : Text, front.length = position → ∃ places, CoversBehind shape front t places ∧
      places.map Hit.key = (scanFrom recognise position t).map Hit.key := by
  fun_induction scanFrom recognise position t with
  | case1 position => exact fun front _ => ⟨[], .nil hshape front, rfl⟩
  | case2 position c cs hnone ih =>
    rintro front rfl
    obtain ⟨places, hplaces, hkeys⟩ := ih (front ++ [c]) (by simp)
    exact ⟨places, hplaces.skip hshape hnone, hkeys⟩
  | case3 position c cs found hfound hle stop ih =>
    rintro front rfl
    obtain ⟨span, extra, hsplit, hspan, hextra⟩ := hshape.sound hfound
    have hfront : (front ++ span ++ extra).length = stop := by
      have hlengths := congrArg List.length hsplit
      simp only [List.length_cons, List.length_append] at hlengths
      simp only [List.length_append, stop]
      omega
    obtain ⟨places, hplaces, hkeys⟩ := ih (front ++ span ++ extra) hfront
    rw [hsplit]
    refine ⟨_, hplaces.take hshape hspan hextra, ?_⟩
    rw [List.map_cons, List.map_cons, hkeys]
    rfl
  | case4 position c cs found hfound hle ih =>
    -- a match is never empty
    obtain ⟨span, extra, hsplit, hspan, -⟩ := hshape.sound hfound
    obtain ⟨b, span', rfl, -⟩ := hshape.begins hspan
    have hlengths := congrArg List.length hsplit
    simp only [List.length_cons, List.length_append] at hlengths
    omega

/-- **A scan covers its text.** -/
theorem covers_scan (hshape : Recognises recognise shape) (t : Text) : ∃ places, Covers shape t places ∧
    places.map Hit.key = (scan recognise t).map Hit.key := by
  obtain ⟨places, hplaces, hkeys⟩ := covers_scanFrom hshape 0 t [] rfl
  have hcomplete {n : Nat} {span capture behind : Text} (hdrop : t.drop n = span ++ behind)
      (hspan : shape span capture behind) : ∃ p ∈ places, p.start ≤ n ∧ n < p.stop :=
    hplaces.complete (Nat.zero_le n) hdrop hspan
  exact ⟨places, ⟨hplaces.ordered, hplaces.formed, hcomplete⟩, hkeys⟩

/-- Places with the keys of some matches have their captures. -/
theorem map_capture_of_key {places hits : List Hit} (h : places.map Hit.key = hits.map Hit.key) :
    hits.map Hit.capture = places.map Hit.capture := by
  have hcaptures := congrArg (List.map Prod.snd) h
  rw [List.map_map, List.map_map] at hcaptures
  exact hcaptures.symm

/-! ## Imports of both forms -/

/-- The places of a covering begin one behind the other. -/
theorem Covers.pairwise_start {places : List Hit} (h : Covers shape t places) :
    places.Pairwise fun a b => a.start < b.start :=
  h.ordered.imp_of_mem fun {a _} ha _ hab => Nat.lt_of_lt_of_le (h.formed a ha).1 hab

/-- Where the text of a shape stands, the text goes on with it. -/
theorem Covers.drop_start {places : List Hit} (h : Covers shape t places) {p : Hit} (hp : p ∈ places) :
    ∃ span, shape span p.capture (t.drop p.stop) ∧ t.drop p.start = span ++ t.drop p.stop := by
  obtain ⟨hlt, hle, hspan⟩ := h.formed p hp
  refine ⟨_, hspan, ?_⟩
  have hdrop : t.drop p.stop = (t.drop p.start).drop (p.stop - p.start) := by
    rw [List.drop_drop, Nat.add_sub_cancel' (Nat.le_of_lt hlt)]
  rw [between, List.drop_take, hdrop, List.take_append_drop]

/-- The two forms of imports never begin at one position. -/
theorem start_ne_of_covers {imports requires : List Hit} (himports : Covers ImportShape t imports)
    (hrequires : Covers RequireShape t requires) {p q : Hit} (hp : p ∈ imports) (hq : q ∈ requires) :
    p.start ≠ q.start := by
  intro hstart
  obtain ⟨span, hspan, hdrop⟩ := himports.drop_start hp
  obtain ⟨span', hspan', hdrop'⟩ := hrequires.drop_start hq
  rw [hstart, hdrop'] at hdrop
  cases hspan
  cases hspan'
  cases hdrop

/-- **What is extracted is what is there.** For imports of both forms, for functions and for classes there are places
in the text that hold a declaration each, with what is extracted as captures, so that every declaration of the kind
begins at one of these places or inside one. The imports of both forms come in the order of their places. -/
theorem extract_covers (t : Text) :
    (∃ imports requires merged : List Hit, Covers ImportShape t imports ∧ Covers RequireShape t requires ∧
      merged.Perm (imports ++ requires) ∧ (merged.Pairwise fun a b => a.start < b.start) ∧
      (extract t).imports = merged.map Hit.capture) ∧
    (∃ functions, Covers CallableShape t functions ∧ (extract t).functions = functions.map Hit.capture) ∧
    ∃ classes, Covers ClassShape t classes ∧ (extract t).classes = classes.map Hit.capture := by
  refine ⟨?_, ?_, ?_⟩
  · obtain ⟨imports, himports, hkeys⟩ := covers_scan recognises_importTarget? t
    obtain ⟨requires, hrequires, hkeys'⟩ := covers_scan recognises_requireTarget? t
    refine ⟨imports, requires, List.merge imports requires fun a b => a.start ≤ b.start, himports, hrequires,
      List.merge_perm_append _, ?_, map_capture_of_key ?_⟩
    · have hsorted : (List.merge imports requires fun a b => a.start ≤ b.start).Pairwise
          fun a b => decide (a.start ≤ b.start) = true := by
        refine List.pairwise_merge (fun a b c => ?_) (fun a b => ?_) _ _ ?_ ?_
        · simp only [decide_eq_true_eq]
          omega
        · simp only [Bool.or_eq_true, decide_eq_true_eq]
          omega
        · exact himports.pairwise_start.imp fun h => decide_eq_true (Nat.le_of_lt h)
        · exact hrequires.pairwise_start.imp fun h => decide_eq_true (Nat.le_of_lt h)
      have hdistinct : (List.merge imports requires fun a b => a.start ≤ b.start).Pairwise
          fun a b => a.start ≠ b.start := by
        refine ((List.merge_perm_append _).pairwise_iff fun h => Ne.symm h).mpr ?_
        refine List.pairwise_append.mpr ⟨himports.pairwise_start.imp Nat.ne_of_lt,
          hrequires.pairwise_start.imp Nat.ne_of_lt, fun p hp q hq => start_ne_of_covers himports hrequires hp hq⟩
      exact (hsorted.and hdistinct).imp fun h => Nat.lt_of_le_of_ne (of_decide_eq_true h.1) h.2
    · have hmerge (xs ys : List Hit) : (List.merge xs ys fun a b => a.start ≤ b.start).map Hit.key =
          List.merge (xs.map Hit.key) (ys.map Hit.key) fun a b => a.1 ≤ b.1 :=
        List.map_merge fun _ _ _ _ => rfl
      rw [importHits, hmerge, hmerge, hkeys, hkeys']
  · obtain ⟨functions, hfunctions, hkeys⟩ := covers_scan recognises_callableName? t
    exact ⟨functions, hfunctions, map_capture_of_key hkeys⟩
  · obtain ⟨classes, hclasses, hkeys⟩ := covers_scan recognises_className? t
    exact ⟨classes, hclasses, map_capture_of_key hkeys⟩

end ImportChart.Source
