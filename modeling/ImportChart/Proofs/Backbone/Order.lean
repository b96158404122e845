import ImportChart.Proofs.Backbone.Drain
import Mathlib.Data.Fintype.Card
import Mathlib.Data.Fintype.EquivFin
import Mathlib.Data.Fintype.Sets
import Mathlib.Logic.Relation

/-!
# Importers first, cycles at the end

- `BehindCycle`: a file lies on a cycle of imports or can be reached from one;
- `mem_freed_iff`: the files that are free at some time are those that are not behind a cycle. A file that is listed
  comes strictly behind its importers, so it is on no cycle; and among finitely many files without cycles the
  importers come before what they import, so all of them are listed by well-founded induction;
- `backbone_eq_ok`: the backbone is the list of these files and, behind it, the others in the order of the scan;
- the backbone splits at that place (`backbone_splits`).
-/

namespace ImportChart.Graph

open Relation (TransGen ReflTransGen)

variable {g : Graph} {order done : List Text} {pending : Tally} {id src dst : Text}

/-- A file lies on a cycle of imports or can be reached from one. -/
def BehindCycle (g : Graph) (id : Text) : Prop :=
  ∃ start, TransGen g.Imports start start ∧ ReflTransGen g.Imports start id

theorem BehindCycle.of_imports (h : g.BehindCycle src) (himp : g.Imports src dst) : g.BehindCycle dst := by
  obtain ⟨start, hcycle, hpath⟩ := h
  exact ⟨start, hcycle, hpath.tail himp⟩

/-! ## Where importers stand -/

theorem ImportersFirst.idxOf_lt (h : g.ImportersFirst order) (himp : g.Imports src dst) (hdst : dst ∈ order) :
    src ∈ order ∧ order.idxOf src < order.idxOf dst := by
  obtain ⟨before, after, rfl, hnot⟩ := List.eq_append_cons_of_mem hdst
  have hsrc := h before dst after rfl src himp
  refine ⟨List.mem_append_left _ hsrc, ?_⟩
  rw [List.idxOf_append_of_mem hsrc, List.idxOf_append_of_notMem hnot]
  have := List.idxOf_lt_length_of_mem hsrc
  omega

theorem ImportersFirst.idxOf_lt_of_transGen (h : g.ImportersFirst order) (hpath : TransGen g.Imports src dst)
    (hdst : dst ∈ order) : src ∈ order ∧ order.idxOf src < order.idxOf dst := by
  induction hpath with
  | single himp => exact h.idxOf_lt himp hdst
  | tail _ himp ih =>
    obtain ⟨hmid, hlt⟩ := h.idxOf_lt himp hdst
    obtain ⟨hsrc, hlt'⟩ := ih hmid
    exact ⟨hsrc, hlt'.trans hlt⟩

theorem ImportersFirst.not_behindCycle (h : g.ImportersFirst order) (hid : id ∈ order) : ¬g.BehindCycle id := by
  rintro ⟨start, hcycle, hpath⟩
  have hstart : start ∈ order := by
    rcases Relation.reflTransGen_iff_eq_or_transGen.mp hpath with rfl | hpath
    · exact hid
    · exact (h.idxOf_lt_of_transGen hpath hid).1
  exact Nat.lt_irrefl _ (h.idxOf_lt_of_transGen hcycle hstart).2

/-! ## The files that are listed -/

/-- Among the files, chains of imports that lead to files behind no cycle are well-founded. -/
theorem wellFounded_imports (g : Graph) : WellFounded fun a b : { id // id ∈ g.fileIds } =>
    TransGen g.Imports a.1 b.1 ∧ ¬g.BehindCycle b.1 := by
  have : IsTrans { id // id ∈ g.fileIds } fun a b => TransGen g.Imports a.1 b.1 ∧ ¬g.BehindCycle b.1 :=
    ⟨fun _ _ _ hab hbc => ⟨hab.1.trans hbc.1, hbc.2⟩⟩
  have : Std.Irrefl fun a b : { id // id ∈ g.fileIds } => TransGen g.Imports a.1 b.1 ∧ ¬g.BehindCycle b.1 :=
    ⟨fun a haa => haa.2 ⟨a.1, haa.1, .refl⟩⟩
  exact Finite.wellFounded_of_trans_of_irrefl _

/-- When the queue is empty, every file that is behind no cycle is listed. -/
theorem Drained.mem_of_not_behindCycle (hg : g.Joined) (h : g.Drained done [] pending)
    (a : { id // id ∈ g.fileIds }) : ¬g.BehindCycle a.1 → a.1 ∈ done := by
  induction a using (wellFounded_imports g).induction with
  | _ a ih =>
    intro hnot
    have hpending : pending.count a.1 = 0 := by
      rw [h.count_eq]
      refine (countP_eq_zero_iff done a.1).2 fun src himp => ?_
      have hsrc := (hg.mem_of_imports himp).1
      exact ih ⟨src, hsrc⟩ ⟨.single himp, hnot⟩ fun hbehind => hnot (hbehind.of_imports himp)
    simpa using (h.mem_iff a.1).2 ⟨a.2, hpending⟩

/-- **The files that are free at some time are those that are behind no cycle.** -/
theorem Joined.mem_freed_iff (hg : g.Joined) : id ∈ g.freed ↔ id ∈ g.fileIds ∧ ¬g.BehindCycle id := by
  obtain ⟨pending, h⟩ := hg.drained_freed
  constructor
  · intro hid
    exact ⟨((h.mem_iff id).1 (List.mem_append_left _ hid)).1, h.importersFirst.not_behindCycle hid⟩
  · rintro ⟨hid, hnot⟩
    exact h.mem_of_not_behindCycle hg ⟨id, hid⟩ hnot

/-! ## The backbone -/

theorem Joined.unknownEnd?_eq_none (hg : g.Joined) : g.unknownEnd? = none := by
  refine List.findSome?_eq_none_iff.mpr fun e he => ?_
  simp [hg.src_mem e he, hg.dst_mem e he]

/-- **The backbone is the list of the files that are free at some time, and then the others.** -/
theorem Joined.backbone_eq_ok (hg : g.Joined) :
    g.backbone = .ok (g.freed ++ g.fileIds.filter fun id => !g.freed.contains id) := by
  simp only [backbone, hg.unknownEnd?_eq_none]
  split
  · rfl
  · next hlen =>
    obtain ⟨pending, h⟩ := hg.drained_freed
    have hnodup : g.freed.Nodup := by simpa using h.nodup
    have hperm : g.freed.Perm g.fileIds := by
      refine (List.subperm_of_subset hnodup fun id hid => (hg.mem_freed_iff.mp hid).1).perm_of_length_le ?_
      simpa [fileIds] using hlen
    have hnil : (g.fileIds.filter fun id => !g.freed.contains id) = [] :=
      List.filter_eq_nil_iff.mpr fun id hid => by simpa using hperm.mem_iff.mpr hid
    rw [hnil, List.append_nil]

/-- A list of the files in two parts: the files that are behind no cycle, each behind its importers, and the others
in the order of the scan. -/
structure Splits (g : Graph) (free rest : List Text) : Prop where
  perm : (free ++ rest).Perm g.fileIds
  mem_free_iff : ∀ id, id ∈ free ↔ id ∈ g.fileIds ∧ ¬g.BehindCycle id
  mem_rest_iff : ∀ id, id ∈ rest ↔ id ∈ g.fileIds ∧ g.BehindCycle id
  rest_sublist : rest.Sublist g.fileIds
  importers_first : ∀ src dst, g.Imports src dst → dst ∈ free → src ∈ free ∧ free.idxOf src < free.idxOf dst

theorem Joined.splits_freed (hg : g.Joined) : g.Splits g.freed (g.fileIds.filter fun id => !g.freed.contains id) := by
  obtain ⟨pending, h⟩ := hg.drained_freed
  have hnodup : g.freed.Nodup := by simpa using h.nodup
  have hrest (id : Text) : (id ∈ g.fileIds.filter fun id => !g.freed.contains id) ↔ id ∈ g.fileIds ∧ id ∉ g.freed := by
    simp [List.mem_filter]
  refine ⟨?_, fun id => hg.mem_freed_iff, fun id => ?_, List.filter_sublist, fun src dst himp hdst => ?_⟩
  · refine (List.perm_ext_iff_of_nodup ?_ hg.nodup).2 fun id => ?_
    · refine List.nodup_append.mpr ⟨hnodup, hg.nodup.filter _, fun a ha b hb heq => ?_⟩
      exact ((hrest b).1 hb).2 (heq ▸ ha)
    · rw [List.mem_append, hrest, hg.mem_freed_iff]
      by_cases hcycle : g.BehindCycle id <;> simp [hcycle]
  · rw [hrest, hg.mem_freed_iff]
    by_cases hcycle : g.BehindCycle id <;> simp [hcycle]
  · exact h.importersFirst.idxOf_lt himp hdst

theorem Joined.mem_fileIds_of_mem_backbone (hg : g.Joined) {order : List Text} (h : g.backbone = .ok order)
    (hid : id ∈ order) : id ∈ g.fileIds := by
  rw [hg.backbone_eq_ok] at h
  obtain rfl := Except.ok.inj h
  exact hg.splits_freed.perm.mem_iff.mp hid

/-- Without cycles nothing is left for the second part, and importers come first in the whole list. -/
theorem Splits.idxOf_lt {free rest : List Text} (hg : g.Joined) (h : g.Splits free rest)
    (hacyclic : ∀ id, ¬TransGen g.Imports id id) (himp : g.Imports src dst) :
    (free ++ rest).idxOf src < (free ++ rest).idxOf dst := by
  have hfree : dst ∈ free := by
    have hdst := (hg.mem_of_imports himp).2
    exact (h.mem_free_iff dst).2 ⟨hdst, fun ⟨start, hcycle, _⟩ => hacyclic start hcycle⟩
  obtain ⟨hsrc, hlt⟩ := h.importers_first src dst himp hfree
  rwa [List.idxOf_append_of_mem hsrc, List.idxOf_append_of_mem hfree]

/-- **The backbone lists every file once, importers first and cycles at the end**: it has a first part, with every
file that is behind no cycle strictly behind all its importers, and a second part, with the files on or behind a
cycle in the order of the scan; without cycles every importer comes before all that it imports. -/
theorem backbone_splits (hg : g.Joined) :
    ∃ free rest, g.backbone = .ok (free ++ rest) ∧ g.Splits free rest ∧
      ((∀ id, ¬TransGen g.Imports id id) →
        ∀ src dst, g.Imports src dst → (free ++ rest).idxOf src < (free ++ rest).idxOf dst) :=
  ⟨_, _, hg.backbone_eq_ok, hg.splits_freed, fun hacyclic _ _ himp => hg.splits_freed.idxOf_lt hg hacyclic himp⟩

/-- A file that imports another one twice, and a file that imports itself and one behind it. -/
def tangled : Graph where
  files := (["d", "c", "b", "a"] : List Text).map fun id => ⟨id, id, .file, none⟩
  edges := [⟨"a", "b", .imports⟩, ⟨"c", "d", .imports⟩, ⟨"c", "c", .imports⟩, ⟨"a", "b", .imports⟩]

/-- In `tangled` the importer comes first, and the cycle with what is behind it comes at the end. -/
theorem backbone_splits_tangled :
    tangled.Joined ∧ tangled.backbone = .ok ["a", "b", "d", "c"] ∧
      ∃ free rest, tangled.backbone = .ok (free ++ rest) ∧ tangled.Splits free rest ∧
        ((∀ id, ¬TransGen tangled.Imports id id) →
          ∀ src dst, tangled.Imports src dst → (free ++ rest).idxOf src < (free ++ rest).idxOf dst) := by
  have hg : tangled.Joined := ⟨by decide, by decide, by decide⟩
  exact ⟨hg, rfl, backbone_splits hg⟩

end ImportChart.Graph
