import ImportChart.Proofs.Backbone.Order
import Mathlib.Order.Bounds.Basic

/-!
# The backbone lists layer by layer

The depth of a file is the length of the longest chain of imports that ends at it. Files that are free at the same
time are queued behind each other, so that the backbone begins with the files that no file imports and goes on with
files of greater and greater depth.

- `exists_depth_iff`: on a cycle a chain can be prolonged, so just the files that are behind no cycle have a depth;
- `IsDepth.of_importers`: the depth of a file is one more than that of its deepest importer;
- `Layers`: the invariant of the loop. What is listed and queued ascends in depth, and what waits in the queue is at
  most one layer deeper than the file at its front; one turn keeps it (`Layers.step`), and so does the loop
  (`Layers.drain`);
- `backbone_layered`: so the backbone is layered.
-/

namespace ImportChart.Graph

open Relation (TransGen ReflTransGen)

variable {g : Graph} {done queue order : List Text} {pending : Tally} {id src dst : Text} {m n : Nat}

/-! ## Depth -/

/-- A chain of so many imports ends at a file. -/
inductive ChainTo (g : Graph) : Nat → Text → Prop
  | start (id : Text) : ChainTo g 0 id
  | next {n : Nat} {src dst : Text} : ChainTo g n src → g.Imports src dst → ChainTo g (n + 1) dst

/-- The length of the longest chain of imports that ends at a file. -/
def IsDepth (g : Graph) (id : Text) (n : Nat) : Prop := IsGreatest {m | g.ChainTo m id} n

theorem ChainTo.of_path (h : g.ChainTo n src) (hpath : ReflTransGen g.Imports src dst) :
    ∃ m, n ≤ m ∧ g.ChainTo m dst := by
  induction hpath with
  | refl => exact ⟨n, Nat.le_refl n, h⟩
  | tail _ himp ih =>
    obtain ⟨m, hle, hchain⟩ := ih
    exact ⟨m + 1, Nat.le_succ_of_le hle, hchain.next himp⟩

/-- Going round a cycle makes a chain longer. -/
theorem ChainTo.of_cycle (hcycle : TransGen g.Imports src src) : ∀ n, ∃ m, n ≤ m ∧ g.ChainTo m src
  | 0 => ⟨0, Nat.le_refl 0, .start src⟩
  | n + 1 => by
    obtain ⟨m, hle, hchain⟩ := ChainTo.of_cycle hcycle n
    obtain ⟨second, himp, hpath⟩ := TransGen.head'_iff.mp hcycle
    obtain ⟨m', hle', hchain'⟩ := (hchain.next himp).of_path hpath
    exact ⟨m', by omega, hchain'⟩

/-- A file behind a cycle has no depth. -/
theorem IsDepth.not_behindCycle (h : g.IsDepth id n) : ¬g.BehindCycle id := by
  rintro ⟨start, hcycle, hpath⟩
  obtain ⟨m, hm, hchain⟩ := ChainTo.of_cycle hcycle (n + 1)
  obtain ⟨m', hm', hchain'⟩ := hchain.of_path hpath
  have hle : m' ≤ n := h.2 hchain'
  omega

/-- A file that no file imports has depth zero. -/
theorem isDepth_zero (h : ∀ src, ¬g.Imports src id) : g.IsDepth id 0 := by
  refine ⟨.start id, fun m hchain => ?_⟩
  cases hchain with
  | start => exact Nat.le_refl 0
  | next _ himp => exact absurd himp (h _)

/-- **The depth of a file is one more than that of its deepest importer.** -/
theorem IsDepth.of_importers (hsrc : g.IsDepth src n) (himp : g.Imports src id)
    (hall : ∀ other, g.Imports other id → ∃ m, m ≤ n ∧ g.IsDepth other m) : g.IsDepth id (n + 1) := by
  refine ⟨hsrc.1.next himp, fun m hchain => ?_⟩
  cases hchain with
  | start => exact Nat.zero_le _
  | next hchain himp' =>
    obtain ⟨m, hle, hdepth⟩ := hall _ himp'
    have := hdepth.2 hchain
    omega

/-! ## The loop -/

/-- One file comes before another one, or in the same layer. -/
def NoDeeper (g : Graph) (a b : Text) : Prop := ∀ m n, g.IsDepth a m → g.IsDepth b n → m ≤ n

/-- What is listed and queued has a depth and ascends in it; the queue holds two layers at most. -/
structure Layers (g : Graph) (done queue : List Text) : Prop where
  exists_depth : ∀ id ∈ done ++ queue, ∃ n, g.IsDepth id n
  ascending : (done ++ queue).Pairwise g.NoDeeper
  within : ∀ front ∈ queue.head?, ∀ id ∈ queue, ∀ m n, g.IsDepth front m → g.IsDepth id n → n ≤ m + 1

/-- What is listed, and the next file of the queue, is no deeper than this file. -/
theorem Layers.le_front (h : g.Layers done (id :: queue)) (hid : g.IsDepth id n) {other : Text}
    (hother : other ∈ done ++ [id]) : ∃ m, m ≤ n ∧ g.IsDepth other m := by
  rcases List.mem_append.mp hother with hdone | hsame
  · obtain ⟨m, hm⟩ := h.exists_depth other (List.mem_append_left _ hdone)
    exact ⟨m, (List.pairwise_append.mp h.ascending).2.2 other hdone id List.mem_cons_self m n hm hid, hm⟩
  · rw [List.mem_singleton.mp hsame]
    exact ⟨n, Nat.le_refl n, hid⟩

/-- A file that becomes free in one turn is one layer deeper than the file that is listed in it. -/
theorem Layers.isDepth_freed (hdrained : g.Drained done (id :: queue) pending) (h : g.Layers done (id :: queue))
    (hid : g.IsDepth id n) {other : Text} (hfreed : other ∈ (release pending (g.successors id)).2) :
    g.IsDepth other (n + 1) := by
  obtain ⟨hsucc, hzero⟩ := (hdrained.mem_freed_step other).mp hfreed
  rw [hdrained.pending_step, countP_eq_zero_iff] at hzero
  obtain ⟨e, he, hdst⟩ := List.mem_map.mp hsucc
  have himp : g.Imports id other := ⟨e, (List.mem_filter.mp he).1, by simpa using (List.mem_filter.mp he).2, hdst⟩
  exact hid.of_importers himp fun src hsrc => h.le_front hid (hzero src hsrc)

/-- **One turn of the loop keeps the layers.** -/
theorem Layers.step (hdrained : g.Drained done (id :: queue) pending) (h : g.Layers done (id :: queue)) :
    g.Layers (done ++ [id]) (queue ++ (release pending (g.successors id)).2) := by
  obtain ⟨n, hid⟩ := h.exists_depth id (by simp)
  have hfreed (other : Text) (hother : other ∈ (release pending (g.successors id)).2) : g.IsDepth other (n + 1) :=
    h.isDepth_freed hdrained hid hother
  -- everything so far is at most one layer deeper than the file that is listed now
  have hbelow (other : Text) (hother : other ∈ done ++ id :: queue) (m : Nat) (hm : g.IsDepth other m) :
      m ≤ n + 1 := by
    rw [List.append_cons, List.mem_append] at hother
    rcases hother with hother | hother
    · obtain ⟨m', hle, hm'⟩ := h.le_front hid hother
      rw [hm.unique hm']
      omega
    · exact h.within id rfl other (List.mem_cons_of_mem _ hother) n m hid hm
  have hlists : done ++ [id] ++ (queue ++ (release pending (g.successors id)).2) =
      (done ++ id :: queue) ++ (release pending (g.successors id)).2 := by simp
  refine ⟨?_, ?_, ?_⟩
  · rw [hlists]
    intro other hother
    rcases List.mem_append.mp hother with hother | hother
    · exact h.exists_depth other hother
    · exact ⟨n + 1, hfreed other hother⟩
  · rw [hlists, List.pairwise_append]
    refine ⟨h.ascending, List.pairwise_of_forall_mem_list fun a ha b hb m m' hm hm' => ?_, ?_⟩
    · rw [hm.unique (hfreed a ha), hm'.unique (hfreed b hb)]
    · intro a ha b hb m m' hm hm'
      rw [hm'.unique (hfreed b hb)]
      exact hbelow a ha m hm
  · intro front hfront other hother m m' hm hm'
    -- the new front is no less deep than the file that is listed, and nothing is deeper than the next layer
    have hfrontLe : n ≤ m := by
      have hmem : front ∈ queue ++ (release pending (g.successors id)).2 := List.mem_of_mem_head? hfront
      rcases List.mem_append.mp hmem with hqueue | hnew
      · have hbehind := (List.pairwise_append.mp h.ascending).2.1
        exact (List.pairwise_cons.mp hbehind).1 front hqueue n m hid hm
      · rw [hm.unique (hfreed front hnew)]
        omega
    have hotherLe : m' ≤ n + 1 := by
      rcases List.mem_append.mp hother with hqueue | hnew
      · exact hbelow other (by simp [hqueue]) m' hm'
      · exact Nat.le_of_eq (hm'.unique (hfreed other hnew))
    omega

/-- **The loop keeps the layers.** -/
theorem Layers.drain (hg : g.Joined) : ∀ (fuel : Nat) {done queue : List Text} {pending : Tally},
    g.Drained done queue pending → g.Layers done queue →
      ∃ left, g.Layers (done ++ g.drain fuel pending queue) left
  | 0, done, queue, pending, _, h => by
    refine ⟨[], ⟨fun id hid => ?_, ?_, by simp⟩⟩
    · rw [Graph.drain, List.append_nil, List.append_nil] at hid
      exact h.exists_depth id (List.mem_append_left _ hid)
    · rw [Graph.drain, List.append_nil, List.append_nil]
      exact (List.pairwise_append.mp h.ascending).1
  | _ + 1, done, [], pending, _, h => ⟨[], by rwa [Graph.drain, List.append_nil]⟩
  | fuel + 1, done, id :: queue, pending, hdrained, h => by
    obtain ⟨left, hleft⟩ := Layers.drain hg fuel (hdrained.step hg) (h.step hdrained)
    refine ⟨left, ?_⟩
    simpa [Graph.drain] using hleft

/-- At the beginning the queue is the first layer. -/
theorem layers_roots (g : Graph) : g.Layers [] (g.fileIds.filter fun id => g.indegrees.count id == 0) := by
  have hroot : ∀ id ∈ g.fileIds.filter fun id => g.indegrees.count id == 0, g.IsDepth id 0 := by
    intro id hid
    have hzero : g.indegrees.count id = 0 := by simpa using (List.mem_filter.mp hid).2
    rw [count_indegrees, List.countP_eq_zero] at hzero
    exact isDepth_zero fun src ⟨e, he, _, hdst⟩ => hzero e he (decide_eq_true hdst)
  refine ⟨fun id hid => ⟨0, hroot id hid⟩, ?_, ?_⟩
  · refine List.pairwise_of_forall_mem_list fun a ha b _ m n hm _ => ?_
    rw [hm.unique (hroot a ha)]
    exact Nat.zero_le n
  · intro front _ id hid m n _ hn
    rw [hn.unique (hroot id hid)]
    exact Nat.zero_le _

/-- **The files that are free at some time have a depth, and ascend in it.** -/
theorem Joined.layers_freed (hg : g.Joined) : ∃ left, g.Layers g.freed left :=
  Layers.drain hg _ hg.drained (layers_roots g)

/-- The loop lists first what is in the queue at its beginning, if it has enough fuel for it. -/
theorem exists_drain_eq_append : ∀ {fuel : Nat} (pending : Tally) {queue : List Text} (behind : List Text),
    queue.length ≤ fuel → ∃ rest, g.drain fuel pending (queue ++ behind) = queue ++ rest
  | _, _, [], _, _ => ⟨_, rfl⟩
  | fuel + 1, pending, id :: queue, behind, hfuel => by
    obtain ⟨rest, hrest⟩ := exists_drain_eq_append (release pending (g.successors id)).1
      (behind ++ (release pending (g.successors id)).2) (Nat.le_of_succ_le_succ hfuel)
    rw [← List.append_assoc] at hrest
    exact ⟨rest, congrArg (id :: ·) hrest⟩

/-- The files that are free at some time begin with those that no file imports. -/
theorem exists_freed_eq_append (g : Graph) :
    ∃ rest, g.freed = (g.fileIds.filter fun id => g.indegrees.count id == 0) ++ rest := by
  have hlength : (g.fileIds.filter fun id => g.indegrees.count id == 0).length ≤ g.files.length + g.edges.length := by
    have hle := List.length_filter_le (fun id => g.indegrees.count id == 0) g.fileIds
    simp only [fileIds, List.length_map] at hle ⊢
    omega
  obtain ⟨rest, hrest⟩ := exists_drain_eq_append (g := g) g.indegrees [] hlength
  rw [List.append_nil] at hrest
  exact ⟨rest, hrest⟩

/-! ## The backbone -/

/-- Just the files that are behind no cycle have a depth. -/
theorem Joined.exists_depth_iff (hg : g.Joined) (hid : id ∈ g.fileIds) :
    (∃ n, g.IsDepth id n) ↔ ¬g.BehindCycle id := by
  constructor
  · rintro ⟨n, hn⟩
    exact hn.not_behindCycle
  · intro hnot
    obtain ⟨left, hlayers⟩ := hg.layers_freed
    exact hlayers.exists_depth id (List.mem_append_left _ (hg.mem_freed_iff.mpr ⟨hid, hnot⟩))

/-- An order of files that goes from layer to layer. -/
structure Layered (g : Graph) (order : List Text) : Prop where
  /-- It begins with the files that no file imports, in the order of the scan, and has none of them further behind. -/
  entries_first : ∃ rest, order = g.entryIds ++ rest ∧ ∀ id ∈ rest, id ∉ g.entryIds
  /-- There is a longest chain that ends at a file just if the file is neither on a cycle nor behind one. -/
  exists_depth_iff : ∀ id ∈ g.fileIds, (∃ n, g.IsDepth id n) ↔ ¬g.BehindCycle id
  /-- Of two files that have a depth, the one that comes first is no deeper. -/
  ascending : order.Pairwise g.NoDeeper

/-- **The backbone is layered**: it begins with the files that no file imports, and then the depth of the files, as
far as they have one, never falls. -/
theorem backbone_layered (hg : g.Joined)
    (hincoming : ∀ id ∈ g.fileIds, g.incoming.count id = g.importEdges.countP fun e => e.dst = id) :
    ∃ order, g.backbone = .ok order ∧ g.Layered order := by
  have hentries : g.entryIds = g.fileIds.filter fun id => g.indegrees.count id == 0 :=
    List.filter_congr fun id hid => by rw [hincoming id hid, count_indegrees]
  obtain ⟨rest, hrest⟩ := exists_freed_eq_append g
  obtain ⟨left, hlayers⟩ := hg.layers_freed
  have hsplits := hg.splits_freed
  refine ⟨_, hg.backbone_eq_ok, ⟨rest ++ g.fileIds.filter fun id => !g.freed.contains id, ?_, ?_⟩,
    fun id hid => hg.exists_depth_iff hid, ?_⟩
  · rw [hrest, hentries, List.append_assoc]
  · have hnodup := hsplits.perm.nodup_iff.mpr hg.nodup
    generalize (g.fileIds.filter fun id => !g.freed.contains id) = behind at hnodup ⊢
    rw [hrest, ← hentries, List.append_assoc] at hnodup
    exact fun id hid hentry => List.disjoint_of_nodup_append hnodup hentry hid
  · rw [List.pairwise_append]
    have hfreed := (List.pairwise_append.mp hlayers.ascending).1
    have hnone {b : Text} (hb : b ∈ g.fileIds.filter fun id => !g.freed.contains id) : ¬∃ n, g.IsDepth b n := by
      obtain ⟨hfile, hcycle⟩ := (hsplits.mem_rest_iff b).mp hb
      exact fun hdepth => (hg.exists_depth_iff hfile).mp hdepth hcycle
    refine ⟨hfreed, List.pairwise_of_forall_mem_list fun a _ b hb m n _ hn => ?_, fun a _ b hb m n _ hn => ?_⟩
    · exact absurd ⟨n, hn⟩ (hnone hb)
    · exact absurd ⟨n, hn⟩ (hnone hb)

/-- A file with a direct and a longer way to another one, which is imported once more from elsewhere, and a file that
imports itself. -/
def stepped : Graph :=
  Graph.withTallies
    { files := (["x", "c", "e", "b", "a"] : List Text).map fun id => ⟨id, id, .file, none⟩
      edges := [⟨"a", "c", .imports⟩, ⟨"a", "b", .imports⟩, ⟨"b", "c", .imports⟩, ⟨"e", "c", .imports⟩,
        ⟨"a", "b", .imports⟩, ⟨"x", "x", .imports⟩] }

/-- In `stepped` the file with two ways to it waits for the longer one. -/
theorem backbone_layered_stepped :
    stepped.Joined ∧
      (∀ id ∈ stepped.fileIds, stepped.incoming.count id = stepped.importEdges.countP fun e => e.dst = id) ∧
      stepped.backbone = .ok ["e", "a", "b", "c", "x"] ∧
      ∃ order, stepped.backbone = .ok order ∧ stepped.Layered order := by
  have hg : stepped.Joined := ⟨by decide, by decide, by decide⟩
  have hincoming : ∀ id ∈ stepped.fileIds,
      stepped.incoming.count id = stepped.importEdges.countP fun e => e.dst = id := by decide
  exact ⟨hg, hincoming, rfl, backbone_layered hg hincoming⟩

end ImportChart.Graph
