import ImportChart.Proofs.Path.Rooted
import ImportChart.Scan.Collect
import Mathlib.Data.List.Nodup

/-!
# The files below a folder

- `Entry.Proper`: the names in every folder are names that a file system can hold, each once and in order;
- `Disk.Reaches`: a list of names leads from a folder, through real folders that can be listed by their paths, to a file
  or a link;
- `Before`: the order from the top, in each folder the files before the subfolders, both by name;
- `Disk.leaves`: everything that is reached (`mem_leaves_iff`), in this order (`pairwise_leaves`), hence once
  (`nodup_leaves`).
-/

namespace ImportChart

/-- A name that a file system can hold: a component without the NUL character, and not too long. -/
def IsEntryName (name : Text) : Prop :=
  Path.IsComponent name ∧ '\x00' ∉ name ∧ (Utf8.encode name).length ≤ Disk.maxNameBytes

instance (name : Text) : Decidable (IsEntryName name) := inferInstanceAs (Decidable (_ ∧ _ ∧ _))

namespace Entry

variable {t e : Entry} {name : Text} {names : List Text} {entries : List (Text × Entry)}

/-- The names in every folder are proper names in ascending order. -/
inductive Proper : Entry → Prop
  | file (content : Bytes) (access : Access) : Proper (.file content access)
  | link (target : Text) : Proper (.link target)
  | folder {entries : List (Text × Entry)} {access : Access} (names : ∀ p ∈ entries, IsEntryName p.1)
      (ordered : entries.Pairwise fun p q => p.1 < q.1) (below : ∀ p ∈ entries, Proper p.2) :
      Proper (.folder entries access)

theorem Proper.filter {access : Access} (h : Proper (.folder entries access)) (keep : Text × Entry → Bool) :
    Proper (.folder (entries.filter keep) access) := by
  cases h with
  | folder hnames hordered hbelow =>
    exact .folder (fun p hp => hnames p (List.mem_of_mem_filter hp)) (hordered.sublist List.filter_sublist)
      fun p hp => hbelow p (List.mem_of_mem_filter hp)

/-! ## Finding entries -/

theorem mem_of_find?_eq_some (h : find? name entries = some e) : (name, e) ∈ entries := by
  induction entries with
  | nil => cases h
  | cons p rest ih =>
    obtain ⟨n, e'⟩ := p
    rw [find?] at h
    split at h
    · next hn =>
      subst hn
      rw [Option.some.inj h]
      exact List.mem_cons_self
    · exact List.mem_cons_of_mem _ (ih h)

theorem find?_eq_some_of_mem (hordered : entries.Pairwise fun p q => p.1 < q.1) (h : (name, e) ∈ entries) :
    find? name entries = some e := by
  induction entries with
  | nil => cases h
  | cons p rest ih =>
    obtain ⟨n, e'⟩ := p
    rw [List.pairwise_cons] at hordered
    rw [find?]
    rcases List.mem_cons.mp h with heq | hmem
    · obtain ⟨rfl, rfl⟩ := Prod.mk.inj heq
      rw [if_pos rfl]
    · have hlt : n < name := hordered.1 (name, e) hmem
      have hne : n ≠ name := fun heq => List.lt_irrefl name (heq ▸ hlt)
      rw [if_neg hne]
      exact ih hordered.2 hmem

theorem get?_append (before after : List Text) (t : Entry) :
    get? (before ++ after) t = (get? before t).bind (get? after) := by
  induction before generalizing t with
  | nil => rfl
  | cons name before ih =>
    rw [List.cons_append, get?, get?]
    cases t.child? name with
    | none => rfl
    | some e => exact ih e

/-- What holds of a tree and goes down from every folder to its entries holds of what names lead to. -/
theorem get?_induction {P : Entry → Prop}
    (hdown : ∀ entries access, P (.folder entries access) → ∀ p ∈ entries, P p.2)
    (h : P t) (hget : t.get? names = some e) : P e := by
  induction names generalizing t with
  | nil =>
    rw [Entry.get?] at hget
    rwa [← Option.some.inj hget]
  | cons name names ih =>
    rw [Entry.get?] at hget
    cases t with
    | folder entries access =>
      obtain ⟨child, hchild, hget⟩ := Option.bind_eq_some_iff.mp hget
      exact ih (hdown entries access h _ (mem_of_find?_eq_some hchild)) hget
    | _ => cases hget

end Entry

/-! ## What is reached -/

namespace Disk

open Scan (entryPath)

variable {d : Disk} {path : Text} {t e : Entry} {names : List Text}

/-- Names lead from the folder at a path to something that is no folder, through real folders that can be listed by
their paths. -/
inductive Reaches (d : Disk) : Text → Entry → List Text → Entry → Prop
  | direct {path name : Text} {entries : List (Text × Entry)} {access : Access} {e : Entry} :
      d.lists path = true → (name, e) ∈ entries → e.isFolder = false →
        Reaches d path (.folder entries access) [name] e
  | deeper {path name : Text} {entries : List (Text × Entry)} {access : Access} {sub e : Entry} {names : List Text} :
      d.lists path = true → (name, sub) ∈ entries → Reaches d (entryPath path name) sub names e →
        Reaches d path (.folder entries access) (name :: names) e

mutual
/-- What is reached from the folder at a path, with the names that lead there: first what is in it, then what is
below. -/
def leaves (d : Disk) (path : Text) : Entry → List (List Text × Entry)
  | .folder entries _ =>
    if d.lists path then
      (entries.filter fun p => !p.2.isFolder).map (fun p => ([p.1], p.2)) ++ leavesBelow d path entries
    else []
  | _ => []
/-- What is reached from the subfolders among the entries of a folder. -/
def leavesBelow (d : Disk) (path : Text) : List (Text × Entry) → List (List Text × Entry)
  | [] => []
  | (name, e) :: rest => (leaves d (entryPath path name) e).map (fun p => (name :: p.1, p.2)) ++ leavesBelow d path rest
end

/-- What is reached from the subfolders is reached from one of them. -/
theorem leavesBelow_eq (d : Disk) (path : Text) (entries : List (Text × Entry)) :
    d.leavesBelow path entries =
      entries.flatMap fun p => (d.leaves (entryPath path p.1) p.2).map fun q => (p.1 :: q.1, q.2) := by
  induction entries with
  | nil => rfl
  | cons p rest ih =>
    obtain ⟨name, e⟩ := p
    rw [leavesBelow, ih, List.flatMap_cons]

theorem leaves_eq_nil (h : e.isFolder = false) : d.leaves path e = [] := by
  cases e with
  | folder => cases h
  | _ => rw [leaves]; simp

theorem ne_nil_of_mem_leaves {q : List Text × Entry} (h : q ∈ d.leaves path t) : q.1 ≠ [] := by
  cases t with
  | folder entries access =>
    rw [leaves] at h
    split at h
    · rw [List.mem_append, leavesBelow_eq, List.mem_flatMap] at h
      rcases h with h | ⟨p, -, h⟩ <;> obtain ⟨_, -, rfl⟩ := List.mem_map.mp h <;> exact List.cons_ne_nil _ _
    · cases h
  | _ => simp [leaves] at h

namespace Reaches

theorem isFolder_eq_false (h : d.Reaches path t names e) : e.isFolder = false := by
  induction h with
  | direct _ _ hfile => exact hfile
  | deeper _ _ _ ih => exact ih

theorem ne_nil (h : d.Reaches path t names e) : names ≠ [] := by cases h <;> exact List.cons_ne_nil _ _

theorem isEntryName (h : d.Reaches path t names e) (ht : t.Proper) : ∀ c ∈ names, IsEntryName c := by
  induction h with
  | direct _ hmem _ =>
    cases ht with
    | folder hnames _ _ =>
      intro c hc
      rw [List.mem_singleton.mp hc]
      exact hnames _ hmem
  | deeper _ hmem _ ih =>
    cases ht with
    | folder hnames _ hbelow =>
      intro c hc
      rcases List.mem_cons.mp hc with rfl | hc
      · exact hnames _ hmem
      · exact ih (hbelow _ hmem) c hc

/-- What is reached is what the names lead to in the tree. -/
theorem get?_eq (h : d.Reaches path t names e) (ht : t.Proper) : t.get? names = some e := by
  induction h with
  | direct _ hmem _ =>
    cases ht with
    | folder _ hordered _ => exact congrArg (Option.bind · (Entry.get? [])) (Entry.find?_eq_some_of_mem hordered hmem)
  | @deeper path name entries access sub e names _ hmem _ ih =>
    cases ht with
    | folder _ hordered hbelow =>
      exact (congrArg (Option.bind · (Entry.get? names)) (Entry.find?_eq_some_of_mem hordered hmem)).trans
        (ih (hbelow _ hmem))

end Reaches

/-- **The leaves are what is reached.** -/
theorem mem_leaves_iff (ht : t.Proper) : (names, e) ∈ d.leaves path t ↔ d.Reaches path t names e := by
  induction ht generalizing path names e with
  | file => exact ⟨fun h => by simp [leaves] at h, fun h => by cases h⟩
  | link => exact ⟨fun h => by simp [leaves] at h, fun h => by cases h⟩
  | @folder entries access _ _ _ ih =>
    rw [leaves]
    split
    · next hlists =>
      rw [List.mem_append, leavesBelow_eq, List.mem_flatMap]
      constructor
      · rintro (h | ⟨p, hp, h⟩)
        · obtain ⟨p, hp, heq⟩ := List.mem_map.mp h
          obtain ⟨rfl, rfl⟩ := Prod.mk.inj heq
          obtain ⟨hmem, hfile⟩ := List.mem_filter.mp hp
          exact .direct hlists hmem (by simpa using hfile)
        · obtain ⟨q, hq, heq⟩ := List.mem_map.mp h
          obtain ⟨rfl, rfl⟩ := Prod.mk.inj heq
          exact .deeper hlists hp ((ih p hp).mp hq)
      · intro h
        cases h with
        | @direct _ name _ _ _ _ hmem hfile =>
          exact Or.inl (List.mem_map.mpr ⟨(name, e), List.mem_filter.mpr ⟨hmem, by simp [hfile]⟩, rfl⟩)
        | @deeper _ name _ _ sub _ names _ hmem hreach =>
          exact Or.inr ⟨(name, sub), hmem, List.mem_map.mpr ⟨(names, e), (ih _ hmem).mpr hreach, rfl⟩⟩
    · next hlists =>
      refine ⟨(nomatch ·), fun h => ?_⟩
      cases h with
      | direct hlists' => exact absurd hlists' hlists
      | deeper hlists' => exact absurd hlists' hlists

end Disk

/-! ## The order -/

/-- The order from the top: in each folder first its files and then what is below it, both by name. -/
inductive Before : List Text → List Text → Prop
  | files {a b : Text} : a < b → Before [a] [b]
  | fileFirst {a b : Text} {names : List Text} : names ≠ [] → Before [a] (b :: names)
  | folders {a b : Text} {names names' : List Text} : a < b → names ≠ [] → names' ≠ [] →
      Before (a :: names) (b :: names')
  | within {a : Text} {names names' : List Text} : Before names names' → Before (a :: names) (a :: names')

theorem Before.ne {names names' : List Text} (h : Before names names') : names ≠ names' := by
  induction h with
  | files hlt =>
    intro heq
    rw [(List.cons.inj heq).1] at hlt
    exact List.lt_irrefl _ hlt
  | fileFirst hne =>
    intro heq
    exact hne (List.cons.inj heq).2.symm
  | folders hlt _ _ =>
    intro heq
    rw [(List.cons.inj heq).1] at hlt
    exact List.lt_irrefl _ hlt
  | within _ ih =>
    intro heq
    exact ih (List.cons.inj heq).2

namespace Disk

variable {d : Disk} {path : Text} {t : Entry}

/-- **The leaves of a proper tree are in order.** -/
theorem pairwise_leaves (ht : t.Proper) : (d.leaves path t).Pairwise fun p q => Before p.1 q.1 := by
  induction ht generalizing path with
  | file => simp [leaves]
  | link => simp [leaves]
  | @folder entries access _ hordered _ ih =>
    rw [leaves]
    split
    · rw [List.pairwise_append, leavesBelow_eq, List.pairwise_flatMap]
      -- among the files, within a subfolder, between subfolders, and between files and subfolders
      refine ⟨?_, ⟨fun p hp => ?_, ?_⟩, ?_⟩
      · rw [List.pairwise_map]
        exact (hordered.sublist List.filter_sublist).imp fun hlt => .files hlt
      · rw [List.pairwise_map]
        exact (ih p hp).imp fun hbefore => .within hbefore
      · refine hordered.imp fun {p p'} hlt => fun q hq q' hq' => ?_
        obtain ⟨r, hr, rfl⟩ := List.mem_map.mp hq
        obtain ⟨r', hr', rfl⟩ := List.mem_map.mp hq'
        exact .folders hlt (ne_nil_of_mem_leaves hr) (ne_nil_of_mem_leaves hr')
      · intro q hq q' hq'
        obtain ⟨p, -, rfl⟩ := List.mem_map.mp hq
        obtain ⟨p', -, hq'⟩ := List.mem_flatMap.mp hq'
        obtain ⟨r', hr', rfl⟩ := List.mem_map.mp hq'
        exact .fileFirst (ne_nil_of_mem_leaves hr')
    · exact .nil

theorem nodup_leaves (ht : t.Proper) : ((d.leaves path t).map Prod.fst).Nodup :=
  List.pairwise_map.mpr ((pairwise_leaves ht).imp fun h => h.ne)

end Disk

end ImportChart
