import ImportChart.Diagram.Fence
import ImportChart.Proofs.Settings.Loading
import ImportChart.Proofs.Tree.Glance

/-!
# Settings and a diagram that is written

A diagram in a fence is no document. So writing one where nothing was leaves the settings as they are, even if the file
of the settings is a link to the place of the diagram: before, there is no file, and afterwards, one that says nothing.

- `load_eq_glance`: the settings depend on a look at their file;
- `read_fence`: a fence is malformed as a document;
- `group_eq_of_fence`: every group has the values that it had.
-/

namespace ImportChart.Settings

open Disk (ChangedAt)

variable {d d' : Disk} {home : Home} {target : List Text} {diagram : Text}

/-- What is loaded depends on a look at the file. -/
theorem load_eq_glance (d : Disk) (home : Home) : load d home =
    match d.glance home.file with
    | .ok (.file content access) => if access.read then ofContent content else .ok ⟨[], true⟩
    | .ok _ => .ok ⟨[], true⟩
    | .error cause => if cause.isFault then .error (.folder ⟨cause, home.file⟩) else .ok ⟨[], false⟩ := by
  unfold load Disk.probe Disk.read Disk.entry? Disk.glance
  cases d.place? home.file with
  | error cause =>
    cases cause with
    | denied => cases ‹Refusal› <;> rfl
    | _ => rfl
  | ok place =>
    cases place with
    | free => rfl
    | occupied names e =>
      cases e with
      | file content access =>
        dsimp only [Entry.surface]
        cases access.read <;> rfl
      | link => rfl
      | folder => rfl

/-- **A diagram in a fence is no document**: a backtick is in no key. -/
theorem read_fence (diagram : Text) : Document.read (Utf8.unifyLineEnds (Fence.wrap diagram)) = .error .malformed := by
  rfl

/-- The settings of a group are those that were there before a fence was written where nothing was. -/
theorem group_eq_of_fence (h : ChangedAt target d d') (hback : ChangedAt target d' d) (hroot : d.root.IsFolderAt [])
    (hnone : d.root.get? target = none)
    (hfence : d'.root.get? target = some (.file (Utf8.encode (Fence.wrap diagram)) true)) (name : Text) :
    group d' home name = group d home name := by
  by_cases hleads : d.LeadsAt home.file target
  · -- the file of the settings is a link to the place of the fence
    obtain ⟨place, hplace, rfl⟩ := hleads
    have hplace' : d'.place? home.file = .ok (Disk.placeAt d'.root place.names) := h.locate hroot hplace
    have hfree := (Disk.found_of_locate hroot hplace).placeAt_eq
    rw [Disk.placeAt, hnone] at hfree
    rw [Disk.placeAt, hfence] at hplace'
    have habsent : load d home = .ok ⟨[], false⟩ := by
      rw [load_eq_glance, Disk.glance, hplace, ← hfree]
      rfl
    have hcontent : home.Holds d' (some (Utf8.encode (Fence.wrap diagram))) :=
      Disk.read_eq_ok_iff.mpr ⟨_, Disk.entry?_of_place? hplace', rfl⟩
    rw [group, group, habsent, load_of_content hcontent, ofContent_encode, read_fence]
    rfl
  · rw [group, group, load_eq_glance, load_eq_glance, h.glance_eq hback hroot hleads]

end ImportChart.Settings
