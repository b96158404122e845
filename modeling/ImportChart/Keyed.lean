import ImportChart.Text.Basic

/-!
# Lists of pairs as maps

`setKey` sets the value of a key, in its place if it is there and at the end if it is not, so that keys keep the order
in which they came. `lookup_setKey_self` and `lookup_setKey_of_ne` say what is found afterwards.
-/

namespace ImportChart

/-- A key without a value is none of the keys. -/
theorem lookup_eq_none_iff_notMem {κ α : Type} [BEq κ] [LawfulBEq κ] {key : κ} {m : List (κ × α)} :
    m.lookup key = none ↔ key ∉ m.map (·.1) := by
  rw [List.lookup_eq_none_iff, List.mem_map]
  refine ⟨fun h ⟨p, hp, hkey⟩ => by simpa [hkey] using h p hp, fun h p hp => ?_⟩
  exact bne_iff_ne.2 fun hkey => h ⟨p, hp, hkey.symm⟩

/-- A value that is found is the value of its key. -/
theorem mem_of_lookup_eq_some {κ α : Type} [BEq κ] [LawfulBEq κ] {key : κ} {value : α} {m : List (κ × α)}
    (h : m.lookup key = some value) : (key, value) ∈ m := by
  obtain ⟨before, after, rfl, -⟩ := List.lookup_eq_some_iff.1 h
  simp

/-- Among distinct keys, none comes before itself. -/
theorem notMem_keys_of_nodup {κ α : Type} {m rest : List (κ × α)} {p : κ × α}
    (h : ((m ++ p :: rest).map (·.1)).Nodup) : p.1 ∉ m.map (·.1) := by
  rw [List.map_append, List.map_cons, List.nodup_append] at h
  exact fun hmem => h.2.2 _ hmem p.1 List.mem_cons_self rfl

/-- Among distinct keys every value is found. -/
theorem lookup_eq_some_iff_mem {κ α : Type} [BEq κ] [LawfulBEq κ] {key : κ} {value : α} {m : List (κ × α)}
    (h : (m.map (·.1)).Nodup) : m.lookup key = some value ↔ (key, value) ∈ m := by
  refine ⟨mem_of_lookup_eq_some, fun hmem => ?_⟩
  obtain ⟨before, after, rfl⟩ := List.append_of_mem hmem
  refine List.lookup_eq_some_iff.mpr ⟨before, after, rfl, fun p hp => bne_iff_ne.mpr fun heq => ?_⟩
  exact notMem_keys_of_nodup h (List.mem_map.mpr ⟨p, hp, heq.symm⟩)

/-- Set the value of a key: in its place, or at the end. -/
def setKey {α : Type} (key : Text) (value : α) : List (Text × α) → List (Text × α)
  | [] => [(key, value)]
  | (k, v) :: rest => if k = key then (key, value) :: rest else (k, v) :: setKey key value rest

/-- The value just set is found. -/
theorem lookup_setKey_self {α : Type} (key : Text) (value : α) (m : List (Text × α)) :
    (setKey key value m).lookup key = some value := by
  induction m with
  | nil => simp [setKey]
  | cons p rest ih =>
    obtain ⟨k, v⟩ := p
    rw [setKey]
    split
    · simp
    · next h => simp [List.lookup_cons, ih, beq_eq_false_iff_ne.2 (Ne.symm h)]

/-- Setting one key leaves the others. -/
theorem lookup_setKey_of_ne {α : Type} {key other : Text} (h : other ≠ key) (value : α) (m : List (Text × α)) :
    (setKey key value m).lookup other = m.lookup other := by
  induction m with
  | nil => simp [setKey, List.lookup_cons, beq_eq_false_iff_ne.2 h]
  | cons p rest ih =>
    obtain ⟨k, v⟩ := p
    rw [setKey]
    split
    · next hk => subst hk; simp [List.lookup_cons, beq_eq_false_iff_ne.2 h]
    · simp [List.lookup_cons, ih]

/-- The keys just set are the old ones, and the new one at the end if it is new. -/
theorem keys_setKey {α : Type} (key : Text) (value : α) (m : List (Text × α)) :
    (setKey key value m).map (·.1) =
      if key ∈ m.map (·.1) then m.map (·.1) else m.map (·.1) ++ [key] := by
  induction m with
  | nil => simp [setKey]
  | cons p rest ih =>
    obtain ⟨k, v⟩ := p
    rw [setKey]
    split
    · next hk => subst hk; simp
    · next hk =>
      rw [List.map_cons, ih]
      by_cases hmem : key ∈ rest.map (·.1)
      · rw [if_pos hmem, if_pos (by rw [List.map_cons]; exact List.mem_cons_of_mem _ hmem)]; rfl
      · rw [if_neg hmem, if_neg (by
          rw [List.map_cons, List.mem_cons]
          exact fun h => h.elim (fun h => hk h.symm) hmem)]
        rfl

/-- Setting a key does not make it appear twice. -/
theorem nodup_keys_setKey {α : Type} {m : List (Text × α)} (h : (m.map (·.1)).Nodup) (key : Text) (value : α) :
    ((setKey key value m).map (·.1)).Nodup := by
  rw [keys_setKey]
  split
  · exact h
  · next hnew =>
    refine List.nodup_append.mpr ⟨h, by simp, fun k hk other hother heq => hnew ?_⟩
    rwa [← List.mem_singleton.mp hother, ← heq]

/-- What is in a list after a key is set is the new pair or was there before. -/
theorem mem_of_mem_setKey {α : Type} {key : Text} {value : α} {m : List (Text × α)} {p : Text × α}
    (h : p ∈ setKey key value m) : p = (key, value) ∨ p ∈ m := by
  induction m with
  | nil => exact Or.inl (List.mem_singleton.mp h)
  | cons q rest ih =>
    obtain ⟨k, v⟩ := q
    rw [setKey] at h
    split at h
    · exact (List.mem_cons.mp h).imp_right (List.mem_cons_of_mem _)
    · rcases List.mem_cons.mp h with rfl | h
      · exact Or.inr List.mem_cons_self
      · exact (ih h).imp_right (List.mem_cons_of_mem _)

/-- A new key comes to the end with its value. -/
theorem setKey_of_notMem {α : Type} {key : Text} {m : List (Text × α)} (h : key ∉ m.map (·.1)) (value : α) :
    setKey key value m = m ++ [(key, value)] := by
  induction m with
  | nil => rfl
  | cons p rest ih =>
    obtain ⟨k, v⟩ := p
    rw [List.map_cons, List.mem_cons, not_or] at h
    rw [setKey, if_neg (Ne.symm h.1), ih h.2, List.cons_append]

/-- The last value of a list is set, if no other one has its key. -/
theorem setKey_concat {α : Type} {key : Text} {m : List (Text × α)} (h : key ∉ m.map (·.1)) (old value : α) :
    setKey key value (m ++ [(key, old)]) = m ++ [(key, value)] := by
  induction m with
  | nil => simp [setKey]
  | cons p rest ih =>
    obtain ⟨k, v⟩ := p
    rw [List.map_cons, List.mem_cons, not_or] at h
    rw [List.cons_append, setKey, if_neg (Ne.symm h.1), ih h.2, List.cons_append]

/-- The last value of a list is found, if no other one has its key. -/
theorem lookup_concat {α : Type} {key : Text} {m : List (Text × α)} (h : key ∉ m.map (·.1)) (value : α) :
    (m ++ [(key, value)]).lookup key = some value := by
  rw [List.lookup_append, lookup_eq_none_iff_notMem.mpr h]
  simp

/-- Among distinct keys that are set one after the other, the value of a key is the one set for it, or the old one. -/
theorem lookup_foldl_setKey {α : Type} {pairs : List (Text × α)} (h : (pairs.map (·.1)).Nodup) (key : Text)
    (m : List (Text × α)) :
    (pairs.foldl (fun m p => setKey p.1 p.2 m) m).lookup key = (pairs.lookup key).or (m.lookup key) := by
  induction pairs generalizing m with
  | nil => rfl
  | cons p rest ih =>
    obtain ⟨k, v⟩ := p
    rw [List.map_cons, List.nodup_cons] at h
    rw [List.foldl_cons, ih h.2, List.lookup_cons]
    by_cases hk : key = k
    · subst hk
      rw [lookup_eq_none_iff_notMem.mpr h.1, lookup_setKey_self]
      simp
    · rw [lookup_setKey_of_ne hk, beq_false_of_ne hk]

/-- Setting distinct new keys one after the other adds them at the end in their order. -/
theorem foldl_setKey_of_nodup {α : Type} (m pairs : List (Text × α)) (h : ((m ++ pairs).map (·.1)).Nodup) :
    pairs.foldl (fun m p => setKey p.1 p.2 m) m = m ++ pairs := by
  induction pairs generalizing m with
  | nil => simp
  | cons p rest ih =>
    rw [List.foldl_cons, setKey_of_notMem (notMem_keys_of_nodup h), ih _ (by simpa using h)]
    simp

end ImportChart
