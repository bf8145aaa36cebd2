import Mathlib.Data.List.AList

/-!
# Finite tables

Mathlib's association lists `AList` with a constant value type, used as finite maps: reading after
an update as one equation per operation.

* `Table.Sets`: one table is another with one key set or removed, with the inversion
  `Table.Sets.eq_some` and the rule `Table.Sets.all` for what holds of all entries.
-/

namespace Hypeman.Foundations

/-- A finite map from `κ` to `α`. -/
abbrev Table (κ α : Type*) := AList fun _ : κ => α

namespace Table

variable {κ α : Type*} [DecidableEq κ]

@[simp, grind =] theorem lookup_insert (t : Table κ α) (k k' : κ) (v : α) :
    (t.insert k v).lookup k' = if k' = k then some v else t.lookup k' := by
  split
  · next h => rw [h, AList.lookup_insert]
  · next h => exact AList.lookup_insert_ne h

@[simp, grind =] theorem lookup_erase (t : Table κ α) (k k' : κ) :
    (t.erase k).lookup k' = if k' = k then none else t.lookup k' := by
  split
  · next h => rw [h, AList.lookup_erase]
  · next h => exact AList.lookup_erase_ne h

theorem lookup_of_erase {t : Table κ α} {k k' : κ} {v : α}
    (h : (t.erase k).lookup k' = some v) : k' ≠ k ∧ t.lookup k' = some v := by
  rw [lookup_erase] at h
  split at h
  · cases h
  next hne => exact ⟨hne, h⟩

theorem ne_of_lookup {t : Table κ α} {k k' : κ} {v : α} (h : t.lookup k = some v)
    (h' : t.lookup k' = none) : k ≠ k' := by
  rintro rfl
  rw [h] at h'
  cases h'

theorem lookup_of_entries_eq_nil {t : Table κ α} (h : t.entries = []) (k : κ) :
    t.lookup k = none := by
  rw [Option.eq_none_iff_forall_ne_some]
  intro v hv
  have hmem := AList.mem_lookup_iff.mp hv
  rw [h] at hmem
  cases hmem

/-- The table with the value at `k` set to `new`, or removed. -/
def set (t : Table κ α) (k : κ) : Option α → Table κ α
  | some v => t.insert k v
  | none => t.erase k

@[simp] theorem lookup_set (t : Table κ α) (k k' : κ) (new : Option α) :
    (t.set k new).lookup k' = if k' = k then new else t.lookup k' := by
  cases new with
  | some v => exact lookup_insert t k k' v
  | none => exact lookup_erase t k k'

/-- `t'` is `t` with the value at `k` set to `new`, or removed. -/
def Sets (k : κ) (new : Option α) (t t' : Table κ α) : Prop :=
  ∀ k', t'.lookup k' = if k' = k then new else t.lookup k'

namespace Sets

variable {k k' : κ} {new : Option α} {t t' : Table κ α} {v : α}

theorem refl (k : κ) (t : Table κ α) : Sets k (t.lookup k) t t := by
  intro k'
  split
  · next h => rw [h]
  · rfl

theorem insert (k : κ) (v : α) (t : Table κ α) : Sets k (some v) t (t.insert k v) :=
  fun k' => lookup_insert t k k' v

theorem erase (k : κ) (t : Table κ α) : Sets k none t (t.erase k) :=
  fun k' => lookup_erase t k k'

/-- Setting a key twice is setting it to what comes last. -/
theorem trans {new' : Option α} {t'' : Table κ α} (h : Sets k new t t') (h' : Sets k new' t' t'') :
    Sets k new' t t'' := by
  intro k'
  rw [h' k', h k']
  split <;> rfl

/-- An entry of the new table is the one that was set, or an old one under another key. -/
theorem eq_some (h : Sets k new t t') (hk : t'.lookup k' = some v) :
    k' = k ∧ new = some v ∨ k' ≠ k ∧ t.lookup k' = some v := by
  rw [h k'] at hk
  split at hk
  · next heq => exact .inl ⟨heq, hk⟩
  · next hne => exact .inr ⟨hne, hk⟩

/-- What holds of all entries goes on to hold if it holds of the one that is set. -/
theorem all {P : κ → α → Prop} (h : Sets k new t t') (hold : ∀ k v, t.lookup k = some v → P k v)
    (hnew : ∀ v ∈ new, P k v) : ∀ k v, t'.lookup k = some v → P k v := by
  intro k' v hk
  rcases h.eq_some hk with ⟨rfl, hv⟩ | ⟨-, hv⟩
  · exact hnew v hv
  · exact hold k' v hv

/-- It goes on to hold when an entry is removed. -/
theorem all_erase {P : κ → α → Prop} (hold : ∀ k v, t.lookup k = some v → P k v) (k : κ) :
    ∀ k' v, (t.erase k).lookup k' = some v → P k' v :=
  (erase k t).all hold fun v hv => absurd hv (Option.not_mem_none v)

end Sets

def mapValues {β : Type*} (f : α → β) (t : Table κ α) : Table κ β where
  entries := t.entries.map fun e => ⟨e.1, f e.2⟩
  nodupKeys := by
    rw [List.NodupKeys, List.keys, List.map_map]
    exact t.nodupKeys

theorem lookup_mapValues {β : Type*} (f : α → β) (t : Table κ α) (k : κ) :
    (mapValues f t).lookup k = (t.lookup k).map f := by
  ext v
  rw [Option.map_eq_some_iff, ← Option.mem_def, AList.mem_lookup_iff]
  simp only [mapValues, List.mem_map, ← Option.mem_def, AList.mem_lookup_iff]
  constructor
  · rintro ⟨⟨k', a⟩, hmem, heq⟩
    cases heq
    exact ⟨a, hmem, rfl⟩
  · rintro ⟨a, hmem, rfl⟩
    exact ⟨⟨k, a⟩, hmem, rfl⟩

omit [DecidableEq κ] in
theorem entries_mapValues {β : Type*} (f : α → β) (t : Table κ α) :
    (mapValues f t).entries = t.entries.map fun e => ⟨e.1, f e.2⟩ := rfl

omit [DecidableEq κ] in
theorem keys_mapValues {β : Type*} (f : α → β) (t : Table κ α) :
    (mapValues f t).keys = t.keys := by
  rw [AList.keys, AList.keys, entries_mapValues, List.keys, List.keys, List.map_map]
  rfl

/-- Mapping the values commutes with removing a key. -/
theorem kerase_map {β : Type*} (f : α → β) (k : κ) (l : List (Σ _ : κ, α)) :
    (l.map fun e => (⟨e.1, f e.2⟩ : Σ _ : κ, β)).kerase k =
      (l.kerase k).map fun e => ⟨e.1, f e.2⟩ := by
  induction l with
  | nil => rfl
  | cons e l ih =>
    rw [List.map_cons]
    by_cases h : k = e.1
    · have h' : k = (⟨e.1, f e.2⟩ : Σ _ : κ, β).1 := h
      rw [List.kerase_cons_eq h, List.kerase_cons_eq h']
    · have h' : k ≠ (⟨e.1, f e.2⟩ : Σ _ : κ, β).1 := h
      rw [List.kerase_cons_ne h, List.kerase_cons_ne h', ih, List.map_cons]

theorem mapValues_erase {β : Type*} (f : α → β) (t : Table κ α) (k : κ) :
    mapValues f (t.erase k) = (mapValues f t).erase k :=
  AList.ext (kerase_map f k t.entries).symm

theorem mapValues_insert {β : Type*} (f : α → β) (t : Table κ α) (k : κ) (v : α) :
    mapValues f (t.insert k v) = (mapValues f t).insert k (f v) := by
  refine AList.ext ?_
  rw [AList.entries_insert, entries_mapValues, entries_mapValues, AList.entries_insert,
    List.map_cons, kerase_map]

end Table

end Hypeman.Foundations
