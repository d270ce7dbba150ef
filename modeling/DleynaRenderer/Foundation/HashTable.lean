import Mathlib.Data.List.AList

/-!
# Hash tables with in-place iteration

A hash table is an association list without duplicate keys.  Lookup, insertion
and removal are those of `AList`; this file adds the size test and the pass of
an iterator that updates or removes the entry it stands on.
-/

/-- A table from keys to values; inserting under a present key replaces. -/
abbrev HashTable (κ : Type*) (ν : Type*) := AList fun _ : κ => ν

namespace HashTable

variable {κ ν : Type*}

def size (table : HashTable κ ν) : Nat := table.entries.length

def values (table : HashTable κ ν) : List ν := table.entries.map Sigma.snd

private def filterMapEntries (update : κ → ν → Option ν)
    (entries : List (Σ _ : κ, ν)) : List (Σ _ : κ, ν) :=
  entries.filterMap fun entry =>
    (update entry.1 entry.2).map fun value => ⟨entry.1, value⟩

private theorem keys_filterMapEntries_sublist (update : κ → ν → Option ν)
    (entries : List (Σ _ : κ, ν)) :
    (filterMapEntries update entries).keys.Sublist entries.keys := by
  induction entries with
  | nil => exact .slnil
  | cons entry entries ih =>
      cases hupdate : update entry.1 entry.2 with
      | none => simpa [filterMapEntries, hupdate] using ih.cons entry.1
      | some value =>
          simpa [filterMapEntries, hupdate] using ih.cons_cons entry.1

def filterMap (update : κ → ν → Option ν) (table : HashTable κ ν) :
    HashTable κ ν where
  entries := filterMapEntries update table.entries
  nodupKeys :=
    (keys_filterMapEntries_sublist update table.entries).nodup table.keys_nodup

section Lookup

variable [DecidableEq κ]

theorem lookup_eq_some_iff {table : HashTable κ ν} {key : κ} {value : ν} :
    table.lookup key = some value ↔ (⟨key, value⟩ : Σ _ : κ, ν) ∈ table.entries :=
  AList.mem_lookup_iff

theorem mem_values_iff {table : HashTable κ ν} {value : ν} :
    value ∈ values table ↔ ∃ key, table.lookup key = some value := by
  simp only [values, List.mem_map, lookup_eq_some_iff]
  constructor
  · rintro ⟨⟨key, value⟩, hmem, rfl⟩
    exact ⟨key, hmem⟩
  · rintro ⟨key, hmem⟩
    exact ⟨⟨key, value⟩, hmem, rfl⟩

theorem lookup_filterMap (update : κ → ν → Option ν) (table : HashTable κ ν)
    (key : κ) :
    (filterMap update table).lookup key = (table.lookup key).bind (update key) := by
  ext value
  rw [lookup_eq_some_iff, Option.bind_eq_some_iff]
  simp only [filterMap, filterMapEntries, List.mem_filterMap, Option.map_eq_some_iff,
    lookup_eq_some_iff]
  constructor
  · rintro ⟨⟨key', old⟩, hmem, new, hupdate, heq⟩
    cases heq
    exact ⟨old, hmem, hupdate⟩
  · rintro ⟨old, hmem, hupdate⟩
    exact ⟨⟨key, old⟩, hmem, value, hupdate, rfl⟩

theorem size_eq_zero_iff {table : HashTable κ ν} :
    size table = 0 ↔ ∀ key, table.lookup key = none := by
  rw [size, List.length_eq_zero_iff]
  constructor
  · intro hnil key
    have hempty : table = ∅ := AList.ext hnil
    rw [hempty, AList.lookup_empty]
  · intro hnone
    rw [List.eq_nil_iff_forall_not_mem]
    rintro ⟨key, value⟩ hmem
    have hsome := lookup_eq_some_iff.mpr hmem
    rw [hnone key] at hsome
    contradiction

theorem size_ne_zero_iff {table : HashTable κ ν} :
    size table ≠ 0 ↔ ∃ key value, table.lookup key = some value := by
  rw [Ne, size_eq_zero_iff, not_forall]
  simp only [← Option.ne_none_iff_exists', ne_eq]

@[simp] theorem size_insert_ne_zero (table : HashTable κ ν) (key : κ)
    (value : ν) : size (table.insert key value) ≠ 0 :=
  size_ne_zero_iff.mpr ⟨key, value, AList.lookup_insert table⟩

theorem lookup_insert_eq (table : HashTable κ ν) (key other : κ) (value : ν) :
    (table.insert key value).lookup other =
      if other = key then some value else table.lookup other := by
  split
  case isTrue h => subst h; exact AList.lookup_insert table
  case isFalse h => exact AList.lookup_insert_ne h

theorem lookup_erase_eq (table : HashTable κ ν) (key other : κ) :
    (table.erase key).lookup other =
      if other = key then none else table.lookup other := by
  split
  case isTrue h => subst h; exact AList.lookup_erase _ table
  case isFalse h => exact AList.lookup_erase_ne h

def insertAll (table : HashTable κ ν) (writes : List (κ × ν)) :
    HashTable κ ν :=
  writes.foldl (fun table write => table.insert write.1 write.2) table

@[simp] theorem insertAll_nil (table : HashTable κ ν) :
    insertAll table [] = table := rfl

theorem insertAll_append (table : HashTable κ ν) (first second : List (κ × ν)) :
    insertAll table (first ++ second) =
      insertAll (insertAll table first) second :=
  List.foldl_append

theorem lookup_insertAll_congr {table other : HashTable κ ν}
    (h : ∀ key, table.lookup key = other.lookup key)
    (writes : List (κ × ν)) (key : κ) :
    (insertAll table writes).lookup key =
      (insertAll other writes).lookup key := by
  induction writes generalizing table other with
  | nil => exact h key
  | cons write writes ih =>
      refine ih fun key => ?_
      rw [lookup_insert_eq, lookup_insert_eq, h key]

theorem lookup_insertAll_of_not_mem {writes : List (κ × ν)} {key : κ}
    (hkey : key ∉ writes.map Prod.fst) (table : HashTable κ ν) :
    (insertAll table writes).lookup key = table.lookup key := by
  induction writes generalizing table with
  | nil => rfl
  | cons write writes ih =>
      simp only [List.map_cons, List.mem_cons, not_or] at hkey
      exact (ih hkey.2 _).trans (AList.lookup_insert_ne hkey.1)

theorem lookup_insertAll_of_mem {writes : List (κ × ν)}
    (hnodup : (writes.map Prod.fst).Nodup) {key : κ} {value : ν}
    (hmem : (key, value) ∈ writes) (table : HashTable κ ν) :
    (insertAll table writes).lookup key = some value := by
  induction writes generalizing table with
  | nil => contradiction
  | cons write writes ih =>
      rw [List.map_cons, List.nodup_cons] at hnodup
      rcases List.mem_cons.mp hmem with rfl | htail
      · exact (lookup_insertAll_of_not_mem hnodup.1 _).trans
          (AList.lookup_insert _)
      · exact ih hnodup.2 htail _

theorem lookup_insertAll_cases {writes : List (κ × ν)} {table : HashTable κ ν}
    {key : κ} {value : ν}
    (hlookup : (insertAll table writes).lookup key = some value) :
    (key, value) ∈ writes ∨ table.lookup key = some value := by
  induction writes generalizing table with
  | nil => exact .inr hlookup
  | cons write writes ih =>
      rcases ih hlookup with hmem | htable
      · exact .inl (List.mem_cons_of_mem _ hmem)
      · rw [lookup_insert_eq] at htable
        split at htable
        case isTrue heq =>
          obtain rfl := Option.some.inj htable
          exact .inl (heq ▸ List.mem_cons_self)
        case isFalse => exact .inr htable

end Lookup

end HashTable
