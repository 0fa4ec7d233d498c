import Mathlib.Data.List.AList

/-! # Tables

Rows under distinct keys. -/

abbrev Table (ι ρ : Type) : Type := AList fun _ : ι => ρ

namespace Table

variable {ι ρ : Type} [DecidableEq ι]

def get (table : Table ι ρ) (key : ι) : Option ρ := table.lookup key

def set (table : Table ι ρ) (key : ι) (row : ρ) : Table ι ρ := table.insert key row

def remove (table : Table ι ρ) (key : ι) : Table ι ρ := table.erase key

def rows (table : Table ι ρ) : List ρ := table.entries.map Sigma.snd

def overlay (table : Table ι ρ) (writes : List (ι × ρ)) : Table ι ρ :=
  writes.foldl (fun table write => set table write.1 write.2) table

@[simp] theorem get_empty (key : ι) : get (∅ : Table ι ρ) key = none := AList.lookup_empty key

@[simp] theorem get_set (table : Table ι ρ) (key other : ι) (row : ρ) :
    get (set table key row) other = if other = key then some row else get table other := by
  by_cases same : other = key
  · rw [if_pos same, same]
    exact AList.lookup_insert table
  · rw [if_neg same]
    exact AList.lookup_insert_ne same

@[simp] theorem get_remove (table : Table ι ρ) (key other : ι) :
    get (remove table key) other = if other = key then none else get table other := by
  by_cases same : other = key
  · rw [if_pos same, same]
    exact AList.lookup_erase key table
  · rw [if_neg same]
    exact AList.lookup_erase_ne same

theorem mem_rows {table : Table ι ρ} {row : ρ} : row ∈ table.rows ↔ ∃ key, table.get key = some row := by
  simp only [rows, List.mem_map, get]
  constructor
  · rintro ⟨⟨key, row⟩, member, rfl⟩
    exact ⟨key, AList.mem_lookup_iff.mpr member⟩
  · rintro ⟨key, found⟩
    exact ⟨⟨key, row⟩, AList.mem_lookup_iff.mp found, rfl⟩

theorem nodup_rows {table : Table ι ρ}
    (keyed : ∀ key other row, table.get key = some row → table.get other = some row → key = other) : table.rows.Nodup := by
  apply List.Nodup.map_on
  · intro first member second member' same
    obtain ⟨key, row⟩ := first
    obtain ⟨other, row'⟩ := second
    obtain rfl : row = row' := same
    obtain rfl := keyed key other row (AList.mem_lookup_iff.mpr member) (AList.mem_lookup_iff.mpr member')
    rfl
  · exact table.nodupKeys.nodup

@[simp] theorem overlay_nil (table : Table ι ρ) : overlay table [] = table := rfl

theorem overlay_cons (table : Table ι ρ) (write : ι × ρ) (writes : List (ι × ρ)) :
    overlay table (write :: writes) = overlay (set table write.1 write.2) writes := rfl

theorem get_overlay_of_notMem {table : Table ι ρ} {writes : List (ι × ρ)} {key : ι}
    (untouched : ∀ write ∈ writes, write.1 ≠ key) : get (overlay table writes) key = get table key := by
  induction writes generalizing table with
  | nil => rfl
  | cons write writes ih =>
    rw [overlay_cons, ih fun other member => untouched other (List.mem_cons_of_mem _ member), get_set,
      if_neg (untouched write List.mem_cons_self).symm]

theorem get_overlay_cases {table : Table ι ρ} (writes : List (ι × ρ)) {key : ι} {old : ρ}
    (found : get table key = some old) :
    get (overlay table writes) key = some old ∨
      ∃ row, (key, row) ∈ writes ∧ get (overlay table writes) key = some row := by
  induction writes generalizing table old with
  | nil => exact .inl found
  | cons write writes ih =>
    rw [overlay_cons]
    by_cases same : key = write.1
    · have replaced : get (set table write.1 write.2) key = some write.2 := by rw [get_set, if_pos same]
      rcases ih replaced with kept | ⟨row, member, later⟩
      · exact .inr ⟨write.2, by simp [same], kept⟩
      · exact .inr ⟨row, List.mem_cons_of_mem _ member, later⟩
    · have unchanged : get (set table write.1 write.2) key = some old := by rw [get_set, if_neg same, found]
      rcases ih unchanged with kept | ⟨row, member, later⟩
      · exact .inl kept
      · exact .inr ⟨row, List.mem_cons_of_mem _ member, later⟩

/-! ## Tables within a table -/

/-- The rows of a table that are to be kept, in the order of the table. -/
def Within (keep : ρ → Bool) (part table : Table ι ρ) : Prop :=
  part.entries = table.entries.filter fun entry => keep entry.2

variable {keep : ρ → Bool} {part table : Table ι ρ}

omit [DecidableEq ι] in
theorem Within.empty (keep : ρ → Bool) : Within keep (∅ : Table ι ρ) ∅ := rfl

theorem mem_entries {key : ι} {row : ρ} : ⟨key, row⟩ ∈ table.entries ↔ table.get key = some row :=
  AList.mem_lookup_iff.symm

theorem Within.get_eq (within : Within keep part table) (key : ι) :
    part.get key = (table.get key).filter keep := by
  ext row
  rw [← mem_entries, within, List.mem_filter, mem_entries, Option.filter_eq_some_iff]

omit [DecidableEq ι] in
theorem Within.rows_eq (within : Within keep part table) : part.rows = table.rows.filter keep := by
  rw [rows, within, rows, List.filter_map]
  rfl

theorem filter_kerase {keep : (Sigma fun _ : ι => ρ) → Bool} {entries : List (Sigma fun _ : ι => ρ)}
    (distinct : entries.NodupKeys) (key : ι) :
    (entries.kerase key).filter keep = (entries.filter keep).kerase key := by
  induction entries with
  | nil => rfl
  | cons entry entries ih =>
    obtain ⟨absent, distinct⟩ := List.nodupKeys_cons.mp distinct
    by_cases same : key = entry.1
    · rw [List.kerase_cons_eq same]
      by_cases kept : keep entry
      · rw [List.filter_cons_of_pos kept, List.kerase_cons_eq same]
      · rw [List.filter_cons_of_neg kept, List.kerase_of_notMem_keys]
        rw [same]
        exact fun member => absent ((List.filter_sublist.map _).subset member)
    · rw [List.kerase_cons_ne same]
      by_cases kept : keep entry
      · rw [List.filter_cons_of_pos kept, List.filter_cons_of_pos kept, List.kerase_cons_ne same, ih distinct]
      · rw [List.filter_cons_of_neg kept, List.filter_cons_of_neg kept, ih distinct]

theorem Within.set_kept (within : Within keep part table) (key : ι) {row : ρ} (kept : keep row = true) :
    Within keep (part.set key row) (table.set key row) := by
  unfold Within at within ⊢
  rw [set, set, AList.entries_insert, AList.entries_insert, List.filter_cons, if_pos kept,
    filter_kerase table.nodupKeys, within]

theorem Within.set_dropped (within : Within keep part table) {key : ι} {row : ρ} (dropped : keep row = false)
    (beneath : ∀ old, table.get key = some old → keep old = false) : Within keep part (table.set key row) := by
  have absent : key ∉ part := by
    rw [← AList.lookup_eq_none]
    change part.get key = none
    rw [within.get_eq, Option.filter_eq_none_iff]
    intro old found
    simp [beneath old found]
  unfold Within at within ⊢
  rw [set, AList.entries_insert, List.filter_cons, if_neg (by simp [dropped]), filter_kerase table.nodupKeys,
    ← within, List.kerase_of_notMem_keys absent]

theorem Within.overlay_kept (within : Within keep part table) {writes : List (ι × ρ)}
    (kept : ∀ write ∈ writes, keep write.2 = true) : Within keep (overlay part writes) (overlay table writes) := by
  induction writes generalizing part table with
  | nil => exact within
  | cons write writes ih =>
    exact ih (within.set_kept write.1 (kept write List.mem_cons_self)) fun other member =>
      kept other (List.mem_cons_of_mem _ member)

theorem Within.overlay_dropped (within : Within keep part table) {writes : List (ι × ρ)}
    (dropped : ∀ write ∈ writes, keep write.2 = false)
    (beneath : ∀ write ∈ writes, ∀ old, table.get write.1 = some old → keep old = false) :
    Within keep part (overlay table writes) := by
  induction writes generalizing table with
  | nil => exact within
  | cons write writes ih =>
    have first := dropped write List.mem_cons_self
    refine ih (within.set_dropped first (beneath write List.mem_cons_self))
      (fun other member => dropped other (List.mem_cons_of_mem _ member)) fun other member old found => ?_
    rw [get_set] at found
    split at found
    · cases found
      exact first
    · exact beneath other (List.mem_cons_of_mem _ member) old found

end Table
