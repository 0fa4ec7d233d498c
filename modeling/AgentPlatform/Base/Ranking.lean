import Mathlib.Data.List.Sort
import Mathlib.Data.Multiset.Sort
import Mathlib.Data.String.Basic

/-! # Sorting by a key

A list sorted strictly by a key is determined by its members. -/

namespace Python

variable {ρ κ : Type}

/-- `sorted(records, key=key)`. -/
def sortedBy [LE κ] [DecidableLE κ] (key : ρ → κ) (records : List ρ) : List ρ :=
  records.insertionSort fun first second => key first ≤ key second

/-- `sorted(texts)`. -/
def sorted (texts : Multiset String) : List String := texts.sort

@[simp] theorem mem_sorted {texts : Multiset String} {text : String} : text ∈ sorted texts ↔ text ∈ texts :=
  Multiset.mem_sort _

theorem coe_sorted (texts : Multiset String) : (sorted texts : Multiset String) = texts := Multiset.sort_eq ..

theorem sortedBy_perm [LE κ] [DecidableLE κ] (key : ρ → κ) (records : List ρ) :
    (sortedBy key records).Perm records :=
  List.perm_insertionSort _ records

@[simp] theorem mem_sortedBy [LE κ] [DecidableLE κ] {key : ρ → κ} {records : List ρ} {record : ρ} :
    record ∈ sortedBy key records ↔ record ∈ records :=
  (sortedBy_perm key records).mem_iff

/-- Only the order of the keys of the records matters. -/
theorem sortedBy_congr {κ' : Type} [LE κ] [DecidableLE κ] [LE κ'] [DecidableLE κ'] {key : ρ → κ} {key' : ρ → κ'}
    {records : List ρ}
    (same : ∀ first ∈ records, ∀ second ∈ records, key first ≤ key second ↔ key' first ≤ key' second) :
    sortedBy key records = sortedBy key' records := by
  have mapped := List.map_insertionSort (fun first second => key first ≤ key second)
    (fun first second => key' first ≤ key' second) id records same
  rwa [List.map_id, List.map_id] at mapped

variable [LinearOrder κ] {key : ρ → κ}

theorem sortedBy_ordered (key : ρ → κ) (records : List ρ) :
    (sortedBy key records).Pairwise fun first second => key first ≤ key second := by
  have total : Std.Total fun first second : ρ => key first ≤ key second := ⟨fun _ _ => le_total _ _⟩
  have trans : IsTrans ρ fun first second => key first ≤ key second := ⟨fun _ _ _ => le_trans⟩
  exact List.pairwise_insertionSort _ records

theorem sortedBy_strict {records : List ρ} (distinct : records.Pairwise (key · ≠ key ·)) :
    (sortedBy key records).Pairwise (key · < key ·) := by
  have apart : (sortedBy key records).Pairwise (key · ≠ key ·) :=
    ((sortedBy_perm key records).pairwise_iff fun different => different.symm).mpr distinct
  exact ((sortedBy_ordered key records).and apart).imp fun both => lt_of_le_of_ne both.1 both.2

theorem nodup_of_strict {records : List ρ} (strict : records.Pairwise (key · < key ·)) :
    records.Nodup :=
  strict.imp fun less same => by simp [same] at less

theorem eq_of_strict (key : ρ → κ) {first second : List ρ} (firstStrict : first.Pairwise (key · < key ·))
    (secondStrict : second.Pairwise (key · < key ·))
    (members : ∀ record, record ∈ first ↔ record ∈ second) : first = second := by
  have same : first.Perm second :=
    (List.perm_ext_iff_of_nodup (nodup_of_strict firstStrict) (nodup_of_strict secondStrict)).mpr members
  exact same.eq_of_pairwise (fun _ _ _ _ less greater => absurd greater (lt_asymm less))
    firstStrict secondStrict

end Python
