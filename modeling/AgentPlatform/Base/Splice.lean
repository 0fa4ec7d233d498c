import Mathlib.Data.List.Sort

/-! # Splicing replacements into a text

Replacements of disjoint spans, applied from the last to the first so that the positions of the
others stay valid. -/

namespace Splice

variable {α β : Type}

/-- The text that takes the place of the positions from `start` up to `stop`. -/
structure Patch (α : Type) where
  start : Nat
  stop : Nat
  text : List α

def Patch.apply (text : List α) (patch : Patch α) : List α :=
  text.take patch.start ++ patch.text ++ text.drop patch.stop

def Patch.map (f : α → β) (patch : Patch α) : Patch β := ⟨patch.start, patch.stop, patch.text.map f⟩

/-- The patches applied in decreasing order of their starts. -/
def applyAll (text : List α) (patches : List (Patch α)) : List α :=
  (patches.insertionSort fun a b => b.start ≤ a.start).foldl Patch.apply text

/-- The gaps of the text from a position on, with the patches between them. -/
def weave (text : List α) : Nat → List (Patch α) → List α
  | position, [] => text.drop position
  | position, patch :: patches =>
    (text.take patch.start).drop position ++ patch.text ++ weave text patch.stop patches

/-- Non-empty spans inside the text, each ending before the next begins. -/
structure Separated (length : Nat) (patches : List (Patch α)) : Prop where
  proper : ∀ patch ∈ patches, patch.start < patch.stop ∧ patch.stop ≤ length
  apart : patches.Pairwise fun a b => a.stop ≤ b.start

theorem Separated.tail {length : Nat} {patch : Patch α} {patches : List (Patch α)}
    (separated : Separated length (patch :: patches)) : Separated length patches where
  proper other member := separated.proper other (List.mem_cons_of_mem _ member)
  apart := (List.pairwise_cons.mp separated.apart).2

theorem Separated.start_lt {length : Nat} {patch : Patch α} {patches : List (Patch α)}
    (separated : Separated length (patch :: patches)) {other : Patch α} (member : other ∈ patches) :
    patch.start < other.start := by
  have apart := (List.pairwise_cons.mp separated.apart).1 other member
  have proper := separated.proper patch List.mem_cons_self
  omega

theorem orderedInsert_last {patch : Patch α} {patches : List (Patch α)}
    (above : ∀ other ∈ patches, patch.start < other.start) :
    patches.orderedInsert (fun a b => b.start ≤ a.start) patch = patches ++ [patch] := by
  induction patches with
  | nil => rfl
  | cons first patches ih =>
    have greater := above first List.mem_cons_self
    rw [List.orderedInsert, if_neg (by omega), List.cons_append,
      ih fun other member => above other (List.mem_cons_of_mem _ member)]

theorem insertionSort_separated {length : Nat} {patches : List (Patch α)}
    (separated : Separated length patches) :
    patches.insertionSort (fun a b => b.start ≤ a.start) = patches.reverse := by
  induction patches with
  | nil => rfl
  | cons patch patches ih =>
    rw [List.insertionSort_cons, ih separated.tail, List.reverse_cons]
    exact orderedInsert_last fun other member => separated.start_lt (List.mem_reverse.mp member)

theorem foldr_apply_eq_weave {text : List α} (position : Nat) {patches : List (Patch α)}
    (separated : Separated text.length patches) (bound : ∀ patch ∈ patches, position ≤ patch.start) :
    patches.foldr (fun patch text => patch.apply text) text =
      text.take position ++ weave text position patches := by
  induction patches generalizing position with
  | nil => rw [List.foldr_nil, weave, List.take_append_drop]
  | cons patch patches ih =>
    obtain ⟨proper, inside⟩ := separated.proper patch List.mem_cons_self
    have low := bound patch List.mem_cons_self
    have next : ∀ other ∈ patches, patch.stop ≤ other.start :=
      (List.pairwise_cons.mp separated.apart).1
    have cut : (text.take patch.stop).length = patch.stop := by
      rw [List.length_take]
      omega
    rw [List.foldr_cons, ih patch.stop separated.tail next, Patch.apply, List.drop_left' cut,
      List.take_append_of_le_length (by omega), List.take_take, min_eq_left proper.le, weave]
    have split : text.take patch.start = text.take position ++ (text.take patch.start).drop position := by
      conv_lhs => rw [← List.take_append_drop position (text.take patch.start)]
      rw [List.take_take, min_eq_left low]
    conv_lhs => rw [split]
    simp only [List.append_assoc]

/-- Applying separated patches from the last to the first interleaves them with the gaps. -/
theorem applyAll_eq_weave {text : List α} {patches : List (Patch α)}
    (separated : Separated text.length patches) : applyAll text patches = weave text 0 patches := by
  have folded := foldr_apply_eq_weave 0 separated (by simp)
  rw [List.take_zero, List.nil_append] at folded
  rw [applyAll, insertionSort_separated separated, List.foldl_reverse, folded]

theorem position_of_mem {text : List α} {low high : Nat} {item : α × Nat}
    (member : item ∈ (text.zipIdx.take high).drop low) : low ≤ item.2 ∧ item.2 < high := by
  obtain ⟨index, bound, rfl⟩ := List.mem_iff_getElem.mp member
  simp only [List.length_drop, List.length_take, List.length_zipIdx] at bound
  simp only [List.getElem_drop, List.getElem_take, List.getElem_zipIdx]
  omega

theorem drop_split (items : List α) {low high : Nat} (order : low ≤ high) :
    items.drop low = (items.take high).drop low ++ items.drop high := by
  conv_lhs => rw [← List.take_append_drop high items]
  rw [List.drop_append, List.length_take]
  by_cases inside : high ≤ items.length
  · rw [min_eq_left inside, Nat.sub_eq_zero_of_le order, List.drop_zero]
  · rw [List.drop_eq_nil_of_le (by omega : items.length ≤ high), List.drop_nil]

theorem outside_sublist_weave {text : List α} {patches : List (Patch α)} (separated : Separated text.length patches)
    {kept : Nat → Bool}
    (hidden : ∀ patch ∈ patches, ∀ position, patch.start ≤ position → position < patch.stop → kept position = false)
    {low : Nat} (bound : ∀ patch ∈ patches, low ≤ patch.start) :
    (((text.zipIdx.drop low).filter fun item => kept item.2).map Prod.fst).Sublist (weave text low patches) := by
  induction patches generalizing low with
  | nil =>
    rw [weave, show text.drop low = (text.zipIdx.drop low).map Prod.fst by rw [List.map_drop, List.zipIdx_map_fst]]
    exact List.filter_sublist.map _
  | cons patch patches ih =>
    have proper := (separated.proper patch List.mem_cons_self).1
    have covered : ((text.zipIdx.take patch.stop).drop patch.start).filter (fun item => kept item.2) = [] := by
      rw [List.filter_eq_nil_iff]
      intro item member
      obtain ⟨from_le, to_lt⟩ := position_of_mem member
      rw [hidden patch List.mem_cons_self item.2 from_le to_lt]
      exact Bool.false_ne_true
    have gap : (((text.zipIdx.take patch.start).drop low).filter (fun item => kept item.2)).map Prod.fst |>.Sublist
        ((text.take patch.start).drop low) := by
      rw [show (text.take patch.start).drop low = ((text.zipIdx.take patch.start).drop low).map Prod.fst by
        rw [List.map_drop, List.map_take, List.zipIdx_map_fst]]
      exact List.filter_sublist.map _
    have rest := ih separated.tail (fun other member => hidden other (List.mem_cons_of_mem _ member))
      (List.pairwise_cons.mp separated.apart).1
    rw [weave, drop_split text.zipIdx (bound patch List.mem_cons_self), drop_split text.zipIdx proper.le,
      List.filter_append, List.filter_append, covered, List.nil_append, List.map_append, List.append_assoc]
    exact gap.append (rest.trans (List.sublist_append_right _ _))

theorem apply_map (f : α → β) (text : List α) (patch : Patch α) :
    (patch.map f).apply (text.map f) = (patch.apply text).map f := by
  simp only [Patch.apply, Patch.map, List.map_append, List.map_take, List.map_drop]

theorem applyAll_map (f : α → β) (text : List α) (patches : List (Patch α)) :
    applyAll (text.map f) (patches.map (Patch.map f)) = (applyAll text patches).map f := by
  rw [applyAll, ← List.map_insertionSort (r := fun a b : Patch α => b.start ≤ a.start)
    (f := Patch.map f) (s := fun a b : Patch β => b.start ≤ a.start) patches fun _ _ _ _ => Iff.rfl,
    applyAll]
  generalize patches.insertionSort (fun a b => b.start ≤ a.start) = sorted
  induction sorted generalizing text with
  | nil => rfl
  | cons patch sorted ih =>
    rw [List.map_cons, List.foldl_cons, List.foldl_cons, apply_map, ih]

def marked (text : List α) : List (α × Option Nat) := text.zipIdx.map fun item => (item.1, some item.2)

def Patch.unmarked (patch : Patch α) : Patch (α × Option Nat) := patch.map fun item => (item, none)

/-- The element at this position of the input is still there when the patches have been applied. -/
def Survives (text : List α) (patches : List (Patch α)) (position : Nat) : Prop :=
  ∃ item, (item, some position) ∈ applyAll (marked text) (patches.map Patch.unmarked)

theorem marked_map_fst (text : List α) : (marked text).map Prod.fst = text := by
  rw [marked, List.map_map]
  exact List.zipIdx_map_fst 0 text

theorem length_marked (text : List α) : (marked text).length = text.length := by
  rw [marked, List.length_map, List.length_zipIdx]

theorem applyAll_marked (text : List α) (patches : List (Patch α)) :
    (applyAll (marked text) (patches.map Patch.unmarked)).map Prod.fst = applyAll text patches := by
  rw [← applyAll_map, marked_map_fst, List.map_map]
  congr 1
  conv_rhs => rw [← List.map_id patches]
  apply List.map_congr_left
  intro patch _
  simp only [Function.comp_apply, Patch.unmarked, Patch.map, List.map_map, id_eq]
  congr 1
  exact List.map_id _

theorem mem_marked_iff (text : List α) (low high position : Nat) :
    (∃ item, (item, some position) ∈ ((marked text).take high).drop low) ↔
      low ≤ position ∧ position < high ∧ position < text.length := by
  constructor
  · rintro ⟨item, member⟩
    obtain ⟨index, bound, same⟩ := List.mem_iff_getElem.mp member
    simp only [List.length_drop, List.length_take, length_marked] at bound
    simp only [marked, List.getElem_drop, List.getElem_take, List.getElem_map, List.getElem_zipIdx,
      Prod.mk.injEq, Option.some.injEq] at same
    omega
  · rintro ⟨low_le, lt_high, inside⟩
    refine ⟨text[position], List.mem_iff_getElem.mpr ⟨position - low, ?_, ?_⟩⟩
    · simp only [List.length_drop, List.length_take, length_marked]
      omega
    · simp only [marked, List.getElem_drop, List.getElem_take, List.getElem_map, List.getElem_zipIdx,
        Prod.mk.injEq, Option.some.injEq]
      have back : low + (position - low) = position := by omega
      simp only [back, Nat.zero_add, and_self]

theorem mem_weave_iff {text : List α} {patches : List (Patch α)} {low : Nat}
    (separated : Separated text.length patches) (bound : ∀ patch ∈ patches, low ≤ patch.start)
    (position : Nat) :
    (∃ item, (item, some position) ∈ weave (marked text) low (patches.map Patch.unmarked)) ↔
      low ≤ position ∧ position < text.length ∧
        ∀ patch ∈ patches, ¬ (patch.start ≤ position ∧ position < patch.stop) := by
  induction patches generalizing low with
  | nil =>
    have rest := mem_marked_iff text low text.length position
    rw [List.take_of_length_le (by rw [length_marked])] at rest
    simp only [List.map_nil, weave, rest, List.not_mem_nil, false_imp_iff, implies_true, and_true,
      and_self]
  | cons patch patches ih =>
    obtain ⟨proper, inside⟩ := separated.proper patch List.mem_cons_self
    have next : ∀ other ∈ patches, patch.stop ≤ other.start :=
      (List.pairwise_cons.mp separated.apart).1
    have lowPatch := bound patch List.mem_cons_self
    have unseen : ∀ item, (item, some position) ∉ patch.unmarked.text := by
      intro item member
      obtain ⟨_, _, same⟩ := List.mem_map.mp member
      cases same
    have gap := mem_marked_iff text low patch.start position
    have rest := ih separated.tail next
    simp only [List.map_cons, weave, List.mem_append, or_assoc, exists_or, unseen, false_or]
    rw [show patch.unmarked.start = patch.start from rfl, show patch.unmarked.stop = patch.stop from rfl,
      gap, rest]
    simp only [List.mem_cons, forall_eq_or_imp]
    constructor
    · rintro (⟨low_le, before, within⟩ | ⟨after, within, clear⟩)
      · refine ⟨low_le, within, by omega, fun other member => ?_⟩
        have := next other member
        omega
      · exact ⟨by omega, within, by omega, clear⟩
    · rintro ⟨low_le, within, outside, clear⟩
      by_cases before : position < patch.start
      · exact .inl ⟨low_le, before, within⟩
      · exact .inr ⟨by omega, within, clear⟩

/-- Exactly the positions outside every patched span survive. -/
theorem survives_iff {text : List α} {patches : List (Patch α)}
    (separated : Separated text.length patches) (position : Nat) :
    Survives text patches position ↔ position < text.length ∧
      ∀ patch ∈ patches, ¬ (patch.start ≤ position ∧ position < patch.stop) := by
  have marked_separated : Separated (marked text).length (patches.map Patch.unmarked) := by
    constructor
    · intro patch member
      obtain ⟨original, inside, rfl⟩ := List.mem_map.mp member
      rw [length_marked]
      exact separated.proper original inside
    · exact List.pairwise_map.mpr separated.apart
  rw [Survives, applyAll_eq_weave marked_separated, mem_weave_iff separated (by simp)]
  simp only [Nat.zero_le, true_and]

end Splice
