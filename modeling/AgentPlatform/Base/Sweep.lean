import Mathlib.Data.List.Basic
import Mathlib.Data.Set.Finite.List
import Mathlib.Order.Preorder.Finite

/-! # Greedy selection of spans

A sweep over spans in order of their starts keeps each span that begins at or after the end of the
last kept one. -/

namespace Sweep

variable {α ι : Type} [LinearOrder ι] (start stop : α → ι)

def select : ι → List α → List α
  | _, [] => []
  | occupied, span :: spans =>
    if start span < occupied then select occupied spans
    else span :: select (stop span) spans

def Covers (spans : List α) (position : ι) : Prop :=
  ∃ span ∈ spans, start span ≤ position ∧ position < stop span

/-- The spans a sweep keeps, found one after the other: the first span, and after each of them the
    first span that begins at or after its end. -/
inductive Leading (spans : List α) : α → Prop
  | first {span : α} (found : spans.head? = some span) : Leading spans span
  | next {previous span : α} (leading : Leading spans previous)
      (found : spans.find? (fun other => stop previous ≤ start other) = some span) : Leading spans span

variable {start stop}

theorem Leading.mem {spans : List α} {span : α} (leading : Leading start stop spans span) :
    span ∈ spans := by
  cases leading with
  | first found => exact List.mem_of_head? found
  | next _ found => exact List.mem_of_find?_eq_some found

theorem select_sublist (occupied : ι) (spans : List α) :
    (select start stop occupied spans).Sublist spans := by
  induction spans generalizing occupied with
  | nil => exact List.Sublist.refl _
  | cons span spans ih =>
    by_cases crossed : start span < occupied
    · simpa only [select, if_pos crossed] using (ih occupied).cons span
    · simpa only [select, if_neg crossed] using (ih (stop span)).cons_cons span

theorem le_start_of_mem_select {occupied : ι} {spans : List α}
    (proper : ∀ span ∈ spans, start span < stop span) {span : α}
    (kept : span ∈ select start stop occupied spans) : occupied ≤ start span := by
  induction spans generalizing occupied with
  | nil => cases kept
  | cons first spans ih =>
    have proper' : ∀ other ∈ spans, start other < stop other :=
      fun other member => proper other (List.mem_cons_of_mem _ member)
    by_cases crossed : start first < occupied
    · rw [select, if_pos crossed] at kept
      exact ih proper' kept
    · rw [select, if_neg crossed] at kept
      rcases List.mem_cons.mp kept with rfl | later
      · exact not_lt.mp crossed
      · have length := (proper first (by simp)).le
        exact (not_lt.mp crossed).trans (length.trans (ih proper' later))

theorem select_pairwise {occupied : ι} {spans : List α}
    (proper : ∀ span ∈ spans, start span < stop span) :
    (select start stop occupied spans).Pairwise fun a b => stop a ≤ start b := by
  induction spans generalizing occupied with
  | nil => exact List.Pairwise.nil
  | cons span spans ih =>
    have proper' : ∀ other ∈ spans, start other < stop other :=
      fun other member => proper other (List.mem_cons_of_mem _ member)
    by_cases crossed : start span < occupied
    · rw [select, if_pos crossed]
      exact ih proper'
    · rw [select, if_neg crossed]
      exact List.pairwise_cons.mpr ⟨fun other kept => le_start_of_mem_select proper' kept, ih proper'⟩

theorem apart_of_mem_select {occupied : ι} {spans : List α}
    (proper : ∀ span ∈ spans, start span < stop span) {a b : α}
    (left : a ∈ select start stop occupied spans) (right : b ∈ select start stop occupied spans) :
    a = b ∨ stop a ≤ start b ∨ stop b ≤ start a := by
  have ordered : (select start stop occupied spans).Pairwise fun a b => stop a ≤ start b :=
    select_pairwise proper
  refine List.Pairwise.forall_of_forall_of_flip
    (R := fun a b => a = b ∨ stop a ≤ start b ∨ stop b ≤ start a) ?_ ?_ ?_ left right
  · exact fun _ _ => .inl rfl
  · exact ordered.imp fun before => .inr (.inl before)
  · exact ordered.imp fun before => .inr (.inr before)

theorem kept_or_crossed (occupied : ι) {spans : List α}
    (ordered : spans.Pairwise fun a b => start a ≤ start b) {span : α} (member : span ∈ spans) :
    span ∈ select start stop occupied spans ∨ start span < occupied ∨
      ∃ kept ∈ select start stop occupied spans, start kept ≤ start span ∧ start span < stop kept := by
  induction spans generalizing occupied with
  | nil => cases member
  | cons first spans ih =>
    obtain ⟨least, ordered'⟩ := List.pairwise_cons.mp ordered
    by_cases crossed : start first < occupied
    · rw [select, if_pos crossed]
      rcases List.mem_cons.mp member with rfl | later
      · exact .inr (.inl crossed)
      · exact ih occupied ordered' later
    · rw [select, if_neg crossed]
      rcases List.mem_cons.mp member with rfl | later
      · exact .inl (List.mem_cons_self)
      · rcases ih (stop first) ordered' later with kept | inside | ⟨other, kept, around⟩
        · exact .inl (List.mem_cons_of_mem _ kept)
        · exact .inr (.inr ⟨first, List.mem_cons_self, least span later, inside⟩)
        · exact .inr (.inr ⟨other, List.mem_cons_of_mem _ kept, around⟩)

/-- The kept spans cover all that the spans cover, exactly when a span that runs past the end of a kept
    one finds another span beginning there. -/
theorem covers_select_iff {occupied : ι} {spans : List α}
    (ordered : spans.Pairwise fun a b => start a ≤ start b)
    (proper : ∀ span ∈ spans, start span < stop span) (bottom : ∀ span ∈ spans, occupied ≤ start span) :
    (∀ position, Covers start stop spans position →
        Covers start stop (select start stop occupied spans) position) ↔
      ∀ kept ∈ select start stop occupied spans, ∀ span ∈ spans, start span < stop kept →
        stop kept < stop span → ∃ other ∈ spans, start other = stop kept := by
  have kept_or_crossed : ∀ span ∈ spans, span ∈ select start stop occupied spans ∨
      ∃ kept ∈ select start stop occupied spans, start kept ≤ start span ∧ start span < stop kept := by
    intro span member
    have placed : span ∈ select start stop occupied spans ∨ start span < occupied ∨
        ∃ kept ∈ select start stop occupied spans, start kept ≤ start span ∧ start span < stop kept :=
      Sweep.kept_or_crossed occupied ordered member
    rcases placed with kept | below | crossed
    · exact .inl kept
    · exact absurd below (not_lt.mpr (bottom span member))
    · exact .inr crossed
  constructor
  · intro covered kept member span inside before past
    obtain ⟨other, keptOther, low, high⟩ := covered (stop kept) ⟨span, inside, before.le, past⟩
    refine ⟨other, (select_sublist occupied spans).subset keptOther, ?_⟩
    rcases apart_of_mem_select proper member keptOther with rfl | after | earlier
    · exact absurd high (lt_irrefl _)
    · exact le_antisymm low after
    · have nonempty := proper kept ((select_sublist occupied spans).subset member)
      exact absurd (high.trans_le earlier) (not_lt.mpr nonempty.le)
  · intro resumed position ⟨span, member, low, high⟩
    by_contra uncovered
    have spared : ∀ kept ∈ select start stop occupied spans, start kept ≤ position →
        stop kept ≤ position := by
      intro kept inside before
      by_contra past
      exact uncovered ⟨kept, inside, before, not_le.mp past⟩
    have reached : ({kept ∈ select start stop occupied spans | start kept ≤ position} : Set α).Nonempty := by
      rcases kept_or_crossed span member with kept | ⟨kept, inside, before, _⟩
      · exact ⟨span, kept, low⟩
      · exact ⟨kept, inside, before.trans low⟩
    have finite := (List.finite_toSet (select start stop occupied spans)).subset
      fun kept (inside : kept ∈ select start stop occupied spans ∧ start kept ≤ position) => inside.1
    -- the kept span that begins last at or before the position, and so ends at or before it
    obtain ⟨last, ⟨kept, before⟩, latest⟩ := finite.exists_maximalFor start _ reached
    have ended := spared last kept before
    have latest : ∀ other ∈ select start stop occupied spans, start other ≤ position →
        start other ≤ start last := fun other inside low =>
      (le_total (start other) (start last)).elim id fun above => latest ⟨inside, low⟩ above
    have length : start last < stop last := proper last ((select_sublist occupied spans).subset kept)
    -- so no kept span lies around a point from there up to the position
    have open_between : ∀ around ∈ select start stop occupied spans, ∀ point, stop last ≤ point →
        point ≤ position → start around ≤ point → ¬ point < stop around := by
      intro around inside point after near low' high'
      have early := latest around inside (low'.trans near)
      rcases apart_of_mem_select proper kept inside with rfl | beyond | below
      · exact absurd high' (not_lt.mpr after)
      · exact absurd (early.trans_lt length) (not_lt.mpr beyond)
      · exact absurd (high'.trans_le below) (not_lt.mpr (length.le.trans after))
    by_cases inside : start span < stop last
    · obtain ⟨other, memberOther, resumes⟩ := resumed last kept span member inside (ended.trans_lt high)
      rcases kept_or_crossed other memberOther with keptOther | ⟨around, keptOver, from_le, to_lt⟩
      · have early := latest other keptOther (resumes.le.trans ended)
        exact absurd (early.trans_lt length) (not_lt.mpr resumes.ge)
      · exact open_between around keptOver (start other) resumes.ge (resumes.le.trans ended) from_le to_lt
    · rcases kept_or_crossed span member with keptSpan | ⟨around, keptOver, from_le, to_lt⟩
      · exact absurd ((latest span keptSpan low).trans_lt length) (not_lt.mpr (not_lt.mp inside))
      · exact open_between around keptOver (start span) (not_lt.mp inside) low from_le to_lt

theorem head?_select (occupied : ι) (spans : List α) :
    (select start stop occupied spans).head? = spans.find? (fun span => occupied ≤ start span) := by
  induction spans with
  | nil => rfl
  | cons span spans ih =>
    by_cases crossed : start span < occupied
    · rw [select, if_pos crossed, ih, List.find?_cons_of_neg (by simpa using crossed)]
    · rw [select, if_neg crossed, List.find?_cons_of_pos (by simpa using crossed), List.head?_cons]

theorem select_split {occupied : ι} {spans before after : List α} {span : α}
    (split : select start stop occupied spans = before ++ span :: after) :
    ∃ earlier later, spans = earlier ++ span :: later ∧ after = select start stop (stop span) later := by
  induction spans generalizing occupied before with
  | nil => simp [select] at split
  | cons first spans ih =>
    by_cases crossed : start first < occupied
    · rw [select, if_pos crossed] at split
      obtain ⟨earlier, later, rfl, rest⟩ := ih split
      exact ⟨first :: earlier, later, rfl, rest⟩
    · rw [select, if_neg crossed] at split
      cases before with
      | nil =>
        obtain ⟨rfl, rfl⟩ := List.cons.inj split
        exact ⟨[], spans, rfl, rfl⟩
      | cons head before =>
        obtain ⟨rfl, onward⟩ := List.cons.inj split
        obtain ⟨earlier, later, rfl, rest⟩ := ih onward
        exact ⟨first :: earlier, later, rfl, rest⟩

theorem find?_next {occupied : ι} {spans before after : List α} {span : α}
    (ordered : spans.Pairwise fun a b => start a ≤ start b)
    (proper : ∀ span ∈ spans, start span < stop span)
    (split : select start stop occupied spans = before ++ span :: after) :
    spans.find? (fun other => stop span ≤ start other) = after.head? := by
  obtain ⟨earlier, later, rfl, rfl⟩ := select_split split
  have length := proper span (by simp)
  have none_earlier : earlier.find? (fun other => stop span ≤ start other) = none := by
    rw [List.find?_eq_none]
    intro other member
    have least := (List.pairwise_append.mp ordered).2.2 other member span List.mem_cons_self
    simpa using least.trans_lt length
  rw [List.find?_append, none_earlier, Option.none_or,
    List.find?_cons_of_neg (by simpa using length), head?_select]

theorem mem_select_iff_leading {occupied : ι} {spans : List α}
    (ordered : spans.Pairwise fun a b => start a ≤ start b)
    (proper : ∀ span ∈ spans, start span < stop span) (bottom : ∀ span ∈ spans, occupied ≤ start span)
    (span : α) : span ∈ select start stop occupied spans ↔ Leading start stop spans span := by
  have first : (select start stop occupied spans).head? = spans.head? := by
    rw [head?_select]
    cases spans with
    | nil => rfl
    | cons first spans =>
      rw [List.find?_cons_of_pos (by simpa using bottom first (by simp)), List.head?_cons]
  constructor
  · intro kept
    obtain ⟨before, after, split⟩ := List.append_of_mem kept
    induction before using List.reverseRecOn generalizing span after with
    | nil => exact .first (by rw [← first, split, List.nil_append, List.head?_cons])
    | append_singleton before previous ih =>
      rw [List.append_assoc, List.singleton_append] at split
      have leading := ih previous (by rw [split]; simp) (span :: after) split
      exact .next leading (by rw [find?_next ordered proper split, List.head?_cons])
  · intro leading
    induction leading with
    | first found =>
      rw [← first] at found
      exact List.mem_of_head? found
    | next leading found ih =>
      obtain ⟨before, after, split⟩ := List.append_of_mem ih
      rw [find?_next ordered proper split] at found
      rw [split]
      exact List.mem_append_right _ (List.mem_cons_of_mem _ (List.mem_of_head? found))

end Sweep
