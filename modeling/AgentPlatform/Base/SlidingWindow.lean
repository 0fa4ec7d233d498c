import AgentPlatform.Base.History
import Mathlib.Algebra.Order.BigOperators.Group.List
import Mathlib.Algebra.Order.Group.Defs
import Mathlib.Data.List.Induction

/-! # Sliding windows

A ledger of timed, weighted entries is pruned at the front and extended at the back. Against the
full history of admissions it loses nothing that a current or later window can still hold. -/

namespace SlidingWindow

variable {α τ ω : Type} [LinearOrder τ] (time : α → τ)

/-- Drops entries from the front while they are at or before the cutoff. -/
def expire (cutoff : τ) (entries : List α) : List α :=
  entries.dropWhile fun entry => time entry ≤ cutoff

def Ordered (entries : List α) : Prop := entries.Pairwise fun a b => time a ≤ time b

theorem expire_eq_filter {entries : List α} (ordered : Ordered time entries) (cutoff : τ) :
    expire time cutoff entries = entries.filter fun entry => cutoff < time entry := by
  induction entries with
  | nil => rfl
  | cons entry entries ih =>
    obtain ⟨first, rest⟩ := List.pairwise_cons.mp ordered
    by_cases old : time entry ≤ cutoff
    · simp only [expire, List.dropWhile_cons, old, decide_true, ↓reduceIte, List.filter_cons,
        not_lt.mpr old, decide_false, Bool.false_eq_true]
      exact ih rest
    · have kept : entries.filter (fun entry => cutoff < time entry) = entries := by
        rw [List.filter_eq_self]
        intro later member
        exact decide_eq_true ((not_le.mp old).trans_le (first later member))
      simp only [expire, List.dropWhile_cons, old, decide_false, Bool.false_eq_true, ↓reduceIte,
        List.filter_cons, not_le.mp old, decide_true, kept]

variable [AddCommGroup τ]

/-- The entries in the half-open interval `(t - span, t]`. -/
def inWindow (span t : τ) (entries : List α) : List α :=
  entries.filter fun entry => t - span < time entry ∧ time entry ≤ t

/-- The ledger holds exactly the admissions after some cutoff that no window from `now` on reaches. -/
structure Tracks (span now : τ) (history ledger : List α) : Prop where
  ordered : Ordered time history
  past : ∀ entry ∈ history, time entry ≤ now
  recent : ∃ cutoff ≤ now - span, ledger = history.filter fun entry => cutoff < time entry

variable {time}

theorem Tracks.empty (span now : τ) : Tracks time span now [] [] :=
  ⟨List.Pairwise.nil, by simp, now - span, le_refl _, rfl⟩

theorem Tracks.ledger_ordered {span now : τ} {history ledger : List α}
    (tracks : Tracks time span now history ledger) : Ordered time ledger := by
  obtain ⟨cutoff, _, rfl⟩ := tracks.recent
  exact tracks.ordered.filter _

variable [IsOrderedAddMonoid τ]

theorem Tracks.expire {span now later : τ} {history ledger : List α}
    (tracks : Tracks time span now history ledger) (advance : now ≤ later) :
    SlidingWindow.expire time (later - span) ledger = inWindow time span later history := by
  rw [expire_eq_filter time tracks.ledger_ordered]
  obtain ⟨cutoff, early, rfl⟩ := tracks.recent
  rw [List.filter_filter, inWindow]
  apply List.filter_congr
  intro entry member
  have past := (tracks.past entry member).trans advance
  have apart : cutoff ≤ later - span := early.trans (sub_le_sub_right advance span)
  simp only [past, and_true, ← Bool.decide_and, decide_eq_decide]
  exact ⟨fun both => both.1, fun recent => ⟨recent, apart.trans_lt recent⟩⟩

theorem Tracks.prune {span now later : τ} {history ledger : List α}
    (tracks : Tracks time span now history ledger) (advance : now ≤ later) :
    Tracks time span later history (SlidingWindow.expire time (later - span) ledger) := by
  refine ⟨tracks.ordered, fun entry member => (tracks.past entry member).trans advance,
    later - span, le_refl _, ?_⟩
  rw [tracks.expire advance, inWindow]
  apply List.filter_congr
  intro entry member
  simp only [(tracks.past entry member).trans advance, and_true]

theorem Tracks.inWindow_eq {span now t : τ} {history ledger : List α}
    (tracks : Tracks time span now history ledger) (advance : now ≤ t) :
    inWindow time span t ledger = inWindow time span t history := by
  obtain ⟨cutoff, early, rfl⟩ := tracks.recent
  rw [inWindow, List.filter_filter, inWindow]
  apply List.filter_congr
  intro entry member
  have apart : cutoff ≤ t - span := early.trans (sub_le_sub_right advance span)
  simp only [← Bool.decide_and, decide_eq_decide]
  exact ⟨fun both => both.1, fun recent => ⟨recent, apart.trans_lt recent.1⟩⟩

theorem Tracks.advance {span now later : τ} {history ledger : List α}
    (tracks : Tracks time span now history ledger) (advance : now ≤ later) :
    Tracks time span later history ledger := by
  obtain ⟨cutoff, early, same⟩ := tracks.recent
  exact ⟨tracks.ordered, fun entry member => (tracks.past entry member).trans advance,
    cutoff, early.trans (sub_le_sub_right advance span), same⟩

theorem Tracks.accept {span now : τ} {history ledger : List α}
    (tracks : Tracks time span now history ledger) (positive : 0 < span) {entry : α}
    (present : time entry = now) :
    Tracks time span now (history ++ [entry]) (ledger ++ [entry]) := by
  obtain ⟨cutoff, early, same⟩ := tracks.recent
  refine ⟨?_, ?_, cutoff, early, ?_⟩
  · refine List.pairwise_append.mpr ⟨tracks.ordered, List.pairwise_singleton _ _, ?_⟩
    intro before member last isLast
    rw [List.mem_singleton.mp isLast, present]
    exact tracks.past before member
  · intro other member
    rcases List.mem_append.mp member with before | last
    · exact tracks.past other before
    · rw [List.mem_singleton.mp last, present]
  · have fresh : cutoff < time entry := by
      rw [present]
      exact early.trans_lt (sub_lt_self now positive)
    rw [List.filter_append, ← same, List.filter_cons_of_pos (by simpa using fresh), List.filter_nil]

section Bound

variable [AddCommMonoid ω] {weight : α → ω}

def total (weight : α → ω) (entries : List α) : ω := (entries.map weight).sum

@[simp] theorem total_nil : total weight ([] : List α) = 0 := rfl

@[simp] theorem total_append (first second : List α) :
    total weight (first ++ second) = total weight first + total weight second := by
  simp only [total, List.map_append, List.sum_append]

@[simp] theorem total_singleton (entry : α) : total weight [entry] = weight entry := by
  simp only [total, List.map_cons, List.map_nil, List.sum_cons, List.sum_nil, add_zero]

variable [PartialOrder ω] [IsOrderedAddMonoid ω]

theorem total_le_of_sublist {first second : List α} (nonneg : ∀ entry ∈ second, 0 ≤ weight entry)
    (sublist : first.Sublist second) : total weight first ≤ total weight second := by
  apply (sublist.map weight).sum_le_sum
  intro value member
  obtain ⟨entry, inSecond, rfl⟩ := List.mem_map.mp member
  exact nonneg entry inSecond

/-- When each entry fitted under the cap in the window that ended with it, the entries of every
    window fit. -/
theorem window_total_le {span : τ} {cap : ω} (room : 0 ≤ cap) {history : List α}
    (ordered : Ordered time history) (nonneg : ∀ entry ∈ history, 0 ≤ weight entry)
    (fitted : Throughout (fun before entry =>
      total weight (inWindow time span (time entry) before) + weight entry ≤ cap) history) (t : τ) :
    total weight (inWindow time span t history) ≤ cap := by
  induction history using List.reverseRecOn generalizing t with
  | nil => exact room
  | append_singleton history entry ih =>
    obtain ⟨earlier, _, last⟩ := List.pairwise_append.mp ordered
    have nonneg' : ∀ other ∈ history, 0 ≤ weight other :=
      fun other member => nonneg other (List.mem_append_left _ member)
    rw [inWindow, List.filter_append]
    by_cases inside : t - span < time entry ∧ time entry ≤ t
    · rw [List.filter_cons_of_pos (by simpa using inside), List.filter_nil, total_append,
        total_singleton]
      refine le_trans ?_ (fitted history entry [] rfl)
      refine add_le_add_left (total_le_of_sublist ?_ ?_) _
      · intro other member
        exact nonneg' other (List.mem_of_mem_filter member)
      · -- every entry of the window that ends at `t` is in the one that ends with `entry`
        have narrowed : history.filter (fun other => t - span < time other ∧ time other ≤ t) =
            (inWindow time span (time entry) history).filter
              (fun other => t - span < time other ∧ time other ≤ t) := by
          rw [inWindow, List.filter_filter]
          apply List.filter_congr
          intro other member
          have older := last other member entry (List.mem_singleton.mpr rfl)
          have wider := sub_le_sub_right inside.2 span
          simp only [older, and_true, ← Bool.decide_and, decide_eq_decide]
          exact ⟨fun both => ⟨both, wider.trans_lt both.1⟩, fun both => both.1⟩
        rw [narrowed]
        exact List.filter_sublist
    · rw [List.filter_cons_of_neg (by simpa using inside), List.filter_nil, List.append_nil]
      exact ih earlier nonneg' fitted.prefix t

end Bound

end SlidingWindow
