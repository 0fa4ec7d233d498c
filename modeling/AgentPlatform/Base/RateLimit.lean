import AgentPlatform.Base.SlidingWindow
import Mathlib.Algebra.Order.Group.Nat
import Mathlib.Data.List.TakeWhile

/-! # Rate limits

A sliding-window limiter over the instants of the requests it admitted. -/

namespace RateLimit

open SlidingWindow

variable {τ : Type} [LinearOrder τ] [AddCommGroup τ]

/-- Whether a request at an instant is admitted, and the instants kept after it. -/
def check (limit : Nat) (span now : τ) (requests : List τ) : Bool × List τ :=
  let kept := expire id (now - span) requests
  if limit ≤ kept.length then (false, kept) else (true, kept ++ [now])

def admittedIn (span t : τ) (history : List τ) : Nat := (inWindow id span t history).length

/-- The kept instants answer for all admissions; a window of no length never holds any. -/
structure Metered (span now : τ) (history requests : List τ) : Prop where
  ordered : Ordered id history
  history_past : ∀ entry ∈ history, entry ≤ now
  past : ∀ entry ∈ requests, entry ≤ now
  tracks : 0 < span → Tracks id span now history requests

theorem Metered.empty (span now : τ) : Metered span now ([] : List τ) [] :=
  ⟨List.Pairwise.nil, by simp, by simp, fun _ => Tracks.empty span now⟩

variable [IsOrderedAddMonoid τ] {span now later : τ} {history requests : List τ}

theorem Metered.advance (metered : Metered span now history requests) (onward : now ≤ later) :
    Metered span later history requests where
  ordered := metered.ordered
  history_past entry member := (metered.history_past entry member).trans onward
  past entry member := (metered.past entry member).trans onward
  tracks positive := (metered.tracks positive).advance onward

theorem Metered.expire_eq (metered : Metered span now history requests) (onward : now ≤ later) :
    expire id (later - span) requests = inWindow id span later history := by
  by_cases positive : 0 < span
  · exact (metered.tracks positive).expire onward
  · have reach : later ≤ later - span := by simpa using not_lt.mp positive
    have none_kept : expire id (later - span) requests = [] := by
      rw [expire, List.dropWhile_eq_nil_iff]
      intro entry member
      exact decide_eq_true (((metered.past entry member).trans onward).trans reach)
    have none_inside : inWindow id span later history = [] := by
      rw [inWindow, List.filter_eq_nil_iff]
      intro entry _ inside
      obtain ⟨above, below⟩ := of_decide_eq_true inside
      exact absurd (reach.trans_lt above) (not_lt.mpr below)
    rw [none_kept, none_inside]

theorem Metered.prune (metered : Metered span now history requests) (onward : now ≤ later) :
    Metered span later history (expire id (later - span) requests) where
  ordered := metered.ordered
  history_past entry member := (metered.history_past entry member).trans onward
  past entry member := (metered.past entry ((List.dropWhile_suffix _).subset member)).trans onward
  tracks positive := (metered.tracks positive).prune onward

/-- A request is refused when the window that ends with it is full, and then leaves no trace; else its
    instant is kept. -/
theorem Metered.check_cases (metered : Metered span now history requests) (onward : now ≤ later)
    (limit : Nat) :
    (limit ≤ admittedIn span later history ∧
      ∃ kept, check limit span later requests = (false, kept) ∧ Metered span later history kept) ∨
    (admittedIn span later history < limit ∧
      ∃ kept, check limit span later requests = (true, kept) ∧
        Metered span later (history ++ [later]) kept) := by
  have pruned := metered.prune onward
  have same := metered.expire_eq onward
  by_cases full : limit ≤ admittedIn span later history
  · refine .inl ⟨full, _, ?_, pruned⟩
    rw [check, same]
    exact if_pos full
  · refine .inr ⟨not_le.mp full, expire id (later - span) requests ++ [later], ?_, ?_⟩
    · rw [check, same]
      exact if_neg full
    · refine ⟨?_, ?_, ?_, fun positive => (pruned.tracks positive).accept positive rfl⟩
      · refine List.pairwise_append.mpr ⟨pruned.ordered, List.pairwise_singleton _ _, ?_⟩
        intro entry member last isLast
        rw [List.mem_singleton.mp isLast]
        exact pruned.history_past entry member
      · intro entry member
        exact (List.mem_append.mp member).elim (pruned.history_past entry)
          fun last => (List.mem_singleton.mp last).le
      · intro entry member
        exact (List.mem_append.mp member).elim (pruned.past entry)
          fun last => (List.mem_singleton.mp last).le

theorem Metered.of_refused (metered : Metered span now history requests) (onward : now ≤ later)
    {limit : Nat} {kept : List τ} (refused : check limit span later requests = (false, kept)) :
    limit ≤ admittedIn span later history ∧ Metered span later history kept := by
  rcases metered.check_cases onward limit with ⟨full, _, checked, after⟩ | ⟨_, _, checked, _⟩
  · rw [refused] at checked
    cases checked
    exact ⟨full, after⟩
  · rw [refused] at checked
    cases checked

theorem Metered.of_admitted (metered : Metered span now history requests) (onward : now ≤ later)
    {limit : Nat} {kept : List τ} (admitted : check limit span later requests = (true, kept)) :
    admittedIn span later history < limit ∧ Metered span later (history ++ [later]) kept := by
  rcases metered.check_cases onward limit with ⟨_, _, checked, _⟩ | ⟨room, _, checked, after⟩
  · rw [admitted] at checked
    cases checked
  · rw [admitted] at checked
    cases checked
    exact ⟨room, after⟩

/-- When every admission found room in the window that ended with it, no window holds more than the
    limit. -/
theorem admittedIn_le {limit : Nat} (ordered : Ordered id history)
    (found_room : Throughout (fun before entry => admittedIn span entry before < limit) history) (t : τ) :
    admittedIn span t history ≤ limit := by
  have length_eq (entries : List τ) : total (fun _ => 1) entries = entries.length := by
    simp [total]
  have fitted : Throughout (fun before entry =>
      total (fun _ => 1) (inWindow id span (id entry) before) + 1 ≤ limit) history := by
    refine found_room.imp fun before entry room => ?_
    rw [length_eq]
    exact room
  have bound := window_total_le (Nat.zero_le limit) ordered (by simp) fitted t
  rwa [length_eq] at bound

end RateLimit
