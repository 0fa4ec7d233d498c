import Mathlib.Data.List.DropRight

/-! # Runs of one kind

The longest pieces of a list whose members are all of a kind, and what becomes of them when two lists are
joined. -/

namespace List

variable {α : Type*} (kind : α → Bool)

/-- `findall` of one or more characters of a kind. -/
def runs (text : List α) : List (List α) := (text.splitOnP fun c => !kind c).filter fun run => !run.isEmpty

variable {kind}

@[simp] theorem runs_nil : ([] : List α).runs kind = [] := by
  rw [runs, splitOnP_nil]
  rfl

theorem runs_append_cons (first second : List α) {c : α} (stop : kind c = false) :
    (first ++ c :: second).runs kind = first.runs kind ++ second.runs kind := by
  have splits : (!kind c) = true := by rw [stop, Bool.not_false]
  rw [runs, splitOnP_append_cons first second splits, filter_append]
  rfl

theorem runs_of_forall {run : List α} (nonempty : run ≠ []) (alike : ∀ c ∈ run, kind c = true) :
    run.runs kind = [run] := by
  have unsplit : ∀ c ∈ run, (!kind c) = false := fun c member => by rw [alike c member, Bool.not_true]
  rw [runs, splitOnP_eq_singleton unsplit, filter_singleton, isEmpty_eq_false_iff.mpr nonempty]
  rfl

theorem mem_runs_of_forall {run word : List α} (alike : ∀ c ∈ run, kind c = true) :
    word ∈ run.runs kind ↔ word = run ∧ word ≠ [] := by
  by_cases empty : run = []
  · simp [empty]
  · rw [runs_of_forall empty alike, mem_singleton]
    exact ⟨fun same => ⟨same, same ▸ empty⟩, And.left⟩

theorem runs_rdropWhile_append (first second : List α) :
    (first.rdropWhile kind ++ second).runs kind = (first.rdropWhile kind).runs kind ++ second.runs kind := by
  by_cases empty : first.rdropWhile kind = []
  · rw [empty, nil_append, runs_nil, nil_append]
  · have stop := rdropWhile_last_not kind first empty
    rw [← dropLast_append_getLast empty, append_assoc, singleton_append,
      runs_append_cons _ _ (Bool.eq_false_iff.mpr stop), runs_append_cons _ _ (Bool.eq_false_iff.mpr stop),
      runs_nil, append_nil]

theorem runs_append_dropWhile (first second : List α) :
    (first ++ second.dropWhile kind).runs kind = first.runs kind ++ (second.dropWhile kind).runs kind := by
  cases rest : second.dropWhile kind with
  | nil => rw [append_nil, runs_nil, append_nil]
  | cons c rest' =>
    have nonempty : second.dropWhile kind ≠ [] := rest ▸ cons_ne_nil c rest'
    have stop : kind c = false := by
      have head := head_dropWhile_not kind nonempty
      simpa only [rest, head_cons, Bool.not_eq_true] using head
    have alone := runs_append_cons [] rest' stop
    rw [nil_append, runs_nil, nil_append] at alone
    rw [runs_append_cons first rest' stop, alone]

theorem mem_runs_ending (first word : List α) :
    word ∈ first.runs kind ↔
      word ∈ (first.rdropWhile kind).runs kind ∨ (word = first.rtakeWhile kind ∧ word ≠ []) := by
  have split := @runs_rdropWhile_append _ kind first (first.rtakeWhile kind)
  rw [rdropWhile_append_rtakeWhile] at split
  rw [split, mem_append, mem_runs_of_forall fun _ => mem_rtakeWhile_imp]

theorem mem_runs_beginning (second word : List α) :
    word ∈ second.runs kind ↔
      (word = second.takeWhile kind ∧ word ≠ []) ∨ word ∈ (second.dropWhile kind).runs kind := by
  have split := @runs_append_dropWhile _ kind (second.takeWhile kind) second
  rw [takeWhile_append_dropWhile] at split
  rw [split, mem_append, mem_runs_of_forall fun _ => mem_takeWhile_imp]

theorem mem_runs_append (first second word : List α) :
    word ∈ (first ++ second).runs kind ↔
      word ∈ (first.rdropWhile kind).runs kind ∨
      (word = first.rtakeWhile kind ++ second.takeWhile kind ∧ word ≠ []) ∨
      word ∈ (second.dropWhile kind).runs kind := by
  have joined : ∀ c ∈ first.rtakeWhile kind ++ second.takeWhile kind, kind c = true :=
    forall_mem_append.mpr ⟨fun _ => mem_rtakeWhile_imp, fun _ => mem_takeWhile_imp⟩
  have parts : first ++ second =
      first.rdropWhile kind ++ ((first.rtakeWhile kind ++ second.takeWhile kind) ++ second.dropWhile kind) := by
    rw [append_assoc, takeWhile_append_dropWhile, ← append_assoc, rdropWhile_append_rtakeWhile]
  rw [parts, runs_rdropWhile_append, runs_append_dropWhile, mem_append, mem_append, mem_runs_of_forall joined]

/-- Joining two lists keeps the runs that count, exactly when no run is joined or when every counting one
    that the joint makes or unmakes occurs elsewhere. -/
theorem runs_append_iff (counted : List α → Prop) (first second : List α) :
    (∀ word, counted word →
        (word ∈ (first ++ second).runs kind ↔ word ∈ first.runs kind ∨ word ∈ second.runs kind)) ↔
      first.rtakeWhile kind = [] ∨ second.takeWhile kind = [] ∨
      ∀ word ∈ [first.rtakeWhile kind, second.takeWhile kind, first.rtakeWhile kind ++ second.takeWhile kind],
        counted word → word ∈ (first.rdropWhile kind).runs kind ++ (second.dropWhile kind).runs kind := by
  simp only [mem_runs_append, mem_runs_ending first, mem_runs_beginning second]
  generalize first.rtakeWhile kind = ending
  generalize second.takeWhile kind = beginning
  by_cases noEnding : ending = []
  · subst noEnding
    simp only [nil_append, true_or, iff_true]
    intro word _
    have absurd : ¬ (word = [] ∧ word ≠ []) := fun both => both.2 both.1
    simp only [absurd, or_false]
  by_cases noBeginning : beginning = []
  · subst noBeginning
    simp only [append_nil, true_or, or_true, iff_true]
    intro word _
    have absurd : ¬ (word = [] ∧ word ≠ []) := fun both => both.2 both.1
    simp only [absurd, false_or, or_assoc]
  simp only [noEnding, noBeginning, false_or, forall_mem_cons, mem_append, not_mem_nil, false_implies,
    implies_true, and_true]
  have longer : ending ++ beginning ≠ ending := by simpa using noBeginning
  have longer' : ending ++ beginning ≠ beginning := by simpa using noEnding
  have joined : ending ++ beginning ≠ [] := by simp [noEnding]
  constructor
  · intro kept
    refine ⟨fun counts => ?_, fun counts => ?_, fun counts => ?_⟩
    · have found := (kept ending counts).mpr (.inl (.inr ⟨rfl, noEnding⟩))
      simpa only [longer.symm, false_and, false_or] using found
    · have found := (kept beginning counts).mpr (.inr (.inl ⟨rfl, noBeginning⟩))
      simpa only [longer'.symm, false_and, false_or] using found
    · have found := (kept _ counts).mp (.inr (.inl ⟨rfl, joined⟩))
      simpa only [longer, longer', false_and, false_or, or_false] using found
  · rintro ⟨ends, begins, joins⟩ word counts
    constructor
    · rintro (left | ⟨rfl, -⟩ | right)
      · exact .inl (.inl left)
      · exact (joins counts).imp .inl .inr
      · exact .inr (.inr right)
    · rintro ((left | ⟨rfl, -⟩) | (⟨rfl, -⟩ | right))
      · exact .inl left
      · exact (ends counts).imp id .inr
      · exact (begins counts).imp id .inr
      · exact .inr (.inr right)

theorem split_first {mark : α} {items : List α} (member : mark ∈ items) :
    ∃ before after, items = before ++ mark :: after ∧ mark ∉ before := by
  obtain ⟨before, after, whole, absent⟩ := eq_append_cons_of_mem member
  exact ⟨before, after, whole, absent⟩

section

variable [DecidableEq α] {mark : α}

theorem takeWhile_ne_append {before : List α} (absent : mark ∉ before)
    (after : List α) : (before ++ mark :: after).takeWhile (· ≠ mark) = before := by
  rw [takeWhile_append_of_pos]
  · rw [takeWhile_cons_of_neg (by simp), append_nil]
  · intro item member
    rw [decide_eq_true_iff]
    rintro rfl
    exact absent member

theorem dropWhile_ne_append {before : List α} (absent : mark ∉ before)
    (after : List α) : (before ++ mark :: after).dropWhile (· ≠ mark) = mark :: after := by
  rw [dropWhile_append_of_pos]
  · rw [dropWhile_cons_of_neg (by simp)]
  · intro item member
    rw [decide_eq_true_iff]
    rintro rfl
    exact absent member

theorem split_first_unique {before before' after after' : List α}
    (absent : mark ∉ before) (absent' : mark ∉ before')
    (same : before ++ mark :: after = before' ++ mark :: after') : before = before' ∧ after = after' := by
  have starts : before = before' := by
    rw [← takeWhile_ne_append absent after, same, takeWhile_ne_append absent' after']
  rw [starts] at same
  exact ⟨starts, tail_eq_of_cons_eq (append_cancel_left same)⟩

theorem split_last_unique {before before' after after' : List α} (absent : mark ∉ after) (absent' : mark ∉ after')
    (same : before ++ mark :: after = before' ++ mark :: after') : before = before' ∧ after = after' := by
  have mirrored := congrArg reverse same
  simp only [reverse_append, reverse_cons, append_assoc, singleton_append] at mirrored
  obtain ⟨ends, starts⟩ := split_first_unique (mt mem_reverse.mp absent) (mt mem_reverse.mp absent') mirrored
  exact ⟨reverse_inj.mp starts, reverse_inj.mp ends⟩

end

end List
