import Mathlib.Data.List.Induction

/-! # Histories

Properties of an item of a history that speak of the items before it. -/

variable {α β : Type}

/-- Every item stands in the relation to the items before it. -/
def Throughout (Holds : List α → α → Prop) (history : List α) : Prop :=
  ∀ before item after, history = before ++ item :: after → Holds before item

theorem Throughout.nil (Holds : List α → α → Prop) : Throughout Holds [] := by
  intro before item after same
  simp at same

theorem Throughout.snoc {Holds : List α → α → Prop} {history : List α} {item : α}
    (earlier : Throughout Holds history) (last : Holds history item) :
    Throughout Holds (history ++ [item]) := by
  intro before other after same
  rcases List.eq_nil_or_concat after with rfl | ⟨rest, final, rfl⟩
  · obtain ⟨sameHistory, sameItem⟩ := List.append_inj' same rfl
    cases sameItem
    rwa [← sameHistory]
  · rw [List.concat_eq_append, ← List.cons_append, ← List.append_assoc] at same
    exact earlier before other rest (List.append_inj' same rfl).1

theorem Throughout.prefix {Holds : List α → α → Prop} {history rest : List α}
    (holds : Throughout Holds (history ++ rest)) : Throughout Holds history :=
  fun before item after same => holds before item (after ++ rest) (by rw [same]; simp)

theorem Throughout.append {Holds : List α → α → Prop} {history items : List α}
    (earlier : Throughout Holds history)
    (later : Throughout (fun before item => Holds (history ++ before) item) items) :
    Throughout Holds (history ++ items) := by
  induction items using List.reverseRecOn with
  | nil => rwa [List.append_nil]
  | append_singleton items item ih =>
    rw [← List.append_assoc]
    exact (ih later.prefix).snoc (later items item [] rfl)

theorem Throughout.cons {Holds : List α → α → Prop} {item : α} {items : List α} (first : Holds [] item)
    (later : Throughout (fun before other => Holds (item :: before) other) items) :
    Throughout Holds (item :: items) := by
  intro before other after same
  cases before with
  | nil =>
    cases same
    exact first
  | cons head before =>
    obtain ⟨rfl, rest⟩ := List.cons.inj same
    exact later before other after rest

theorem Throughout.of_forall_mem {Holds : List α → α → Prop} {history : List α}
    (holds : ∀ item ∈ history, ∀ before, Holds before item) : Throughout Holds history :=
  fun before item after same => holds item (by rw [same]; simp) before

theorem Throughout.append_of_forall {Holds : List α → α → Prop} {history items : List α}
    (earlier : Throughout Holds history) (later : ∀ item ∈ items, ∀ more, Holds (history ++ more) item) :
    Throughout Holds (history ++ items) :=
  earlier.append (.of_forall_mem later)

theorem Throughout.imp {Holds Weaker : List α → α → Prop} {history : List α}
    (holds : Throughout Holds history) (weaken : ∀ before item, Holds before item → Weaker before item) :
    Throughout Weaker history :=
  fun before item after same => weaken before item (holds before item after same)

theorem Throughout.of_mem {Holds : List α → α → Prop} {history : List α} {item : α}
    (holds : Throughout Holds history) (member : item ∈ history) :
    ∃ before after, history = before ++ item :: after ∧ Holds before item := by
  obtain ⟨before, after, same⟩ := List.append_of_mem member
  exact ⟨before, after, same, holds before item after same⟩

theorem eq_or_earlier {history : List α} {first second : α} (member₁ : first ∈ history)
    (member₂ : second ∈ history) :
    first = second ∨ (∃ before after, history = before ++ second :: after ∧ first ∈ before) ∨
      ∃ before after, history = before ++ first :: after ∧ second ∈ before := by
  obtain ⟨before, after, rfl⟩ := List.append_of_mem member₁
  rcases List.mem_append.mp member₂ with earlier | later
  · exact .inr (.inr ⟨before, after, rfl, earlier⟩)
  · rcases List.mem_cons.mp later with rfl | later
    · exact .inl rfl
    · obtain ⟨between, rest, rfl⟩ := List.append_of_mem later
      exact .inr (.inl ⟨before ++ first :: between, rest, by simp, by simp⟩)

theorem Throughout.filterMap {Holds : List β → β → Prop} (image : α → Option β) {history : List α}
    (holds : Throughout (fun before item =>
      ∀ result, image item = some result → Holds (before.filterMap image) result) history) :
    Throughout Holds (history.filterMap image) := by
  induction history using List.reverseRecOn with
  | nil => exact Throughout.nil Holds
  | append_singleton history item ih =>
    rw [List.filterMap_append]
    cases found : image item with
    | none => simpa [found] using ih holds.prefix
    | some result =>
      simpa [found] using (ih holds.prefix).snoc (holds history item [] rfl result found)
