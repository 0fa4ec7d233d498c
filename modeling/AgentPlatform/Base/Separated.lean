import AgentPlatform.Base.Text

/-! # Fields between delimiters

A text is cut at a delimiter, the pieces are trimmed and the empty ones dropped. -/

namespace Python

variable {delimiter : Char} {blank : Char → Bool}

def fields (delimiter : Char) (blank : Char → Bool) (text : List Char) : List (List Char) :=
  ((text.splitOn delimiter).map (stripBy blank)).filter (· ≠ [])

/-- A text that is a field of itself. -/
structure IsField (delimiter : Char) (blank : Char → Bool) (field : List Char) : Prop where
  nonempty : field ≠ []
  whole : delimiter ∉ field
  trimmed : stripBy blank field = field

theorem stripBy_cons {c : Char} (skipped : blank c = true) (text : List Char) :
    stripBy blank (c :: text) = stripBy blank text := by
  rw [stripBy, List.dropWhile_cons_of_pos skipped, stripBy]

theorem stripBy_concat {c : Char} (skipped : blank c = true) (text : List Char) :
    stripBy blank (text ++ [c]) = stripBy blank text := by
  rw [stripBy, stripBy, List.dropWhile_append]
  split
  · rename_i exhausted
    rw [List.dropWhile_cons_of_pos skipped, List.dropWhile_nil, List.isEmpty_iff.mp exhausted]
  · rw [List.rdropWhile_concat_pos _ _ _ skipped]

theorem notMem_of_mem_splitOn {text piece : List Char} (member : piece ∈ text.splitOn delimiter) :
    delimiter ∉ piece := by
  induction text generalizing piece with
  | nil =>
    rw [List.splitOn_nil, List.mem_singleton] at member
    rw [member]
    exact List.not_mem_nil
  | cons c text ih =>
    obtain ⟨first, others, pieces⟩ := List.exists_cons_of_ne_nil (List.splitOn_ne_nil delimiter text)
    rw [List.splitOn_cons_eq_if_modifyHead, pieces] at member
    rw [pieces] at ih
    split at member
    · rcases List.mem_cons.mp member with rfl | later
      · exact List.not_mem_nil
      · exact ih later
    · rename_i other
      rw [List.modifyHead_cons] at member
      rcases List.mem_cons.mp member with rfl | later
      · intro inside
        rcases List.mem_cons.mp inside with rfl | inside
        · exact other (beq_self_eq_true _)
        · exact ih (List.mem_cons_self ..) inside
      · exact ih (List.mem_cons_of_mem _ later)

theorem isField_of_mem_fields {text field : List Char} (member : field ∈ fields delimiter blank text) :
    IsField delimiter blank field := by
  obtain ⟨stripped, nonempty⟩ := List.mem_filter.mp member
  obtain ⟨piece, cut, rfl⟩ := List.mem_map.mp stripped
  refine ⟨of_decide_eq_true nonempty, fun inside => ?_, stripBy_stripBy blank piece⟩
  exact notMem_of_mem_splitOn cut ((stripBy_isWithin blank piece).subset inside)

theorem fields_intercalate {parts : List (List Char)} (plain : ∀ part ∈ parts, IsField delimiter blank part) :
    fields delimiter blank ([delimiter].intercalate parts) = parts := by
  cases parts with
  | nil => simp [fields, List.intercalate, stripBy]
  | cons first others =>
    have trimmed : (first :: others).map (stripBy blank) = first :: others :=
      (List.map_congr_left fun part member => (plain part member).trimmed).trans (List.map_id _)
    rw [fields, List.splitOn_intercalate delimiter (fun part member => (plain part member).whole)
      (List.cons_ne_nil first others), trimmed, List.filter_eq_self]
    intro part member
    exact decide_eq_true (plain part member).nonempty

theorem fields_cons {c : Char} (skipped : blank c = true) (other : c ≠ delimiter) (text : List Char) :
    fields delimiter blank (c :: text) = fields delimiter blank text := by
  obtain ⟨first, others, pieces⟩ := List.exists_cons_of_ne_nil (List.splitOn_ne_nil delimiter text)
  rw [fields, fields, List.splitOn_cons_eq_if_modifyHead, if_neg (by simpa using other), pieces, List.modifyHead_cons,
    List.map_cons, List.map_cons, stripBy_cons skipped]

theorem splitOn_concat {c : Char} (other : c ≠ delimiter) (text : List Char) :
    ∃ pieces last, text.splitOn delimiter = pieces ++ [last] ∧
      (text ++ [c]).splitOn delimiter = pieces ++ [last ++ [c]] := by
  induction text with
  | nil =>
    refine ⟨[], [], List.splitOn_nil _, ?_⟩
    exact List.splitOn_eq_singleton (by simpa using fun same => other same.symm)
  | cons d text ih =>
    obtain ⟨pieces, last, short, long⟩ := ih
    rw [List.cons_append, List.splitOn_cons_eq_if_modifyHead, List.splitOn_cons_eq_if_modifyHead, short, long]
    split
    · exact ⟨[] :: pieces, last, rfl, rfl⟩
    · cases pieces with
      | nil => exact ⟨[], d :: last, rfl, rfl⟩
      | cons first pieces => exact ⟨(d :: first) :: pieces, last, rfl, rfl⟩

theorem fields_concat {c : Char} (skipped : blank c = true) (other : c ≠ delimiter) (text : List Char) :
    fields delimiter blank (text ++ [c]) = fields delimiter blank text := by
  obtain ⟨pieces, last, short, long⟩ := splitOn_concat other text
  rw [fields, fields, short, long, List.map_append, List.map_append, List.map_singleton, List.map_singleton,
    stripBy_concat skipped]

theorem fields_padded (notBlank : blank delimiter = false) {before after : List Char}
    (leading : ∀ c ∈ before, blank c = true) (trailing : ∀ c ∈ after, blank c = true) (text : List Char) :
    fields delimiter blank (before ++ text ++ after) = fields delimiter blank text := by
  have other {c : Char} (skipped : blank c = true) : c ≠ delimiter := by
    rintro rfl
    exact Bool.false_ne_true (notBlank.symm.trans skipped)
  induction before with
  | cons c before ih =>
    obtain ⟨skipped, leading⟩ := List.forall_mem_cons.mp leading
    rw [List.cons_append, List.cons_append, fields_cons skipped (other skipped), ih leading]
  | nil =>
    rw [List.nil_append]
    induction after using List.reverseRecOn with
    | nil => rw [List.append_nil]
    | append_singleton after c ih =>
      have skipped := trailing c (List.mem_append_right _ (List.mem_singleton_self c))
      rw [← List.append_assoc, fields_concat skipped (other skipped),
        ih fun d member => trailing d (List.mem_append_left _ member)]

end Python
