import AgentPlatform.Base.Runs

/-! # Named records in one text

A list of records, each a line with its name between brackets and then its free text, written one after the other
and followed by a trailer. -/

namespace Records

variable {α : Type*}

/-- The characters of the line that names a record. -/
structure Layout (α : Type*) where
  lineBreak : α
  opening : α
  closing : α
  blank : α
  apart : lineBreak ∉ [opening, closing, blank]

/-- A record whose name can neither end the line nor close the brackets. -/
@[ext]
structure Record (layout : Layout α) where
  name : List α
  text : List α
  oneLine : layout.lineBreak ∉ name
  enclosed : layout.closing ∉ name

/-- A trailer that no line of a record can begin. -/
structure Trailer (layout : Layout α) where
  items : List α
  begins : items.head? = some layout.lineBreak
  ends : items.getLast? ≠ some layout.lineBreak
  plain : layout.opening ∉ items
  unbordered : ∀ count < items.length, count ≠ 0 → ¬ items.drop count <+: items

variable {layout : Layout α}

def Layout.line (layout : Layout α) (name : List α) : List α :=
  layout.lineBreak :: layout.opening :: (name ++ [layout.closing, layout.blank])

def Record.line (record : Record layout) : List α := layout.line record.name

def encode (records : List (Record layout)) : List α := records.flatMap fun record => record.line ++ record.text

theorem encode_cons (record : Record layout) (records : List (Record layout)) :
    encode (record :: records) = record.line ++ (record.text ++ encode records) := by
  rw [encode, List.flatMap_cons, List.append_assoc]
  rfl

theorem Record.line_inj {record record' : Record layout} {after after' : List α}
    (same : record.line ++ after = record'.line ++ after') : record.name = record'.name ∧ after = after' := by
  classical
  simp only [Record.line, Layout.line, List.cons_append, List.append_assoc, List.cons.injEq, true_and, List.nil_append]
    at same
  obtain ⟨names, rests⟩ := List.split_first_unique record.enclosed record'.enclosed same
  exact ⟨names, (List.cons.inj rests).2⟩

theorem Record.line_suffix {record : Record layout} {start rest : List α} (cut : record.line = start ++ rest)
    (nonempty : start ≠ []) : layout.lineBreak ∉ rest := by
  cases start with
  | nil => exact absurd rfl nonempty
  | cons c start =>
    obtain ⟨-, cut⟩ := List.cons.inj cut
    intro member
    have inside : layout.lineBreak ∈ layout.opening :: (record.name ++ [layout.closing, layout.blank]) :=
      cut ▸ List.mem_append_right _ member
    have apart := layout.apart
    simp only [List.mem_cons, List.not_mem_nil, or_false, not_or] at apart
    simp only [List.mem_cons, List.mem_append, List.not_mem_nil, or_false] at inside
    rcases inside with opening | name | closing | blank
    · exact apart.1 opening
    · exact record.oneLine name
    · exact apart.2.1 closing
    · exact apart.2.2 blank

theorem head_encode {records : List (Record layout)} {start rest : List α} (cut : encode records = start ++ rest)
    (nonempty : start ≠ []) : start.head? = some layout.lineBreak := by
  cases start with
  | nil => exact absurd rfl nonempty
  | cons c start =>
    cases records with
    | nil => cases cut
    | cons record records =>
      rw [encode_cons] at cut
      exact congrArg some (List.cons.inj cut).1.symm

theorem line_prefix {records records' : List (Record layout)} {start : List α}
    (same : encode records = start ++ encode records') (nonempty : start ≠ []) :
    ∃ record ∈ records, record.line <+: start := by
  cases records with
  | nil => exact absurd (List.append_eq_nil_iff.mp same.symm).1 nonempty
  | cons record records =>
    refine ⟨record, List.mem_cons_self, ?_⟩
    rw [encode_cons] at same
    rcases List.append_eq_append_iff.mp same with ⟨rest, whole, -⟩ | ⟨rest, cut, after⟩
    · exact ⟨rest, whole.symm⟩
    · by_cases empty : rest = []
      · have whole : record.line = start := by rw [cut, empty, List.append_nil]
        exact whole ▸ List.prefix_rfl
      · have begins := head_encode after empty
        exact absurd (List.mem_of_head? begins) (record.line_suffix cut nonempty)

/-- Encodings tell record lists apart unless a text of one holds a line of the other. -/
theorem encode_inj {records records' : List (Record layout)}
    (unforged : ∀ record ∈ records, ∀ record' ∈ records', ¬ record'.line <:+: record.text)
    (unforged' : ∀ record ∈ records, ∀ record' ∈ records', ¬ record.line <:+: record'.text)
    (same : encode records = encode records') : records = records' := by
  induction records generalizing records' with
  | nil =>
    cases records' with
    | nil => rfl
    | cons record' records' =>
      rw [encode_cons] at same
      cases same
  | cons record records ih =>
    cases records' with
    | nil =>
      rw [encode_cons] at same
      cases same
    | cons record' records' =>
      rw [encode_cons, encode_cons] at same
      obtain ⟨names, rests⟩ := Record.line_inj same
      have texts : record.text = record'.text := by
        rcases List.append_eq_append_iff.mp rests with ⟨start, longer, after⟩ | ⟨start, longer, after⟩
        · by_cases empty : start = []
          · rw [longer, empty, List.append_nil]
          · obtain ⟨forged, member, begins⟩ := line_prefix after empty
            refine absurd ?_ (unforged' forged (List.mem_cons_of_mem _ member) record' List.mem_cons_self)
            rw [longer]
            exact begins.isInfix.trans List.infix_append_right
        · by_cases empty : start = []
          · rw [longer, empty, List.append_nil]
          · obtain ⟨forged, member, begins⟩ := line_prefix after empty
            refine absurd ?_ (unforged record List.mem_cons_self forged (List.mem_cons_of_mem _ member))
            rw [longer]
            exact begins.isInfix.trans List.infix_append_right
      rw [texts] at rests
      have tails := ih (fun other member other' member' => unforged other (List.mem_cons_of_mem _ member) other'
          (List.mem_cons_of_mem _ member'))
        (fun other member other' member' => unforged' other (List.mem_cons_of_mem _ member) other'
          (List.mem_cons_of_mem _ member')) (List.append_cancel_left rests)
      rw [tails, Record.ext names texts]

namespace Trailer

variable (trailer : Trailer layout)

theorem items_ne_nil : trailer.items ≠ [] := by
  intro empty
  have begins := trailer.begins
  rw [empty] at begins
  cases begins

theorem not_line {start rest after after' : List α} {record : Record layout} (cut : trailer.items = start ++ rest)
    (nonempty : rest ≠ []) : rest ++ after ≠ record.line ++ after' := by
  intro same
  cases rest with
  | nil => exact nonempty rfl
  | cons c rest =>
    obtain ⟨first, same⟩ := List.cons.inj same
    cases rest with
    | nil =>
      refine trailer.ends ?_
      rw [cut, List.getLast?_concat, first]
    | cons c' rest =>
      refine trailer.plain ?_
      rw [cut, ← (List.cons.inj same).1]
      exact List.mem_append_right _ (List.mem_cons_of_mem _ List.mem_cons_self)

theorem after_line {record : Record layout} {rest before after : List α}
    (found : record.line ++ rest = before ++ (trailer.items ++ after)) :
    ∃ before', rest = before' ++ (trailer.items ++ after) := by
  rcases List.append_eq_append_iff.mp found with ⟨before', -, inside⟩ | ⟨piece, cut, starts⟩
  · exact ⟨before', inside⟩
  · cases piece with
    | nil => exact ⟨[], starts.symm⟩
    | cons c piece =>
      exfalso
      cases before with
      | nil =>
        have whole : trailer.items ++ after = record.line ++ rest := by rw [cut, starts, List.nil_append]
        exact @not_line _ _ trailer [] trailer.items after rest record rfl trailer.items_ne_nil whole
      | cons c' before =>
        have first := congrArg List.head? starts
        rw [List.head?_append_of_ne_nil _ trailer.items_ne_nil, trailer.begins] at first
        refine record.line_suffix cut (List.cons_ne_nil c' before) ?_
        rw [Option.some.inj first]
        exact List.mem_cons_self

theorem infix_text {records : List (Record layout)} {before after : List α}
    (found : encode records = before ++ (trailer.items ++ after)) :
    ∃ record ∈ records, trailer.items <:+: record.text := by
  induction records generalizing before with
  | nil =>
    have parts := List.append_eq_nil_iff.mp found.symm
    exact absurd (List.append_eq_nil_iff.mp parts.2).1 trailer.items_ne_nil
  | cons record records ih =>
    rw [encode_cons] at found
    obtain ⟨before', inside⟩ := trailer.after_line found
    rcases List.append_eq_append_iff.mp inside with ⟨rest, -, later⟩ | ⟨rest, held, starts⟩
    · obtain ⟨other, member, holds⟩ := ih later
      exact ⟨other, List.mem_cons_of_mem _ member, holds⟩
    · refine ⟨record, List.mem_cons_self, ?_⟩
      rcases List.append_eq_append_iff.mp starts with ⟨piece, longer, -⟩ | ⟨piece, shorter, ends⟩
      · rw [held, longer]
        exact List.infix_append' _ _ _
      · cases piece with
        | nil =>
          rw [held, shorter, List.append_nil]
          exact List.infix_append_right
        | cons c piece =>
          exfalso
          cases records with
          | nil => cases ends
          | cons next records =>
            rw [encode_cons] at ends
            exact trailer.not_line shorter (List.cons_ne_nil c piece) ends.symm

theorem apart {piece after after' : List α} (same : trailer.items ++ after = piece ++ (trailer.items ++ after')) :
    piece = [] ∨ ∃ rest, piece = trailer.items ++ rest ∧ after = rest ++ (trailer.items ++ after') := by
  rcases List.append_eq_append_iff.mp same with ⟨rest, longer, ends⟩ | ⟨rest, cut, ends⟩
  · exact .inr ⟨rest, longer, ends⟩
  · have dropped : trailer.items.drop piece.length = rest := by rw [cut, List.drop_left]
    by_cases empty : piece.length = 0
    · exact .inl (List.length_eq_zero_iff.mp empty)
    · cases rest with
      | nil =>
        rw [List.append_nil] at cut
        rw [List.nil_append] at ends
        exact .inr ⟨[], by rw [cut, List.append_nil], by rw [← ends, List.nil_append]⟩
      | cons c rest =>
        have size : trailer.items.length = piece.length + (c :: rest).length := by rw [cut, List.length_append]
        have within : c :: rest <+: trailer.items :=
          List.prefix_of_prefix_length_le ⟨after, ends.symm⟩ (List.prefix_append _ after') (by omega)
        refine absurd (dropped.symm ▸ within) (trailer.unbordered piece.length ?_ empty)
        rw [size]
        exact Nat.lt_add_of_pos_right (Nat.succ_pos _)

/-- Records and what follows the trailer are read back, unless the trailer is in both a text of the one reading and in
    what follows it in the other. -/
theorem split_unique {records records' : List (Record layout)} {after after' : List α}
    (asked : trailer.items <:+: after → ∀ record ∈ records', ¬ trailer.items <:+: record.text)
    (asked' : trailer.items <:+: after' → ∀ record ∈ records, ¬ trailer.items <:+: record.text)
    (same : encode records ++ (trailer.items ++ after) = encode records' ++ (trailer.items ++ after')) :
    encode records = encode records' ∧ after = after' := by
  rcases List.append_eq_append_iff.mp same with ⟨piece, longer, ends⟩ | ⟨piece, longer, ends⟩
  · rcases trailer.apart ends with rfl | ⟨rest, rfl, held⟩
    · rw [List.nil_append] at ends
      exact ⟨by rw [longer, List.append_nil], List.append_cancel_left ends⟩
    · obtain ⟨record, member, holds⟩ := trailer.infix_text longer
      refine absurd holds (asked ?_ record member)
      rw [held]
      exact List.infix_append' _ _ _
  · rcases trailer.apart ends with rfl | ⟨rest, rfl, held⟩
    · rw [List.nil_append] at ends
      exact ⟨by rw [longer, List.append_nil], (List.append_cancel_left ends).symm⟩
    · obtain ⟨record, member, holds⟩ := trailer.infix_text longer
      refine absurd holds (asked' ?_ record member)
      rw [held]
      exact List.infix_append' _ _ _

end Trailer

end Records
