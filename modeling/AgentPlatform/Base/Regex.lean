import Mathlib.Data.List.Basic

/-! # Regular expressions with word boundaries at their ends

What a search finds in a piece cut out of a text, and not in the text. -/

inductive Regex where
  | empty
  | char (accepts : Char → Bool)
  /-- Any number of accepted characters. -/
  | many (accepts : Char → Bool)
  | seq (first second : Regex)
  | alt (first second : Regex)

namespace Regex

/-- The words of an expression. -/
def Matches : Regex → List Char → Prop
  | empty, word => word = []
  | char accepts, word => ∃ c, word = [c] ∧ accepts c = true
  | many accepts, word => ∀ c ∈ word, accepts c = true
  | seq first second, word => ∃ start rest, word = start ++ rest ∧ first.Matches start ∧ second.Matches rest
  | alt first second, word => first.Matches word ∨ second.Matches word

def manyRests (accepts : Char → Bool) : List Char → List (List Char)
  | [] => [[]]
  | c :: text => (if accepts c then manyRests accepts text else []) ++ [c :: text]

/-- What may be left of a text after a match at its start, in the order that a search tries. -/
def rests : Regex → List Char → List (List Char)
  | empty, text => [text]
  | char _, [] => []
  | char accepts, c :: text => if accepts c then [text] else []
  | many accepts, text => manyRests accepts text
  | seq first second, text => (first.rests text).flatMap second.rests
  | alt first second, text => first.rests text ++ second.rests text

theorem mem_manyRests {accepts : Char → Bool} {text rest : List Char} :
    rest ∈ manyRests accepts text ↔ ∃ word, text = word ++ rest ∧ ∀ c ∈ word, accepts c = true := by
  induction text with
  | nil =>
    rw [manyRests, List.mem_singleton]
    constructor
    · rintro rfl
      exact ⟨[], rfl, by simp⟩
    · rintro ⟨word, shape, -⟩
      exact (List.append_eq_nil_iff.mp shape.symm).2
  | cons c text ih =>
    rw [manyRests, List.mem_append, List.mem_singleton]
    constructor
    · rintro (later | rfl)
      · split at later
        · rename_i accepted
          obtain ⟨word, rfl, all⟩ := ih.mp later
          exact ⟨c :: word, rfl, List.forall_mem_cons.mpr ⟨accepted, all⟩⟩
        · cases later
      · exact ⟨[], rfl, by simp⟩
    · rintro ⟨word, shape, all⟩
      cases word with
      | nil => exact .inr shape.symm
      | cons first word =>
        obtain ⟨rfl, rfl⟩ := List.cons.inj shape
        obtain ⟨accepted, all⟩ := List.forall_mem_cons.mp all
        left
        rw [if_pos accepted]
        exact ih.mpr ⟨word, rfl, all⟩

theorem mem_rests {expression : Regex} {text rest : List Char} :
    rest ∈ expression.rests text ↔ ∃ word, text = word ++ rest ∧ expression.Matches word := by
  induction expression generalizing text rest with
  | empty =>
    rw [rests, List.mem_singleton]
    constructor
    · rintro rfl
      exact ⟨[], rfl, rfl⟩
    · rintro ⟨word, rfl, rfl⟩
      rfl
  | char accepts =>
    cases text with
    | nil =>
      simp only [rests, List.not_mem_nil, false_iff]
      rintro ⟨word, shape, c, rfl, -⟩
      cases shape
    | cons c text =>
      simp only [rests]
      split
      · rename_i accepted
        rw [List.mem_singleton]
        constructor
        · rintro rfl
          exact ⟨[c], rfl, c, rfl, accepted⟩
        · rintro ⟨word, shape, other, rfl, -⟩
          exact (List.cons.inj shape).2.symm
      · rename_i refused
        simp only [List.not_mem_nil, false_iff]
        rintro ⟨word, shape, other, rfl, accepted⟩
        rw [← (List.cons.inj shape).1] at accepted
        exact refused accepted
  | many accepts => exact mem_manyRests
  | seq first second firstIh secondIh =>
    simp only [rests, List.mem_flatMap, firstIh, secondIh]
    constructor
    · rintro ⟨middle, ⟨start, rfl, matched⟩, word, rfl, matched'⟩
      exact ⟨start ++ word, (List.append_assoc ..).symm, start, word, rfl, matched, matched'⟩
    · rintro ⟨word, rfl, start, more, rfl, matched, matched'⟩
      exact ⟨more ++ rest, ⟨start, List.append_assoc .., matched⟩, more, rfl, matched'⟩
  | alt first second firstIh secondIh =>
    simp only [rests, List.mem_append, firstIh, secondIh, Matches]
    constructor
    · rintro (⟨word, shape, matched⟩ | ⟨word, shape, matched⟩)
      · exact ⟨word, shape, .inl matched⟩
      · exact ⟨word, shape, .inr matched⟩
    · rintro ⟨word, shape, matched | matched⟩
      · exact .inl ⟨word, shape, matched⟩
      · exact .inr ⟨word, shape, matched⟩

/-- Every match starts, or ends, with a character of the kind. -/
def StartsWith (kind : Char → Bool) (expression : Regex) : Prop :=
  ∀ word, expression.Matches word → ∃ c ∈ word.head?, kind c = true

def EndsWith (kind : Char → Bool) (expression : Regex) : Prop :=
  ∀ word, expression.Matches word → ∃ c ∈ word.getLast?, kind c = true

section

variable {kind : Char → Bool} {first second : Regex}

theorem StartsWith.seq (starts : first.StartsWith kind) : (first.seq second).StartsWith kind := by
  rintro word ⟨start, rest, rfl, matched, -⟩
  obtain ⟨c, head, held⟩ := starts start matched
  exact ⟨c, List.mem_head?_append_of_mem_head? head, held⟩

theorem EndsWith.seq (ends : second.EndsWith kind) : (first.seq second).EndsWith kind := by
  rintro word ⟨start, rest, rfl, -, matched⟩
  obtain ⟨c, last, held⟩ := ends rest matched
  exact ⟨c, List.mem_getLast?_append_of_mem_getLast? last, held⟩

theorem StartsWith.alt (starts : first.StartsWith kind) (starts' : second.StartsWith kind) :
    (first.alt second).StartsWith kind := by
  rintro word (matched | matched)
  · exact starts word matched
  · exact starts' word matched

theorem EndsWith.alt (ends : first.EndsWith kind) (ends' : second.EndsWith kind) :
    (first.alt second).EndsWith kind := by
  rintro word (matched | matched)
  · exact ends word matched
  · exact ends' word matched

end

end Regex

/-- An expression with `\b` before it, after it, or both. -/
structure SearchPattern where
  leading : Bool
  body : Regex
  trailing : Bool

namespace SearchPattern

variable (pattern : SearchPattern) (word : Char → Bool)

/-- `\b` between two characters, one of which may be the edge of the text. -/
def boundary (left right : Option Char) : Bool := left.any word != right.any word

def matchesAt (previous : Option Char) (text : List Char) : Bool :=
  (!pattern.leading || boundary word previous text.head?) &&
    (pattern.body.rests text).any fun rest =>
      !pattern.trailing ||
        boundary word ((text.take (text.length - rest.length)).getLast?.or previous) rest.head?

def searchFrom (previous : Option Char) : List Char → Bool
  | [] => pattern.matchesAt word previous []
  | c :: text => pattern.matchesAt word previous (c :: text) || searchFrom (some c) text

/-- The match at the start of a text that a search tries first. -/
def matchAt (previous : Option Char) (text : List Char) : Option (List Char) :=
  if !pattern.leading || boundary word previous text.head? then
    (pattern.body.rests text).findSome? fun rest =>
      let matched := text.take (text.length - rest.length)
      if !pattern.trailing || boundary word (matched.getLast?.or previous) rest.head? then some matched else none
  else none

def findFrom (previous : Option Char) : List Char → Option (List Char)
  | [] => pattern.matchAt word previous []
  | c :: text => (pattern.matchAt word previous (c :: text)).or (findFrom (some c) text)

/-- `pattern.search`, with `group(0)` of the match. -/
def find (text : List Char) : Option (List Char) := pattern.findFrom word none text

def search (text : List Char) : Bool := pattern.searchFrom word none text

def OccursAt (before matched after : List Char) : Prop :=
  pattern.body.Matches matched ∧
    (pattern.leading = true → boundary word before.getLast? (matched ++ after).head? = true) ∧
    (pattern.trailing = true → boundary word (before ++ matched).getLast? after.head? = true)

/-- The body starts with a word character after `\b`, and ends with one before `\b`. -/
def Sharp : Prop :=
  (pattern.leading = true → pattern.body.StartsWith word) ∧ (pattern.trailing = true → pattern.body.EndsWith word)

/-- A text that goes on a word of what is before it starts with a match, or one that is gone on with ends
    with a match. -/
def Exposed (before text after : List Char) : Prop :=
  (pattern.leading = true ∧ before.getLast?.any word = true ∧
    ∃ matched rest, text = matched ++ rest ∧ pattern.body.Matches matched ∧
      (pattern.trailing = true → rest.head?.any word = false)) ∨
  (pattern.trailing = true ∧ after.head?.any word = true ∧
    ∃ start matched, text = start ++ matched ∧ pattern.body.Matches matched ∧
      (pattern.leading = true → start.getLast?.any word = false))

section

variable {pattern : SearchPattern} {word : Char → Bool}

theorem matchesAt_iff {before text : List Char} :
    pattern.matchesAt word before.getLast? text = true ↔
      ∃ matched after, text = matched ++ after ∧ pattern.OccursAt word before matched after := by
  have consumed (matched after : List Char) :
      (((matched ++ after).take ((matched ++ after).length - after.length)).getLast?).or before.getLast? =
        (before ++ matched).getLast? := by
    rw [List.length_append, Nat.add_sub_cancel, List.take_left', List.getLast?_append]
    rfl
  simp only [matchesAt, Bool.and_eq_true, Bool.or_eq_true, Bool.not_eq_true', List.any_eq_true]
  constructor
  · rintro ⟨leading, rest, left, trailing⟩
    obtain ⟨matched, rfl, body⟩ := Regex.mem_rests.mp left
    rw [consumed] at trailing
    refine ⟨matched, rest, rfl, body, fun marked => ?_, fun marked => ?_⟩
    · exact leading.resolve_left (by simp [marked])
    · exact trailing.resolve_left (by simp [marked])
  · rintro ⟨matched, after, rfl, body, leading, trailing⟩
    refine ⟨?_, after, Regex.mem_rests.mpr ⟨matched, rfl, body⟩, ?_⟩
    · cases marked : pattern.leading with
      | false => exact .inl rfl
      | true => exact .inr (leading marked)
    · rw [consumed]
      cases marked : pattern.trailing with
      | false => exact .inl rfl
      | true => exact .inr (trailing marked)

theorem searchFrom_iff {before text : List Char} :
    pattern.searchFrom word before.getLast? text = true ↔
      ∃ skipped matched after, text = skipped ++ matched ++ after ∧
        pattern.OccursAt word (before ++ skipped) matched after := by
  induction text generalizing before with
  | nil =>
    rw [searchFrom, matchesAt_iff]
    constructor
    · rintro ⟨matched, after, shape, occurs⟩
      exact ⟨[], matched, after, shape, by rwa [List.append_nil]⟩
    · rintro ⟨skipped, matched, after, shape, occurs⟩
      have nothing : skipped = [] := by
        rw [List.append_assoc] at shape
        exact (List.append_eq_nil_iff.mp shape.symm).1
      rw [nothing, List.append_nil] at occurs
      rw [nothing] at shape
      exact ⟨matched, after, shape, occurs⟩
  | cons c text ih =>
    have onward : some c = (before ++ [c]).getLast? := by rw [List.getLast?_concat]
    rw [searchFrom, Bool.or_eq_true, matchesAt_iff, onward, ih]
    constructor
    · rintro (⟨matched, after, shape, occurs⟩ | ⟨skipped, matched, after, rfl, occurs⟩)
      · exact ⟨[], matched, after, shape, by rwa [List.append_nil]⟩
      · exact ⟨c :: skipped, matched, after, rfl, by rwa [List.append_assoc] at occurs⟩
    · rintro ⟨skipped, matched, after, shape, occurs⟩
      cases skipped with
      | nil =>
        rw [List.append_nil] at occurs
        exact .inl ⟨matched, after, shape, occurs⟩
      | cons first skipped =>
        obtain ⟨rfl, rfl⟩ := List.cons.inj shape
        refine .inr ⟨skipped, matched, after, rfl, ?_⟩
        rwa [List.append_assoc]

theorem search_iff {text : List Char} :
    pattern.search word text = true ↔
      ∃ before matched after, text = before ++ matched ++ after ∧ pattern.OccursAt word before matched after := by
  have started : pattern.searchFrom word ([] : List Char).getLast? text = true ↔ _ := searchFrom_iff
  exact started

theorem matchAt_isSome {previous : Option Char} {text : List Char} :
    (pattern.matchAt word previous text).isSome = pattern.matchesAt word previous text := by
  simp only [matchAt, matchesAt]
  split
  · rename_i leading
    rw [leading, Bool.true_and, Bool.eq_iff_iff, List.isSome_findSome?, List.any_eq_true, List.any_eq_true]
    refine exists_congr fun rest => and_congr_right fun _ => ?_
    split
    · rename_i trailing
      simp only [Option.isSome_some, trailing]
    · rename_i trailing
      simp only [Option.isSome_none, Bool.eq_false_iff.mpr trailing]
  · rename_i leading
    rw [Bool.eq_false_iff.mpr leading, Bool.false_and, Option.isSome_none]

theorem findFrom_isSome {previous : Option Char} {text : List Char} :
    (pattern.findFrom word previous text).isSome = pattern.searchFrom word previous text := by
  induction text generalizing previous with
  | nil => exact matchAt_isSome
  | cons c text ih => rw [findFrom, searchFrom, Option.isSome_or, matchAt_isSome, ih]

theorem find_isSome {text : List Char} : (pattern.find word text).isSome = pattern.search word text :=
  findFrom_isSome

theorem of_matchAt {before text matched : List Char}
    (found : pattern.matchAt word before.getLast? text = some matched) :
    ∃ after, text = matched ++ after ∧ pattern.OccursAt word before matched after := by
  simp only [matchAt] at found
  split at found
  · rename_i leading
    obtain ⟨rest, left, chosen⟩ := List.exists_of_findSome?_eq_some found
    obtain ⟨consumed, rfl, body⟩ := Regex.mem_rests.mp left
    have taken : (consumed ++ rest).take ((consumed ++ rest).length - rest.length) = consumed := by
      rw [List.length_append, Nat.add_sub_cancel, List.take_left']
      rfl
    rw [taken] at chosen
    split at chosen
    · rename_i trailing
      obtain rfl := Option.some.inj chosen
      refine ⟨rest, rfl, body, fun marked => ?_, fun marked => ?_⟩
      · simpa [marked] using leading
      · rw [List.getLast?_append]
        simpa [marked] using trailing
    · cases chosen
  · cases found

theorem of_findFrom {before text matched : List Char}
    (found : pattern.findFrom word before.getLast? text = some matched) :
    ∃ skipped after, text = skipped ++ matched ++ after ∧ pattern.OccursAt word (before ++ skipped) matched after := by
  induction text generalizing before with
  | nil =>
    obtain ⟨after, shape, occurs⟩ := of_matchAt found
    exact ⟨[], after, shape, by rwa [List.append_nil]⟩
  | cons c text ih =>
    rw [findFrom, Option.or_eq_some_iff] at found
    obtain found | ⟨-, found⟩ := found
    · obtain ⟨after, shape, occurs⟩ := of_matchAt found
      exact ⟨[], after, shape, by rwa [List.append_nil]⟩
    · have onward : some c = (before ++ [c]).getLast? := by rw [List.getLast?_concat]
      rw [onward] at found
      obtain ⟨skipped, after, rfl, occurs⟩ := ih found
      exact ⟨c :: skipped, after, rfl, by rwa [List.append_assoc] at occurs⟩

theorem of_find {text matched : List Char} (found : pattern.find word text = some matched) :
    ∃ before after, text = before ++ matched ++ after ∧ pattern.OccursAt word before matched after := by
  have started : pattern.findFrom word ([] : List Char).getLast? text = some matched := found
  exact of_findFrom started

theorem occursAt_iff (sharp : pattern.Sharp word) {before matched after : List Char} :
    pattern.OccursAt word before matched after ↔
      pattern.body.Matches matched ∧ (pattern.leading = true → before.getLast?.any word = false) ∧
        (pattern.trailing = true → after.head?.any word = false) := by
  refine and_congr_right fun body => and_congr (imp_congr_right fun marked => ?_) (imp_congr_right fun marked => ?_)
  · obtain ⟨c, head, held⟩ := sharp.1 marked matched body
    have first : (matched ++ after).head? = some c := List.mem_head?_append_of_mem_head? head
    rw [boundary, first, Option.any_some, held]
    cases before.getLast?.any word <;> simp
  · obtain ⟨c, last, held⟩ := sharp.2 marked matched body
    have final : (before ++ matched).getLast? = some c := List.mem_getLast?_append_of_mem_getLast? last
    rw [boundary, final, Option.any_some, held]
    cases after.head?.any word <;> simp

/-- A piece of a text without a match has one exactly when the cuts expose it. -/
theorem search_piece_iff (sharp : pattern.Sharp word) {before text after : List Char}
    (clean : pattern.search word (before ++ text ++ after) = false) :
    pattern.search word text = true ↔ pattern.Exposed word before text after := by
  rw [search_iff]
  constructor
  · rintro ⟨skipped, matched, rest, rfl, occurs⟩
    obtain ⟨body, leading, trailing⟩ := (occursAt_iff sharp).mp occurs
    have absent : ¬ pattern.OccursAt word (before ++ skipped) matched (rest ++ after) := by
      intro found
      have seen := search_iff.mpr ⟨before ++ skipped, matched, rest ++ after, rfl, found⟩
      simp only [List.append_assoc] at clean seen
      rw [clean] at seen
      cases seen
    rw [occursAt_iff sharp] at absent
    by_contra hidden
    refine absent ⟨body, fun marked => ?_, fun marked => ?_⟩
    · have here := leading marked
      cases skipped with
      | cons c skipped =>
        rw [List.getLast?_append_of_ne_nil _ (List.cons_ne_nil c skipped)]
        exact here
      | nil =>
        rw [List.append_nil]
        by_contra inside
        exact hidden (.inl ⟨marked, by simpa using inside, matched, rest, rfl, body, trailing⟩)
    · have here := trailing marked
      cases rest with
      | cons c rest => exact here
      | nil =>
        rw [List.nil_append]
        by_contra inside
        exact hidden (.inr ⟨marked, by simpa using inside, skipped, matched, by rw [List.append_nil], body, leading⟩)
  · rintro (⟨marked, -, matched, rest, rfl, body, trailing⟩ | ⟨marked, -, start, matched, rfl, body, leading⟩)
    · exact ⟨[], matched, rest, rfl, (occursAt_iff sharp).mpr ⟨body, fun _ => rfl, trailing⟩⟩
    · exact ⟨start, matched, [], by rw [List.append_nil],
        (occursAt_iff sharp).mpr ⟨body, leading, fun _ => rfl⟩⟩

end

end SearchPattern
