import AgentPlatform.Base.Regex
import AgentPlatform.Base.Runs
import Mathlib.Data.List.Infix

/-! # All matches of an expression

`findall` and `sub` go over a text from left to right and continue after each match. When every match is
delimited, no match reaches into another. -/

inductive Piece where
  | plain (c : Char)
  | matched (word : List Char)
deriving DecidableEq

def Piece.char? : Piece → Option Char
  | plain c => some c
  | matched _ => none

def Piece.word? : Piece → Option (List Char)
  | plain _ => none
  | matched word => some word

namespace Regex

variable (expression : Regex)

/-- The match at the start of a text that a search tries first. -/
def matchPrefix (text : List Char) : Option (List Char) :=
  (expression.rests text).head?.map fun rest => text.take (text.length - rest.length)

/-- The text in pieces, after so many characters that belong to the match before. -/
def scanFrom : Nat → List Char → List Piece
  | _, [] => []
  | skipped + 1, _ :: text => scanFrom skipped text
  | 0, c :: text =>
    match expression.matchPrefix (c :: text) with
    | some (first :: rest) => .matched (first :: rest) :: scanFrom rest.length text
    | _ => .plain c :: scanFrom 0 text

def scan (text : List Char) : List Piece := expression.scanFrom 0 text

/-- `findall`, with the whole match of each. -/
def findAll (text : List Char) : List (List Char) := (expression.scan text).filterMap Piece.word?

/-- `sub` of the empty text. -/
def removeAll (text : List Char) : List Char := (expression.scan text).filterMap Piece.char?

def Free (text : List Char) : Prop := ∀ word, word <:+: text → ¬ expression.Matches word

/-- A match stands between two delimiters that do not occur in it. -/
structure Delimited (opening closing : Char) : Prop where
  differ : opening ≠ closing
  shape : ∀ word, expression.Matches word →
    ∃ body, word = opening :: body ++ [closing] ∧ opening ∉ body ∧ closing ∉ body

section

variable {expression}

theorem matchPrefix_some {text word : List Char} (found : expression.matchPrefix text = some word) :
    expression.Matches word ∧ ∃ rest, text = word ++ rest := by
  obtain ⟨rest, first, rfl⟩ := Option.map_eq_some_iff.mp found
  obtain ⟨word, rfl, matched⟩ := mem_rests.mp (List.mem_of_mem_head? first)
  rw [List.length_append, Nat.add_sub_cancel, List.take_left']
  · exact ⟨matched, rest, rfl⟩
  · rfl

theorem matchPrefix_none {text : List Char} (missed : expression.matchPrefix text = none) {word rest : List Char}
    (split : text = word ++ rest) : ¬ expression.Matches word := by
  intro matched
  have tried : rest ∈ expression.rests text := mem_rests.mpr ⟨word, split, matched⟩
  rw [matchPrefix, Option.map_eq_none_iff, List.head?_eq_none_iff] at missed
  rw [missed] at tried
  cases tried

theorem scanFrom_skip (word text : List Char) : expression.scanFrom word.length (word ++ text) = expression.scan text := by
  induction word with
  | nil => rfl
  | cons c word ih => exact ih

theorem scan_plain {c : Char} {text : List Char} (missed : expression.matchPrefix (c :: text) = none) :
    expression.scan (c :: text) = .plain c :: expression.scan text := by
  rw [scan, scanFrom, missed]
  rfl

theorem scan_matched {word text : List Char} (nonempty : word ≠ [])
    (found : expression.matchPrefix (word ++ text) = some word) :
    expression.scan (word ++ text) = .matched word :: expression.scan text := by
  cases word with
  | nil => exact absurd rfl nonempty
  | cons c word =>
    rw [List.cons_append] at found
    rw [scan, List.cons_append, scanFrom, found]
    exact congrArg (_ :: ·) (scanFrom_skip word text)

variable {opening closing : Char}

theorem Delimited.nonempty (delimited : expression.Delimited opening closing) {word : List Char}
    (matched : expression.Matches word) : word ≠ [] := by
  obtain ⟨body, rfl, -⟩ := delimited.shape word matched
  exact List.cons_ne_nil _ _

theorem Delimited.unique (delimited : expression.Delimited opening closing) {first second rest rest' : List Char}
    (matched : expression.Matches first) (matched' : expression.Matches second)
    (same : first ++ rest = second ++ rest') : first = second := by
  obtain ⟨body, rfl, -, absent⟩ := delimited.shape first matched
  obtain ⟨body', rfl, -, absent'⟩ := delimited.shape second matched'
  simp only [List.cons_append, List.append_assoc, List.nil_append, List.cons.injEq, true_and] at same
  have bodies : body = body' := by
    rw [← List.takeWhile_ne_append absent, same, List.takeWhile_ne_append absent']
  rw [bodies]

theorem Delimited.matchPrefix_eq (delimited : expression.Delimited opening closing) {word : List Char}
    (matched : expression.Matches word) (rest : List Char) :
    expression.matchPrefix (word ++ rest) = some word := by
  cases found : expression.matchPrefix (word ++ rest) with
  | none => exact absurd matched (matchPrefix_none found rfl)
  | some other =>
    obtain ⟨matched', rest', split⟩ := matchPrefix_some found
    rw [delimited.unique matched matched' split]

theorem Delimited.apart (delimited : expression.Delimited opening closing) {before word rest other rest' : List Char}
    (nonempty : before ≠ []) (matched : expression.Matches word) (matched' : expression.Matches other)
    (same : before ++ word ++ rest = other ++ rest') : other <+: before := by
  obtain ⟨body, rfl, -, -⟩ := delimited.shape word matched
  obtain ⟨body', rfl, absent', -⟩ := delimited.shape other matched'
  rw [List.append_assoc] at same
  rcases List.append_eq_append_iff.mp same.symm with ⟨more, reach, -⟩ | ⟨more, reach, onward⟩
  · exact ⟨more, reach.symm⟩
  · cases more with
    | nil => exact ⟨[], by rw [reach, List.append_nil, List.append_nil]⟩
    | cons c more =>
      exfalso
      obtain rfl : opening = c := (List.cons.inj onward).1
      cases before with
      | nil => exact nonempty rfl
      | cons b before =>
        rw [List.cons_append, List.cons_append, List.cons.injEq] at reach
        have inside : opening ∈ body' ++ [closing] := by
          rw [reach.2]
          simp
        rcases List.mem_append.mp inside with within | last
        · exact absent' within
        · exact delimited.differ (List.mem_singleton.mp last)

/-- Going over a match leaves what comes before it and after it as they are read alone. -/
theorem Delimited.scan_append (delimited : expression.Delimited opening closing) {word : List Char}
    (matched : expression.Matches word) (before after : List Char) :
    expression.scan (before ++ word ++ after) = expression.scan before ++ .matched word :: expression.scan after := by
  induction hlength : before.length using Nat.strong_induction_on generalizing before with
  | _ length ih =>
    cases before with
    | nil => exact scan_matched (delimited.nonempty matched) (delimited.matchPrefix_eq matched after)
    | cons c before =>
      cases found : expression.matchPrefix (c :: before) with
      | none =>
        have missed : expression.matchPrefix (c :: before ++ word ++ after) = none := by
          cases found' : expression.matchPrefix (c :: before ++ word ++ after) with
          | none => rfl
          | some other =>
            obtain ⟨matched', rest, split⟩ := matchPrefix_some found'
            obtain ⟨more, inside⟩ := delimited.apart (List.cons_ne_nil c before) matched matched' split
            exact absurd matched' (matchPrefix_none found inside.symm)
        rw [scan_plain found]
        simp only [List.cons_append] at missed ⊢
        rw [scan_plain missed, ih before.length (by simp [← hlength]) before rfl]
      | some other =>
        obtain ⟨matched', rest, split⟩ := matchPrefix_some found
        have nonempty := delimited.nonempty matched'
        have shorter : rest.length < length := by
          rw [← hlength, split, List.length_append]
          exact Nat.lt_add_of_pos_left (List.length_pos_iff.mpr nonempty)
        rw [split, List.append_assoc, List.append_assoc, ← List.append_assoc rest,
          scan_matched nonempty (delimited.matchPrefix_eq matched' _),
          scan_matched nonempty (delimited.matchPrefix_eq matched' _), ih rest.length shorter rest rfl,
          List.cons_append]

theorem scan_free {text : List Char} (free : expression.Free text) :
    expression.scan text = text.map .plain := by
  induction text with
  | nil => rfl
  | cons c text ih =>
    have missed : expression.matchPrefix (c :: text) = none := by
      cases found : expression.matchPrefix (c :: text) with
      | none => rfl
      | some word =>
        obtain ⟨matched, rest, split⟩ := matchPrefix_some found
        exact absurd matched (free word ⟨[], rest, split.symm⟩)
    rw [scan_plain missed, ih fun word inside => free word (inside.trans (List.infix_cons List.infix_rfl)),
      List.map_cons]

theorem matches_of_mem_scan {text word : List Char} (member : .matched word ∈ expression.scan text) :
    expression.Matches word := by
  suffices general : ∀ skipped, .matched word ∈ expression.scanFrom skipped text → expression.Matches word from
    general 0 member
  clear member
  intro skipped member
  induction text generalizing skipped with
  | nil => cases skipped <;> cases member
  | cons c text ih =>
    cases skipped with
    | succ skipped => exact ih skipped member
    | zero =>
      rw [scanFrom] at member
      split at member
      · rename_i found
        rcases List.mem_cons.mp member with same | later
        · rw [Piece.matched.inj same]
          exact (matchPrefix_some found).1
        · exact ih _ later
      · rcases List.mem_cons.mp member with same | later
        · cases same
        · exact ih _ later

theorem matches_of_mem_findAll {text word : List Char} (member : word ∈ expression.findAll text) :
    expression.Matches word := by
  obtain ⟨piece, inside, same⟩ := List.mem_filterMap.mp member
  cases piece with
  | plain c => cases same
  | matched other =>
    cases same
    exact matches_of_mem_scan inside

theorem Delimited.findAll_append (delimited : expression.Delimited opening closing) {word : List Char}
    (matched : expression.Matches word) (before after : List Char) :
    expression.findAll (before ++ word ++ after) =
      expression.findAll before ++ word :: expression.findAll after := by
  rw [findAll, delimited.scan_append matched, List.filterMap_append]
  rfl

theorem Delimited.removeAll_append (delimited : expression.Delimited opening closing) {word : List Char}
    (matched : expression.Matches word) (before after : List Char) :
    expression.removeAll (before ++ word ++ after) = expression.removeAll before ++ expression.removeAll after := by
  rw [removeAll, delimited.scan_append matched, List.filterMap_append]
  rfl

theorem findAll_free {text : List Char} (free : expression.Free text) : expression.findAll text = [] := by
  rw [findAll, scan_free free, List.filterMap_map, List.filterMap_eq_nil_iff]
  intro c _
  rfl

theorem Delimited.free_of_notMem (delimited : expression.Delimited opening closing) {text : List Char}
    (absent : opening ∉ text) : expression.Free text := by
  intro word inside matched
  obtain ⟨body, rfl, -⟩ := delimited.shape word matched
  exact absent (inside.subset List.mem_cons_self)

theorem Delimited.findAll_eq_nil_iff (delimited : expression.Delimited opening closing) {text : List Char} :
    expression.findAll text = [] ↔ expression.Free text := by
  refine ⟨fun nothing word inside matched => ?_, findAll_free⟩
  obtain ⟨before, after, rfl⟩ := inside
  rw [delimited.findAll_append matched] at nothing
  exact List.append_ne_nil_of_right_ne_nil _ (List.cons_ne_nil _ _) nothing

theorem removeAll_free {text : List Char} (free : expression.Free text) : expression.removeAll text = text := by
  rw [removeAll, scan_free free, List.filterMap_map]
  exact List.filterMap_some

end

end Regex
