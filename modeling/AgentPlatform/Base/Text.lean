import Mathlib.Data.List.Basic
import Mathlib.Data.List.DropRight
import Mathlib.Data.List.Infix
import Mathlib.Tactic.Set
import Mathlib.Order.Basic

/-! # Python sequence operations

Index clamping, slicing, `rfind` and `strip` as the language defines them on negative and
out-of-range positions. -/

namespace Python

/-- A slice bound: negative positions count from the end, and both ends are clamped. -/
def clampIndex (length : Nat) (position : Int) : Nat :=
  if position < 0 then (position + length).toNat else min position.toNat length

theorem clampIndex_le (length : Nat) (position : Int) : clampIndex length position ≤ length := by
  unfold clampIndex
  split <;> omega

theorem clampIndex_natural (length : Nat) {position : Int} (low : 0 ≤ position)
    (high : position ≤ length) : (clampIndex length position : Int) = position := by
  unfold clampIndex
  split <;> omega

theorem clampIndex_negative (length : Nat) {position : Int} (low : -length ≤ position)
    (high : position < 0) : (clampIndex length position : Int) = length + position := by
  unfold clampIndex
  split <;> omega

def slice {α : Type} (items : List α) (start stop : Int) : List α :=
  (items.take (clampIndex items.length stop)).drop (clampIndex items.length start)

theorem slice_isWithin {α : Type} (items : List α) (start stop : Int) :
    slice items start stop <:+: items :=
  (List.drop_suffix _ _).isInfix.trans (List.take_prefix _ _).isInfix

theorem slice_length {α : Type} (items : List α) (start stop : Int) :
    (slice items start stop).length =
      clampIndex items.length stop - clampIndex items.length start := by
  have bound := clampIndex_le items.length stop
  simp only [slice, List.length_drop, List.length_take]
  omega

theorem slice_eq_nil {α : Type} {items : List α} {start stop : Int}
    (crossed : clampIndex items.length stop ≤ clampIndex items.length start) :
    slice items start stop = [] := by
  apply List.eq_nil_of_length_eq_zero
  rw [slice_length]
  omega

theorem mem_slice {α : Type} {items : List α} {start stop : Int} {position : Nat}
    (low : 0 ≤ start) (above : start ≤ position) (below : (position : Int) < stop)
    (bound : position < items.length) : items[position] ∈ slice items start stop := by
  have first : clampIndex items.length start ≤ position := by unfold clampIndex; split <;> omega
  have last : position < clampIndex items.length stop := by unfold clampIndex; split <;> omega
  rw [slice, List.mem_iff_getElem?]
  refine ⟨position - clampIndex items.length start, ?_⟩
  rw [List.getElem?_drop, Nat.add_sub_cancel' first, List.getElem?_take_of_lt last,
    List.getElem?_eq_getElem bound]

theorem mem_of_mem_slice {α : Type} {items : List α} {start stop : Int} {item : α}
    (member : item ∈ slice items start stop) : item ∈ items :=
  List.mem_of_mem_take (List.mem_of_mem_drop member)

theorem slice_natural {α : Type} (items : List α) {stop : Int} (nonneg : 0 ≤ stop) :
    slice items 0 stop = items.take stop.toNat := by
  have start : clampIndex items.length 0 = 0 := by simp [clampIndex]
  rw [slice, start, List.drop_zero, clampIndex, if_neg (Int.not_lt.mpr nonneg), ← List.take_eq_take_min]

/-- `items.rfind(target, start, stop)`: the last occurrence in the clamped range, or `-1`. -/
def rfind {α : Type} [DecidableEq α] (items : List α) (target : α) (start stop : Int) : Int :=
  let low := clampIndex items.length start
  let high := clampIndex items.length stop
  match (List.range' low (high - low)).reverse.find? (fun i => items[i]? = some target) with
  | some i => i
  | none => -1

theorem rfind_cases {α : Type} [DecidableEq α] (items : List α) (target : α) (start stop : Int) :
    (rfind items target start stop = -1 ∧
      ∀ i, clampIndex items.length start ≤ i → i < clampIndex items.length stop →
        items[i]? ≠ some target) ∨
    ∃ found : Nat, rfind items target start stop = found ∧
      clampIndex items.length start ≤ found ∧ found < clampIndex items.length stop ∧
      items[found]? = some target ∧
      ∀ i, found < i → i < clampIndex items.length stop → items[i]? ≠ some target := by
  set low := clampIndex items.length start with lowDef
  set high := clampIndex items.length stop with highDef
  cases search : (List.range' low (high - low)).reverse.find?
      (fun i => items[i]? = some target) with
  | none =>
    left
    refine ⟨by simp only [rfind, ← lowDef, ← highDef, search], ?_⟩
    intro i above below present
    have listed : i ∈ (List.range' low (high - low)).reverse := by
      rw [List.mem_reverse, List.mem_range'_1]
      omega
    exact List.find?_eq_none.mp search i listed (by simpa using present)
  | some found =>
    right
    have member := List.mem_of_find?_eq_some search
    simp only [List.mem_reverse, List.mem_range'_1] at member
    refine ⟨found, by simp only [rfind, ← lowDef, ← highDef, search], member.1, by omega, ?_, ?_⟩
    · simpa using List.find?_some search
    · intro i above below present
      obtain ⟨_, before, after, split, earlier⟩ := List.find?_eq_some_iff_append.mp search
      have listed : i ∈ (List.range' low (high - low)).reverse := by
        rw [List.mem_reverse, List.mem_range'_1]
        omega
      have sorted : (List.range' low (high - low)).reverse.Pairwise (· > ·) := by
        rw [List.pairwise_reverse]
        exact List.pairwise_lt_range'
      rw [split] at listed sorted
      rcases List.mem_append.mp listed with inBefore | inAfter
      · simpa [present] using earlier i inBefore
      · rcases List.mem_cons.mp inAfter with same | inAfter
        · omega
        · have order := (List.pairwise_cons.mp (List.pairwise_append.mp sorted).2.1).1 i inAfter
          omega

theorem rfind_range {α : Type} [DecidableEq α] {items : List α} (target : α) {start stop : Int}
    (low : 0 ≤ start) (ordered : start ≤ stop) (high : stop ≤ items.length) :
    (rfind items target start stop = -1 ∧
      ∀ i : Nat, start ≤ i → (i : Int) < stop → items[i]? ≠ some target) ∨
    ∃ found : Nat, rfind items target start stop = found ∧
      start ≤ found ∧ (found : Int) < stop ∧ items[found]? = some target ∧
      ∀ i : Nat, found < i → (i : Int) < stop → items[i]? ≠ some target := by
  have first := clampIndex_natural items.length low (by omega)
  have last := clampIndex_natural items.length (by omega : 0 ≤ stop) high
  rcases rfind_cases items target start stop with ⟨value, absent⟩ | ⟨found, value, facts⟩
  · exact .inl ⟨value, fun i above below => absent i (by omega) (by omega)⟩
  · obtain ⟨above, below, present, later⟩ := facts
    exact .inr ⟨found, value, by omega, by omega, present, fun i next inside => later i next (by omega)⟩

theorem rfind_crossed {α : Type} [DecidableEq α] {items : List α} {target : α} {start stop : Int}
    (crossed : clampIndex items.length stop ≤ clampIndex items.length start) :
    rfind items target start stop = -1 := by
  rcases rfind_cases items target start stop with ⟨value, _⟩ | ⟨found, _, above, below, _⟩
  · exact value
  · omega

/-- The code points with the Unicode White_Space property. -/
def isWhiteSpace (c : Char) : Bool :=
  let n := c.toNat
  (9 ≤ n && n ≤ 13) || n == 32 || n == 0x85 || n == 0xa0 || n == 0x1680 ||
    (0x2000 ≤ n && n ≤ 0x200a) || n == 0x2028 || n == 0x2029 || n == 0x202f || n == 0x205f ||
    n == 0x3000

/-- `str.isspace` also holds of the four information separators. -/
def isSpace (c : Char) : Bool :=
  isWhiteSpace c || (28 ≤ c.toNat && c.toNat ≤ 31)

/-- The text without its leading and trailing characters that satisfy `blank`. -/
def stripBy (blank : Char → Bool) (text : List Char) : List Char :=
  (text.dropWhile blank).rdropWhile blank

theorem stripBy_isWithin (blank : Char → Bool) (text : List Char) : stripBy blank text <:+: text :=
  (List.rdropWhile_prefix _ _).isInfix.trans (List.dropWhile_suffix _).isInfix

theorem stripBy_eq_nil_iff (blank : Char → Bool) (text : List Char) :
    stripBy blank text = [] ↔ ∀ c ∈ text, blank c = true := by
  rw [stripBy, List.rdropWhile_eq_nil_iff]
  constructor
  · intro rest c member
    rw [← List.takeWhile_append_dropWhile (p := blank) (l := text)] at member
    rcases List.mem_append.mp member with early | late
    · exact List.mem_takeWhile_imp early
    · exact rest c late
  · intro allBlank c member
    exact allBlank c ((List.dropWhile_suffix _).subset member)

theorem stripBy_eq_self_iff (blank : Char → Bool) (text : List Char) :
    stripBy blank text = text ↔
      (∀ c ∈ text.head?, blank c = false) ∧ ∀ c ∈ text.getLast?, blank c = false := by
  have front : text.dropWhile blank = text ↔ ∀ c ∈ text.head?, blank c = false := by
    rw [List.dropWhile_eq_self_iff]
    cases text with
    | nil => simp
    | cons c rest => simp
  have back : text.rdropWhile blank = text ↔ ∀ c ∈ text.getLast?, blank c = false := by
    rw [List.rdropWhile_eq_self_iff]
    constructor
    · intro kept c last
      obtain ⟨nonempty, rfl⟩ := List.mem_getLast?_eq_getLast last
      exact Bool.eq_false_iff.mpr (kept nonempty)
    · intro kept nonempty
      exact Bool.eq_false_iff.mp (kept _ (List.getLast_mem_getLast? nonempty))
  rw [← front, ← back]
  constructor
  · intro same
    have short : text.length ≤ (text.dropWhile blank).length := by
      conv_lhs => rw [← same]
      exact (List.rdropWhile_prefix _ _).length_le
    have kept : text.dropWhile blank = text := (List.dropWhile_suffix _).eq_of_length_le short
    refine ⟨kept, ?_⟩
    rw [stripBy, kept] at same
    exact same
  · rintro ⟨kept, kept'⟩
    rw [stripBy, kept, kept']

theorem stripBy_stripBy (blank : Char → Bool) (text : List Char) :
    stripBy blank (stripBy blank text) = stripBy blank text := by
  have head : (stripBy blank text).dropWhile blank = stripBy blank text := by
    cases kept : stripBy blank text with
    | nil => rfl
    | cons c rest =>
      obtain ⟨tail, whole⟩ : stripBy blank text <+: text.dropWhile blank :=
        List.rdropWhile_prefix _ _
      rw [kept, List.cons_append] at whole
      have first := List.head?_dropWhile_not blank text
      rw [← whole] at first
      simp only [List.head?_cons] at first
      simp [first]
  rw [stripBy, head]
  exact List.rdropWhile_idempotent _ _

/-- `text.strip()`. -/
def strip (text : String) : String := String.ofList (stripBy isSpace text.toList)

/-- The trimming that a string field of a contract with `str_strip_whitespace` applies. -/
def trim (text : String) : String := String.ofList (stripBy isWhiteSpace text.toList)

theorem trim_eq_self_iff {text : String} :
    trim text = text ↔ (∀ c ∈ text.toList.head?, isWhiteSpace c = false) ∧
      ∀ c ∈ text.toList.getLast?, isWhiteSpace c = false := by
  rw [← stripBy_eq_self_iff, trim, ← String.toList_inj, String.toList_ofList]

@[simp] theorem trim_trim (text : String) : trim (trim text) = trim text := by
  simp only [trim, String.toList_ofList, stripBy_stripBy]

/-- `text.split()`: the maximal runs of characters that are not white space. -/
def split (text : String) : List String :=
  ((text.toList.splitOnP isSpace).filter (· ≠ [])).map String.ofList

end Python
