import Mathlib.Data.List.Basic
import Mathlib.Data.Option.Basic
import Mathlib.Data.String.Basic

/-! # Collection filters

The `all` filters of OData over a collection of strings, with a negated `search.in` inside:
`field/all(x: not search.in(x, 'values', 'delimiters'))`. -/

namespace OData

def quoteMark : Char := Char.ofNat 39

def quoted (text : List Char) : List Char :=
  text.flatMap fun c => if c = quoteMark then [quoteMark, quoteMark] else [c]

/-- The rest of a literal after its opening quote, and what follows its closing quote. -/
def readLiteral : List Char → Option (List Char × List Char)
  | [] => none
  | c :: rest =>
    if c = quoteMark then
      match rest with
      | [] => some ([], [])
      | next :: rest' =>
        if next = quoteMark then (readLiteral rest').map fun read => (quoteMark :: read.1, read.2)
        else some ([], next :: rest')
    else (readLiteral rest).map fun read => (c :: read.1, read.2)

def isNameChar (c : Char) : Bool := c.isAlphanum || c == '_'

def readName (input : List Char) : List Char × List Char :=
  (input.takeWhile isNameChar, input.dropWhile isNameChar)

def expect (token : String) (input : List Char) : Option (List Char) :=
  if token.toList <+: input then some (input.drop token.toList.length) else none

structure CollectionFilter where
  field : String
  values : String
  delimiters : String
deriving DecidableEq, Repr

def parse (text : String) : Option CollectionFilter := do
  let (field, rest) := readName text.toList
  let rest ← expect "/all(" rest
  let (bound, rest) := readName rest
  let rest ← expect ": not search.in(" rest
  let (tested, rest) := readName rest
  guard (tested = bound)
  let rest ← expect ", '" rest
  let (values, rest) ← readLiteral rest
  let rest ← expect ", '" rest
  let (delimiters, rest) ← readLiteral rest
  let rest ← expect "))" rest
  guard (rest = [])
  return ⟨String.ofList field, String.ofList values, String.ofList delimiters⟩

/-- The entries of the value list, split at every delimiter character. -/
def CollectionFilter.entries (filter : CollectionFilter) : List String :=
  (filter.values.toList.splitOnP (· ∈ filter.delimiters.toList)).map String.ofList

def CollectionFilter.holds (filter : CollectionFilter) (collection : List String) : Bool :=
  collection.all fun member => !decide (member ∈ filter.entries)

/-- The text of a filter, with every quote of a literal doubled. -/
def render (bound : String) (filter : CollectionFilter) : List Char :=
  filter.field.toList ++ "/all(".toList ++ bound.toList ++ ": not search.in(".toList ++ bound.toList ++
    ", '".toList ++ quoted filter.values.toList ++ "', '".toList ++ quoted filter.delimiters.toList ++
    "'))".toList

theorem quoted_of_not_mem {text : List Char} (plain : quoteMark ∉ text) : quoted text = text := by
  induction text with
  | nil => rfl
  | cons c text ih =>
    obtain ⟨other, plain⟩ := not_or.mp (mt List.mem_cons.mpr plain)
    change (if c = quoteMark then _ else _) ++ quoted text = _
    rw [ih plain, if_neg (Ne.symm other), List.singleton_append]

theorem quoted_append (first second : List Char) :
    quoted (first ++ second) = quoted first ++ quoted second :=
  List.flatMap_append

theorem quoted_intercalate {delimiter : Char} (other : delimiter ≠ quoteMark) (texts : List (List Char)) :
    quoted ([delimiter].intercalate texts) = [delimiter].intercalate (texts.map quoted) := by
  induction texts with
  | nil => rfl
  | cons text texts ih =>
    cases texts with
    | nil => simp [List.intercalate]
    | cons next texts =>
      have plain : quoted [delimiter] = [delimiter] := quoted_of_not_mem (by simpa using other.symm)
      rw [List.map_cons, List.map_cons, List.intercalate_cons_cons, List.intercalate_cons_cons, quoted_append,
        quoted_append, ih, List.map_cons, plain]

theorem readLiteral_other {c : Char} (other : c ≠ quoteMark) (rest : List Char) :
    readLiteral (c :: rest) = (readLiteral rest).map fun read => (c :: read.1, read.2) := by
  cases rest <;> simp [readLiteral, other]

theorem readLiteral_quoted (text rest : List Char) (closed : rest.head? ≠ some quoteMark) :
    readLiteral (quoted text ++ quoteMark :: rest) = some (text, rest) := by
  induction text with
  | nil =>
    cases rest with
    | nil => simp [quoted, readLiteral]
    | cons next rest =>
      have other : next ≠ quoteMark := fun same => closed (by simp [same])
      simp [quoted, readLiteral, other]
  | cons c text ih =>
    simp only [quoted, List.flatMap_cons] at ih ⊢
    by_cases mark : c = quoteMark
    · simp [mark, readLiteral, ih]
    · rw [if_neg mark, List.append_assoc, List.singleton_append, readLiteral_other mark, ih]
      rfl

theorem readName_append {name : List Char} (letters : ∀ c ∈ name, isNameChar c = true)
    {next : Char} (other : isNameChar next = false) (rest : List Char) :
    readName (name ++ next :: rest) = (name, next :: rest) := by
  rw [readName, List.takeWhile_append_of_pos letters, List.dropWhile_append_of_pos letters]
  simp [other]

theorem expect_append (token : String) (rest : List Char) :
    expect token (token.toList ++ rest) = some rest := by
  simp [expect]

theorem parse_render (filter : CollectionFilter) {bound : String}
    (field : ∀ c ∈ filter.field.toList, isNameChar c = true)
    (letters : ∀ c ∈ bound.toList, isNameChar c = true) :
    parse (String.ofList (render bound filter)) = some filter := by
  have fieldRead (rest : List Char) : readName (filter.field.toList ++ ("/all(".toList ++ rest)) =
      (filter.field.toList, "/all(".toList ++ rest) :=
    readName_append field (show isNameChar '/' = false by decide) ('a' :: 'l' :: 'l' :: '(' :: rest)
  have boundRead (rest : List Char) : readName (bound.toList ++ (": not search.in(".toList ++ rest)) =
      (bound.toList, ": not search.in(".toList ++ rest) :=
    readName_append letters (show isNameChar ':' = false by decide) (" not search.in(".toList ++ rest)
  have testedRead (rest : List Char) : readName (bound.toList ++ (", '".toList ++ rest)) =
      (bound.toList, ", '".toList ++ rest) :=
    readName_append letters (show isNameChar ',' = false by decide) (" '".toList ++ rest)
  have valuesRead (rest : List Char) :
      readLiteral (quoted filter.values.toList ++ ("', '".toList ++ rest)) =
        some (filter.values.toList, ", '".toList ++ rest) :=
    readLiteral_quoted filter.values.toList (", '".toList ++ rest) (by simp [quoteMark])
  have delimitersRead :
      readLiteral (quoted filter.delimiters.toList ++ "'))".toList) =
        some (filter.delimiters.toList, "))".toList) :=
    readLiteral_quoted filter.delimiters.toList "))".toList (by decide)
  have ending : expect "))" "))".toList = some [] := by decide
  simp only [parse, render, String.toList_ofList, List.append_assoc, fieldRead, expect_append,
    Option.bind_eq_bind, Option.bind_some, boundRead, testedRead, valuesRead, delimitersRead, ending,
    String.ofList_toList]
  simp

theorem mem_entries_intercalate {filter : CollectionFilter} (delimiter : Char) {values : List String}
    (separated : filter.delimiters = String.singleton delimiter)
    (joined : filter.values = (String.singleton delimiter).intercalate values)
    (whole : ∀ value ∈ values, delimiter ∉ value.toList) (entry : String) :
    entry ∈ filter.entries ↔ entry ∈ values ∨ values = [] ∧ entry = "" := by
  have splitter : filter.values.toList.splitOnP (· ∈ filter.delimiters.toList) =
      ([delimiter].intercalate (values.map String.toList)).splitOn delimiter := by
    rw [joined, separated, String.toList_intercalate, String.toList_singleton, List.splitOn_eq_splitOnP]
    congr 1
    funext c
    simp only [List.mem_singleton, beq_eq_decide]
  rw [CollectionFilter.entries, splitter]
  by_cases none : values = []
  · subst none
    simp [List.intercalate]
  · have apart : ∀ text ∈ values.map String.toList, delimiter ∉ text := by
      simpa using whole
    rw [List.splitOn_intercalate delimiter apart (by simpa using none), List.map_map]
    simp [none]

end OData
