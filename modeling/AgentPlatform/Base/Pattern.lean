import AgentPlatform.Base.Regex
import AgentPlatform.Base.Text

/-! # Patterns of the `re` module -/

namespace Python

/-- The characters that a letter of a pattern matches under `re.IGNORECASE`. -/
def foldsTo (letter c : Char) : Bool :=
  c = letter || c = letter.toUpper || (letter = 'i' && (c.toNat = 0x130 || c.toNat = 0x131)) ||
    (letter = 's' && c.toNat = 0x17F) || (letter = 'k' && c.toNat = 0x212A)

def isLetter (letter : Char) : Bool := 'a' ≤ letter && letter ≤ 'z'

/-- The tables of the Unicode database. -/
structure Unicode where
  alnum : Char → Bool
  decimal : Char → Bool
  nfkc : String → String
  casefold : String → String
  letters : ∀ letter c, isLetter letter = true → foldsTo letter c = true → alnum c = true
  digits : ∀ c, c.toNat < 0x80 → decimal c = ('0' ≤ c && c ≤ '9')
  /-- Case folding has no context. -/
  casefold_append : ∀ text more, casefold (text ++ more) = casefold text ++ casefold more

/-- `\w`. -/
def Unicode.isWord (unicode : Unicode) (c : Char) : Bool := unicode.alnum c || c = '_'

def literal (text : List Char) : Regex :=
  text.foldr (fun letter rest => .seq (.char (foldsTo letter)) rest) .empty

def exactly (text : List Char) : Regex := text.foldr (fun c rest => .seq (.char (· = c)) rest) .empty

def optionally (expression : Regex) : Regex := .alt expression .empty

/-- `\s*` and `\s+`. -/
def anySpaces : Regex := .many isSpace

def someSpaces : Regex := .seq (.char isSpace) anySpaces

def anyOf (first second third : String) : Regex :=
  .alt (literal first.toList) (.alt (literal second.toList) (literal third.toList))

def fullMatch (expression : Regex) (text : String) : Bool := (expression.rests text.toList).any List.isEmpty

def isLetters (text : List Char) : Bool := text ≠ [] && text.all isLetter

theorem fullMatch_iff {expression : Regex} {text : String} :
    fullMatch expression text = true ↔ expression.Matches text.toList := by
  rw [fullMatch, List.any_eq_true]
  constructor
  · rintro ⟨rest, tried, empty⟩
    obtain ⟨word, whole, matched⟩ := Regex.mem_rests.mp tried
    rw [whole, List.isEmpty_iff.mp empty, List.append_nil]
    exact matched
  · intro matched
    exact ⟨[], Regex.mem_rests.mpr ⟨text.toList, (List.append_nil _).symm, matched⟩, rfl⟩

theorem exactly_matches {text word : List Char} : (exactly text).Matches word ↔ word = text := by
  induction text generalizing word with
  | nil => rfl
  | cons c text ih =>
    constructor
    · rintro ⟨start, rest, rfl, ⟨found, rfl, same⟩, matched⟩
      rw [ih.mp matched, of_decide_eq_true same]
      rfl
    · rintro rfl
      exact ⟨[c], text, rfl, ⟨c, rfl, decide_eq_true rfl⟩, ih.mpr rfl⟩

theorem oneOrMore_matches {kind : Char → Bool} {word : List Char} :
    (Regex.seq (.char kind) (.many kind)).Matches word ↔ word ≠ [] ∧ ∀ c ∈ word, kind c = true := by
  constructor
  · rintro ⟨start, rest, rfl, ⟨c, rfl, first⟩, others⟩
    exact ⟨List.cons_ne_nil c rest, List.forall_mem_cons.mpr ⟨first, others⟩⟩
  · rintro ⟨nonempty, alike⟩
    cases word with
    | nil => exact absurd rfl nonempty
    | cons c rest =>
      obtain ⟨first, others⟩ := List.forall_mem_cons.mp alike
      exact ⟨[c], rest, rfl, ⟨c, rfl, first⟩, others⟩

theorem literal_matches {text word : List Char} (matched : (literal text).Matches word) :
    word.length = text.length ∧ ∀ c ∈ word, ∃ letter ∈ text, foldsTo letter c = true := by
  induction text generalizing word with
  | nil =>
    obtain rfl : word = [] := matched
    exact ⟨rfl, by simp⟩
  | cons letter text ih =>
    obtain ⟨start, rest, rfl, ⟨c, rfl, folds⟩, matched⟩ := matched
    obtain ⟨length, letters⟩ := ih matched
    refine ⟨congrArg (· + 1) length, List.forall_mem_cons.mpr ⟨⟨letter, List.mem_cons_self, folds⟩, ?_⟩⟩
    intro other member
    obtain ⟨found, present, folds⟩ := letters other member
    exact ⟨found, List.mem_cons_of_mem _ present, folds⟩

theorem literal_word (unicode : Unicode) {text word : List Char} (letters : isLetters text = true)
    (matched : (literal text).Matches word) : word ≠ [] ∧ ∀ c ∈ word, unicode.isWord c = true := by
  simp only [isLetters, Bool.and_eq_true, decide_eq_true_eq, List.all_eq_true] at letters
  obtain ⟨length, folded⟩ := literal_matches matched
  constructor
  · rintro rfl
    exact letters.1 (List.length_eq_zero_iff.mp length.symm)
  · intro c member
    obtain ⟨letter, present, folds⟩ := folded c member
    simp only [Unicode.isWord, unicode.letters letter c (letters.2 letter present) folds, Bool.true_or]

theorem literal_startsWith (unicode : Unicode) {text : List Char} (letters : isLetters text = true) :
    (literal text).StartsWith unicode.isWord := by
  intro word matched
  obtain ⟨nonempty, held⟩ := literal_word unicode letters matched
  exact ⟨word.head nonempty, List.head_mem_head? nonempty, held _ (List.head_mem nonempty)⟩

theorem literal_endsWith (unicode : Unicode) {text : List Char} (letters : isLetters text = true) :
    (literal text).EndsWith unicode.isWord := by
  intro word matched
  obtain ⟨nonempty, held⟩ := literal_word unicode letters matched
  exact ⟨word.getLast nonempty, List.getLast_mem_getLast? nonempty, held _ (List.getLast_mem nonempty)⟩

theorem anyOf_startsWith (unicode : Unicode) {first second third : String}
    (letters : isLetters first.toList = true) (letters' : isLetters second.toList = true)
    (letters'' : isLetters third.toList = true) : (anyOf first second third).StartsWith unicode.isWord :=
  (literal_startsWith unicode letters).alt
    ((literal_startsWith unicode letters').alt (literal_startsWith unicode letters''))

theorem anyOf_endsWith (unicode : Unicode) {first second third : String}
    (letters : isLetters first.toList = true) (letters' : isLetters second.toList = true)
    (letters'' : isLetters third.toList = true) : (anyOf first second third).EndsWith unicode.isWord :=
  (literal_endsWith unicode letters).alt
    ((literal_endsWith unicode letters').alt (literal_endsWith unicode letters''))

/-- Letters and digits of ASCII, and the other characters that a letter matches. -/
def asciiAlnum (c : Char) : Bool :=
  (('a' ≤ c && c ≤ 'z') || ('A' ≤ c && c ≤ 'Z') || ('0' ≤ c && c ≤ '9')) ||
    (c.toNat = 0x130 || c.toNat = 0x131 || c.toNat = 0x17F || c.toNat = 0x212A)

def letters : List Char := (List.range 26).map fun position => Char.ofNat (97 + position)

theorem mem_letters {letter : Char} (lower : isLetter letter = true) : letter ∈ letters := by
  simp only [isLetter, Bool.and_eq_true, decide_eq_true_eq, Char.le_def, UInt32.le_iff_toNat_le] at lower
  have low : 97 ≤ letter.toNat := lower.1
  have high : letter.toNat ≤ 122 := lower.2
  refine List.mem_map.mpr ⟨letter.toNat - 97, List.mem_range.mpr (by omega), ?_⟩
  rw [Nat.add_sub_cancel' low]
  exact Char.ofNat_toNat letter

theorem asciiAlnum_letters (letter c : Char) (lower : isLetter letter = true) (folds : foldsTo letter c = true) :
    asciiAlnum c = true := by
  have known : (letters.all fun letter => asciiAlnum letter && asciiAlnum letter.toUpper) = true := by
    decide
  obtain ⟨small, capital⟩ := Bool.and_eq_true_iff.mp (List.all_eq_true.mp known letter (mem_letters lower))
  simp only [foldsTo, Bool.or_eq_true, Bool.and_eq_true, decide_eq_true_eq] at folds
  rcases folds with (((rfl | rfl) | ⟨-, dotted | dotless⟩) | ⟨-, long⟩) | ⟨-, kelvin⟩
  · exact small
  · exact capital
  · simp [asciiAlnum, dotted]
  · simp [asciiAlnum, dotless]
  · simp [asciiAlnum, long]
  · simp [asciiAlnum, kelvin]

theorem lowercase_append (text more : String) :
    String.ofList ((text ++ more).toList.map Char.toLower) =
      String.ofList (text.toList.map Char.toLower) ++ String.ofList (more.toList.map Char.toLower) := by
  rw [String.toList_append, List.map_append, String.ofList_append]

/-- The tables on ASCII text, which no normal form changes. -/
def asciiUnicode : Unicode where
  alnum := asciiAlnum
  decimal c := '0' ≤ c && c ≤ '9'
  nfkc := id
  casefold text := String.ofList (text.toList.map Char.toLower)
  letters := asciiAlnum_letters
  digits _ _ := rfl
  casefold_append := lowercase_append

end Python
