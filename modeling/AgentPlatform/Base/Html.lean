import Mathlib.Data.List.Basic
import Mathlib.Tactic.SplitIfs

/-! # Reading HTML

What a reader makes of a page: its tags, the quoted values inside them, its text, and the references in text and
values. A page is rendered from markup and from content that is escaped. -/

namespace Html

/-- Where a reader stands; a value is inside the quotes that opened it. -/
inductive Mode where
  | text
  | tag
  | value (quote : Char)
deriving DecidableEq, Repr

def Mode.after : Mode → Char → Mode
  | .text, c => if c = '<' then .tag else .text
  | .tag, c => if c = '>' then .text else if c = '"' ∨ c = '\'' then .value c else .tag
  | .value quote, c => if c = quote then .tag else .value quote

/-- The place of a character: the brackets of a tag and the quotes of a value belong to the tag. -/
def Mode.place (mode : Mode) (c : Char) : Mode := if mode = .tag then .tag else mode.after c

structure Glyph where
  place : Mode
  char : Char
deriving DecidableEq, Repr

theorem toList_spelled {text : String} {chars : List Char} (same : text = String.ofList chars) : text.toList = chars := by
  rw [same, String.toList_ofList]

/-! ## Escaping -/

/-- The reference that stands for a special character, without its `&`. -/
def entity (c : Char) : Option String :=
  if c = '&' then some "amp;"
  else if c = '<' then some "lt;"
  else if c = '>' then some "gt;"
  else if c = '"' then some "quot;"
  else if c = '\'' then some "#x27;"
  else none

def escapeChar (c : Char) : List Char :=
  match entity c with
  | none => [c]
  | some name => '&' :: name.toList

def escape (content : List Char) : List Char := content.flatMap escapeChar

theorem special_of_entity {c : Char} (plain : entity c = none) :
    c ≠ '&' ∧ c ≠ '<' ∧ c ≠ '>' ∧ c ≠ '"' ∧ c ≠ '\'' := by
  refine ⟨?_, ?_, ?_, ?_, ?_⟩
  all_goals
    rintro rfl
    exact absurd plain (by decide)

theorem entity_cases {c : Char} {name : String} (special : entity c = some name) :
    (c = '&' ∧ name = "amp;") ∨ (c = '<' ∧ name = "lt;") ∨ (c = '>' ∧ name = "gt;") ∨ (c = '"' ∧ name = "quot;") ∨
      (c = '\'' ∧ name = "#x27;") := by
  unfold entity at special
  split_ifs at special with first second third fourth fifth <;> cases special
  · exact .inl ⟨first, rfl⟩
  · exact .inr (.inl ⟨second, rfl⟩)
  · exact .inr (.inr (.inl ⟨third, rfl⟩))
  · exact .inr (.inr (.inr (.inl ⟨fourth, rfl⟩)))
  · exact .inr (.inr (.inr (.inr ⟨fifth, rfl⟩)))

theorem escapeChar_of_entity {c : Char} {name : String} (special : entity c = some name) :
    escapeChar c = '&' :: name.toList := by
  rw [escapeChar, special]

theorem escape_plain {content : List Char} (plain : ∀ c ∈ content, entity c = none) : escape content = content := by
  induction content with
  | nil => rfl
  | cons c content ih =>
    have first : escapeChar c = [c] := by rw [escapeChar, plain c List.mem_cons_self]
    have rest := ih fun other member => plain other (List.mem_cons_of_mem _ member)
    change escapeChar c ++ escape content = c :: content
    rw [first, rest, List.singleton_append]

theorem escape_eq_nil {content : List Char} (none : escape content = []) : content = [] := by
  cases content with
  | nil => rfl
  | cons c content =>
    have first : escapeChar c = [] := (List.append_eq_nil_iff.mp none).1
    unfold escapeChar at first
    split at first <;> cases first

/-! ## Reading -/

/-- The references that a reader knows, among them those of the special characters. -/
structure References where
  decode : List Char → Option (List Char × List Char)
  shorter : ∀ text decoded rest, decode text = some (decoded, rest) → rest.length < text.length
  known : ∀ c name rest, entity c = some name → decode (name.toList ++ rest) = some ([c], rest)

/-- A reader that knows the special characters only. -/
def decodeSpecial : List Char → Option (List Char × List Char)
  | 'a' :: 'm' :: 'p' :: ';' :: rest => some (['&'], rest)
  | 'l' :: 't' :: ';' :: rest => some (['<'], rest)
  | 'g' :: 't' :: ';' :: rest => some (['>'], rest)
  | 'q' :: 'u' :: 'o' :: 't' :: ';' :: rest => some (['"'], rest)
  | '#' :: 'x' :: '2' :: '7' :: ';' :: rest => some (['\''], rest)
  | _ => none

theorem decodeSpecial_shorter (text decoded rest : List Char) (found : decodeSpecial text = some (decoded, rest)) :
    rest.length < text.length := by
  unfold decodeSpecial at found
  split at found
  all_goals
    cases found
    try simp only [List.length_cons]
    try omega

theorem decodeSpecial_known (c : Char) (name : String) (rest : List Char) (special : entity c = some name) :
    decodeSpecial (name.toList ++ rest) = some ([c], rest) := by
  rcases entity_cases special with ⟨rfl, rfl⟩ | ⟨rfl, rfl⟩ | ⟨rfl, rfl⟩ | ⟨rfl, rfl⟩ | ⟨rfl, rfl⟩ <;> rfl

def References.special : References := ⟨decodeSpecial, decodeSpecial_shorter, decodeSpecial_known⟩

/-- What follows a character that opens a reference in a mode. -/
def References.at? (references : References) (mode : Mode) (c : Char) (rest : List Char) :
    Option (List Char × List Char) :=
  if mode ≠ .tag ∧ c = '&' then references.decode rest else none

def reading (references : References) (mode : Mode) (page : List Char) : List Glyph :=
  match page with
  | [] => []
  | c :: rest =>
    match _found : references.at? mode c rest with
    | none => ⟨mode.place c, c⟩ :: reading references (mode.after c) rest
    | some (decoded, following) => decoded.map (Glyph.mk mode) ++ reading references mode following
termination_by page.length
decreasing_by
  · exact Nat.lt_succ_self _
  · unfold References.at? at _found
    split at _found
    · exact Nat.lt_succ_of_lt (references.shorter _ _ _ _found)
    · cases _found

/-- Reading without references. -/
def glyphs : Mode → List Char → List Glyph
  | _, [] => []
  | mode, c :: rest => ⟨mode.place c, c⟩ :: glyphs (mode.after c) rest

/-- A mode in which content may stand. -/
def Mode.open : Mode → Bool
  | .text => true
  | .tag => false
  | .value quote => quote = '"' ∨ quote = '\''

section

variable {references : References} {mode last : Mode}

theorem reading_none {c : Char} {rest : List Char} (none : references.at? mode c rest = none) :
    reading references mode (c :: rest) = ⟨mode.place c, c⟩ :: reading references (mode.after c) rest := by
  rw [reading]
  split
  · rfl
  · rename_i found
    rw [none] at found
    cases found

theorem reading_some {c : Char} {rest decoded following : List Char}
    (some : references.at? mode c rest = some (decoded, following)) :
    reading references mode (c :: rest) = decoded.map (Glyph.mk mode) ++ reading references mode following := by
  rw [reading]
  split
  · rename_i found
    rw [some] at found
    cases found
  · rename_i found
    rw [some] at found
    cases found
    rfl

theorem reading_append {markup : List Char} (plain : '&' ∉ markup) (rest : List Char) :
    reading references mode (markup ++ rest) =
      glyphs mode markup ++ reading references (markup.foldl Mode.after mode) rest := by
  induction markup generalizing mode with
  | nil => rfl
  | cons c markup ih =>
    obtain ⟨other, plain⟩ := not_or.mp (mt List.mem_cons.mpr plain)
    have closed : references.at? mode c (markup ++ rest) = none := by
      rw [References.at?, if_neg]
      exact fun opens => other opens.2.symm
    rw [List.cons_append, reading_none closed, ih plain]
    rfl

theorem reading_escapeChar (opened : mode.open = true) (c : Char) (rest : List Char) :
    reading references mode (escapeChar c ++ rest) = ⟨mode, c⟩ :: reading references mode rest := by
  have outside : mode ≠ .tag := by
    rintro rfl
    cases opened
  unfold escapeChar
  cases special : entity c with
  | some name =>
    have found : references.at? mode '&' (name.toList ++ rest) = some ([c], rest) := by
      rw [References.at?, if_pos ⟨outside, rfl⟩]
      exact references.known c name rest special
    exact reading_some found
  | none =>
    obtain ⟨ampersand, less, -, double, single⟩ := special_of_entity special
    have closed : references.at? mode c rest = none := by
      rw [References.at?, if_neg]
      exact fun opens => ampersand opens.2
    have stays : mode.after c = mode := by
      cases mode with
      | text => exact if_neg less
      | tag => cases opened
      | value quote =>
        apply if_neg
        rintro rfl
        exact (of_decide_eq_true opened).elim double single
    have placed : mode.place c = mode := by rw [Mode.place, if_neg outside, stays]
    change reading references mode (c :: rest) = _
    rw [reading_none closed, stays, placed]

theorem reading_escape (opened : mode.open = true) (content rest : List Char) :
    reading references mode (escape content ++ rest) =
      content.map (Glyph.mk mode) ++ reading references mode rest := by
  induction content with
  | nil => rfl
  | cons c content ih =>
    change reading references mode ((escapeChar c ++ escape content) ++ rest) = _
    rw [List.append_assoc, reading_escapeChar opened, ih]
    rfl

end

/-! ## Rendering -/

inductive Segment where
  | markup (text : String)
  | content (text : String)

def markup (text : String) : List Segment := [.markup text]

def content (text : String) : List Segment := [.content text]

def Segment.render : Segment → List Char
  | .markup text => text.toList
  | .content text => escape text.toList

def render (segments : List Segment) : List Char := segments.flatMap Segment.render

theorem render_append (first second : List Segment) : render (first ++ second) = render first ++ render second :=
  List.flatMap_append

theorem render_markup (text : String) : render (markup text) = text.toList := List.flatMap_singleton _ _

theorem render_content (text : String) : render (content text) = escape text.toList := List.flatMap_singleton _ _

/-- A joined text renders the segments of its parts. -/
theorem toList_join_map {α : Type} {items : List α} {text : α → String} {segments : α → List Segment}
    (each : ∀ item, (text item).toList = render (segments item)) :
    (String.join (items.map text)).toList = render (items.flatMap segments) := by
  induction items with
  | nil => rfl
  | cons item items ih =>
    rw [List.flatMap_cons, render_append, ← each, ← ih, String.toList_join, String.toList_join]
    rfl

/-- What segments show to a reader, with the content as it was. -/
def shown : Mode → List Segment → List Glyph
  | _, [] => []
  | mode, .markup text :: rest => glyphs mode text.toList ++ shown (text.toList.foldl Mode.after mode) rest
  | mode, .content text :: rest => text.toList.map (Glyph.mk mode) ++ shown mode rest

/-- Segments that lead a reader from one mode to another, with content only where it may stand. -/
def Leads : Mode → List Segment → Mode → Prop
  | mode, [], last => mode = last
  | mode, .markup text :: rest, last => '&' ∉ text.toList ∧ Leads (text.toList.foldl Mode.after mode) rest last
  | mode, .content _ :: rest, last => mode.open = true ∧ Leads mode rest last

section

variable {references : References} {mode middle last : Mode} {first second : List Segment}

theorem Leads.append (before : Leads mode first middle) (after : Leads middle second last) :
    Leads mode (first ++ second) last := by
  induction first generalizing mode with
  | nil =>
    cases before
    exact after
  | cons segment first ih =>
    cases segment with
    | markup text => exact ⟨before.1, ih before.2⟩
    | content text => exact ⟨before.1, ih before.2⟩

theorem Leads.flatMap {α : Type} {items : List α} {segments : α → List Segment}
    (each : ∀ item ∈ items, Leads mode (segments item) mode) : Leads mode (items.flatMap segments) mode := by
  induction items with
  | nil => rfl
  | cons item items ih =>
    rw [List.flatMap_cons]
    exact (each item List.mem_cons_self).append (ih fun other member => each other (List.mem_cons_of_mem _ member))

theorem shown_append (before : Leads mode first middle) :
    shown mode (first ++ second) = shown mode first ++ shown middle second := by
  induction first generalizing mode with
  | nil =>
    cases before
    rfl
  | cons segment first ih =>
    cases segment with
    | markup text =>
      change glyphs mode text.toList ++ shown _ (first ++ second) = _
      rw [ih before.2, ← List.append_assoc]
      rfl
    | content text =>
      change text.toList.map (Glyph.mk mode) ++ shown mode (first ++ second) = _
      rw [ih before.2, ← List.append_assoc]
      rfl

/-- A reader of rendered segments gets their content back as it was. -/
theorem reading_render {segments : List Segment} (leads : Leads mode segments last) (rest : List Char) :
    reading references mode (render segments ++ rest) = shown mode segments ++ reading references last rest := by
  induction segments generalizing mode with
  | nil =>
    cases leads
    rfl
  | cons segment segments ih =>
    cases segment with
    | markup text =>
      change reading references mode ((text.toList ++ render segments) ++ rest) = _
      rw [List.append_assoc, reading_append leads.1, ih leads.2, ← List.append_assoc]
      rfl
    | content text =>
      change reading references mode ((escape text.toList ++ render segments) ++ rest) = _
      rw [List.append_assoc, reading_escape leads.1, ih leads.2, ← List.append_assoc]
      rfl

theorem reading_page {segments : List Segment} (leads : Leads mode segments last) :
    reading references mode (render segments) = shown mode segments := by
  have whole := @reading_render references mode last segments leads []
  rw [List.append_nil, reading, List.append_nil] at whole
  exact whole

end

/-! ## Tags -/

/-- The characters of the tags, without the values in them. -/
def tagChars (page : List Glyph) : List Char := (page.filter fun glyph => glyph.place = .tag).map Glyph.char

/-- The words in the tags: their names and the names of their attributes. -/
def words (tags : List Char) : List (List Char) :=
  (tags.splitOnP fun c => !c.isAlphanum).filter fun word => !word.isEmpty

/-- Segments that a reader passes from text to text, with no other words in their tags. -/
structure Within (vocabulary : List (List Char)) (segments : List Segment) : Prop where
  leads : Leads .text segments .text
  known : ∀ word ∈ words (tagChars (shown .text segments)), word ∈ vocabulary

/-- Whether a markup stays within a vocabulary. -/
def fits (vocabulary : List (List Char)) (markup : List Char) : Bool :=
  decide ('&' ∉ markup) && decide (markup.foldl Mode.after .text = .text) &&
    (words (tagChars (glyphs .text markup))).all (vocabulary.contains ·)

/-- Whether markup around a value stays within a vocabulary. -/
def encloses (vocabulary : List (List Char)) (before after : List Char) : Bool :=
  decide ('&' ∉ before) && decide ('&' ∉ after) && decide (before.foldl Mode.after .text = .value '"') &&
    decide (after.foldl Mode.after (.value '"') = .text) &&
    (words (tagChars (glyphs .text before) ++ tagChars (glyphs (.value '"') after))).all (vocabulary.contains ·)

/-- A segment that stays inside the quotes of a value. -/
structure Enclosed (value : Segment) : Prop where
  leads : Leads (.value '"') [value] (.value '"')
  hidden : tagChars (shown (.value '"') [value]) = []

section

variable {vocabulary : List (List Char)} {mode : Mode} {first second : List Segment}

theorem tagChars_append (before after : List Glyph) : tagChars (before ++ after) = tagChars before ++ tagChars after := by
  rw [tagChars, List.filter_append, List.map_append]
  rfl

theorem tagChars_content (opened : mode.open = true) (content : List Char) : tagChars (content.map (Glyph.mk mode)) = [] := by
  have outside : mode ≠ .tag := by
    rintro rfl
    cases opened
  rw [tagChars, List.filter_eq_nil_iff.mpr, List.map_nil]
  intro glyph member
  obtain ⟨c, -, rfl⟩ := List.mem_map.mp member
  simpa using outside

/-- A reader that is back in the text has closed the last tag, if it passed any. -/
def Closed (mode : Mode) (chars : List Char) : Prop := (mode = .text ∧ chars = []) ∨ ∃ before, chars = before ++ ['>']

theorem closed_glyphs {markup : List Char} (back : markup.foldl Mode.after mode = .text) :
    Closed mode (tagChars (glyphs mode markup)) := by
  induction markup generalizing mode with
  | nil => exact .inl ⟨back, rfl⟩
  | cons c markup ih =>
    have head : tagChars (glyphs mode (c :: markup)) =
        tagChars [⟨mode.place c, c⟩] ++ tagChars (glyphs (mode.after c) markup) := tagChars_append [_] _
    rw [head]
    rcases ih back with ⟨text, none⟩ | ⟨before, ends⟩
    · rw [none, List.append_nil]
      cases mode with
      | text =>
        refine .inl ⟨rfl, ?_⟩
        have placed : Mode.text.place c = .text := (if_neg (by decide)).trans text
        rw [placed]
        rfl
      | tag =>
        have close : c = '>' := by
          by_contra other
          rw [Mode.after, if_neg other] at text
          split at text <;> cases text
        rw [close]
        exact .inr ⟨[], rfl⟩
      | value quote =>
        rw [Mode.after] at text
        split at text <;> cases text
    · refine .inr ⟨tagChars [⟨mode.place c, c⟩] ++ before, ?_⟩
      rw [ends, List.append_assoc]

theorem closed_shown {segments : List Segment} (leads : Leads mode segments .text) :
    Closed mode (tagChars (shown mode segments)) := by
  induction segments generalizing mode with
  | nil => exact .inl ⟨leads, rfl⟩
  | cons segment segments ih =>
    cases segment with
    | markup text =>
      have split : tagChars (shown mode (.markup text :: segments)) =
          tagChars (glyphs mode text.toList) ++ tagChars (shown (text.toList.foldl Mode.after mode) segments) :=
        tagChars_append _ _
      rw [split]
      rcases ih leads.2 with ⟨back, none⟩ | ⟨before, ends⟩
      · rw [none, List.append_nil]
        exact closed_glyphs back
      · exact .inr ⟨_ ++ before, by rw [ends, List.append_assoc]⟩
    | content text =>
      have split : tagChars (shown mode (.content text :: segments)) = tagChars (shown mode segments) := by
        change tagChars (text.toList.map (Glyph.mk mode) ++ shown mode segments) = _
        rw [tagChars_append, tagChars_content leads.1, List.nil_append]
      rw [split]
      exact ih leads.2

theorem words_append {before after : List Char} (closed : Closed .text before) :
    words (before ++ after) = words before ++ words after := by
  rcases closed with ⟨-, rfl⟩ | ⟨chars, rfl⟩
  · rfl
  · have close : (fun c : Char => !c.isAlphanum) '>' = true := rfl
    have whole : chars ++ ['>'] ++ after = chars ++ '>' :: after := by simp
    rw [words, words, words, whole, List.splitOnP_append_cons chars after close, List.splitOnP_append_cons chars [] close,
      List.filter_append, List.filter_append, List.splitOnP_nil]
    simp

theorem Within.nil : Within vocabulary [] := ⟨rfl, by simp [shown, tagChars, words]⟩

theorem Within.append (before : Within vocabulary first) (after : Within vocabulary second) :
    Within vocabulary (first ++ second) where
  leads := before.leads.append after.leads
  known := by
    rw [shown_append before.leads, tagChars_append, words_append (closed_shown before.leads)]
    intro word member
    exact (List.mem_append.mp member).elim (before.known word) (after.known word)

theorem Within.flatMap {α : Type} {items : List α} {segments : α → List Segment}
    (each : ∀ item ∈ items, Within vocabulary (segments item)) : Within vocabulary (items.flatMap segments) := by
  induction items with
  | nil => exact Within.nil
  | cons item items ih =>
    rw [List.flatMap_cons]
    exact (each item List.mem_cons_self).append (ih fun other member => each other (List.mem_cons_of_mem _ member))

theorem within_content (text : String) : Within vocabulary (content text) where
  leads := ⟨rfl, rfl⟩
  known := by
    have none : tagChars (shown .text (content text)) = [] := by
      change tagChars (text.toList.map (Glyph.mk .text) ++ []) = []
      rw [List.append_nil, tagChars_content rfl]
    rw [none]
    simp [words]

theorem within_markup {text : String} {chars : List Char} (same : text = String.ofList chars)
    (holds : fits vocabulary chars = true) : Within vocabulary (markup text) := by
  have spelled := toList_spelled same
  simp only [fits, Bool.and_eq_true, decide_eq_true_eq, List.all_eq_true, List.contains_iff_mem] at holds
  obtain ⟨⟨plain, back⟩, known⟩ := holds
  constructor
  · rw [← spelled] at plain back
    exact ⟨plain, back⟩
  · have only : shown .text (markup text) = glyphs .text chars := by
      change glyphs .text text.toList ++ [] = _
      rw [List.append_nil, spelled]
    rw [only]
    exact known

theorem enclosed_content (text : String) : Enclosed (.content text) where
  leads := ⟨by decide, rfl⟩
  hidden := by
    change tagChars (text.toList.map (Glyph.mk (.value '"')) ++ []) = []
    rw [List.append_nil, tagChars_content (by decide)]

theorem enclosed_markup {text : String} (plain : ∀ c ∈ text.toList, c ≠ '&' ∧ c ≠ '"') : Enclosed (.markup text) := by
  have inside (chars : List Char) (unquoted : ∀ c ∈ chars, c ≠ '"') :
      chars.foldl Mode.after (.value '"') = .value '"' ∧ tagChars (glyphs (.value '"') chars) = [] := by
    induction chars with
    | nil => exact ⟨rfl, rfl⟩
    | cons c chars ih =>
      have stays : (Mode.value '"').after c = .value '"' := if_neg (unquoted c List.mem_cons_self)
      have rest := ih fun other member => unquoted other (List.mem_cons_of_mem _ member)
      have placed : (Mode.value '"').place c = .value '"' := (if_neg (by decide)).trans stays
      constructor
      · rw [List.foldl_cons, stays]
        exact rest.1
      · rw [glyphs, stays, placed, tagChars, List.filter_cons_of_neg (by simp)]
        exact rest.2
  obtain ⟨stays, none⟩ := inside text.toList fun c member => (plain c member).2
  constructor
  · exact ⟨fun member => (plain _ member).1 rfl, stays⟩
  · change tagChars (glyphs (.value '"') text.toList ++ []) = []
    rw [List.append_nil, none]

theorem within_value {before after : String} {opening closing : List Char} {value : Segment} (enclosed : Enclosed value)
    (opens : before = String.ofList opening) (closes : after = String.ofList closing)
    (holds : encloses vocabulary opening closing = true) : Within vocabulary (markup before ++ [value] ++ markup after) := by
  have spelled := toList_spelled opens
  have ending := toList_spelled closes
  simp only [encloses, Bool.and_eq_true, decide_eq_true_eq, List.all_eq_true, List.contains_iff_mem] at holds
  obtain ⟨⟨⟨⟨plain, plain'⟩, inward⟩, outward⟩, known⟩ := holds
  rw [← spelled] at plain inward known
  rw [← ending] at plain' outward known
  have opened : Leads .text [.markup before] (.value '"') := ⟨plain, inward⟩
  have closed : Leads (.value '"') [.markup after] .text := ⟨plain', outward⟩
  constructor
  · exact (opened.append enclosed.leads).append closed
  · have parts : shown .text (markup before ++ [value] ++ markup after) =
        shown .text [.markup before] ++ (shown (.value '"') [value] ++ shown (.value '"') [.markup after]) := by
      rw [← shown_append enclosed.leads, ← shown_append opened]
      rfl
    have around : tagChars (shown .text (markup before ++ [value] ++ markup after)) =
        tagChars (glyphs .text before.toList) ++ tagChars (glyphs (.value '"') after.toList) := by
      rw [parts, tagChars_append, tagChars_append, enclosed.hidden, List.nil_append]
      simp only [shown, List.append_nil]
    rw [around]
    exact known

end

/-! ## Pages -/

def contents (segments : List Segment) : List String :=
  segments.filterMap fun
    | .markup _ => none
    | .content text => some text

theorem contents_append (first second : List Segment) : contents (first ++ second) = contents first ++ contents second :=
  List.filterMap_append

theorem contents_markup (text : String) : contents (markup text) = [] := rfl

theorem contents_content (text : String) : contents (content text) = [text] := rfl

/-- Before it reads a page, a browser makes line feeds of carriage returns and removes or replaces null characters. -/
def Settled (text : String) : Prop := ∀ c ∈ text.toList, c ≠ '\r' ∧ c ≠ '\x00'

/-- A page whose tags hold known words only, and that shows these texts outside its tags, character by character
    where they are settled. -/
structure Inert (references : References) (vocabulary : List (List Char)) (page : String) (texts : List String) : Prop where
  known : ∀ word ∈ words (tagChars (reading references .text page.toList)), word ∈ vocabulary
  verbatim : ∀ text ∈ texts, Settled text → ∃ mode, mode ≠ .tag ∧
    text.toList.map (Glyph.mk mode) <:+: reading references .text page.toList

theorem content_shown {mode last : Mode} {segments : List Segment} (leads : Leads mode segments last) {text : String}
    (member : text ∈ contents segments) :
    ∃ place, place ≠ .tag ∧ text.toList.map (Glyph.mk place) <:+: shown mode segments := by
  induction segments generalizing mode with
  | nil => cases member
  | cons segment segments ih =>
    cases segment with
    | markup markup =>
      obtain ⟨place, outside, inside⟩ := ih leads.2 member
      exact ⟨place, outside, inside.trans (List.suffix_append _ _).isInfix⟩
    | content content =>
      rcases List.mem_cons.mp member with rfl | member
      · refine ⟨mode, ?_, (List.prefix_append _ _).isInfix⟩
        rintro rfl
        cases leads.1
      · obtain ⟨place, outside, inside⟩ := ih leads.2 member
        exact ⟨place, outside, inside.trans (List.suffix_append _ _).isInfix⟩

theorem inert_render {references : References} {vocabulary : List (List Char)} {segments : List Segment} {page : String}
    (within : Within vocabulary segments) (rendered : page.toList = render segments) :
    Inert references vocabulary page (contents segments) := by
  have read : reading references .text page.toList = shown .text segments := by
    rw [rendered, reading_page within.leads]
  constructor
  · rw [read]
    exact within.known
  · intro text member _
    rw [read]
    exact content_shown within.leads member

end Html
