import Mathlib.Algebra.Order.Field.Rat
import Mathlib.Data.List.Sort

/-! # Serialising Python objects

`json.dumps` with sorted keys, ASCII output and `str` for objects of other types. -/

namespace PyJson

/-- The code points of a string; lone surrogates are among them. -/
abbrev Str := List (Fin 0x110000)

def isSurrogate (point : Fin 0x110000) : Bool := 0xD800 ≤ point.val && point.val ≤ 0xDFFF

def Str.text (string : Str) : Option String :=
  if string.any isSurrogate then none
  else some (String.ofList (string.map fun point => Char.ofNat point.val))

def Str.ofString (text : String) : Str := text.toList.map fun c => Fin.ofNat 0x110000 c.toNat

/-- The order of strings by their code points. -/
def Str.le : Str → Str → Bool
  | [], _ => true
  | _ :: _, [] => false
  | point :: points, other :: others => point < other || (point = other && Str.le points others)

inductive Key where
  | str (string : Str)
  | int (value : Int)
  | float (value : Rat)
  | bool (value : Bool)
  | none
  /-- A tuple, bytes, or any other hashable object. -/
  | other
deriving DecidableEq, Repr

/-- An object with references to the objects in it. -/
inductive Object where
  | none
  | bool (value : Bool)
  | int (value : Int)
  | float (value : Rat)
  | str (string : Str)
  | list (items : List Nat)
  | dict (entries : List (Key × Nat))
  /-- Any other object, with what `str` makes of it unless that raises. -/
  | other (string : Option Str)

inductive EncodeError where
  | typeError
  | valueError
  | recursionError
  /-- An exception of the object's own `__str__`. -/
  | raised
deriving DecidableEq, Repr

/-- The digits that the interpreter converts. -/
def maxStrDigits : Nat := 4300

def intText (value : Int) : Except EncodeError String :=
  if (toString value.natAbs).length ≤ maxStrDigits then .ok (toString value) else .error .valueError

def hexEscape (unit : Nat) : List Char :=
  '\\' :: 'u' :: [12, 8, 4, 0].map fun shift => Nat.digitChar (unit / 2 ^ shift % 16)

def quotationMark : Char := Char.ofNat 0x22

def escapePoint (point : Fin 0x110000) : List Char :=
  let code := point.val
  if code = 0x22 then ['\\', quotationMark]
  else if code = 0x5C then ['\\', '\\']
  else if code = 0x0A then ['\\', 'n']
  else if code = 0x0D then ['\\', 'r']
  else if code = 0x09 then ['\\', 't']
  else if code = 0x0C then ['\\', 'f']
  else if code = 0x08 then ['\\', 'b']
  else if 0x20 ≤ code ∧ code ≤ 0x7E then [Char.ofNat code]
  else if code < 0x10000 then hexEscape code
  else hexEscape (0xD800 + (code - 0x10000) / 0x400) ++ hexEscape (0xDC00 + (code - 0x10000) % 0x400)

/-- `py_encode_basestring_ascii`. -/
def jsonString (string : Str) : String := String.ofList (quotationMark :: string.flatMap escapePoint ++ [quotationMark])

def boolText (value : Bool) : String := if value then "true" else "false"

namespace Key

def isStr : Key → Bool
  | str _ => true
  | _ => false

def number : Key → Option Rat
  | int value => some value
  | float value => some value
  | bool value => some (if value then 1 else 0)
  | _ => Option.none

def le : Key → Key → Bool
  | str first, str second => Str.le first second
  | first, second => first.number.getD 0 ≤ second.number.getD 0

def text (floatRepr : Rat → String) : Key → Except EncodeError Str
  | str string => .ok string
  | int value => (intText value).map Str.ofString
  | float value => .ok (Str.ofString (floatRepr value))
  | bool value => .ok (Str.ofString (boolText value))
  | none => .ok (Str.ofString "null")
  | other => .error .typeError

def Sound : Key → Prop
  | int value => (toString value.natAbs).length ≤ maxStrDigits
  | other => False
  | _ => True

end Key

/-- Keys of one kind, which compare with each other. -/
def Sortable (entries : List (Key × Nat)) : Prop :=
  entries.length ≤ 1 ∨ (∀ entry ∈ entries, entry.1.isStr = true) ∨ ∀ entry ∈ entries, entry.1.number.isSome = true

instance (entries : List (Key × Nat)) : Decidable (Sortable entries) :=
  inferInstanceAs (Decidable (_ ∨ _ ∨ _))

def sortKeys (entries : List (Key × Nat)) : Except EncodeError (List (Key × Nat)) :=
  if Sortable entries then .ok (entries.insertionSort fun first second => first.1.le second.1 = true)
  else .error .typeError

namespace Object

/-- The text of an object that is written without a call of the encoder on it. -/
def scalar (floatRepr : Rat → String) : Object → Option (Except EncodeError String)
  | none => some (.ok "null")
  | bool value => some (.ok (boolText value))
  | int value => some (intText value)
  | float value => some (.ok (floatRepr value))
  | str string => some (.ok (jsonString string))
  | list _ | dict _ | other _ => Option.none

/-- The objects in an object. -/
def children : Object → List Nat
  | list items => items
  | dict entries => entries.map Prod.snd
  | _ => []

/-- The encoder is called on it, which counts against the limit of nested calls. -/
def Calls : Object → Prop
  | list _ | dict _ | other _ => True
  | _ => False

/-- What is needed of an object apart from the objects in it. -/
def Sound : Object → Prop
  | int value => (toString value.natAbs).length ≤ maxStrDigits
  | dict entries => Sortable entries ∧ ∀ entry ∈ entries, entry.1.Sound
  | other string => string.isSome = true
  | _ => True

end Object

section

variable (floatRepr : Rat → String) (graph : Nat → Object)

/-- The encoder, with the calls that may still be nested and the containers that are being encoded. -/
def encode : Nat → List Nat → Nat → Except EncodeError String
  | 0, _, ref => ((graph ref).scalar floatRepr).getD (.error .recursionError)
  | depth + 1, markers, ref =>
    match graph ref with
    | .list items =>
      if items = [] then .ok "[]"
      else if ref ∈ markers then .error .valueError
      else do
        let texts ← items.mapM (encode depth (ref :: markers))
        return "[" ++ ",".intercalate texts ++ "]"
    | .dict entries =>
      if entries = [] then .ok "\x7b\x7d"
      else if ref ∈ markers then .error .valueError
      else do
        let items ← sortKeys entries
        let texts ← items.mapM fun item => do
          let key ← item.1.text floatRepr
          let value ← encode depth (ref :: markers) item.2
          return jsonString key ++ ":" ++ value
        return "\x7b" ++ ",".intercalate texts ++ "\x7d"
    | .other string => (string.map jsonString).elim (.error .raised) .ok
    | object => (object.scalar floatRepr).getD (.error .recursionError)

def dumps (depth root : Nat) : Except EncodeError String := encode floatRepr graph depth [] root

/-- The second object is nested in the first, so many containers deep. -/
inductive Nested : Nat → Nat → Nat → Prop where
  | here (root : Nat) : Nested root 0 root
  | inside {root item ref depth : Nat} : item ∈ (graph root).children → Nested item depth ref →
      Nested root (depth + 1) ref

/-- Every nested object is sound, and the nesting stays under the limit. -/
def Encodable (depth root : Nat) : Prop :=
  ∀ level ref, Nested graph root level ref → (graph ref).Sound ∧ ((graph ref).Calls → level < depth)

end

section

variable {α β ε : Type} {floatRepr : Rat → String} {graph : Nat → Object}

theorem bind_pure_isOk {result : Except ε α} {finish : α → β} :
    (result >>= fun value => pure (finish value)).isOk = result.isOk := by
  cases result <;> rfl

theorem mapM_isOk {action : α → Except ε β} {items : List α} :
    (items.mapM action).isOk = true ↔ ∀ item ∈ items, (action item).isOk = true := by
  induction items with
  | nil => simp [Except.isOk, Except.toBool, pure, Except.pure]
  | cons head rest ih =>
    rw [List.mapM_cons, List.forall_mem_cons]
    cases first : action head with
    | error error => exact iff_of_false Bool.false_ne_true fun all => Bool.false_ne_true all.1
    | ok value =>
      have onward : ((do
          let tail ← rest.mapM action
          return value :: tail : Except ε (List β))).isOk = (rest.mapM action).isOk := bind_pure_isOk
      exact (iff_of_eq (congrArg (· = true) onward)).trans (ih.trans (and_iff_right rfl).symm)

theorem intText_isOk {value : Int} :
    (intText value).isOk = true ↔ (toString value.natAbs).length ≤ maxStrDigits := by
  unfold intText
  split
  · exact iff_of_true rfl ‹_›
  · exact iff_of_false Bool.false_ne_true ‹_›

theorem Key.text_isOk (floatRepr : Rat → String) (key : Key) : (key.text floatRepr).isOk = true ↔ key.Sound := by
  cases key with
  | int value =>
    have mapped : ((intText value).map Str.ofString).isOk = (intText value).isOk := by
      cases intText value <;> rfl
    exact (iff_of_eq (congrArg (· = true) mapped)).trans intText_isOk
  | other => exact iff_of_false Bool.false_ne_true not_false
  | _ => exact iff_of_true rfl trivial

theorem scalar_isOk {object : Object} (passive : ¬ object.Calls) :
    ((object.scalar floatRepr).getD (.error .recursionError)).isOk = true ↔ object.Sound := by
  cases object with
  | int value => exact intText_isOk
  | list items => exact absurd trivial passive
  | dict entries => exact absurd trivial passive
  | other string => exact absurd trivial passive
  | _ => exact iff_of_true rfl trivial

theorem children_of_passive {object : Object} (passive : ¬ object.Calls) : object.children = [] := by
  cases object with
  | list items => exact absurd trivial passive
  | dict entries => exact absurd trivial passive
  | _ => rfl

theorem encode_zero {markers : List Nat} {ref : Nat} :
    (encode floatRepr graph 0 markers ref).isOk = true ↔ (graph ref).Sound ∧ ¬ (graph ref).Calls := by
  by_cases calls : (graph ref).Calls
  · have nothing : (graph ref).scalar floatRepr = none := by
      cases found : graph ref <;> simp_all [Object.Calls, Object.scalar]
    rw [encode, nothing]
    exact iff_of_false Bool.false_ne_true fun both => both.2 calls
  · rw [encode, scalar_isOk calls]
    exact (and_iff_left calls).symm

theorem sortKeys_isOk {entries : List (Key × Nat)} : (sortKeys entries).isOk = true ↔ Sortable entries := by
  unfold sortKeys
  split
  · exact iff_of_true rfl ‹_›
  · exact iff_of_false Bool.false_ne_true ‹_›

theorem mem_of_sortKeys {entries items : List (Key × Nat)} (sorted : sortKeys entries = .ok items)
    (entry : Key × Nat) : entry ∈ items ↔ entry ∈ entries := by
  unfold sortKeys at sorted
  split at sorted
  · cases sorted
    exact (List.perm_insertionSort _ entries).mem_iff
  · cases sorted

theorem entries_isOk {entries : List (Key × Nat)} {action : Nat → Except EncodeError String} :
    (do
      let items ← sortKeys entries
      let texts ← items.mapM fun item => do
        let key ← item.1.text floatRepr
        let value ← action item.2
        return jsonString key ++ ":" ++ value
      return "\x7b" ++ ",".intercalate texts ++ "\x7d" : Except EncodeError String).isOk = true ↔
    Object.Sound (.dict entries) ∧ ∀ item ∈ Object.children (.dict entries), (action item).isOk = true := by
  have entry_isOk (item : Key × Nat) : (do
      let key ← item.1.text floatRepr
      let value ← action item.2
      return jsonString key ++ ":" ++ value : Except EncodeError String).isOk = true ↔
      item.1.Sound ∧ (action item.2).isOk = true := by
    rw [← Key.text_isOk floatRepr item.1]
    cases item.1.text floatRepr with
    | error error => exact iff_of_false Bool.false_ne_true fun both => Bool.false_ne_true both.1
    | ok key => exact (iff_of_eq (congrArg (· = true) bind_pure_isOk)).trans (and_iff_right rfl).symm
  cases sorted : sortKeys entries with
  | error error =>
    have unsortable : ¬ Sortable entries := by
      rw [← sortKeys_isOk, sorted]
      exact Bool.false_ne_true
    exact iff_of_false Bool.false_ne_true fun both => unsortable both.1.1
  | ok items =>
    have sortable : Sortable entries := by
      rw [← sortKeys_isOk, sorted]
      rfl
    refine (iff_of_eq (congrArg (· = true) bind_pure_isOk)).trans (mapM_isOk.trans ?_)
    simp only [entry_isOk, mem_of_sortKeys sorted, Object.Sound, Object.children, List.forall_mem_map]
    constructor
    · intro all
      exact ⟨⟨sortable, fun entry member => (all entry member).1⟩, fun entry member => (all entry member).2⟩
    · intro both entry member
      exact ⟨both.1.2 entry member, both.2 entry member⟩

/-- One call of the encoder: the object is sound, is not being encoded already, and what is in it
    serialises. -/
theorem encode_succ {depth : Nat} {markers : List Nat} {ref : Nat} :
    (encode floatRepr graph (depth + 1) markers ref).isOk = true ↔
      (graph ref).Sound ∧ ((graph ref).children ≠ [] → ref ∉ markers) ∧
        ∀ item ∈ (graph ref).children, (encode floatRepr graph depth (ref :: markers) item).isOk = true := by
  rw [encode]
  cases found : graph ref with
  | list items =>
    simp only [Object.Sound, Object.children, true_and]
    by_cases empty : items = []
    · rw [if_pos empty, empty]
      exact iff_of_true rfl ⟨fun nonempty => absurd rfl nonempty, by simp⟩
    · rw [if_neg empty]
      by_cases marked : ref ∈ markers
      · rw [if_pos marked]
        exact iff_of_false Bool.false_ne_true fun both => both.1 empty marked
      · rw [if_neg marked]
        exact (iff_of_eq (congrArg (· = true) bind_pure_isOk)).trans
          (mapM_isOk.trans (and_iff_right fun _ => marked).symm)
  | dict entries =>
    simp only
    by_cases empty : entries = []
    · rw [if_pos empty, empty]
      exact iff_of_true rfl ⟨⟨.inl (Nat.zero_le 1), by simp⟩, fun nonempty => absurd rfl nonempty,
        by simp [Object.children]⟩
    · have nonempty : Object.children (.dict entries) ≠ [] := by simpa [Object.children] using empty
      rw [if_neg empty]
      by_cases marked : ref ∈ markers
      · rw [if_pos marked]
        exact iff_of_false Bool.false_ne_true fun both => both.2.1 nonempty marked
      · rw [if_neg marked, entries_isOk]
        exact and_congr_right fun _ => (and_iff_right fun _ => marked).symm
  | other string =>
    cases string with
    | none => exact iff_of_false Bool.false_ne_true fun both => Bool.false_ne_true both.1
    | some string => exact iff_of_true rfl ⟨rfl, fun nonempty => absurd rfl nonempty, by simp [Object.children]⟩
  | _ =>
    refine (scalar_isOk (by simp [Object.Calls])).trans (and_iff_left ⟨fun nonempty => absurd rfl nonempty, ?_⟩).symm
    simp [Object.children]

/-! ## Nesting -/

theorem Nested.trans {first second third depth more : Nat} (outer : Nested graph first depth second)
    (inner : Nested graph second more third) : Nested graph first (depth + more) third := by
  induction outer with
  | here root => rwa [Nat.zero_add]
  | inside member _ ih =>
    rw [Nat.add_right_comm]
    exact .inside member (ih inner)

theorem Nested.cycle {ref depth : Nat} (again : Nested graph ref depth ref) (rounds : Nat) :
    Nested graph ref (rounds * depth) ref := by
  induction rounds with
  | zero =>
    rw [Nat.zero_mul]
    exact .here ref
  | succ rounds ih =>
    rw [Nat.succ_mul]
    exact ih.trans again

theorem calls_of_children {object : Object} (nonempty : object.children ≠ []) : object.Calls := by
  by_contra passive
  exact nonempty (children_of_passive passive)

theorem Encodable.acyclic {depth root level : Nat} (encodable : Encodable graph depth root)
    (calls : (graph root).Calls) (again : Nested graph root level root) : level = 0 := by
  by_contra positive
  have deep := (encodable _ _ (again.cycle depth)).2 calls
  have rounds : depth ≤ depth * level := Nat.le_mul_of_pos_right depth (Nat.pos_of_ne_zero positive)
  omega

theorem Encodable.inside {depth root item : Nat} (encodable : Encodable graph (depth + 1) root)
    (member : item ∈ (graph root).children) : Encodable graph depth item := by
  intro level ref nested
  obtain ⟨sound, shallow⟩ := encodable _ _ (.inside member nested)
  exact ⟨sound, fun calls => Nat.lt_of_succ_lt_succ (shallow calls)⟩

theorem encodable_succ {depth root : Nat} :
    Encodable graph (depth + 1) root ↔
      (graph root).Sound ∧ ∀ item ∈ (graph root).children, Encodable graph depth item := by
  constructor
  · intro encodable
    exact ⟨(encodable 0 root (.here root)).1, fun item member => encodable.inside member⟩
  · rintro ⟨sound, items⟩ level ref nested
    cases nested with
    | here => exact ⟨sound, fun _ => Nat.succ_pos depth⟩
    | inside member nested =>
      obtain ⟨sound, shallow⟩ := items _ member _ _ nested
      exact ⟨sound, fun calls => Nat.succ_lt_succ (shallow calls)⟩

theorem encodable_zero {root : Nat} :
    Encodable graph 0 root ↔ (graph root).Sound ∧ ¬ (graph root).Calls := by
  constructor
  · intro encodable
    obtain ⟨sound, shallow⟩ := encodable 0 root (.here root)
    exact ⟨sound, fun calls => Nat.not_lt_zero 0 (shallow calls)⟩
  · rintro ⟨sound, passive⟩ level ref nested
    cases nested with
    | here => exact ⟨sound, fun calls => absurd calls passive⟩
    | inside member nested =>
      rw [children_of_passive passive] at member
      cases member

/-- No container that is being encoded is nested in the object. -/
def Unmarked (graph : Nat → Object) (markers : List Nat) (root : Nat) : Prop :=
  ∀ level ref, Nested graph root level ref → (graph ref).children ≠ [] → ref ∉ markers

theorem encode_isOk {depth : Nat} {markers : List Nat} {root : Nat} :
    (encode floatRepr graph depth markers root).isOk = true ↔
      Encodable graph depth root ∧ Unmarked graph markers root := by
  induction depth generalizing markers root with
  | zero =>
    rw [encode_zero, encodable_zero]
    refine (and_iff_left_of_imp ?_).symm
    rintro ⟨-, passive⟩ level ref nested nonempty
    cases nested with
    | here => exact absurd (calls_of_children nonempty) passive
    | inside member nested =>
      rw [children_of_passive passive] at member
      cases member
  | succ depth ih =>
    rw [encode_succ, encodable_succ]
    simp only [ih]
    constructor
    · rintro ⟨sound, unmarked, items⟩
      refine ⟨⟨sound, fun item member => (items item member).1⟩, ?_⟩
      intro level ref nested nonempty
      cases nested with
      | here => exact unmarked nonempty
      | inside member nested =>
        exact fun marked => (items _ member).2 _ _ nested nonempty (List.mem_cons_of_mem _ marked)
    · rintro ⟨⟨sound, items⟩, unmarked⟩
      have encodable : Encodable graph (depth + 1) root := encodable_succ.mpr ⟨sound, items⟩
      refine ⟨sound, unmarked 0 root (.here root), fun item member => ⟨items item member, ?_⟩⟩
      intro level ref nested nonempty marked
      rcases List.mem_cons.mp marked with rfl | earlier
      · have cyclic : level + 1 = 0 := encodable.acyclic (calls_of_children nonempty) (.inside member nested)
        omega
      · exact unmarked _ _ (.inside member nested) nonempty earlier

/-- Serialisation succeeds exactly on sound objects whose nesting, which a cycle makes endless, stays under
    the limit. -/
theorem dumps_isOk {depth root : Nat} :
    (dumps floatRepr graph depth root).isOk = true ↔ Encodable graph depth root := by
  rw [dumps, encode_isOk]
  exact and_iff_left fun _ _ _ _ => List.not_mem_nil

end

end PyJson
