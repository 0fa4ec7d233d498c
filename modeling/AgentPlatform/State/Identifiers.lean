import AgentPlatform.State.Records

/-! # Identifier texts

The texts that a `UUID` column reads, and the text it writes. -/

namespace AgentPlatform.State

def hexValue (c : Char) : Option (Fin 16) :=
  (List.finRange 16).find? fun digit => hexDigit digit = c ∨ (hexDigit digit).toUpper = c

def readGroup : List Char → Option (List (Fin 16) × List Char)
  | a :: b :: c :: d :: rest => do
    return ([← hexValue a, ← hexValue b, ← hexValue c, ← hexValue d], rest)
  | _ => none

/-- Groups of four digits, with an optional hyphen between two groups. -/
def readGroups : Nat → List Char → Option (List (Fin 16) × List Char)
  | 0, text => some ([], text)
  | more + 1, text => do
    let (digits, rest) ← readGroup text
    let rest := if more ≠ 0 ∧ rest.head? = some '-' then rest.tail else rest
    let (others, rest) ← readGroups more rest
    return (digits ++ others, rest)

/-- The input function of the type: digits in either case, optionally in braces. -/
def uuidIn (text : String) : Option Uuid := do
  let braced := text.toList.head? = some (Char.ofNat 123)
  let body := if braced then text.toList.tail else text.toList
  let (digits, rest) ← readGroups 8 body
  if rest = if braced then [Char.ofNat 125] else [] then
    if length : digits.length = 32 then some ⟨digits, length⟩ else none
  else none

/-- The text under which a column gives back the identifier that a text names. -/
def canonical (text : String) : Option String := (uuidIn text).map Uuid.text

theorem hexValue_hexDigit (digit : Fin 16) : hexValue (hexDigit digit) = some digit := by
  revert digit
  decide

theorem hexDigit_ne (digit : Fin 16) : hexDigit digit ≠ '-' ∧ hexDigit digit ≠ Char.ofNat 123 := by
  revert digit
  decide

theorem readGroup_hex {digits : List (Fin 16)} (four : digits.length = 4) (rest : List Char) :
    readGroup (digits.map hexDigit ++ rest) = some (digits, rest) := by
  match digits, four with
  | [a, b, c, d], _ => simp [readGroup, hexValue_hexDigit]

theorem readGroups_hyphen {digits : List (Fin 16)} (four : digits.length = 4) {more : Nat} (some' : more ≠ 0)
    (rest : List Char) :
    readGroups (more + 1) (digits.map hexDigit ++ '-' :: rest) =
      (readGroups more rest).map fun read => (digits ++ read.1, read.2) := by
  rw [readGroups, readGroup_hex four]
  simp only [Option.bind_eq_bind, Option.bind_some, List.head?_cons, List.tail_cons, some', ne_eq, not_false_eq_true,
    and_self, if_true]
  cases readGroups more rest <;> rfl

theorem readGroups_joined {digits : List (Fin 16)} (four : digits.length = 4) {more : Nat}
    {rest : List Char} (joined : rest.head? ≠ some '-') :
    readGroups (more + 1) (digits.map hexDigit ++ rest) =
      (readGroups more rest).map fun read => (digits ++ read.1, read.2) := by
  rw [readGroups, readGroup_hex four]
  simp only [Option.bind_eq_bind, Option.bind_some, joined, and_false, if_false]
  cases readGroups more rest <;> rfl

theorem exists_group (more : Nat) {digits : List (Fin 16)} (length : digits.length = 4 + more) :
    ∃ group rest, group.length = 4 ∧ rest.length = more ∧ digits = group ++ rest :=
  ⟨digits.take 4, digits.drop 4, by rw [List.length_take]; omega, by rw [List.length_drop]; omega,
    (List.take_append_drop 4 digits).symm⟩

theorem Uuid.groups (uuid : Uuid) : ∃ a b c d e f g h : List (Fin 16),
    a.length = 4 ∧ b.length = 4 ∧ c.length = 4 ∧ d.length = 4 ∧ e.length = 4 ∧ f.length = 4 ∧ g.length = 4 ∧
      h.length = 4 ∧ uuid.digits = a ++ (b ++ (c ++ (d ++ (e ++ (f ++ (g ++ h)))))) := by
  obtain ⟨a, rest₁, fourA, length₁, split⟩ := exists_group 28 uuid.length
  obtain ⟨b, rest₂, fourB, length₂, rfl⟩ := exists_group 24 length₁
  obtain ⟨c, rest₃, fourC, length₃, rfl⟩ := exists_group 20 length₂
  obtain ⟨d, rest₄, fourD, length₄, rfl⟩ := exists_group 16 length₃
  obtain ⟨e, rest₅, fourE, length₅, rfl⟩ := exists_group 12 length₄
  obtain ⟨f, rest₆, fourF, length₆, rfl⟩ := exists_group 8 length₅
  obtain ⟨g, h, fourG, fourH, rfl⟩ := exists_group 4 length₆
  exact ⟨a, b, c, d, e, f, g, h, fourA, fourB, fourC, fourD, fourE, fourF, fourG, fourH, split⟩

theorem Uuid.text_groups {uuid : Uuid} {a b c d e f g h : List (Fin 16)}
    (fourA : a.length = 4) (fourB : b.length = 4) (fourC : c.length = 4) (fourD : d.length = 4)
    (fourE : e.length = 4) (split : uuid.digits = a ++ (b ++ (c ++ (d ++ (e ++ (f ++ (g ++ h))))))) :
    uuid.text.toList = a.map hexDigit ++ (b.map hexDigit ++ '-' :: (c.map hexDigit ++ '-' ::
      (d.map hexDigit ++ '-' :: (e.map hexDigit ++ '-' :: (f.map hexDigit ++ (g.map hexDigit ++
        (h.map hexDigit ++ []))))))) := by
  simp (disch := simp [*]) [Uuid.text, split, List.take_append, List.drop_append, List.take_of_length_le,
    List.drop_of_length_le, fourA, fourB, fourC, fourD]

theorem uuidIn_text (uuid : Uuid) : uuidIn uuid.text = some uuid := by
  obtain ⟨a, b, c, d, e, f, g, h, fourA, fourB, fourC, fourD, fourE, fourF, fourG, fourH, split⟩ := uuid.groups
  have text := Uuid.text_groups fourA fourB fourC fourD fourE split
  have plain (group : List (Fin 16)) (rest : List Char) (four : group.length = 4) (mark : Char)
      (other : ∀ digit, hexDigit digit ≠ mark) : (group.map hexDigit ++ rest).head? ≠ some mark := by
    match group, four with
    | [p, q, r, s], _ => simpa using other p
  have unbraced : uuid.text.toList.head? ≠ some (Char.ofNat 123) := by
    rw [text]
    exact plain a _ fourA _ fun digit => (hexDigit_ne digit).2
  have joined (group : List (Fin 16)) (rest : List Char) (four : group.length = 4) :
      (group.map hexDigit ++ rest).head? ≠ some '-' := plain group rest four _ fun digit => (hexDigit_ne digit).1
  have read : readGroups 8 uuid.text.toList = some (uuid.digits, []) := by
    rw [text, readGroups_joined fourA (joined b _ fourB), readGroups_hyphen fourB (by decide),
      readGroups_hyphen fourC (by decide), readGroups_hyphen fourD (by decide),
      readGroups_hyphen fourE (by decide), readGroups_joined fourF (joined g _ fourG),
      readGroups_joined fourG (joined h _ fourH), readGroups_joined fourH (by simp)]
    simp [readGroups, split]
  simp only [uuidIn, unbraced, if_false, read, Option.bind_eq_bind, Option.bind_some, if_true,
    uuid.length, dite_true]

theorem canonical_text (uuid : Uuid) : canonical uuid.text = some uuid.text := by
  rw [canonical, uuidIn_text, Option.map_some]

theorem Uuid.text_injective {first second : Uuid} (same : first.text = second.text) : first = second := by
  have read := uuidIn_text first
  rw [same, uuidIn_text] at read
  exact (Option.some.inj read).symm

theorem Uuid.text_head (uuid : Uuid) : ∃ digit, uuid.text.toList.head? = some (hexDigit digit) := by
  obtain ⟨a, b, c, d, e, f, g, h, fourA, fourB, fourC, fourD, fourE, -, -, -, split⟩ := uuid.groups
  rw [Uuid.text_groups fourA fourB fourC fourD fourE split]
  match a, fourA with
  | [p, q, r, s], _ => exact ⟨p, rfl⟩

end AgentPlatform.State
