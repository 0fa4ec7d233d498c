import AgentPlatform.Base.Dictionary

/-! # Redaction of log fields -/

namespace AgentPlatform.Gateway

open Python

/-- A key of a dictionary: a string, or any other object. -/
inductive FieldKey (ω : Type) where
  | str (text : String)
  | object (value : ω)

/-- A value of `event_fields`. -/
inductive FieldValue (ω α : Type) where
  | text (value : String)
  /-- A number, a truth value, `None`, or any other object. -/
  | atom (value : α)
  | dict (entries : List (FieldKey ω × FieldValue ω α))
  | list (items : List (FieldValue ω α))
  | tuple (items : List (FieldValue ω α))

variable {ω α : Type}

/-- `str(key)`. -/
def FieldKey.text (shown : ω → String) : FieldKey ω → String
  | .str text => text
  | .object value => shown value

def redactedKeys : List String := ["authorization", "cookie", "password", "secret", "token"]

def redactedMark : String := "[REDACTED]"

namespace FieldValue

section

variable (shown : ω → String) (lower : String → String)

def Sensitive (text : String) : Prop := lower text ∈ redactedKeys

instance (text : String) : Decidable (Sensitive lower text) := inferInstanceAs (Decidable (_ ∈ _))

mutual

def redact : FieldValue ω α → FieldValue ω α
  | .dict entries => .dict ((comprehension (redactPairs entries)).map fun pair => (.str pair.1, pair.2))
  | .list items => .list (redactItems items)
  | .text value => .text value
  | .atom value => .atom value
  | .tuple items => .tuple items

def redactPairs : List (FieldKey ω × FieldValue ω α) → List (String × FieldValue ω α)
  | [] => []
  | (key, item) :: entries =>
    (key.text shown, if Sensitive lower (key.text shown) then .text redactedMark else redact item) ::
      redactPairs entries

def redactItems : List (FieldValue ω α) → List (FieldValue ω α)
  | [] => []
  | item :: items => redact item :: redactItems items

end

/-- A step from a container to a value in it. -/
inductive Step where
  | key (text : String)
  | item (index : Nat)

/-- The value at a place. -/
def At : FieldValue ω α → List Step → FieldValue ω α → Prop
  | value, [], found => value = found
  | value, .key label :: path, found =>
    ∃ entries, value = .dict entries ∧ ∃ entry ∈ entries, entry.1.text shown = label ∧ At entry.2 path found
  | value, .item index :: path, found =>
    ∃ items, (value = .list items ∨ value = .tuple items) ∧ ∃ item, items[index]? = some item ∧ At item path found

def IsScalar : FieldValue ω α → Prop
  | .text _ | .atom _ => True
  | _ => False

def Plain (path : List Step) : Prop := ∀ text, .key text ∈ path → ¬ Sensitive lower text

/-- Under a sensitive key there is nothing but the mark. -/
def Concealed (value : FieldValue ω α) : Prop :=
  ∀ path text found, At shown value (path ++ [.key text]) found → Sensitive lower text → found = .text redactedMark

/-- The scalars of a value that are not under a sensitive key. -/
def KeptIn (value other : FieldValue ω α) : Prop :=
  ∀ path scalar, Plain lower path → scalar.IsScalar → At shown value path scalar → At shown other path scalar

/-- What is asked of the redaction of a value. -/
structure Redacts (value : FieldValue ω α) : Prop where
  concealed : Concealed shown lower (redact shown lower value)
  kept : KeptIn shown lower value (redact shown lower value)
  idempotent : redact shown lower (redact shown lower value) = redact shown lower value

/-- The value that is left under a key text, where the texts of several keys may be the same. -/
def lastItem (entries : List (FieldKey ω × FieldValue ω α)) (text : String) : Option (FieldValue ω α) :=
  lastValue (entries.map fun entry => (entry.1.text shown, entry.2)) text

/-- A value that the recursion goes into: not in a tuple, not under a sensitive key and not overwritten. -/
def Visited : FieldValue ω α → List Step → FieldValue ω α → Prop
  | value, [], found => value = found
  | value, .key label :: path, found =>
    ¬ Sensitive lower label ∧ ∃ entries item, value = .dict entries ∧ lastItem shown entries label = some item ∧
      Visited item path found
  | value, .item index :: path, found =>
    ∃ items item, value = .list items ∧ items[index]? = some item ∧ Visited item path found

/-- A tuple has nothing but the mark under a sensitive key. -/
def TupleClean (value : FieldValue ω α) : Prop := ∀ items, value = .tuple items → Concealed shown lower value

/-- What one key of a dictionary overwrites of another is in the value that overwrites it. -/
def KeysApart (value : FieldValue ω α) : Prop :=
  ∀ entries, value = .dict entries → ∀ entry ∈ entries, ¬ Sensitive lower (entry.1.text shown) →
    ∀ item, lastItem shown entries (entry.1.text shown) = some item → KeptIn shown lower entry.2 item

/-- So it is for all that is visited. -/
def Redactable (value : FieldValue ω α) : Prop :=
  ∀ path found, Visited shown lower value path found → TupleClean shown lower found ∧ KeysApart shown lower found

end

/-! ## Induction on values -/

theorem induction {motive : FieldValue ω α → Prop} (text : ∀ value, motive (.text value))
    (atom : ∀ value, motive (.atom value))
    (dict : ∀ entries, (∀ entry ∈ entries, motive entry.2) → motive (.dict entries))
    (list : ∀ items, (∀ item ∈ items, motive item) → motive (.list items))
    (tuple : ∀ items, (∀ item ∈ items, motive item) → motive (.tuple items)) (value : FieldValue ω α) :
    motive value :=
  @FieldValue.rec ω α motive (fun entries => ∀ entry ∈ entries, motive entry.2)
    (fun items => ∀ item ∈ items, motive item) (fun entry => motive entry.2) text atom dict list tuple
    (fun _ member => absurd member List.not_mem_nil)
    (fun _ _ first rest => List.forall_mem_cons.mpr ⟨first, rest⟩)
    (fun _ member => absurd member List.not_mem_nil)
    (fun _ _ first rest => List.forall_mem_cons.mpr ⟨first, rest⟩) (fun _ _ held => held) value

section

variable {shown : ω → String} {lower : String → String}

/-! ## What the redaction of a container is -/

theorem redactItems_eq (items : List (FieldValue ω α)) : redactItems shown lower items = items.map (redact shown lower) := by
  induction items with
  | nil => rfl
  | cons item items ih => rw [redactItems, ih, List.map_cons]

/-- What is written under a key text. -/
def written (shown : ω → String) (lower : String → String) (text : String) (item : FieldValue ω α) :
    FieldValue ω α :=
  if Sensitive lower text then .text redactedMark else redact shown lower item

theorem redactPairs_eq (entries : List (FieldKey ω × FieldValue ω α)) :
    redactPairs shown lower entries = (entries.map fun entry => (entry.1.text shown, entry.2)).map fun pair =>
      (pair.1, written shown lower pair.1 pair.2) := by
  induction entries with
  | nil => rfl
  | cons entry entries ih =>
    obtain ⟨key, item⟩ := entry
    rw [redactPairs, ih]
    rfl

theorem mem_redactPairs {entries : List (FieldKey ω × FieldValue ω α)} {text : String} {found : FieldValue ω α} :
    (text, found) ∈ comprehension (redactPairs shown lower entries) ↔
      ∃ item, lastItem shown entries text = some item ∧ found = written shown lower text item := by
  rw [mem_comprehension, redactPairs_eq, lastValue_map, Option.map_eq_some_iff]
  exact exists_congr fun item => and_congr_right fun _ => eq_comm

theorem mem_of_lastItem {entries : List (FieldKey ω × FieldValue ω α)} {text : String} {item : FieldValue ω α}
    (last : lastItem shown entries text = some item) : ∃ entry ∈ entries, entry.1.text shown = text ∧ entry.2 = item := by
  obtain ⟨entry, member, same⟩ := List.mem_map.mp (mem_of_lastValue last)
  exact ⟨entry, member, (Prod.mk.inj same).1, (Prod.mk.inj same).2⟩

theorem exists_lastItem {entries : List (FieldKey ω × FieldValue ω α)} {entry : FieldKey ω × FieldValue ω α}
    (member : entry ∈ entries) : ∃ item, lastItem shown entries (entry.1.text shown) = some item := by
  have mapped : (entry.1.text shown, entry.2) ∈ entries.map fun entry => (entry.1.text shown, entry.2) :=
    List.mem_map.mpr ⟨entry, member, rfl⟩
  exact exists_lastValue mapped

/-- Redaction of a redaction changes nothing, whatever is nested. -/
theorem redact_redact (value : FieldValue ω α) :
    redact shown lower (redact shown lower value) = redact shown lower value := by
  induction value using induction with
  | text | atom | tuple => rfl
  | list items ih =>
    rw [redact, redact, redactItems_eq, redactItems_eq, List.map_map]
    exact congrArg _ (List.map_congr_left ih)
  | dict entries ih =>
    have again : redactPairs shown lower ((comprehension (redactPairs shown lower entries)).map fun pair =>
        ((.str pair.1 : FieldKey ω), pair.2)) = comprehension (redactPairs shown lower entries) := by
      rw [redactPairs_eq, List.map_map, List.map_map]
      refine (List.map_congr_left fun pair member => ?_).trans (List.map_id _)
      obtain ⟨item, last, same⟩ := mem_redactPairs.mp member
      obtain ⟨entry, present, -, rfl⟩ := mem_of_lastItem last
      refine Prod.ext rfl ?_
      change written shown lower pair.1 pair.2 = pair.2
      rw [same]
      by_cases sensitive : Sensitive lower pair.1
      · rw [written, if_pos sensitive, written, if_pos sensitive]
      · rw [written, if_neg sensitive, written, if_neg sensitive, ih entry present]
    rw [redact, redact, again, comprehension_of_nodup (nodup_comprehension _)]

/-! ## Places -/

variable {entries : List (FieldKey ω × FieldValue ω α)} {items : List (FieldValue ω α)} {value found : FieldValue ω α}
  {label : String} {index : Nat} {path : List Step}

theorem at_dict : At shown (.dict entries) (.key label :: path) found ↔
    ∃ entry ∈ entries, entry.1.text shown = label ∧ At shown entry.2 path found := by
  constructor
  · rintro ⟨_, same, inside⟩
    cases same
    exact inside
  · exact fun inside => ⟨entries, rfl, inside⟩

theorem at_list : At shown (.list items) (.item index :: path) found ↔
    ∃ item, items[index]? = some item ∧ At shown item path found := by
  constructor
  · rintro ⟨_, same | same, inside⟩
    · cases same
      exact inside
    · cases same
  · exact fun inside => ⟨items, .inl rfl, inside⟩

theorem not_at_dict_item : ¬ At shown (.dict entries) (.item index :: path) found := by
  rintro ⟨_, same | same, -⟩ <;> cases same

theorem not_at_list_key : ¬ At shown (.list items) (.key label :: path) found := by
  rintro ⟨_, same, -⟩
  cases same

theorem at_scalar (scalar : value.IsScalar) (here : At shown value path found) : path = [] ∧ value = found := by
  cases path with
  | nil => exact ⟨rfl, here⟩
  | cons step path =>
    cases step with
    | key label =>
      obtain ⟨_, rfl, -⟩ := here
      exact scalar.elim
    | item index =>
      obtain ⟨_, rfl | rfl, -⟩ := here
      · exact scalar.elim
      · exact scalar.elim

theorem concealed_of_isScalar (scalar : value.IsScalar) : Concealed shown lower value := by
  intro path label found here
  have nowhere := (at_scalar scalar here).1
  simp at nowhere

theorem concealed_dict : Concealed shown lower (.dict entries) ↔
    ∀ entry ∈ entries, (Sensitive lower (entry.1.text shown) → entry.2 = .text redactedMark) ∧
      Concealed shown lower entry.2 := by
  constructor
  · intro concealed entry member
    refine ⟨fun sensitive => ?_, fun path label found here sensitive => ?_⟩
    · exact concealed [] _ entry.2 (at_dict.mpr ⟨entry, member, rfl, rfl⟩) sensitive
    · exact concealed (.key (entry.1.text shown) :: path) label found (at_dict.mpr ⟨entry, member, rfl, here⟩) sensitive
  · intro inside path label found here sensitive
    cases path with
    | nil =>
      obtain ⟨entry, member, rfl, same⟩ := at_dict.mp here
      obtain rfl : entry.2 = found := same
      exact (inside entry member).1 sensitive
    | cons step path =>
      cases step with
      | key first =>
        obtain ⟨entry, member, -, here⟩ := at_dict.mp here
        exact (inside entry member).2 path label found here sensitive
      | item index => exact absurd here not_at_dict_item

theorem concealed_list : Concealed shown lower (.list items) ↔ ∀ item ∈ items, Concealed shown lower item := by
  constructor
  · intro concealed item member path label found here sensitive
    obtain ⟨index, place⟩ := List.mem_iff_getElem?.mp member
    exact concealed (.item index :: path) label found (at_list.mpr ⟨item, place, here⟩) sensitive
  · intro inside path label found here sensitive
    cases path with
    | nil => exact absurd here not_at_list_key
    | cons step path =>
      cases step with
      | key first => exact absurd here not_at_list_key
      | item index =>
        obtain ⟨item, place, here⟩ := at_list.mp here
        exact inside item (List.mem_of_getElem? place) path label found here sensitive

/-! ## Places of a redaction -/

theorem at_redact_dict : At shown (redact shown lower (.dict entries)) (.key label :: path) found ↔
    ∃ item, lastItem shown entries label = some item ∧ At shown (written shown lower label item) path found := by
  rw [redact, at_dict]
  constructor
  · rintro ⟨entry, member, rfl, here⟩
    obtain ⟨⟨label, value⟩, listed, rfl⟩ := List.mem_map.mp member
    obtain ⟨item, last, rfl⟩ := mem_redactPairs.mp listed
    exact ⟨item, last, here⟩
  · rintro ⟨item, last, here⟩
    exact ⟨(.str label, written shown lower label item),
      List.mem_map.mpr ⟨(label, written shown lower label item), mem_redactPairs.mpr ⟨item, last, rfl⟩, rfl⟩, rfl, here⟩

theorem at_redact_list : At shown (redact shown lower (.list items)) (.item index :: path) found ↔
    ∃ item, items[index]? = some item ∧ At shown (redact shown lower item) path found := by
  rw [redact, redactItems_eq, at_list]
  constructor
  · rintro ⟨_, place, here⟩
    rw [List.getElem?_map, Option.map_eq_some_iff] at place
    obtain ⟨item, place, rfl⟩ := place
    exact ⟨item, place, here⟩
  · rintro ⟨item, place, here⟩
    exact ⟨redact shown lower item, by rw [List.getElem?_map, place, Option.map_some], here⟩

theorem written_plain (plain : ¬ Sensitive lower label) (item : FieldValue ω α) :
    written shown lower label item = redact shown lower item := if_neg plain

theorem Plain.head {step : Step} (plain : Plain lower (step :: path)) : ∀ label, step = .key label → ¬ Sensitive lower label :=
  fun label same => plain label (same ▸ List.mem_cons_self)

theorem Plain.tail {step : Step} (plain : Plain lower (step :: path)) : Plain lower path :=
  fun label member => plain label (List.mem_cons_of_mem _ member)

theorem Plain.cons_key (plain : ¬ Sensitive lower label) (rest : Plain lower path) : Plain lower (.key label :: path) := by
  intro other member
  rcases List.mem_cons.mp member with same | member
  · cases same
    exact plain
  · exact rest other member

theorem Plain.cons_item (index : Nat) (rest : Plain lower path) : Plain lower (.item index :: path) := by
  intro other member
  rcases List.mem_cons.mp member with same | member
  · cases same
  · exact rest other member

theorem at_of_at_redact {scalar : FieldValue ω α} (isScalar : scalar.IsScalar) (plain : Plain lower path)
    (here : At shown (redact shown lower value) path scalar) : At shown value path scalar := by
  induction value using induction generalizing path with
  | text | atom | tuple => exact here
  | list items ih =>
    cases path with
    | nil =>
      obtain rfl : redact shown lower (.list items) = scalar := here
      exact isScalar.elim
    | cons step path =>
      cases step with
      | key label => exact absurd here not_at_list_key
      | item index =>
        obtain ⟨item, place, here⟩ := at_redact_list.mp here
        exact at_list.mpr ⟨item, place, ih item (List.mem_of_getElem? place) plain.tail here⟩
  | dict entries ih =>
    cases path with
    | nil =>
      obtain rfl : redact shown lower (.dict entries) = scalar := here
      exact isScalar.elim
    | cons step path =>
      cases step with
      | item index => exact absurd here not_at_dict_item
      | key label =>
        obtain ⟨item, last, here⟩ := at_redact_dict.mp here
        rw [written_plain (plain.head label rfl)] at here
        obtain ⟨entry, member, rfl, rfl⟩ := mem_of_lastItem last
        exact at_dict.mpr ⟨entry, member, rfl, ih entry member plain.tail here⟩

/-! ## The two demands on a redaction, container by container -/

theorem concealed_redact_dict : Concealed shown lower (redact shown lower (.dict entries)) ↔
    ∀ label item, ¬ Sensitive lower label → lastItem shown entries label = some item →
      Concealed shown lower (redact shown lower item) := by
  rw [redact, concealed_dict]
  constructor
  · intro inside label item plain last
    have listed : (.str label, written shown lower label item) ∈
        (comprehension (redactPairs shown lower entries)).map fun pair => ((.str pair.1 : FieldKey ω), pair.2) :=
      List.mem_map.mpr ⟨(label, written shown lower label item), mem_redactPairs.mpr ⟨item, last, rfl⟩, rfl⟩
    have concealed := (inside _ listed).2
    rwa [written_plain plain] at concealed
  · intro inside entry member
    obtain ⟨⟨label, value⟩, listed, rfl⟩ := List.mem_map.mp member
    obtain ⟨item, last, rfl⟩ := mem_redactPairs.mp listed
    by_cases sensitive : Sensitive lower label
    · have marked : written shown lower label item = .text redactedMark := if_pos sensitive
      refine ⟨fun _ => marked, ?_⟩
      change Concealed shown lower (written shown lower label item)
      rw [marked]
      exact concealed_of_isScalar trivial
    · refine ⟨fun same => absurd same sensitive, ?_⟩
      change Concealed shown lower (written shown lower label item)
      rw [written_plain sensitive]
      exact inside label item sensitive last

theorem concealed_redact_list : Concealed shown lower (redact shown lower (.list items)) ↔
    ∀ item ∈ items, Concealed shown lower (redact shown lower item) := by
  rw [redact, redactItems_eq, concealed_list]
  simp only [List.forall_mem_map]

theorem keptIn_redact_dict : KeptIn shown lower (.dict entries) (redact shown lower (.dict entries)) ↔
    KeysApart shown lower (.dict entries) ∧ ∀ label item, ¬ Sensitive lower label →
      lastItem shown entries label = some item → KeptIn shown lower item (redact shown lower item) := by
  constructor
  · intro kept
    have follow {entry : FieldKey ω × FieldValue ω α} (member : entry ∈ entries)
        (plain : ¬ Sensitive lower (entry.1.text shown)) {item : FieldValue ω α}
        (last : lastItem shown entries (entry.1.text shown) = some item) :
        KeptIn shown lower entry.2 (redact shown lower item) := by
      intro path scalar plainPath isScalar here
      have moved := kept (.key (entry.1.text shown) :: path) scalar (plainPath.cons_key plain) isScalar
        (at_dict.mpr ⟨entry, member, rfl, here⟩)
      obtain ⟨other, last', there⟩ := at_redact_dict.mp moved
      obtain rfl : item = other := Option.some.inj (last.symm.trans last')
      rwa [written_plain plain] at there
    constructor
    · rintro _ same entry member plain item last path scalar plainPath isScalar here
      cases same
      exact at_of_at_redact isScalar plainPath (follow member plain last path scalar plainPath isScalar here)
    · intro label item plain last
      obtain ⟨entry, member, rfl, rfl⟩ := mem_of_lastItem last
      exact follow member plain last
  · rintro ⟨apart, kept⟩ path scalar plainPath isScalar here
    cases path with
    | nil =>
      obtain rfl : .dict entries = scalar := here
      exact isScalar.elim
    | cons step path =>
      cases step with
      | item index => exact absurd here not_at_dict_item
      | key label =>
        obtain ⟨entry, member, rfl, inside⟩ := at_dict.mp here
        have plain := plainPath.head (entry.1.text shown) rfl
        obtain ⟨item, last⟩ := exists_lastItem member
        refine at_redact_dict.mpr ⟨item, last, ?_⟩
        rw [written_plain plain]
        exact kept _ item plain last path scalar plainPath.tail isScalar
          (apart entries rfl entry member plain item last path scalar plainPath.tail isScalar inside)

theorem keptIn_redact_list : KeptIn shown lower (.list items) (redact shown lower (.list items)) ↔
    ∀ item ∈ items, KeptIn shown lower item (redact shown lower item) := by
  constructor
  · intro kept item member path scalar plainPath isScalar here
    obtain ⟨index, place⟩ := List.mem_iff_getElem?.mp member
    have moved := kept (.item index :: path) scalar (plainPath.cons_item index) isScalar
      (at_list.mpr ⟨item, place, here⟩)
    obtain ⟨other, place', there⟩ := at_redact_list.mp moved
    obtain rfl : item = other := Option.some.inj (place.symm.trans place')
    exact there
  · intro kept path scalar plainPath isScalar here
    cases path with
    | nil =>
      obtain rfl : .list items = scalar := here
      exact isScalar.elim
    | cons step path =>
      cases step with
      | key label => exact absurd here not_at_list_key
      | item index =>
        obtain ⟨item, place, here⟩ := at_list.mp here
        exact at_redact_list.mpr ⟨item, place,
          kept item (List.mem_of_getElem? place) path scalar plainPath.tail isScalar here⟩

/-! ## The condition, container by container -/

theorem redactable_dict : Redactable shown lower (.dict entries) ↔
    KeysApart shown lower (.dict entries) ∧ ∀ label item, ¬ Sensitive lower label →
      lastItem shown entries label = some item → Redactable shown lower item := by
  constructor
  · intro redactable
    refine ⟨(redactable [] _ rfl).2, fun label item plain last path found visited => ?_⟩
    exact redactable (.key label :: path) found ⟨plain, entries, item, rfl, last, visited⟩
  · rintro ⟨apart, inside⟩ path found visited
    cases path with
    | nil =>
      obtain rfl : .dict entries = found := visited
      exact ⟨fun _ same => (by cases same), apart⟩
    | cons step path =>
      cases step with
      | key label =>
        obtain ⟨plain, _, item, same, last, visited⟩ := visited
        cases same
        exact inside label item plain last path found visited
      | item index =>
        obtain ⟨_, _, same, -⟩ := visited
        cases same

theorem redactable_list : Redactable shown lower (.list items) ↔ ∀ item ∈ items, Redactable shown lower item := by
  constructor
  · intro redactable item member path found visited
    obtain ⟨index, place⟩ := List.mem_iff_getElem?.mp member
    exact redactable (.item index :: path) found ⟨items, item, rfl, place, visited⟩
  · intro inside path found visited
    cases path with
    | nil =>
      obtain rfl : .list items = found := visited
      exact ⟨fun _ same => (by cases same), fun _ same => (by cases same)⟩
    | cons step path =>
      cases step with
      | key label =>
        obtain ⟨-, _, _, same, -⟩ := visited
        cases same
      | item index =>
        obtain ⟨_, item, same, place, visited⟩ := visited
        cases same
        exact inside item (List.mem_of_getElem? place) path found visited

theorem redactable_of_isScalar (scalar : value.IsScalar) : Redactable shown lower value := by
  intro path found visited
  cases path with
  | nil =>
    obtain rfl : value = found := visited
    refine ⟨fun items same => ?_, fun entries same => ?_⟩
    · exact absurd scalar (by rw [same]; exact not_false)
    · exact absurd scalar (by rw [same]; exact not_false)
  | cons step path =>
    cases step with
    | key label =>
      obtain ⟨-, _, _, rfl, -⟩ := visited
      exact scalar.elim
    | item index =>
      obtain ⟨_, _, rfl, -⟩ := visited
      exact scalar.elim

theorem redactable_tuple : Redactable shown lower (.tuple items) ↔ Concealed shown lower (.tuple items) := by
  constructor
  · intro redactable
    exact (redactable [] _ rfl).1 items rfl
  · intro concealed path found visited
    cases path with
    | nil =>
      obtain rfl : .tuple items = found := visited
      exact ⟨fun _ _ => concealed, fun _ same => (by cases same)⟩
    | cons step path =>
      cases step with
      | key label =>
        obtain ⟨-, _, _, same, -⟩ := visited
        cases same
      | item index =>
        obtain ⟨_, _, same, -⟩ := visited
        cases same

theorem concealed_and_kept_iff (value : FieldValue ω α) :
    Concealed shown lower (redact shown lower value) ∧ KeptIn shown lower value (redact shown lower value) ↔
      Redactable shown lower value := by
  have unchanged {value : FieldValue ω α} : KeptIn shown lower value value := fun _ _ _ _ here => here
  induction value using induction with
  | text | atom => exact ⟨fun _ => redactable_of_isScalar trivial, fun _ => ⟨concealed_of_isScalar trivial, unchanged⟩⟩
  | tuple =>
    rw [redactable_tuple]
    exact ⟨And.left, fun concealed => ⟨concealed, unchanged⟩⟩
  | list items ih =>
    rw [concealed_redact_list, keptIn_redact_list, redactable_list, ← forall₂_and]
    exact forall₂_congr ih
  | dict entries ih =>
    have below {label : String} {item : FieldValue ω α} (last : lastItem shown entries label = some item) :
        Concealed shown lower (redact shown lower item) ∧ KeptIn shown lower item (redact shown lower item) ↔
          Redactable shown lower item := by
      obtain ⟨entry, member, -, rfl⟩ := mem_of_lastItem last
      exact ih entry member
    rw [concealed_redact_dict, keptIn_redact_dict, redactable_dict, and_left_comm]
    refine and_congr_right fun _ => ?_
    constructor
    · rintro ⟨concealed, kept⟩ label item plain last
      exact (below last).mp ⟨concealed label item plain last, kept label item plain last⟩
    · intro inside
      exact ⟨fun label item plain last => ((below last).mpr (inside label item plain last)).1,
        fun label item plain last => ((below last).mpr (inside label item plain last)).2⟩

/-- Redaction does what is asked of it exactly if no visited tuple hides a sensitive key and no visited dictionary
    loses a scalar to another key with the same text. -/
theorem redacts_iff (shown : ω → String) (lower : String → String) (value : FieldValue ω α) :
    Redacts shown lower value ↔ Redactable shown lower value := by
  rw [← concealed_and_kept_iff]
  exact ⟨fun redacts => ⟨redacts.concealed, redacts.kept⟩, fun both => ⟨both.1, both.2, redact_redact value⟩⟩

end

/-! ## A password in a tuple -/

def lowercase (text : String) : String := String.ofList (text.toList.map Char.toLower)

def attempts : FieldValue Unit Unit :=
  .dict [(.str "attempts", .tuple [.dict [(.str "password", .text "x")]])]

example : redact (fun _ => "") lowercase (.dict [(.str "Token", .text "x"), (.str "nested",
    .dict [(.str "password", .text "x")])] : FieldValue Unit Unit) =
    .dict [(.str "Token", .text "[REDACTED]"), (.str "nested", .dict [(.str "password", .text "[REDACTED]")])] := rfl

/-- The tuple is handed on as it is. -/
theorem attempts_exposed : ¬ Redacts (fun _ => "") lowercase attempts := by
  intro redacts
  have there : At (fun _ => "") (redact (fun _ => "") lowercase attempts)
      ([.key "attempts", .item 0] ++ [.key "password"]) (.text "x") :=
    ⟨_, rfl, (.str "attempts", .tuple [.dict [(.str "password", .text "x")]]), List.mem_singleton_self _, rfl,
      _, .inr rfl, .dict [(.str "password", .text "x")], rfl,
      _, rfl, (.str "password", .text "x"), List.mem_singleton_self _, rfl, rfl⟩
  have marked := redacts.concealed _ _ _ there (by decide)
  exact absurd (FieldValue.text.inj marked) (by decide)

end FieldValue

end AgentPlatform.Gateway
