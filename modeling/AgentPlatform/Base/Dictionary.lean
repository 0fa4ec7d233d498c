import Mathlib.Data.List.Induction
import Mathlib.Data.List.Nodup

/-! # Dictionaries in insertion order

A dictionary built from pairs keeps a key at its first place, with its last value. -/

namespace Python

variable {κ β γ : Type} [DecidableEq κ]

def setItem (dictionary : List (κ × β)) (key : κ) (value : β) : List (κ × β) :=
  if key ∈ dictionary.map Prod.fst then
    dictionary.map fun entry => if entry.1 = key then (key, value) else entry
  else dictionary ++ [(key, value)]

/-- A dictionary comprehension. -/
def comprehension (pairs : List (κ × β)) : List (κ × β) :=
  pairs.foldl (fun dictionary pair => setItem dictionary pair.1 pair.2) []

def lastValue (pairs : List (κ × β)) (key : κ) : Option β :=
  (pairs.reverse.find? fun pair => pair.1 = key).map Prod.snd

theorem lastValue_nil (key : κ) : lastValue ([] : List (κ × β)) key = none := rfl

theorem lastValue_concat (pairs : List (κ × β)) (pair : κ × β) (key : κ) :
    lastValue (pairs ++ [pair]) key = if pair.1 = key then some pair.2 else lastValue pairs key := by
  rw [lastValue, List.reverse_append, List.reverse_singleton, List.singleton_append, List.find?_cons]
  by_cases same : pair.1 = key
  · simp [same]
  · simp [same, lastValue]

theorem comprehension_concat (pairs : List (κ × β)) (pair : κ × β) :
    comprehension (pairs ++ [pair]) = setItem (comprehension pairs) pair.1 pair.2 := by
  rw [comprehension, List.foldl_append]
  rfl

theorem keys_setItem (dictionary : List (κ × β)) (key : κ) (value : β) :
    (setItem dictionary key value).map Prod.fst =
      if key ∈ dictionary.map Prod.fst then dictionary.map Prod.fst else dictionary.map Prod.fst ++ [key] := by
  rw [setItem]
  split
  · rw [List.map_map]
    refine List.map_congr_left fun entry _ => ?_
    by_cases same : entry.1 = key
    · simp [same]
    · simp [same]
  · simp

theorem mem_setItem {dictionary : List (κ × β)} {key other : κ} {value found : β} :
    (other, found) ∈ setItem dictionary key value ↔
      if key = other then value = found else (other, found) ∈ dictionary := by
  rw [setItem]
  by_cases same : key = other
  · subst same
    rw [if_pos rfl]
    split
    · rename_i present
      rw [List.mem_map]
      constructor
      · rintro ⟨entry, -, shape⟩
        by_cases here : entry.1 = key
        · rw [if_pos here] at shape
          exact (Prod.mk.inj shape).2
        · rw [if_neg here] at shape
          exact absurd (congrArg Prod.fst shape) here
      · rintro rfl
        obtain ⟨entry, member, here⟩ := List.mem_map.mp present
        exact ⟨entry, member, if_pos here⟩
    · rename_i absent
      rw [List.mem_append, List.mem_singleton]
      constructor
      · rintro (member | shape)
        · exact absurd (List.mem_map_of_mem member) absent
        · exact (Prod.mk.inj shape).2.symm
      · rintro rfl
        exact .inr rfl
  · rw [if_neg same]
    split
    · rw [List.mem_map]
      constructor
      · rintro ⟨entry, member, shape⟩
        by_cases here : entry.1 = key
        · rw [if_pos here] at shape
          exact absurd (Prod.mk.inj shape).1 same
        · rw [if_neg here] at shape
          rwa [← shape]
      · intro member
        exact ⟨(other, found), member, if_neg fun here => same here.symm⟩
    · rw [List.mem_append, List.mem_singleton]
      constructor
      · rintro (member | shape)
        · exact member
        · exact absurd (Prod.mk.inj shape).1.symm same
      · exact .inl

theorem mem_comprehension {pairs : List (κ × β)} {key : κ} {value : β} :
    (key, value) ∈ comprehension pairs ↔ lastValue pairs key = some value := by
  induction pairs using List.reverseRecOn with
  | nil => simp [comprehension, lastValue_nil]
  | append_singleton pairs pair ih =>
    rw [comprehension_concat, lastValue_concat, mem_setItem, ih]
    split
    · rw [Option.some.injEq]
    · rfl

theorem nodup_comprehension (pairs : List (κ × β)) : ((comprehension pairs).map Prod.fst).Nodup := by
  induction pairs using List.reverseRecOn with
  | nil => exact List.nodup_nil
  | append_singleton pairs pair ih =>
    rw [comprehension_concat, keys_setItem]
    split
    · exact ih
    · rename_i absent
      exact ih.append (List.nodup_singleton _) (by simpa [List.disjoint_singleton] using absent)

theorem comprehension_of_nodup {pairs : List (κ × β)} (distinct : (pairs.map Prod.fst).Nodup) :
    comprehension pairs = pairs := by
  induction pairs using List.reverseRecOn with
  | nil => rfl
  | append_singleton pairs pair ih =>
    rw [List.map_append, List.map_singleton] at distinct
    obtain ⟨earlier, -, apart⟩ := List.nodup_append.mp distinct
    have absent : pair.1 ∉ pairs.map Prod.fst := fun present =>
      apart pair.1 present pair.1 (List.mem_singleton_self _) rfl
    rw [comprehension_concat, ih earlier, setItem, if_neg absent]

theorem mem_of_lastValue {pairs : List (κ × β)} {key : κ} {value : β} (last : lastValue pairs key = some value) :
    (key, value) ∈ pairs := by
  obtain ⟨pair, found, rfl⟩ := Option.map_eq_some_iff.mp last
  have same : pair.1 = key := by simpa using List.find?_some found
  rw [← same]
  exact List.mem_reverse.mp (List.mem_of_find?_eq_some found)

theorem exists_lastValue {pairs : List (κ × β)} {pair : κ × β} (member : pair ∈ pairs) :
    ∃ value, lastValue pairs pair.1 = some value := by
  have found : (pairs.reverse.find? fun other => other.1 = pair.1).isSome := by
    rw [List.find?_isSome]
    exact ⟨pair, List.mem_reverse.mpr member, decide_eq_true rfl⟩
  obtain ⟨last, found⟩ := Option.isSome_iff_exists.mp found
  exact ⟨last.2, by rw [lastValue, found, Option.map_some]⟩

theorem lastValue_map (pairs : List (κ × β)) (change : κ → β → γ) (key : κ) :
    lastValue (pairs.map fun pair => (pair.1, change pair.1 pair.2)) key = (lastValue pairs key).map (change key) := by
  induction pairs using List.reverseRecOn with
  | nil => rfl
  | append_singleton pairs pair ih =>
    rw [List.map_append, List.map_singleton, lastValue_concat, lastValue_concat, ih]
    split
    · rename_i same
      rw [same, Option.map_some]
    · rfl

end Python
