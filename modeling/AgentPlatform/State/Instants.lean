import AgentPlatform.State.Records

/-! # The texts of instants

A reader of the texts that `isoformat` and a validated model write, and the outside functions of the stores
with it. -/

namespace AgentPlatform.State

def number (digits : List Char) : Nat := digits.foldl (fun value c => value * 10 + (c.toNat - 48)) 0

/-- The number in the first characters of a text, and the text after it. -/
def readNumber (width : Nat) (text : List Char) : Nat × List Char := (number (text.take width), text.drop width)

def readInstant (text : List Char) : Option Datetime :=
  let (year, text) := readNumber 4 text
  let (month, text) := readNumber 2 text.tail
  let (day, text) := readNumber 2 text.tail
  let (hour, text) := readNumber 2 text.tail
  let (minute, text) := readNumber 2 text.tail
  let (second, text) := readNumber 2 text.tail
  let microsecond := if text.head? = some '.' then (readNumber 6 text.tail).1 else 0
  if ranges : (1 ≤ year ∧ year ≤ 9999) ∧ (1 ≤ month ∧ month ≤ 12) ∧ (1 ≤ day ∧ day ≤ 31) ∧ hour ≤ 23 ∧
      minute ≤ 59 ∧ second ≤ 59 ∧ microsecond ≤ 999999 then
    some ⟨year, month, day, hour, minute, second, microsecond, ranges.1, ranges.2.1, ranges.2.2.1,
      ranges.2.2.2.1, ranges.2.2.2.2.1, ranges.2.2.2.2.2.1, ranges.2.2.2.2.2.2⟩
  else none

/-- The text of an instant before its offset. -/
def Datetime.stamp (instant : Datetime) : List Char :=
  decimal 4 instant.year ++ '-' :: decimal 2 instant.month ++ '-' :: decimal 2 instant.day ++
    'T' :: decimal 2 instant.hour ++ ':' :: decimal 2 instant.minute ++ ':' :: decimal 2 instant.second ++
    (if instant.microsecond = 0 then [] else '.' :: decimal 6 instant.microsecond)

/-- The text that `model_dump` gives in its `json` mode. -/
def Datetime.zulu (instant : Datetime) : String := String.ofList (instant.stamp ++ ['Z'])

def parseInstant (text : String) : Option Datetime :=
  (readInstant text.toList).filter fun instant => instant.isoformat = text ∨ instant.zulu = text

theorem length_decimal (width value : Nat) : (decimal width value).length = width := by
  induction width generalizing value with
  | zero => rfl
  | succ width ih => simp [decimal, ih]

theorem number_snoc (digits : List Char) (c : Char) :
    number (digits ++ [c]) = number digits * 10 + (c.toNat - 48) := by
  simp [number]

theorem number_decimal (width value : Nat) : number (decimal width value) = value % 10 ^ width := by
  induction width generalizing value with
  | zero => simp [decimal, number, Nat.mod_one]
  | succ width ih =>
    rw [decimal, number_snoc, ih, Nat.toNat_digitChar_sub_48_of_lt_ten (Nat.mod_lt _ (by decide)), Nat.pow_succ,
      Nat.mul_comm (10 ^ width) 10, Nat.mod_mul]
    omega

theorem readNumber_decimal {width value : Nat} (fits : value < 10 ^ width) (rest : List Char) :
    readNumber width (decimal width value ++ rest) = (value, rest) := by
  rw [readNumber, List.take_left' (length_decimal width value), List.drop_left' (length_decimal width value),
    number_decimal, Nat.mod_eq_of_lt fits]

theorem readInstant_stamp (instant : Datetime) {offset : List Char} (whole : offset.head? ≠ some '.') :
    readInstant (instant.stamp ++ offset) = some instant := by
  obtain ⟨year, month, day, hour, minute, second, microsecond, yearRange, monthRange, dayRange, hourRange,
    minuteRange, secondRange, microsecondRange⟩ := instant
  have fraction : (if ((if microsecond = 0 then [] else '.' :: decimal 6 microsecond) ++ offset).head? = some '.'
      then (readNumber 6 ((if microsecond = 0 then [] else '.' :: decimal 6 microsecond) ++ offset).tail).1
      else 0) = microsecond := by
    by_cases zero : microsecond = 0
    · rw [if_pos zero, List.nil_append, if_neg whole, zero]
    · rw [if_neg zero, List.cons_append, if_pos List.head?_cons, List.tail_cons,
        readNumber_decimal (by omega)]
  simp only [readInstant, Datetime.stamp, List.append_assoc, List.cons_append, List.tail_cons,
    readNumber_decimal (show year < 10 ^ 4 by omega), readNumber_decimal (show month < 10 ^ 2 by omega),
    readNumber_decimal (show day < 10 ^ 2 by omega), readNumber_decimal (show hour < 10 ^ 2 by omega),
    readNumber_decimal (show minute < 10 ^ 2 by omega), readNumber_decimal (show second < 10 ^ 2 by omega),
    fraction]
  rw [dif_pos ⟨yearRange, monthRange, dayRange, hourRange, minuteRange, secondRange, microsecondRange⟩]

theorem parseInstant_isoformat (instant : Datetime) : parseInstant instant.isoformat = some instant := by
  have text : instant.isoformat.toList = instant.stamp ++ "+00:00".toList := String.toList_ofList
  rw [parseInstant, text, readInstant_stamp instant (by decide)]
  simp

theorem parseInstant_zulu (instant : Datetime) : parseInstant instant.zulu = some instant := by
  have text : instant.zulu.toList = instant.stamp ++ ['Z'] := String.toList_ofList
  rw [parseInstant, text, readInstant_stamp instant (by decide)]
  simp

/-- The outside functions as they behave where the one query that is hashed is the text `refund`. -/
def referenceExternals : Externals where
  sha256 _ := "1d630127108f1feaf1f7beee59b66dd679daf712a441f3d0a39ee9ea0f2b7a95"
  dumpDatetime := Datetime.zulu
  parseDatetime := parseInstant
  sha256_length _ := by decide
  parse_isoformat := parseInstant_isoformat
  parse_dump := parseInstant_zulu

def noon : Datetime := ⟨2026, 1, 5, 12, 0, 0, 0, by decide, by decide, by decide, by decide, by decide, by decide,
  by decide⟩

def firstUuid : Uuid := ⟨List.replicate 32 1, rfl⟩

end AgentPlatform.State
