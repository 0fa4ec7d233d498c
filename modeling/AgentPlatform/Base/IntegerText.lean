import AgentPlatform.Base.Text

/-! # Integers from text

`int(text)` on Latin-1 text, where the decimal digits are those of ASCII. -/

namespace Python

def isDecimalDigit (c : Char) : Bool := 48 ≤ c.toNat && c.toNat ≤ 57

/-- The default of `sys.get_int_max_str_digits()`. -/
def maxStrDigits : Nat := 4300

/-- The digits of a literal, without the single underscores between them. -/
def literalDigits (text : List Char) : Option (List Char) :=
  let groups := text.splitOn '_'
  if groups.all fun group => !group.isEmpty && group.all isDecimalDigit then some groups.flatten else none

def naturalOf (text : List Char) : Option Nat :=
  (literalDigits text).bind fun digits =>
    if digits.length ≤ maxStrDigits then
      some (digits.foldl (fun value c => value * 10 + (c.toNat - 48)) 0)
    else none

/-- `Py_ISSPACE`. -/
def isAsciiSpace (c : Char) : Bool := (9 ≤ c.toNat && c.toNat ≤ 13) || c = ' '

/-- What `int` strips: of ASCII text less than `strip` does, which knows the separators from U+001C on as well. -/
def isIntSpace (text : List Char) : Char → Bool :=
  if text.all fun c => c.toNat < 128 then isAsciiSpace else isSpace

/-- `int(text)`, or `none` for a `ValueError`. -/
def int (text : String) : Option Int :=
  match stripBy (isIntSpace text.toList) text.toList with
  | '+' :: rest => (naturalOf rest).map fun value => (value : Int)
  | '-' :: rest => (naturalOf rest).map fun value => -(value : Int)
  | rest => (naturalOf rest).map fun value => (value : Int)

example : int " +1_024 " = some 1024 ∧ int "-5" = some (-5) ∧ int "1__0" = none ∧ int "\x1c5" = none := by decide

end Python
