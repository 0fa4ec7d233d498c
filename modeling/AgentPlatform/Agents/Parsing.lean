import AgentPlatform.Base.Pattern

/-! # Identifiers in a query -/

namespace AgentPlatform.Agents

open Python

/-- Up to so many digits, as many as there are first. -/
def upToDigits (unicode : Unicode) : Nat → Regex
  | 0 => .empty
  | count + 1 => .alt (.seq (.char unicode.decimal) (upToDigits unicode count)) .empty

/-- `\d{4,10}`. -/
def identifierDigits (unicode : Unicode) : Regex :=
  let digit : Regex := .char unicode.decimal
  .seq digit (.seq digit (.seq digit (.seq digit (upToDigits unicode 6))))

/-- A prefix of letters, a hyphen and digits between word boundaries. -/
def identifierPattern (unicode : Unicode) (letters : String) : SearchPattern where
  leading := true
  body := .seq (literal letters.toList) (.seq (exactly ['-']) (identifierDigits unicode))
  trailing := true

/-- `upper` on what the pattern of the letters matches: the digits and the hyphen have no other case. -/
def identifierFrom (unicode : Unicode) (small capital : String) (query : String) : Option String :=
  ((identifierPattern unicode small).find unicode.isWord query.toList).map fun found =>
    capital ++ String.ofList (found.drop small.length)

def customerIdFrom (unicode : Unicode) (query : String) : Option String :=
  identifierFrom unicode "cust" "CUST" query

def transactionIdFrom (unicode : Unicode) (query : String) : Option String :=
  identifierFrom unicode "txn" "TXN" query

example : customerIdFrom asciiUnicode "pay to xCUST-1098, Cust-2042" = some "CUST-2042" := by decide

end AgentPlatform.Agents
