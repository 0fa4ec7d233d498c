import AgentPlatform.Base.Pattern
import AgentPlatform.Rag.Models

/-! # Document ingestion

Strict parsing of policy documents, and the instruction patterns that their content is screened against. -/

namespace AgentPlatform.Rag

open Python

/-- `ignore (all |any )?(previous|prior) instructions`. -/
def ignorePattern : SearchPattern where
  leading := false
  body := .seq (literal "ignore ".toList) (.seq (optionally (.alt (literal "all ".toList) (literal "any ".toList)))
    (.seq (.alt (literal "previous".toList) (literal "prior".toList)) (literal " instructions".toList)))
  trailing := false

/-- `reveal (the )?(system|developer) prompt`. -/
def revealPattern : SearchPattern where
  leading := false
  body := .seq (literal "reveal ".toList) (.seq (optionally (literal "the ".toList))
    (.seq (.alt (literal "system".toList) (literal "developer".toList)) (literal " prompt".toList)))
  trailing := false

/-- `\b(system|assistant|developer)\s*:`. -/
def speakerPattern : SearchPattern where
  leading := true
  body := .seq (anyOf "system" "assistant" "developer") (.seq anySpaces (literal ":".toList))
  trailing := false

/-- `<\s*(script|iframe|object)\b`. -/
def markupPattern : SearchPattern where
  leading := false
  body := .seq (literal "<".toList) (.seq anySpaces (anyOf "script" "iframe" "object"))
  trailing := true

/-- `\b(call|invoke|execute)\s+(the\s+)?tool\b`. -/
def toolPattern : SearchPattern where
  leading := true
  body := .seq (anyOf "call" "invoke" "execute") (.seq someSpaces
    (.seq (optionally (.seq (literal "the".toList) someSpaces)) (literal "tool".toList)))
  trailing := true

def injectionPatterns : List SearchPattern :=
  [ignorePattern, revealPattern, speakerPattern, markupPattern, toolPattern]

inductive IngestionError where
  /-- `UnsafeKnowledgeDocument`. -/
  | refused (message : String)
  /-- The `ValidationError` of `KnowledgeDocument`. -/
  | validation
deriving DecidableEq, Repr

def maxDocumentBytes : Nat := 50000

/-- The category `Cc`. -/
def isControl (c : Char) : Bool := c.toNat < 0x20 || (0x7F ≤ c.toNat && c.toNat ≤ 0x9F)

def isLineBreak (c : Char) : Bool :=
  (0x0A ≤ c.toNat && c.toNat ≤ 0x0D) || (0x1C ≤ c.toNat && c.toNat ≤ 0x1E) || c.toNat = 0x85 ||
    c.toNat = 0x2028 || c.toNat = 0x2029

/-- `splitlines`, with the characters of the current line so far. -/
def splitLines : List Char → List Char → List (List Char)
  | [], [] => []
  | line, [] => [line]
  | line, '\r' :: '\n' :: text => line :: splitLines [] text
  | line, c :: text => if isLineBreak c then line :: splitLines [] text else splitLines (line ++ [c]) text

/-- The key and the value of a metadata line, stripped. -/
def headerField (line : List Char) : Option (String × String) :=
  if ':' ∈ line then
    let key := strip (String.ofList (line.takeWhile (· ≠ ':')))
    let value := strip (String.ofList ((line.dropWhile (· ≠ ':')).drop 1))
    if key = "" ∨ value = "" then none else some (key, value)
  else none

abbrev Metadata := List (String × String)

def parseHeaders : List (List Char) → Metadata → Except IngestionError Metadata
  | [], headers => .ok headers
  | line :: lines, headers =>
    match headerField line with
    | none => .error (.refused "Document metadata contains an invalid field")
    | some (key, value) =>
      if key ∈ headers.map Prod.fst then .error (.refused "Document metadata contains an invalid field")
      else parseHeaders lines (headers ++ [(key, value)])

def frontMatter : List Char := "---".toList

def splitDocument (document : List Char) : Except IngestionError (Metadata × List Char) :=
  let lines := splitLines [] document
  if lines.length < 8 ∨ lines.head? ≠ some frontMatter then
    .error (.refused "Document must start with metadata front matter")
  else
    let headerLines := lines.tail.takeWhile (· ≠ frontMatter)
    if headerLines.length = lines.tail.length then .error (.refused "Document metadata is not terminated")
    else
      match parseHeaders headerLines [] with
      | .error error => .error error
      | .ok headers =>
        let content := stripBy isSpace (List.intercalate ['\n'] (lines.tail.drop (headerLines.length + 1)))
        if content.length < 20 then .error (.refused "Document content is too short") else .ok (headers, content)

def requiredHeaders : List String := ["id", "title", "version", "classification", "allowed_roles"]

def Metadata.get (headers : Metadata) (key : String) : String := (headers.lookup key).getD ""

/-- `^POL-[A-Z]+-\d{3}$`. -/
def documentIdPattern (unicode : Unicode) : Regex :=
  let upper (c : Char) : Bool := 'A' ≤ c && c ≤ 'Z'
  .seq (exactly "POL-".toList) (.seq (.seq (.char upper) (.many upper)) (.seq (exactly "-".toList)
    (.seq (.char unicode.decimal) (.seq (.char unicode.decimal) (.char unicode.decimal)))))

/-- `^\d+\.\d+$`. -/
def versionPattern (unicode : Unicode) : Regex :=
  let digits : Regex := .seq (.char unicode.decimal) (.many unicode.decimal)
  .seq digits (.seq (exactly ".".toList) digits)

def isProvenance (text : String) : Bool :=
  text.length = 64 && text.toList.all fun c => ('a' ≤ c && c ≤ 'f') || ('0' ≤ c && c ≤ '9')

def Classification.parse (text : String) : Option Classification :=
  if text = "public-synthetic" then some .publicSynthetic
  else if text = "internal-synthetic" then some .internalSynthetic
  else none

theorem trim_members (names : List String) : ∀ role ∈ (names.map trim).toFinset, trim role = role := by
  intro role member
  obtain ⟨name, -, rfl⟩ := List.mem_map.mp (List.mem_toFinset.mp member)
  exact trim_trim name

/-- Validation of the fields of `KnowledgeDocument`. -/
def KnowledgeDocument.make (unicode : Unicode) (documentId title version classification : String)
    (allowedRoles : List String) (content provenanceSha256 : String) : Option KnowledgeDocument := do
  let kind ← Classification.parse classification
  if fullMatch (documentIdPattern unicode) (trim documentId) && fullMatch (versionPattern unicode) (trim version) &&
      decide (1 ≤ (trim title).length ∧ (trim title).length ≤ 200) &&
      decide (20 ≤ (trim content).length ∧ (trim content).length ≤ 50000) && isProvenance (trim provenanceSha256) then
    some
      { documentId := trim documentId
        title := trim title
        version := trim version
        classification := kind
        allowedRoles := (allowedRoles.map trim).toFinset
        content := trim content
        provenanceSha256 := trim provenanceSha256
        rolesTrimmed := trim_members allowedRoles }
  else none

def declaredRoles (headers : Metadata) : List String :=
  (((headers.get "allowed_roles").toList.splitOn ',').map fun role => strip (String.ofList role)).filter (· ≠ "")

/-- The checks on the parts of a document, and the model made of them. -/
def acceptParts (unicode : Unicode) (provenance sourceName : String) (headers : Metadata) (content : List Char) :
    Except IngestionError KnowledgeDocument :=
  let keys := headers.map Prod.fst
  if ¬ (requiredHeaders ⊆ keys ∧ keys ⊆ requiredHeaders) then
    .error (.refused "Document metadata schema is invalid")
  else if injectionPatterns.any fun pattern => pattern.search unicode.isWord content then
    .error (.refused "Document contains a prohibited instruction pattern")
  else if declaredRoles headers = [] then .error (.refused "Document must declare at least one allowed role")
  else if ¬ ".md".toList <:+ sourceName.toList then
    .error (.refused "Only Markdown policy documents are accepted")
  else
    match KnowledgeDocument.make unicode (headers.get "id") (headers.get "title") (headers.get "version")
      (headers.get "classification") (declaredRoles headers) (String.ofList content) provenance with
    | none => .error .validation
    | some document => .ok document

/-- `parse_policy_document`, with the digest of the raw bytes. -/
def parsePolicyDocument (unicode : Unicode) (sha256 : ByteArray → String) (raw : ByteArray) (sourceName : String) :
    Except IngestionError KnowledgeDocument :=
  if maxDocumentBytes < raw.size then .error (.refused "Document exceeds the ingestion size limit")
  else
    match String.fromUTF8? raw with
    | none => .error (.refused "Document must be valid UTF-8")
    | some decoded =>
      let normalized := (unicode.nfkc decoded).toList
      if normalized.any fun c => isControl c && c ∉ ['\n', '\t', '\r'] then
        .error (.refused "Document contains disallowed control characters")
      else
        match splitDocument normalized with
        | .error error => .error error
        | .ok (headers, content) => acceptParts unicode (sha256 raw) sourceName headers content

end AgentPlatform.Rag
