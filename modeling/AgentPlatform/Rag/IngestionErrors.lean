import AgentPlatform.Rag.ChunkScreen
import AgentPlatform.Rag.FrontMatter

/-! # The errors of ingestion

A document that passes the parser's own checks can still fail the constraints of the model. -/

namespace AgentPlatform.Rag

open Python

/-- A document, or the parser's own error. -/
def RefusesOnly (result : Except IngestionError KnowledgeDocument) : Prop :=
  (∃ document, result = .ok document) ∨ ∃ message, result = .error (.refused message)

/-- The bytes are read as header fields and content. -/
def ReadAs (unicode : Unicode) (raw : ByteArray) (headers : Metadata) (content : List Char) : Prop :=
  raw.size ≤ maxDocumentBytes ∧ ∃ decoded, String.fromUTF8? raw = some decoded ∧
    ((unicode.nfkc decoded).toList.any fun c => isControl c && c ∉ ['\n', '\t', '\r']) = false ∧
    splitDocument (unicode.nfkc decoded).toList = .ok (headers, content)

/-- The parts pass every check that comes before the model. -/
structure Screened (unicode : Unicode) (sourceName : String) (headers : Metadata) (content : List Char) :
    Prop where
  schema : requiredHeaders ⊆ headers.map Prod.fst ∧ headers.map Prod.fst ⊆ requiredHeaders
  clean : (injectionPatterns.any fun pattern => pattern.search unicode.isWord content) = false
  roles : declaredRoles headers ≠ []
  markdown : ".md".toList <:+ sourceName.toList

/-- The constraints of the model that no check implies. -/
structure FieldsFit (unicode : Unicode) (headers : Metadata) (content : List Char) : Prop where
  documentId : fullMatch (documentIdPattern unicode) (headers.get "id") = true
  title : (headers.get "title").length ≤ 200
  version : fullMatch (versionPattern unicode) (headers.get "version") = true
  classification : headers.get "classification" ∈ ["public-synthetic", "internal-synthetic"]
  content : content.length ≤ 50000

section

variable {unicode : Unicode} {headers : Metadata} {content : List Char}

theorem trim_strip (text : String) : trim (strip text) = strip text := by
  rw [trim, strip, String.toList_ofList, stripBy_white]

theorem fieldLine_of_mem {lines : List (List Char)} {field : String × String}
    (read : List.Forall₂ FieldLine lines headers) (member : field ∈ headers) : ∃ line, FieldLine line field := by
  induction read with
  | nil => cases member
  | cons isField _ ih =>
    rcases List.mem_cons.mp member with rfl | later
    · exact ⟨_, isField⟩
    · exact ih later

/-- The fields read from a document are trimmed and not empty, its content is trimmed and long enough. -/
theorem splitDocument_parts {document : List Char} (split : splitDocument document = .ok (headers, content)) :
    (∀ field ∈ headers, trim field.2 = field.2 ∧ field.2 ≠ "") ∧
      trim (String.ofList content) = String.ofList content ∧ 20 ≤ content.length := by
  obtain ⟨headerLines, body, -, -, -, lines, -, rfl, long⟩ := (splitDocument_iff _ _ _).mp split
  refine ⟨fun field member => ?_, ?_, long⟩
  · obtain ⟨line, before, after, -, -, rfl, -, filled⟩ := fieldLine_of_mem lines member
    exact ⟨trim_strip _, filled⟩
  · rw [trim, String.toList_ofList, joinedContent, stripBy_white]

theorem mem_of_lookup {key value : String} (found : headers.lookup key = some value) :
    (key, value) ∈ headers := by
  obtain ⟨before, after, rfl, -⟩ := List.lookup_eq_some_iff.mp found
  exact List.mem_append_right _ List.mem_cons_self

theorem trim_get (fields : ∀ field ∈ headers, trim field.2 = field.2 ∧ field.2 ≠ "") (key : String) :
    trim (headers.get key) = headers.get key := by
  rw [Metadata.get]
  cases found : headers.lookup key with
  | none => rfl
  | some value => exact (fields _ (mem_of_lookup found)).1

theorem get_ne_empty (fields : ∀ field ∈ headers, trim field.2 = field.2 ∧ field.2 ≠ "") {key : String}
    (present : key ∈ headers.map Prod.fst) : headers.get key ≠ "" := by
  obtain ⟨field, member, rfl⟩ := List.mem_map.mp present
  rw [Metadata.get]
  cases found : headers.lookup field.1 with
  | none => simpa using List.lookup_eq_none_iff.mp found field member
  | some value => exact (fields _ (mem_of_lookup found)).2

theorem isWhiteSpace_hex {c : Char} (hex : (('a' ≤ c && c ≤ 'f') || ('0' ≤ c && c ≤ '9')) = true) :
    isWhiteSpace c = false := by
  simp only [Bool.or_eq_true, Bool.and_eq_true, decide_eq_true_eq, Char.le_def, UInt32.le_iff_toNat_le] at hex
  have range : (97 ≤ c.toNat ∧ c.toNat ≤ 102) ∨ (48 ≤ c.toNat ∧ c.toNat ≤ 57) := hex
  simp only [isWhiteSpace, Bool.or_eq_false_iff, Bool.and_eq_false_iff, decide_eq_false_iff_not, beq_eq_false_iff_ne]
  omega

theorem ReadAs.parts {raw : ByteArray} (read : ReadAs unicode raw headers content) :
    (∀ field ∈ headers, trim field.2 = field.2 ∧ field.2 ≠ "") ∧
      trim (String.ofList content) = String.ofList content ∧ 20 ≤ content.length := by
  obtain ⟨-, decoded, -, -, split⟩ := read
  exact splitDocument_parts split

theorem trim_provenance {text : String} (digest : isProvenance text = true) : trim text = text := by
  have visible : ∀ c ∈ text.toList, isWhiteSpace c = false := by
    intro c member
    exact isWhiteSpace_hex (List.all_eq_true.mp (Bool.and_eq_true_iff.mp digest).2 c member)
  rw [trim_eq_self_iff]
  exact ⟨fun c member => visible c (List.mem_of_mem_head? member),
    fun c member => visible c (List.mem_of_getLast? member)⟩

theorem classification_parse (text : String) :
    (Classification.parse text).isSome ↔ text ∈ ["public-synthetic", "internal-synthetic"] := by
  unfold Classification.parse
  split_ifs <;> simp [*]

theorem make_isSome_iff {provenance : String} (digest : isProvenance provenance = true)
    (title : headers.get "title" ≠ "") (trimmed : ∀ key, trim (headers.get key) = headers.get key)
    (stripped : trim (String.ofList content) = String.ofList content) (long : 20 ≤ content.length) :
    (KnowledgeDocument.make unicode (headers.get "id") (headers.get "title") (headers.get "version")
      (headers.get "classification") (declaredRoles headers) (String.ofList content) provenance).isSome ↔
      FieldsFit unicode headers content := by
  have kind := classification_parse (headers.get "classification")
  have titled : 1 ≤ (headers.get "title").length := Nat.pos_of_ne_zero (by simpa using title)
  rw [KnowledgeDocument.make]
  simp only [trimmed, stripped, trim_provenance digest, digest, String.length_ofList]
  cases parsed : Classification.parse (headers.get "classification") with
  | none =>
    rw [parsed] at kind
    refine iff_of_false (by simp) fun fit => ?_
    simpa using kind.mpr fit.classification
  | some classification =>
    rw [parsed] at kind
    have known := kind.mp rfl
    simp only [Option.bind_eq_bind, Option.bind_some, Bool.and_true, titled, long, true_and]
    split
    · rename_i fits
      simp only [Bool.and_eq_true, decide_eq_true_eq] at fits
      exact iff_of_true rfl ⟨fits.1.1.1, fits.1.2, fits.1.1.2, known, fits.2⟩
    · rename_i unfit
      refine iff_of_false (by simp) fun fit => unfit ?_
      simp only [Bool.and_eq_true, decide_eq_true_eq]
      exact ⟨⟨⟨fit.documentId, fit.version⟩, fit.title⟩, fit.content⟩

theorem parseHeaders_refuses {lines : List (List Char)} {known : Metadata} {error : IngestionError}
    (failed : parseHeaders lines known = .error error) : ∃ message, error = .refused message := by
  induction lines generalizing known with
  | nil => cases failed
  | cons line lines ih =>
    rw [parseHeaders] at failed
    split at failed
    · cases failed
      exact ⟨_, rfl⟩
    · split at failed
      · cases failed
        exact ⟨_, rfl⟩
      · exact ih failed

theorem splitDocument_refuses {document : List Char} {error : IngestionError}
    (failed : splitDocument document = .error error) : ∃ message, error = .refused message := by
  unfold splitDocument at failed
  dsimp only at failed
  split at failed
  · cases failed
    exact ⟨_, rfl⟩
  · split at failed
    · cases failed
      exact ⟨_, rfl⟩
    · split at failed
      · rename_i broken
        cases failed
        exact parseHeaders_refuses broken
      · split at failed
        · cases failed
          exact ⟨_, rfl⟩
        · cases failed

theorem RefusesOnly.refused (message : String) : RefusesOnly (.error (.refused message)) := .inr ⟨message, rfl⟩

theorem RefusesOnly.ok (document : KnowledgeDocument) : RefusesOnly (.ok document) := .inl ⟨document, rfl⟩

theorem not_refusesOnly_validation : ¬ RefusesOnly (.error .validation) := by
  rintro (⟨document, same⟩ | ⟨message, same⟩)
  · cases same
  · cases same

/-- The checks on the parts and the model: only the model fails with an error of its own. -/
theorem acceptParts_refusesOnly_iff {provenance sourceName : String} (digest : isProvenance provenance = true)
    (fields : ∀ field ∈ headers, trim field.2 = field.2 ∧ field.2 ≠ "")
    (stripped : trim (String.ofList content) = String.ofList content) (long : 20 ≤ content.length) :
    RefusesOnly (acceptParts unicode provenance sourceName headers content) ↔
      (Screened unicode sourceName headers content → FieldsFit unicode headers content) := by
  unfold acceptParts
  dsimp only
  by_cases schema : requiredHeaders ⊆ headers.map Prod.fst ∧ headers.map Prod.fst ⊆ requiredHeaders
  · rw [if_neg (not_not.mpr schema)]
    by_cases clean : (injectionPatterns.any fun pattern => pattern.search unicode.isWord content) = true
    · rw [if_pos clean]
      refine iff_of_true (.refused _) fun screened => ?_
      rw [screened.clean] at clean
      cases clean
    · rw [if_neg clean]
      by_cases roles : declaredRoles headers = []
      · rw [if_pos roles]
        exact iff_of_true (.refused _) fun screened => absurd roles screened.roles
      · rw [if_neg roles]
        by_cases markdown : ".md".toList <:+ sourceName.toList
        · rw [if_neg (not_not.mpr markdown)]
          have screened : Screened unicode sourceName headers content :=
            ⟨schema, Bool.eq_false_iff.mpr clean, roles, markdown⟩
          have titled := get_ne_empty fields (schema.1 (show "title" ∈ requiredHeaders by decide))
          rw [imp_iff_right screened,
            ← make_isSome_iff digest titled (trim_get fields) stripped long]
          split
          · rename_i refused
            rw [refused]
            exact iff_of_false not_refusesOnly_validation (by simp)
          · rename_i made
            rw [made]
            exact iff_of_true (.ok _) rfl
        · rw [if_pos markdown]
          exact iff_of_true (.refused _) fun screened => absurd screened.markdown markdown
  · rw [if_pos schema]
    exact iff_of_true (.refused _) fun screened => absurd screened.schema schema

theorem parsePolicyDocument_readAs {sha256 : ByteArray → String} {raw : ByteArray} {sourceName : String}
    (read : ReadAs unicode raw headers content) :
    parsePolicyDocument unicode sha256 raw sourceName =
      acceptParts unicode (sha256 raw) sourceName headers content := by
  obtain ⟨small, decoded, decodes, calm, parts⟩ := read
  unfold parsePolicyDocument
  rw [if_neg (Nat.not_lt.mpr small), decodes]
  dsimp only
  rw [calm, parts]
  rfl

theorem parsePolicyDocument_unread {sha256 : ByteArray → String} {raw : ByteArray} {sourceName : String}
    (unread : ∀ headers content, ¬ ReadAs unicode raw headers content) :
    RefusesOnly (parsePolicyDocument unicode sha256 raw sourceName) := by
  unfold parsePolicyDocument
  dsimp only
  split
  · exact .refused _
  · rename_i small
    split
    · exact .refused _
    · rename_i decoded decodes
      split
      · exact .refused _
      · rename_i calm
        split
        · rename_i failed
          obtain ⟨message, rfl⟩ := splitDocument_refuses failed
          exact .refused message
        · rename_i headers content parts
          exact absurd ⟨Nat.not_lt.mp small, decoded, decodes, Bool.eq_false_iff.mpr calm, parts⟩
            (unread headers content)

/-- The parser fails with its own error alone exactly when parts that pass its checks meet the constraints
    of the model. -/
theorem parsePolicyDocument_refusesOnly_iff (unicode : Unicode) (sha256 : ByteArray → String)
    (digest : ∀ raw, isProvenance (sha256 raw) = true) (raw : ByteArray) (sourceName : String) :
    RefusesOnly (parsePolicyDocument unicode sha256 raw sourceName) ↔
      ∀ headers content, ReadAs unicode raw headers content → Screened unicode sourceName headers content →
        FieldsFit unicode headers content := by
  constructor
  · intro refuses headers content read
    obtain ⟨fields, stripped, long⟩ := read.parts
    rw [parsePolicyDocument_readAs read] at refuses
    exact (acceptParts_refusesOnly_iff (digest raw) fields stripped long).mp refuses
  · intro fit
    by_cases unread : ∀ headers content, ¬ ReadAs unicode raw headers content
    · exact parsePolicyDocument_unread unread
    · push Not at unread
      obtain ⟨headers, content, read⟩ := unread
      obtain ⟨fields, stripped, long⟩ := read.parts
      rw [parsePolicyDocument_readAs read]
      exact (acceptParts_refusesOnly_iff (digest raw) fields stripped long).mpr (fit headers content read)

end

/-- The SHA-256 of the refund document. -/
def refundDigest (_ : ByteArray) : String := "cf7fb3437bda8a7b5096e5727ce68eae440ee28c804a04709c8fdfb399f5edb6"

theorem isProvenance_refund : isProvenance "cf7fb3437bda8a7b5096e5727ce68eae440ee28c804a04709c8fdfb399f5edb6" = true := by
  decide

theorem refundDocument_refusesOnly :
    RefusesOnly (parsePolicyDocument asciiUnicode refundDigest (String.ofList (refundText refundContent)).toUTF8
      "refunds.md") := by
  refine (parsePolicyDocument_refusesOnly_iff asciiUnicode refundDigest (fun _ => isProvenance_refund) _ _).mpr ?_
  rintro headers content ⟨-, decoded, decodes, -, parts⟩ -
  have text : decoded.toList = refundText refundContent := by
    rw [fromUTF8_toUTF8] at decodes
    rw [← Option.some.inj decodes, String.toList_ofList]
  have read : splitDocument (refundText refundContent) = .ok (refundHeaders, refundContent) := by decide +kernel
  have normal : (asciiUnicode.nfkc decoded).toList = refundText refundContent := text
  rw [normal, read] at parts
  obtain ⟨rfl, rfl⟩ := Prod.mk.inj (Except.ok.inj parts)
  exact ⟨by decide +kernel, by decide +kernel, by decide +kernel, by decide +kernel, by decide +kernel⟩

def misnamedHeaders : Metadata :=
  [("id", "PAY-1"), ("title", "Refunds"), ("version", "1.0"), ("classification", "internal-synthetic"),
    ("allowed_roles", "transactions")]

/-- A document whose identifier does not have the form that the model asks for. -/
def misnamedText : List Char :=
  ["---", "id: PAY-1", "title: Refunds", "version: 1.0", "classification: internal-synthetic",
    "allowed_roles: transactions", "---"].flatMap (fun line => line.toList ++ ['\n']) ++ refundContent

def misnamedDigest (_ : ByteArray) : String := "664ad35b0433df18a1a42e4f6936a58f32435f88ee54601de095e9becf69a76b"

theorem parsePolicyDocument_misnamed :
    ¬ RefusesOnly (parsePolicyDocument asciiUnicode misnamedDigest (String.ofList misnamedText).toUTF8
      "refunds.md") := by
  have parts : splitDocument misnamedText = .ok (misnamedHeaders, refundContent) := by decide +kernel
  obtain ⟨fields, stripped, long⟩ := splitDocument_parts parts
  have digest : isProvenance (misnamedDigest (String.ofList misnamedText).toUTF8) = true := by
    rw [misnamedDigest]
    decide +kernel
  have screened : Screened asciiUnicode "refunds.md" misnamedHeaders refundContent :=
    ⟨by decide +kernel, by decide +kernel, by decide +kernel, by decide +kernel⟩
  rw [parsePolicyDocument_of_parts (by decide +kernel) (by decide +kernel) parts,
    acceptParts_refusesOnly_iff digest fields stripped long]
  intro fit
  exact absurd (fit screened).documentId (by decide +kernel)

end AgentPlatform.Rag
