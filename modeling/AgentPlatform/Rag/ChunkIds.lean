import AgentPlatform.Rag.AzureSearch
import AgentPlatform.Rag.CitationCuts
import AgentPlatform.Rag.IngestionErrors

/-! # Chunk identifiers

The model of a document, the chunker, the evaluator and the search index each have their own idea of what a
chunk identifier is made of. -/

namespace AgentPlatform.Rag

open Python

/-- A document that the parser returns for some bytes. -/
def Accepted (unicode : Unicode) (sha256 : ByteArray → String) (document : KnowledgeDocument) : Prop :=
  ∃ raw sourceName, parsePolicyDocument unicode sha256 raw sourceName = .ok document

/-- A chunk that a chunking of the document returns. -/
def ChunkOf (document : KnowledgeDocument) (chunk : KnowledgeChunk) : Prop :=
  ∃ fuel embed chunkSize overlap chunks,
    chunkDocument fuel document embed chunkSize overlap = some (.ok chunks) ∧ chunk ∈ chunks

/-- Letters and digits of ASCII, `_`, `-` and `=`. -/
def isKeyChar (c : Char) : Bool := isIdChar c || c = '_' || c = '='

/-- The evaluator finds a bracketed identifier and never takes it for a fabricated one when its chunk is in the
    evidence; the search key of the identifier is a valid one and tells it from all others. -/
structure OneFormat (unicode : Unicode) (sha256 : ByteArray → String) (document : KnowledgeDocument) : Prop where
  cited : ∀ chunk, ChunkOf document chunk → ∀ (evaluator : GroundednessEvaluator) before after evidence,
    ∃ report, evaluator.evaluate unicode (before ++ bracketed chunk.chunkId ++ after) evidence = .ok report ∧
      (∀ found, found ∈ report.citationsFound ↔
        found = chunk.chunkId ∨ found ∈ citations unicode before ∨ found ∈ citations unicode after) ∧
      ((∃ hit ∈ evidence.hits, hit.citation.chunkId = chunk.chunkId) → chunk.chunkId ∉ report.fabricatedCitations)
  keyed : ∀ chunk, ChunkOf document chunk →
    ∀ c ∈ (AzureSearch.searchDocumentKey chunk.chunkId).toList, isKeyChar c = true
  distinct : ∀ chunk, ChunkOf document chunk → ∀ other, Accepted unicode sha256 other → ∀ chunk', ChunkOf other chunk' →
    AzureSearch.searchDocumentKey chunk.chunkId = AzureSearch.searchDocumentKey chunk'.chunkId →
      chunk.chunkId = chunk'.chunkId

section

variable {unicode : Unicode} {sha256 : ByteArray → String} {document : KnowledgeDocument} {chunk : KnowledgeChunk}

/-- What the model has checked of its fields. -/
structure KnowledgeDocument.Checked (unicode : Unicode) (document : KnowledgeDocument) : Prop where
  documentId : fullMatch (documentIdPattern unicode) document.documentId = true
  version : fullMatch (versionPattern unicode) document.version = true
  title : 1 ≤ document.title.length ∧ document.title.length ≤ 200
  content : 20 ≤ document.content.length ∧ document.content.length ≤ 50000
  provenance : isProvenance document.provenanceSha256 = true
  idTrimmed : trim document.documentId = document.documentId
  titleTrimmed : trim document.title = document.title
  versionTrimmed : trim document.version = document.version

theorem make_checked {documentId title version classification provenance content : String} {roles : List String}
    (made : KnowledgeDocument.make unicode documentId title version classification roles content provenance =
      some document) :
    document.Checked unicode ∧ document.content = trim content ∧ document.provenanceSha256 = trim provenance := by
  simp only [KnowledgeDocument.make, Option.bind_eq_bind, Option.bind_eq_some_iff] at made
  obtain ⟨kind, -, made⟩ := made
  split at made
  · rename_i fits
    simp only [Bool.and_eq_true, decide_eq_true_eq] at fits
    obtain ⟨⟨⟨⟨named, numbered⟩, titled⟩, filled⟩, digest⟩ := fits
    cases made
    exact ⟨⟨named, numbered, titled, filled, digest, trim_trim _, trim_trim _, trim_trim _⟩, rfl, rfl⟩
  · cases made

theorem acceptParts_made {provenance sourceName : String} {headers : Metadata} {content : List Char}
    (accepted : acceptParts unicode provenance sourceName headers content = .ok document) :
    KnowledgeDocument.make unicode (headers.get "id") (headers.get "title") (headers.get "version")
      (headers.get "classification") (declaredRoles headers) (String.ofList content) provenance = some document := by
  unfold acceptParts at accepted
  dsimp only at accepted
  split at accepted
  · cases accepted
  · split at accepted
    · cases accepted
    · split at accepted
      · cases accepted
      · split at accepted
        · cases accepted
        · split at accepted
          · cases accepted
          · rename_i made
            cases accepted
            exact made

theorem parsePolicyDocument_accepts {raw : ByteArray} {sourceName : String}
    (accepted : parsePolicyDocument unicode sha256 raw sourceName = .ok document) :
    ∃ headers content, ReadAs unicode raw headers content ∧
      acceptParts unicode (sha256 raw) sourceName headers content = .ok document := by
  by_cases read : ∃ headers content, ReadAs unicode raw headers content
  · obtain ⟨headers, content, read⟩ := read
    exact ⟨headers, content, read, (parsePolicyDocument_readAs read).symm.trans accepted⟩
  · exfalso
    unfold parsePolicyDocument at accepted
    dsimp only at accepted
    split at accepted
    · cases accepted
    · rename_i small
      split at accepted
      · cases accepted
      · rename_i decoded decodes
        split at accepted
        · cases accepted
        · rename_i calm
          split at accepted
          · cases accepted
          · rename_i headers content parts
            exact read ⟨headers, content, Nat.not_lt.mp small, decoded, decodes, Bool.eq_false_iff.mpr calm, parts⟩

theorem Accepted.checked (accepted : Accepted unicode sha256 document) : document.Checked unicode := by
  obtain ⟨raw, sourceName, parsed⟩ := accepted
  obtain ⟨headers, content, -, parts⟩ := parsePolicyDocument_accepts parsed
  exact (make_checked (acceptParts_made parts)).1

theorem Accepted.documentId (accepted : Accepted unicode sha256 document) :
    (documentIdPattern unicode).Matches document.documentId.toList :=
  fullMatch_iff.mp accepted.checked.documentId

theorem Accepted.documentId_nonempty (accepted : Accepted unicode sha256 document) : document.documentId.toList ≠ [] := by
  obtain ⟨start, rest, whole, marked, -⟩ := accepted.documentId
  rw [whole, exactly_matches.mp marked]
  exact List.cons_ne_nil _ _

theorem Accepted.content (accepted : Accepted unicode sha256 document) :
    stripBy isSpace document.content.toList = document.content.toList ∧ document.content.toList ≠ [] := by
  obtain ⟨raw, sourceName, parsed⟩ := accepted
  obtain ⟨headers, content, ⟨-, decoded, -, -, split⟩, parts⟩ := parsePolicyDocument_accepts parsed
  obtain ⟨checked, same, -⟩ := make_checked (acceptParts_made parts)
  obtain ⟨text, rfl⟩ := splitDocument_stripped split
  have kept : document.content.toList = stripBy isSpace text := by
    rw [same, trim, String.toList_ofList, String.toList_ofList, stripBy_white]
  constructor
  · rw [kept, stripBy_stripBy]
  · intro empty
    have long := checked.content.1
    rw [← String.length_toList, empty] at long
    exact absurd long (by decide)

theorem ChunkOf.made (chunked : ChunkOf document chunk) : ∃ (embed : String → List Double) (index : Nat) (start stop : Int),
    chunk = makeChunk document embed index (windowText document.content.toList start stop) := by
  obtain ⟨fuel, embed, chunkSize, overlap, chunks, returned, member⟩ := chunked
  unfold chunkDocument at returned
  split at returned
  · cases returned
  · obtain ⟨result, loop, same⟩ := Option.map_eq_some_iff.mp returned
    cases same
    rw [chunkLoop_emits loop, List.nil_append] at member
    obtain ⟨window, -, rfl⟩ := List.mem_map.mp member
    exact ⟨embed, window.2, window.1.1, window.1.2, rfl⟩

theorem ChunkOf.chunkId (chunked : ChunkOf document chunk) :
    ∃ index : Nat, chunk.chunkId = document.documentId ++ "#chunk-" ++ toString index := by
  obtain ⟨embed, index, start, stop, rfl⟩ := chunked.made
  exact ⟨index, rfl⟩

theorem ChunkOf.trim_text (chunked : ChunkOf document chunk) : trim chunk.text = chunk.text := by
  obtain ⟨embed, index, start, stop, rfl⟩ := chunked.made
  rw [makeChunk, windowText, trim, String.toList_ofList, stripBy_white]

theorem ChunkOf.text_within (chunked : ChunkOf document chunk) : chunk.text.toList <:+: document.content.toList := by
  obtain ⟨embed, index, start, stop, rfl⟩ := chunked.made
  rw [makeChunk, windowText, String.toList_ofList]
  exact (stripBy_isWithin _ _).trans (slice_isWithin _ _ _)

theorem Accepted.chunkDocument_whole (accepted : Accepted unicode sha256 document) (embed : String → List Double)
    (config : ChunkConfig) (short : document.content.toList.length ≤ config.chunkSize) :
    chunkDocument 1 document embed config.chunkSize config.overlap =
      some (.ok [makeChunk document embed 1 document.content.toList]) := by
  obtain ⟨stripped, nonempty⟩ := accepted.content
  have inside : (0 : Int) < document.content.toList.length :=
    Int.natCast_pos.mpr (List.length_pos_iff.mpr nonempty)
  have stop : windowEnd document.content.toList config.chunkSize 0 = document.content.toList.length := by
    rw [windowEnd, min_eq_right (by omega), if_neg (lt_irrefl _)]
  have text : windowText document.content.toList 0 document.content.toList.length = document.content.toList := by
    rw [windowText, slice_natural _ (Int.natCast_nonneg _), Int.toNat_natCast, List.take_length, stripped]
  simp only [chunkDocument, if_neg config.accepted, chunkLoop, if_pos inside, stop, text, if_neg nonempty, if_true,
    List.nil_append, Option.map_some]

theorem Accepted.wholeChunk (accepted : Accepted unicode sha256 document) (embed : String → List Double) :
    ChunkOf document (makeChunk document embed 1 document.content.toList) := by
  have returned := accepted.chunkDocument_whole embed
    ⟨document.content.toList.length + 100, 0, by omega, le_refl 0, by omega⟩ (by dsimp only; omega)
  exact ⟨1, _, _, _, _, returned, List.mem_singleton_self _⟩

theorem Accepted.chunked (accepted : Accepted unicode sha256 document) (embed : String → List Double) :
    ∃ chunk, ChunkOf document chunk ∧ chunk.embedding = embed chunk.text ∧ chunk.text = document.content :=
  ⟨_, accepted.wholeChunk embed, rfl, String.ofList_toList⟩

def isUpper (c : Char) : Bool := 'A' ≤ c && c ≤ 'Z'

theorem documentId_chars {word : List Char} (matched : (documentIdPattern unicode).Matches word) :
    ∀ c ∈ word, isUpper c = true ∨ c = '-' ∨ unicode.decimal c = true := by
  obtain ⟨start, rest, rfl, marked, letters, rest, rfl, named, hyphen, rest, rfl, dashed, first, rest, rfl,
    ⟨a, rfl, digit⟩, second, third, rfl, ⟨b, rfl, digit'⟩, d, rfl, digit''⟩ := matched
  have capitals := (oneOrMore_matches.mp named).2
  rw [exactly_matches.mp marked, exactly_matches.mp dashed]
  intro c member
  simp only [List.mem_append, List.mem_singleton] at member
  rcases member with start | letter | dash | rfl | rfl | rfl
  · have prefixed : ("POL-".toList.all fun c => isUpper c || c = '-') = true := by decide
    have known := List.all_eq_true.mp prefixed c start
    rw [Bool.or_eq_true, decide_eq_true_iff] at known
    exact known.imp id .inl
  · exact .inl (capitals c letter)
  · exact .inr (.inl (by simpa using dash))
  · exact .inr (.inr digit)
  · exact .inr (.inr digit')
  · exact .inr (.inr digit'')

theorem documentId_absent {word : List Char} (matched : (documentIdPattern unicode).Matches word) {c : Char}
    (ascii : c.toNat < 0x80) (other : (isUpper c || c = '-' || ('0' ≤ c && c ≤ '9')) = false) : c ∉ word := by
  intro member
  simp only [Bool.or_eq_false_iff, decide_eq_false_iff_not] at other
  rcases documentId_chars matched c member with upper | dash | digit
  · exact absurd (other.1.1.symm.trans upper) Bool.false_ne_true
  · exact other.1.2 dash
  · rw [unicode.digits _ ascii] at digit
    exact absurd (other.2.symm.trans digit) Bool.false_ne_true

theorem documentId_noHash {word : List Char} (matched : (documentIdPattern unicode).Matches word) : '#' ∉ word :=
  documentId_absent matched (by decide) (by decide)

theorem documentId_isIdChar {word : List Char} (matched : (documentIdPattern unicode).Matches word)
    (ascii : ∀ c ∈ word, c.toNat < 0x80) : ∀ c ∈ word, isIdChar c = true := by
  intro c member
  rcases documentId_chars matched c member with upper | rfl | digit
  · rw [isUpper] at upper
    rw [isIdChar, upper, Bool.or_true, Bool.true_or]
  · decide
  · rw [unicode.digits c (ascii c member)] at digit
    rw [isIdChar, isTermChar, digit, Bool.or_true, Bool.true_or, Bool.true_or]

theorem isIdChar_ascii {c : Char} (known : isIdChar c = true) : c.toNat < 0x80 := by
  simp only [isIdChar, isTermChar, isLetter, Bool.or_eq_true, Bool.and_eq_true, decide_eq_true_eq, Char.le_def,
    UInt32.le_iff_toNat_le] at known
  rcases known with ((lower | digit) | upper) | rfl
  · exact Nat.lt_of_le_of_lt lower.2 (by decide)
  · exact Nat.lt_of_le_of_lt digit.2 (by decide)
  · exact Nat.lt_of_le_of_lt upper.2 (by decide)
  · decide

theorem toString_digits (index : Nat) :
    (toString index).toList ≠ [] ∧ ∀ c ∈ (toString index).toList, c.isDigit = true := by
  rw [Nat.toString_eq_repr, Nat.toList_repr]
  exact ⟨Nat.toDigits_ne_nil, fun c member => Nat.isDigit_of_mem_toDigits (by decide) (by decide) member⟩

theorem isDigit_decimal {c : Char} (digit : c.isDigit = true) : ('0' ≤ c && c ≤ '9') = true ∧ c.toNat < 0x80 := by
  simp only [Char.isDigit, Bool.and_eq_true, decide_eq_true_eq, ge_iff_le] at digit
  refine ⟨Bool.and_eq_true_iff.mpr ⟨decide_eq_true digit.1, decide_eq_true digit.2⟩, ?_⟩
  exact Nat.lt_of_le_of_lt (UInt32.le_iff_toNat_le.mp digit.2) (by decide)

theorem chunkId_toList (documentId : String) (index : Nat) :
    (documentId ++ "#chunk-" ++ toString index).toList =
      documentId.toList ++ "#chunk-".toList ++ (toString index).toList := by
  rw [String.toList_append, String.toList_append]

theorem Accepted.trim_chunkId (accepted : Accepted unicode sha256 document) (chunked : ChunkOf document chunk) :
    trim chunk.chunkId = chunk.chunkId := by
  obtain ⟨index, named⟩ := chunked.chunkId
  obtain ⟨filled, digits⟩ := toString_digits index
  have nonempty := accepted.documentId_nonempty
  obtain ⟨front, -⟩ := trim_eq_self_iff.mp accepted.checked.idTrimmed
  rw [trim_eq_self_iff, named, chunkId_toList]
  constructor
  · intro c first
    rw [List.append_assoc, List.head?_append_of_ne_nil _ nonempty] at first
    exact front c first
  · intro c last
    rw [List.getLast?_append_of_ne_nil _ filled] at last
    have digit := (isDigit_decimal (digits c (List.mem_of_getLast? last))).1
    exact isWhiteSpace_hex (by rw [digit, Bool.or_true])

/-- An identifier of a chunk can be cited exactly when the document's own identifier is ASCII. -/
theorem citable_iff (accepted : Accepted unicode sha256 document) (chunked : ChunkOf document chunk) :
    (citedPattern unicode).Matches chunk.chunkId.toList ↔ ∀ c ∈ document.documentId.toList, c.toNat < 0x80 := by
  obtain ⟨index, named⟩ := chunked.chunkId
  obtain ⟨filled, digits⟩ := toString_digits index
  have noHash := documentId_noHash accepted.documentId
  rw [named, chunkId_toList, citedPattern_matches]
  constructor
  · rintro ⟨name, number, same, ⟨-, idChars⟩, -⟩ c member
    have plain : '#' ∉ name := fun present => absurd (idChars '#' present) (by decide)
    rw [List.append_assoc, List.append_assoc] at same
    obtain ⟨rfl, -⟩ := List.split_first_unique noHash plain same
    exact isIdChar_ascii (idChars c member)
  · intro ascii
    refine ⟨_, _, rfl, ⟨accepted.documentId_nonempty, documentId_isIdChar accepted.documentId ascii⟩, filled,
      fun c member => ?_⟩
    obtain ⟨decimal, low⟩ := isDigit_decimal (digits c member)
    rw [unicode.digits c low, decimal]

theorem searchDocumentKey_chunkId (accepted : Accepted unicode sha256 document) (index : Nat) :
    (AzureSearch.searchDocumentKey (document.documentId ++ "#chunk-" ++ toString index)).toList =
      document.documentId.toList ++ "--chunk".toList ++ '-' :: (toString index).toList := by
  have absent := documentId_noHash accepted.documentId
  have absent' : '#' ∉ (toString index).toList := fun member =>
    absurd ((toString_digits index).2 '#' member) (by decide)
  rw [AzureSearch.searchDocumentKey, AzureSearch.replaceChar, String.toList_ofList, chunkId_toList,
    List.flatMap_append, List.flatMap_append, AzureSearch.flatMap_absent absent,
    AzureSearch.flatMap_absent absent', List.append_assoc, List.append_assoc]
  rfl

theorem searchDocumentKey_distinct (accepted : Accepted unicode sha256 document) (chunked : ChunkOf document chunk)
    {other : KnowledgeDocument} {chunk' : KnowledgeChunk} (accepted' : Accepted unicode sha256 other)
    (chunked' : ChunkOf other chunk')
    (same : AzureSearch.searchDocumentKey chunk.chunkId = AzureSearch.searchDocumentKey chunk'.chunkId) :
    chunk.chunkId = chunk'.chunkId := by
  obtain ⟨index, named⟩ := chunked.chunkId
  obtain ⟨index', named'⟩ := chunked'.chunkId
  have undashed (index : Nat) : '-' ∉ (toString index).toList := fun member =>
    absurd ((toString_digits index).2 '-' member) (by decide)
  have keys := congrArg String.toList same
  rw [named, named', searchDocumentKey_chunkId accepted, searchDocumentKey_chunkId accepted'] at keys
  obtain ⟨starts, ends⟩ := List.split_last_unique (undashed index) (undashed index') keys
  rw [named, named', String.toList_inj.mp (List.append_cancel_right starts), String.toList_inj.mp ends]

theorem searchDocumentKey_valid (accepted : Accepted unicode sha256 document) (chunked : ChunkOf document chunk)
    (ascii : ∀ c ∈ document.documentId.toList, c.toNat < 0x80) :
    ∀ c ∈ (AzureSearch.searchDocumentKey chunk.chunkId).toList, isKeyChar c = true := by
  obtain ⟨index, named⟩ := chunked.chunkId
  have known {c : Char} (idChar : isIdChar c = true) : isKeyChar c = true := by
    rw [isKeyChar, idChar, Bool.true_or, Bool.true_or]
  have middle : ("--chunk".toList.all isKeyChar) = true := by decide
  rw [named, searchDocumentKey_chunkId accepted]
  intro c member
  simp only [List.mem_append, List.mem_cons] at member
  rcases member with (name | marker) | rfl | number
  · exact known (documentId_isIdChar accepted.documentId ascii c name)
  · exact List.all_eq_true.mp middle c marker
  · decide
  · have digit := (isDigit_decimal ((toString_digits index).2 c number)).1
    exact known (by rw [isIdChar, isTermChar, digit, Bool.or_true, Bool.true_or, Bool.true_or])

theorem oneFormat_of_ascii (accepted : Accepted unicode sha256 document)
    (ascii : ∀ c ∈ document.documentId.toList, c.toNat < 0x80) : OneFormat unicode sha256 document where
  cited chunk chunked evaluator before after evidence := by
    have matched := (citable_iff accepted chunked).mpr ascii
    have evaluated := evaluator.evaluate_eq unicode (before ++ bracketed chunk.chunkId ++ after) evidence
    refine ⟨_, evaluated, fun found => ?_, fun present fabricated => ?_⟩
    · rw [GroundednessEvaluator.mem_citationsFound, citations_append matched, Finset.mem_union, Finset.mem_insert,
        or_left_comm]
    · obtain ⟨hit, member, same⟩ := present
      exact (GroundednessEvaluator.mem_fabricated _ _ _ _).mp fabricated |>.2 hit member same
  keyed chunk chunked := searchDocumentKey_valid accepted chunked ascii
  distinct chunk chunked other accepted' chunk' chunked' same :=
    searchDocumentKey_distinct accepted chunked accepted' chunked' same

theorem citedPattern_of_mem_citations {answer chunkId : String} (member : chunkId ∈ citations unicode answer) :
    (citedPattern unicode).Matches chunkId.toList := by
  obtain ⟨word, found, rfl⟩ := List.mem_map.mp (List.mem_toFinset.mp member)
  obtain ⟨cited, rfl, matched⟩ := citationPattern_matches.mp (Regex.matches_of_mem_findAll found)
  have body : (('[' :: cited ++ [']']).drop 1).dropLast = cited := List.dropLast_concat
  rw [citedId, body, String.toList_ofList]
  exact matched

theorem ascii_of_oneFormat (accepted : Accepted unicode sha256 document)
    (format : OneFormat unicode sha256 document) : ∀ c ∈ document.documentId.toList, c.toNat < 0x80 := by
  obtain ⟨chunk, chunked, -⟩ := accepted.chunked fun _ => []
  obtain ⟨report, evaluated, found, -⟩ := format.cited chunk chunked ⟨0, le_rfl, zero_le_one⟩ "" "" ⟨[]⟩
  rw [GroundednessEvaluator.evaluate_eq, Except.ok.injEq] at evaluated
  have listed := (found chunk.chunkId).mpr (.inl rfl)
  rw [← evaluated, GroundednessEvaluator.mem_citationsFound] at listed
  exact (citable_iff accepted chunked).mp (citedPattern_of_mem_citations listed)

/-- The formats agree on a document exactly when its identifier is written in ASCII digits. -/
theorem oneFormat_iff (accepted : Accepted unicode sha256 document) :
    OneFormat unicode sha256 document ↔ ∀ c ∈ document.documentId.toList, c.toNat < 0x80 :=
  ⟨ascii_of_oneFormat accepted, oneFormat_of_ascii accepted⟩

end

theorem oneFormat_refund :
    ∃ document, parsePolicyDocument asciiUnicode zeroDigest (String.ofList (refundText refundContent)).toUTF8
        "refunds.md" = .ok document ∧ OneFormat asciiUnicode zeroDigest document := by
  obtain ⟨document, accepted, named, -⟩ := refundDocument_accepted
  have plain : ("POL-REF-002".toList.all fun c => decide (c.toNat < 0x80)) = true := by decide
  have ascii : ∀ c ∈ document.documentId.toList, c.toNat < 0x80 := by
    intro c held
    rw [named] at held
    exact of_decide_eq_true (List.all_eq_true.mp plain c held)
  exact ⟨document, accepted, (oneFormat_iff ⟨_, _, accepted⟩).mpr ascii⟩

def isArabicDigit (c : Char) : Bool := 0x660 ≤ c.toNat && c.toNat ≤ 0x669

theorem arabic_letters (letter c : Char) (lower : isLetter letter = true) (folds : foldsTo letter c = true) :
    (asciiAlnum c || isArabicDigit c) = true := by
  rw [asciiAlnum_letters letter c lower folds, Bool.true_or]

theorem arabic_digits (c : Char) (ascii : c.toNat < 0x80) :
    (('0' ≤ c && c ≤ '9') || isArabicDigit c) = ('0' ≤ c && c ≤ '9') := by
  have low : isArabicDigit c = false := by
    rw [isArabicDigit, decide_eq_false (by omega), Bool.false_and]
  rw [low, Bool.or_false]

/-- The tables on ASCII text and Arabic-Indic digits, which no normal form changes. -/
def arabicUnicode : Unicode where
  alnum c := asciiAlnum c || isArabicDigit c
  decimal c := ('0' ≤ c && c ≤ '9') || isArabicDigit c
  nfkc := id
  casefold text := String.ofList (text.toList.map Char.toLower)
  letters := arabic_letters
  digits := arabic_digits
  casefold_append := lowercase_append

def arabicHeaders : Metadata :=
  [("id", "POL-REF-٠٠٢"), ("title", "Refunds"), ("version", "1.0"), ("classification", "internal-synthetic"),
    ("allowed_roles", "transactions")]

def arabicText : List Char :=
  ["---", "id: POL-REF-٠٠٢", "title: Refunds", "version: 1.0", "classification: internal-synthetic",
    "allowed_roles: transactions", "---"].flatMap (fun line => line.toList ++ ['\n']) ++ refundContent

set_option maxRecDepth 20000 in
theorem arabicText_readAs :
    ReadAs arabicUnicode (String.ofList arabicText).toUTF8 arabicHeaders refundContent := by
  have size : (String.ofList arabicText).toUTF8.size = String.utf8Len arabicText := String.utf8ByteSize_ofList arabicText
  have normal : arabicUnicode.nfkc (String.ofList arabicText) = String.ofList arabicText := rfl
  refine ⟨by rw [size]; decide, String.ofList arabicText, fromUTF8_toUTF8 _, ?_, ?_⟩
  · rw [normal, String.toList_ofList]
    decide
  · rw [normal, String.toList_ofList]
    decide

/-- A document whose identifier ends in other digits is accepted, and its chunks cannot be cited. -/
theorem oneFormat_arabic :
    ∃ document, parsePolicyDocument arabicUnicode zeroDigest (String.ofList arabicText).toUTF8 "refunds.md" =
        .ok document ∧ document.documentId = "POL-REF-٠٠٢" ∧ ¬ OneFormat arabicUnicode zeroDigest document := by
  have made : ((acceptParts arabicUnicode (String.ofList (List.replicate 64 '0')) "refunds.md" arabicHeaders
      refundContent).toOption.map KnowledgeDocument.documentId) = some "POL-REF-٠٠٢" := by
    decide
  obtain ⟨document, returned, named⟩ := Option.map_eq_some_iff.mp made
  have accepted : parsePolicyDocument arabicUnicode zeroDigest (String.ofList arabicText).toUTF8 "refunds.md" =
      .ok document := by
    rw [parsePolicyDocument_readAs arabicText_readAs]
    exact toOption_eq_some returned
  refine ⟨document, accepted, named, fun format => ?_⟩
  have ascii := ascii_of_oneFormat ⟨_, _, accepted⟩ format
  rw [named] at ascii
  exact absurd (ascii '٢' (by decide)) (by decide)

end AgentPlatform.Rag
