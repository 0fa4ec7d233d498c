import AgentPlatform.Agents.Specialists
import AgentPlatform.McpBoundary.Provenance
import AgentPlatform.Rag.Synthesis

/-! # Size bounds from ingestion to its consumers

What is retrieved becomes evidence of the policy agent and a message to a model, each with limits of its own. -/

namespace AgentPlatform.Agents

open McpBoundary ModelGateway Orchestration Python Rag

def defaultChunkSize : Int := 500
def defaultOverlap : Int := 80

/-- The chunks of documents, each of which the chunker returns on with its default parameters. -/
inductive Chunked (embed : String → List Double) : List KnowledgeDocument → List KnowledgeChunk → Prop where
  | nil : Chunked embed [] []
  | cons {document : KnowledgeDocument} {documents : List KnowledgeDocument} {part chunks : List KnowledgeChunk}
      (fuel : Nat) (returned : chunkDocument fuel document embed defaultChunkSize defaultOverlap = some (.ok part))
      (others : Chunked embed documents chunks) : Chunked embed (document :: documents) (part ++ chunks)

/-- A backend that answers with authorized chunks of those it holds and no more than it is asked for. -/
structure Backs (index : VectorIndex) (chunks : List KnowledgeChunk) : Prop where
  held : ∀ query queryEmbedding callerRoles limit found,
    index.search query queryEmbedding callerRoles limit = .ok found →
      ∀ item ∈ found, item.2 ∈ chunks ∧ item.2.allowedRoles ⊆ callerRoles
  limited : ∀ query queryEmbedding callerRoles limit found, 1 ≤ limit →
    index.search query queryEmbedding callerRoles limit = .ok found → (found.length : Int) ≤ limit

/-- The policy agent reports on the hits, and the prompt on them is a message. -/
def Presentable (query : String) (result : RetrievalResult) : Prop :=
  (∃ report, policyReport (result.hits.map DomainTools.policyRecord) = .ok report) ∧
    ∃ message, synthesisMessage query result = some message

/-- Whatever a backend over the chunks of the documents makes of a query, the hits can be presented. -/
def SizesCompose (documents : List KnowledgeDocument) : Prop :=
  ∀ embed chunks index, Chunked embed documents chunks → Backs index chunks →
    ∀ (query : String) callerRoles (limit : Int) result,
      1 ≤ query.length → query.length ≤ 500 → 1 ≤ limit → limit ≤ 5 →
        AuthorizedRetriever.retrieve ⟨index, embed⟩ query callerRoles limit = .ok result → Presentable query result

/-- The sizes of a chunk that the limits of evidence leave room for. -/
structure Fits (chunk : KnowledgeChunk) : Prop where
  sourceId : chunk.documentId.length ≤ 100
  detail : chunk.title.length + chunk.text.length + chunk.chunkId.length + chunk.version.length ≤ 902

section

variable {unicode : Unicode} {sha256 : ByteArray → String} {document : KnowledgeDocument}
  {documents : List KnowledgeDocument} {chunks : List KnowledgeChunk} {embed : String → List Double}

theorem Chunked.source (chunked : Chunked embed documents chunks) {chunk : KnowledgeChunk} (member : chunk ∈ chunks) :
    ∃ document ∈ documents, ∃ fuel part,
      chunkDocument fuel document embed defaultChunkSize defaultOverlap = some (.ok part) ∧ chunk ∈ part := by
  induction chunked with
  | nil => cases member
  | cons fuel returned others ih =>
    rcases List.mem_append.mp member with here | later
    · exact ⟨_, List.mem_cons_self, fuel, _, returned, here⟩
    · obtain ⟨document, listed, source⟩ := ih later
      exact ⟨document, List.mem_cons_of_mem _ listed, source⟩

theorem evidenceOf_succeeds_iff {sourceId detail : String} {sourceType : EvidenceSource} :
    (∃ evidence, evidenceOf sourceId sourceType detail = .ok evidence) ↔
      (1 ≤ sourceId.length ∧ sourceId.length ≤ 100) ∧ 1 ≤ detail.length ∧ detail.length ≤ 1000 := by
  unfold evidenceOf
  constructor
  · rintro ⟨evidence, made⟩
    split at made
    · rename_i lengths
      exact lengths
    · cases made
  · intro lengths
    rw [dif_pos lengths]
    exact ⟨_, rfl⟩

theorem policyEvidence_succeeds_iff (accepted : Accepted unicode sha256 document) {item : Double × KnowledgeChunk}
    {hit : RetrievalHit} (chunked : ChunkOf document item.2) (made : AuthorizedRetriever.hit item = .ok hit) :
    (∃ evidence, policyEvidence (DomainTools.policyRecord hit) = .ok evidence) ↔ Fits item.2 := by
  have digest : item.2.provenanceSha256.length = 64 := by
    obtain ⟨embed, index, start, stop, chunk⟩ := chunked.made
    have provenance := accepted.checked.provenance
    rw [isProvenance, Bool.and_eq_true, decide_eq_true_eq] at provenance
    rw [chunk]
    exact provenance.1
  have named : 1 ≤ item.2.documentId.length := by
    obtain ⟨embed, index, start, stop, chunk⟩ := chunked.made
    rw [chunk]
    change 1 ≤ document.documentId.length
    rw [← String.length_toList]
    exact List.length_pos_iff.mpr accepted.documentId_nonempty
  rw [policyRecord_chunk accepted chunked made, policyEvidence, evidenceOf_succeeds_iff]
  simp only [String.length_append, digest]
  constructor
  · rintro ⟨⟨-, short⟩, -, detail⟩
    exact ⟨short, by change _ + 2 + _ + 12 + _ + 10 + _ + 9 + 64 + 1 ≤ 1000 at detail; omega⟩
  · rintro ⟨short, detail⟩
    change (_ ∧ _) ∧ 1 ≤ _ + 2 + _ + 12 + _ + 10 + _ + 9 + 64 + 1 ∧ _ + 2 + _ + 12 + _ + 10 + _ + 9 + 64 + 1 ≤ 1000
    omega

theorem resultOf_succeeds {agent : AgentRoute} {summary : String} {evidence : List Evidence} {review : Bool}
    {errorCode : Option String} (length : 1 ≤ summary.length ∧ summary.length ≤ 2000) :
    ∃ report, resultOf agent summary evidence review errorCode = .ok report := by
  rw [resultOf, dif_pos length]
  exact ⟨_, rfl⟩

theorem summary_length : ∀ count ≤ 5, 1 ≤ ("Found " ++ toString count ++ " relevant synthetic policy record(s).").length ∧
    ("Found " ++ toString count ++ " relevant synthetic policy record(s).").length ≤ 2000 := by
  decide

theorem policyReport_succeeds_iff {policies : List PolicyRecord} (few : policies.length ≤ 5) :
    (∃ report, policyReport policies = .ok report) ↔
      ∀ policy ∈ policies, ∃ evidence, policyEvidence policy = .ok evidence := by
  rw [← Except.mapM_succeeds_iff]
  unfold policyReport
  split
  · rename_i empty
    subst empty
    exact ⟨fun _ => ⟨[], rfl⟩, fun _ => resultOf_succeeds (by decide)⟩
  · constructor
    · rintro ⟨report, reported⟩
      obtain ⟨evidence, made, -⟩ := Except.bind_eq_ok reported
      exact ⟨evidence, made⟩
    · rintro ⟨evidence, made⟩
      rw [made]
      exact resultOf_succeeds (summary_length _ few)

/-! ## The prompt -/

theorem length_block_le {lines : List String} {bound : Nat} (short : ∀ line ∈ lines, line.length ≤ bound) :
    ("\n".intercalate lines).length ≤ lines.length * (bound + 1) := by
  induction lines with
  | nil => rw [String.intercalate_nil]; exact Nat.zero_le _
  | cons line lines ih =>
    have first := short line List.mem_cons_self
    have rest := ih fun other member => short other (List.mem_cons_of_mem _ member)
    cases lines with
    | nil =>
      rw [String.intercalate_singleton]
      simp only [List.length_cons, List.length_nil]
      omega
    | cons next lines =>
      rw [String.intercalate_cons_cons, String.length_append, String.length_append, List.length_cons, Nat.succ_mul]
      change _ + 1 + _ ≤ _
      omega

theorem length_trim_le (text : String) : (trim text).length ≤ text.length := by
  rw [trim, String.length_ofList, ← String.length_toList]
  exact (stripBy_isWithin _ _).length_le

theorem length_le_utf8ByteSize (text : String) : text.length ≤ text.utf8ByteSize := by
  have bytes (chars : List Char) : chars.length ≤ String.utf8Len chars := by
    induction chars with
    | nil => exact Nat.zero_le _
    | cons c chars ih =>
      have positive := c.utf8Size_pos
      rw [List.length_cons, String.utf8Len_cons]
      omega
  have size : text.utf8ByteSize = String.utf8Len text.toList := by
    rw [← String.utf8ByteSize_ofList, String.ofList_toList]
  rw [size, ← String.length_toList]
  exact bytes _

theorem trim_prompt_nonempty (query : String) (evidence : RetrievalResult) :
    1 ≤ (trim (buildSynthesisPrompt query evidence)).length := by
  rw [trim, String.length_ofList]
  refine List.length_pos_iff.mpr fun empty => ?_
  have heading : 'E' ∈ "\n\nEvidence:".toList := by decide
  have letter : 'E' ∈ (buildSynthesisPrompt query evidence).toList := by
    rw [toList_prompt, String.toList_append]
    exact List.mem_append_left _ (List.mem_append_right _ heading)
  exact absurd ((stripBy_eq_nil_iff _ _).mp empty 'E' letter) (by decide)

set_option maxRecDepth 20000 in
theorem synthesisMessage_of_short {query : String} {evidence : RetrievalResult} (asked : query.length ≤ 500)
    (few : evidence.hits.length ≤ 5)
    (short : ∀ hit ∈ evidence.hits, hit.citation.chunkId.length + hit.text.length ≤ 902) :
    ∃ message, synthesisMessage query evidence = some message := by
  have lines : ∀ line ∈ evidence.hits.map evidenceLine, line.length ≤ 905 := by
    intro line member
    obtain ⟨hit, listed, rfl⟩ := List.mem_map.mp member
    have bound := short hit listed
    rw [evidenceLine, String.length_append, String.length_append, String.length_append]
    change 1 + _ + 2 + _ ≤ 905
    omega
  have block := length_block_le lines
  rw [List.length_map] at block
  have prompt : (buildSynthesisPrompt query evidence).length ≤ 8000 := by
    rw [buildSynthesisPrompt]
    simp only [String.length_append]
    have size : synthesisInstruction.utf8ByteSize = 240 := by decide
    have instruction := (length_le_utf8ByteSize synthesisInstruction).trans_eq size
    generalize synthesisInstruction.length = length at instruction ⊢
    change _ + 12 + _ + 12 + _ ≤ 8000
    omega
  have trimmed := length_trim_le (buildSynthesisPrompt query evidence)
  rw [synthesisMessage, ChatMessage.make, if_pos ⟨trim_prompt_nonempty query evidence, by omega⟩]
  exact ⟨_, rfl⟩

/-! ## Retrieval -/

theorem localIndex_backs {index : LocalVectorIndex} (held : ∀ chunk ∈ index.chunks, chunk ∈ chunks) :
    Backs index.toVectorIndex chunks where
  held query queryEmbedding callerRoles limit found searched item member := by
    obtain ⟨stored, allowed⟩ :=
      @LocalVectorIndex.mem_of_search index query queryEmbedding callerRoles limit found searched item member
    exact ⟨held _ stored, allowed⟩
  limited query queryEmbedding callerRoles limit found positive searched := by
    have searched : index.search query queryEmbedding callerRoles limit = .ok found := searched
    rcases LocalVectorIndex.search_cases index query queryEmbedding callerRoles limit with
      ⟨chunk, -, -, -, failed⟩ | ⟨-, ranked, -, -, cut⟩
    · rw [failed] at searched
      cases searched
    · rw [cut, slice_natural _ (by omega)] at searched
      cases searched
      have short := List.length_take_le limit.toNat ranked
      omega

theorem Backs.of_sole {chunk : KnowledgeChunk} (member : chunk ∈ chunks) :
    Backs (LocalVectorIndex.toVectorIndex ⟨[chunk], List.pairwise_singleton _ _⟩) chunks :=
  localIndex_backs (List.forall_mem_singleton.mpr member)

theorem presentable_of_fits (accepted : ∀ document ∈ documents, Accepted unicode sha256 document)
    (chunked : Chunked embed documents chunks) {found : List (Double × KnowledgeChunk)} {result : RetrievalResult}
    {query : String} (held : ∀ item ∈ found, item.2 ∈ chunks) (few : found.length ≤ 5)
    (made : found.mapM AuthorizedRetriever.hit = .ok result.hits) (asked : query.length ≤ 500)
    (fits : ∀ chunk ∈ chunks, Fits chunk) : Presentable query result := by
  have size : found.length = result.hits.length := (Except.forall₂_of_mapM made).length_eq
  have sources : ∀ hit ∈ result.hits, ∃ item, ∃ document, Accepted unicode sha256 document ∧
      ChunkOf document item.2 ∧ Fits item.2 ∧ AuthorizedRetriever.hit item = .ok hit := by
    intro hit listed
    obtain ⟨item, member, made⟩ := Except.exists_of_mapM made listed
    obtain ⟨document, known, fuel, part, returned, inPart⟩ := chunked.source (held item member)
    exact ⟨item, document, accepted document known, ⟨fuel, embed, _, _, part, returned, inPart⟩,
      fits item.2 (held item member), made⟩
  constructor
  · rw [policyReport_succeeds_iff (by rw [List.length_map]; omega)]
    intro policy member
    obtain ⟨hit, listed, rfl⟩ := List.mem_map.mp member
    obtain ⟨item, document, known, chunk, fit, made⟩ := sources hit listed
    exact (policyEvidence_succeeds_iff known chunk made).mpr fit
  · refine synthesisMessage_of_short asked (by omega) fun hit listed => ?_
    obtain ⟨item, document, known, chunk, fit, made⟩ := sources hit listed
    obtain ⟨text, citation⟩ := hit_ok made
    have detail := fit.detail
    rw [text, citation, AuthorizedRetriever.citation, chunk.trim_text]
    change (trim item.2.chunkId).length + _ ≤ 902
    rw [known.trim_chunkId chunk]
    omega

/-! ## The condition -/

/-- A chunk with another embedding. -/
def reembedded (embed : String → List Double) (chunk : KnowledgeChunk) : KnowledgeChunk :=
  { chunk with embedding := embed chunk.text }

theorem chunkLoop_reembedded (embed' : String → List Double) {chunkSize overlap : Int} {fuel : Nat}
    {before : List KnowledgeChunk} {start : Int} {index : Nat} :
    chunkLoop document embed' chunkSize overlap fuel (before.map (reembedded embed')) start index =
      (chunkLoop document embed chunkSize overlap fuel before start index).map (List.map (reembedded embed')) := by
  induction fuel generalizing before start index with
  | zero => rfl
  | succ fuel ih =>
    have more (text : List Char) : before.map (reembedded embed') ++ [makeChunk document embed' index text] =
        (before ++ [makeChunk document embed index text]).map (reembedded embed') := by
      rw [List.map_append]
      rfl
    simp only [chunkLoop, more]
    split
    · split
      · split <;> rfl
      · split <;> exact ih
    · rfl

theorem chunkDocument_reembedded (embed' : String → List Double) {fuel : Nat} {chunkSize overlap : Int}
    {part : List KnowledgeChunk} (returned : chunkDocument fuel document embed chunkSize overlap = some (.ok part)) :
    chunkDocument fuel document embed' chunkSize overlap = some (.ok (part.map (reembedded embed'))) := by
  unfold chunkDocument at returned ⊢
  split at returned
  · cases returned
  · rename_i valid
    obtain ⟨result, loop, same⟩ := Option.map_eq_some_iff.mp returned
    cases same
    have again := @chunkLoop_reembedded document embed embed' chunkSize overlap fuel [] 0 1
    rw [loop] at again
    rw [if_neg valid]
    exact congrArg (Option.map Except.ok) again

theorem Chunked.reembedded (chunked : Chunked embed documents chunks) (embed' : String → List Double) :
    Chunked embed' documents (chunks.map (reembedded embed')) := by
  induction chunked with
  | nil => exact .nil
  | cons fuel returned others ih =>
    rw [List.map_append]
    exact .cons fuel (chunkDocument_reembedded embed' returned) ih

/-- A chunk that is found alone fits what presents it. -/
theorem fits_of_presentable (known : Accepted unicode sha256 document) {chunk : KnowledgeChunk}
    (source : ChunkOf document chunk) {query : String}
    (presented : Presentable query ⟨[AuthorizedRetriever.exactHit chunk]⟩) : Fits chunk := by
  have evidence := (policyReport_succeeds_iff (by simp)).mp presented.1 _ (List.mem_singleton_self _)
  exact (policyEvidence_succeeds_iff known source (AuthorizedRetriever.hit_one chunk)).mp evidence

theorem fits_of_sizesCompose (accepted : ∀ document ∈ documents, Accepted unicode sha256 document)
    (chunked : Chunked embed documents chunks) (compose : SizesCompose documents) {chunk : KnowledgeChunk}
    (member : chunk ∈ chunks) : Fits chunk := by
  have again := chunked.reembedded fun _ => [1]
  have member' := List.mem_map_of_mem (f := Agents.reembedded fun _ => [1]) member
  obtain ⟨document, known, fuel, part, returned, inPart⟩ := again.source member'
  have source : ChunkOf document (Agents.reembedded (fun _ => [1]) chunk) := ⟨fuel, _, _, _, part, returned, inPart⟩
  have retrieved := @AuthorizedRetriever.retrieve_exact
    ⟨LocalVectorIndex.toVectorIndex ⟨[Agents.reembedded (fun _ => [1]) chunk], List.pairwise_singleton _ _⟩, fun _ => [1]⟩
    "policy" chunk.allowedRoles 1 _ (by decide) (by decide) (search_constant rfl)
  have presented := compose _ _ _ again (Backs.of_sole member') "policy" chunk.allowedRoles 1 _ (by decide) (by decide)
    (by decide) (by decide) retrieved
  have fits := fits_of_presentable (accepted document known) source presented
  exact ⟨fits.sourceId, fits.detail⟩

theorem sizesCompose_of_fits (accepted : ∀ document ∈ documents, Accepted unicode sha256 document)
    (fits : ∀ embed chunks, Chunked embed documents chunks → ∀ chunk ∈ chunks, Fits chunk) : SizesCompose documents := by
  intro embed chunks index chunked backs query callerRoles limit result _ asked positive most retrieved
  obtain ⟨found, searched, made⟩ := AuthorizedRetriever.retrieve_ok retrieved
  have few := backs.limited query _ callerRoles limit found positive searched
  exact presentable_of_fits accepted chunked (fun item member => (backs.held _ _ _ _ _ searched item member).1)
    (by omega) made asked (fits embed chunks chunked)

/-- The bounds compose over a corpus exactly when its identifiers and versions leave its chunks the room they need. -/
theorem sizesCompose_iff (accepted : ∀ document ∈ documents, Accepted unicode sha256 document) :
    SizesCompose documents ↔ ∀ embed chunks, Chunked embed documents chunks → ∀ chunk ∈ chunks, Fits chunk := by
  constructor
  · exact fun compose embed chunks chunked chunk member => fits_of_sizesCompose accepted chunked compose member
  · exact sizesCompose_of_fits accepted

theorem fits_of_short (accepted : Accepted unicode sha256 document) {fuel : Nat} {part : List KnowledgeChunk}
    (returned : chunkDocument fuel document embed defaultChunkSize defaultOverlap = some (.ok part))
    {chunk : KnowledgeChunk} (member : chunk ∈ part) (short : document.documentId.length ≤ 100)
    (room : document.documentId.length + document.version.length ≤ 190) : Fits chunk := by
  obtain ⟨text, index, bound, named⟩ :=
    chunkDocument_sizes ⟨defaultChunkSize, defaultOverlap, by decide, by decide, by decide⟩ returned member
  have title := accepted.checked.title.2
  have content := accepted.checked.content.2
  have digits : (toString index).length ≤ 5 := by
    rw [Nat.toString_eq_repr, Nat.length_repr_le_iff (by decide)]
    omega
  have chunkId : chunk.chunkId.length ≤ document.documentId.length + 7 + 5 := by
    rw [named, String.length_append, String.length_append]
    change _ + 7 + _ ≤ _
    omega
  obtain ⟨embed, number, start, stop, made⟩ := ChunkOf.made ⟨fuel, embed, _, _, part, returned, member⟩
  have fields : chunk.documentId = document.documentId ∧ chunk.title = document.title ∧
      chunk.version = document.version := by
    rw [made]
    exact ⟨rfl, rfl, rfl⟩
  change (chunk.text.length : Int) ≤ 500 at text
  constructor
  · rw [fields.1]
    exact short
  · rw [fields.2.1, fields.2.2]
    omega

theorem Chunked.fits_of_short (accepted : ∀ document ∈ documents, Accepted unicode sha256 document)
    (chunked : Chunked embed documents chunks)
    (short : ∀ document ∈ documents, document.documentId.length ≤ 100 ∧
      document.documentId.length + document.version.length ≤ 190) : ∀ chunk ∈ chunks, Fits chunk := by
  intro chunk member
  obtain ⟨document, listed, fuel, part, returned, inPart⟩ := chunked.source member
  exact Agents.fits_of_short (accepted document listed) returned inPart (short document listed).1 (short document listed).2

theorem sizesCompose_of_short (accepted : ∀ document ∈ documents, Accepted unicode sha256 document)
    (short : ∀ document ∈ documents, document.documentId.length ≤ 100 ∧
      document.documentId.length + document.version.length ≤ 190) : SizesCompose documents :=
  sizesCompose_of_fits accepted fun _ _ chunked => chunked.fits_of_short accepted short

end

theorem chunked_whole {unicode : Unicode} {sha256 : ByteArray → String} {document : KnowledgeDocument}
    (accepted : Accepted unicode sha256 document) (embed : String → List Double)
    (short : document.content.toList.length ≤ 500) :
    Chunked embed [document] [makeChunk document embed 1 document.content.toList] := by
  have returned := accepted.chunkDocument_whole embed ⟨defaultChunkSize, defaultOverlap, by decide, by decide, by decide⟩
    (Int.ofNat_le.mpr short)
  exact .cons 1 returned .nil

def repeatedHeaders (documentId : List Char) : Metadata :=
  [("id", String.ofList documentId), ("title", "Refunds"), ("version", "1.0"), ("classification", "internal-synthetic"),
    ("allowed_roles", "transactions")]

def repeatedText (documentId : List Char) : List Char :=
  ("---\nid: ".toList ++ documentId ++ ['\n']) ++
    ["title: Refunds", "version: 1.0", "classification: internal-synthetic",
      "allowed_roles: transactions", "---"].flatMap (fun line => line.toList ++ ['\n']) ++
      LocalVectorIndex.repeatedContent

theorem repeatedDocument_accepted {documentId : List Char}
    (small : String.utf8Len (repeatedText documentId) ≤ maxDocumentBytes)
    (calm : ((repeatedText documentId).any fun c => isControl c && c ∉ ['\n', '\t', '\r']) = false)
    (parts : splitDocument (repeatedText documentId) = .ok (repeatedHeaders documentId, LocalVectorIndex.repeatedContent))
    (made : ((acceptParts asciiUnicode (String.ofList (List.replicate 64 '0')) "refunds.md" (repeatedHeaders documentId)
      LocalVectorIndex.repeatedContent).toOption.map fun document =>
        (document.documentId, document.version, document.allowedRoles, document.content)) =
          some (String.ofList documentId, "1.0", {"transactions"}, String.ofList LocalVectorIndex.repeatedContent)) :
    ∃ document, parsePolicyDocument asciiUnicode zeroDigest (String.ofList (repeatedText documentId)).toUTF8 "refunds.md" =
        .ok document ∧ document.documentId = String.ofList documentId ∧ document.version = "1.0" ∧
      document.allowedRoles = {"transactions"} ∧ document.content = String.ofList LocalVectorIndex.repeatedContent := by
  obtain ⟨document, returned, fields⟩ := Option.map_eq_some_iff.mp made
  simp only [Prod.mk.injEq] at fields
  refine ⟨document, ?_, fields⟩
  rw [parsePolicyDocument_of_parts small calm parts]
  exact toOption_eq_some returned

set_option maxRecDepth 20000 in
theorem shortDocument_accepted : ∃ document,
    parsePolicyDocument asciiUnicode zeroDigest (String.ofList (repeatedText "POL-REF-002".toList)).toUTF8 "refunds.md" =
        .ok document ∧ document.documentId = "POL-REF-002" ∧ document.version = "1.0" ∧
      document.allowedRoles = {"transactions"} ∧ document.content = String.ofList LocalVectorIndex.repeatedContent :=
  @repeatedDocument_accepted "POL-REF-002".toList (by decide) (by decide) (by decide) (by decide)

theorem sizesCompose_refund : ∃ document,
    parsePolicyDocument asciiUnicode zeroDigest (String.ofList (repeatedText "POL-REF-002".toList)).toUTF8 "refunds.md" =
        .ok document ∧
      (∃ chunks, Chunked LocalVectorIndex.refundsEmbed [document] chunks) ∧
      SizesCompose [document] := by
  obtain ⟨document, parsed, named, versioned, -, same⟩ := shortDocument_accepted
  have accepted : ∀ document' ∈ [document], Accepted asciiUnicode zeroDigest document' :=
    List.forall_mem_singleton.mpr ⟨_, _, parsed⟩
  have short : ∀ document' ∈ [document], document'.documentId.length ≤ 100 ∧
      document'.documentId.length + document'.version.length ≤ 190 := by
    rw [List.forall_mem_singleton, named, versioned]
    decide
  refine ⟨document, parsed, ⟨_, chunked_whole ⟨_, _, parsed⟩ _ ?_⟩,
    (sizesCompose_iff accepted).mpr fun _ _ chunked => chunked.fits_of_short accepted short⟩
  rw [same, String.toList_ofList]
  decide

/-! ## A long identifier -/

def longId : List Char := "POL-".toList ++ List.replicate 93 'A' ++ "-001".toList

set_option maxRecDepth 20000 in
theorem longDocument_accepted : ∃ document,
    parsePolicyDocument asciiUnicode zeroDigest (String.ofList (repeatedText longId)).toUTF8 "refunds.md" = .ok document ∧
      document.documentId = String.ofList longId ∧ document.version = "1.0" ∧ document.allowedRoles = {"transactions"} ∧
      document.content = String.ofList LocalVectorIndex.repeatedContent :=
  @repeatedDocument_accepted longId (by decide) (by decide) (by decide) (by decide)

theorem retrieve_refunds {chunk : KnowledgeChunk} (embedded : chunk.embedding = LocalVectorIndex.refundsEmbed chunk.text)
    (roles : chunk.allowedRoles = {"transactions"}) (text : chunk.text = String.ofList LocalVectorIndex.repeatedContent) :
    AuthorizedRetriever.retrieve
      ⟨LocalVectorIndex.toVectorIndex ⟨[chunk], List.pairwise_singleton _ _⟩, LocalVectorIndex.refundsEmbed⟩
      "refunds" {"transactions"} 1 = .ok ⟨[AuthorizedRetriever.exactHit chunk]⟩ := by
  have opened := LocalVectorIndex.authorized_sole chunk
  rw [roles] at opened
  have asked : ¬ (strip "refunds" = "" ∨ 500 < "refunds".length) := by decide
  have limited : ¬ ((1 : Int) < 1 ∨ 5 < (1 : Int)) := by decide
  exact AuthorizedRetriever.retrieve_exact asked limited
    (LocalVectorIndex.search_refunds opened embedded text (le_refl 1))

theorem evidenceOf_raises {sourceId detail : String} {sourceType : EvidenceSource} {error : Raised}
    (failed : evidenceOf sourceId sourceType detail = .error error) : error = validationError := by
  unfold evidenceOf at failed
  split at failed
  · cases failed
  · exact (Except.error.inj failed).symm

theorem policyReport_error {hit : RetrievalHit}
    (unfit : ¬ ∃ evidence, policyEvidence (DomainTools.policyRecord hit) = .ok evidence) :
    policyReport [DomainTools.policyRecord hit] = .error validationError := by
  cases made : policyEvidence (DomainTools.policyRecord hit) with
  | ok evidence => exact absurd ⟨evidence, made⟩ unfit
  | error error =>
    rw [policyReport, if_neg (List.cons_ne_nil _ _), List.mapM_cons, made, evidenceOf_raises made]
    rfl

/-- The one chunk of a document with a long identifier, in the local index: the query `refunds` finds it, and the agent's
    evidence rejects it. -/
theorem longId_rejected : ∃ document chunk hit,
    parsePolicyDocument asciiUnicode zeroDigest (String.ofList (repeatedText longId)).toUTF8 "refunds.md" = .ok document ∧
      Chunked LocalVectorIndex.refundsEmbed [document] [chunk] ∧
      AuthorizedRetriever.retrieve ⟨LocalVectorIndex.toVectorIndex ⟨[chunk], List.pairwise_singleton _ _⟩,
          LocalVectorIndex.refundsEmbed⟩ "refunds" {"transactions"} 1 = .ok ⟨[hit]⟩ ∧
      policyReport [DomainTools.policyRecord hit] = .error validationError ∧ ¬ SizesCompose [document] := by
  obtain ⟨document, parsed, named, -, roles, same⟩ := longDocument_accepted
  have accepted : Accepted asciiUnicode zeroDigest document := ⟨_, _, parsed⟩
  have chunked := chunked_whole accepted LocalVectorIndex.refundsEmbed (by rw [same, String.toList_ofList]; decide)
  have source := accepted.wholeChunk LocalVectorIndex.refundsEmbed
  have text : (makeChunk document LocalVectorIndex.refundsEmbed 1 document.content.toList).text =
      String.ofList LocalVectorIndex.repeatedContent := by
    rw [makeChunk, same, String.toList_ofList]
  have unfit : ¬ Fits (makeChunk document LocalVectorIndex.refundsEmbed 1 document.content.toList) := by
    intro fits
    have short : document.documentId.length ≤ 100 := fits.sourceId
    rw [named] at short
    exact absurd short (by decide)
  have retrieved := @retrieve_refunds (makeChunk document LocalVectorIndex.refundsEmbed 1 document.content.toList) rfl
    roles text
  have rejected := policyReport_error
    (mt (policyEvidence_succeeds_iff accepted source (AuthorizedRetriever.hit_one _)).mp unfit)
  refine ⟨document, _, _, parsed, chunked, retrieved, rejected, fun compose => unfit ?_⟩
  exact fits_of_sizesCompose (List.forall_mem_singleton.mpr accepted) chunked compose (List.mem_singleton_self _)

end AgentPlatform.Agents
