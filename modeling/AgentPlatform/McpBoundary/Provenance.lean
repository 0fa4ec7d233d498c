import AgentPlatform.McpBoundary.Servers
import AgentPlatform.Rag.ChunkIds

/-! # The provenance of policy records

What is left of a document in the records that the policy tool returns of its chunks. -/

namespace AgentPlatform.McpBoundary

open Domain Python Rag

def classificationText : Classification → String
  | .publicSynthetic => "public-synthetic"
  | .internalSynthetic => "internal-synthetic"

/-- A record of a chunk tells which document it is from. -/
structure Carries (record : PolicyRecord) (document : KnowledgeDocument) (digest chunkId : String) : Prop where
  policyId : record.policyId = document.documentId
  title : record.title = document.title
  version : record.version = document.version
  classification : record.classification = classificationText document.classification
  provenance : record.provenanceSha256 = digest
  chunkId : record.chunkId = chunkId
  text : record.text.toList <:+: document.content.toList

/-- Whatever else is in the index, every answer of the tool has for each chunk of the document that was found a record
    that carries it. -/
def ProvenanceKept (digest : String) (document : KnowledgeDocument) : Prop :=
  ∀ (repository : NovaBankRepository) (index : LocalVectorIndex) (embed : String → List Double) query callerRoles limit
    results found,
    DomainTools.search ⟨repository, ⟨index.toVectorIndex, embed⟩⟩ query callerRoles limit =
        .returned (.policies results) →
      index.search query (embed query) callerRoles limit = .ok found →
      List.Forall₂ (fun item record => ChunkOf document item.2 → Carries record document digest item.2.chunkId) found
        results.policies

section

variable {unicode : Unicode} {sha256 : ByteArray → String} {document : KnowledgeDocument} {raw : ByteArray}
  {sourceName : String}

theorem hit_ok {item : Double × KnowledgeChunk} {hit : RetrievalHit} (made : AuthorizedRetriever.hit item = .ok hit) :
    hit.text = trim item.2.text ∧ hit.citation = AuthorizedRetriever.citation item.2 := by
  unfold AuthorizedRetriever.hit at made
  dsimp only at made
  split at made
  · cases made
    exact ⟨rfl, rfl⟩
  · cases made

theorem search_returned {repository : NovaBankRepository} {retriever : AuthorizedRetriever} {query : String}
    {callerRoles : Finset String} {limit : Int} {results : PolicySearchResults}
    (returned : DomainTools.search ⟨repository, retriever⟩ query callerRoles limit = .returned (.policies results)) :
    ∃ found hits, retriever.index.search query (retriever.embed query) callerRoles limit = .ok found ∧
      found.mapM AuthorizedRetriever.hit = .ok hits ∧ results.policies = hits.map DomainTools.policyRecord := by
  unfold DomainTools.search at returned
  split at returned
  · cases returned
  · cases returned
  · rename_i retrieval retrieved
    obtain ⟨found, searched, made⟩ := AuthorizedRetriever.retrieve_ok retrieved
    cases returned
    exact ⟨found, retrieval.hits, searched, made, rfl⟩

theorem parsed_digest (parsed : parsePolicyDocument unicode sha256 raw sourceName = .ok document)
    (hex : isProvenance (sha256 raw) = true) : document.provenanceSha256 = sha256 raw := by
  obtain ⟨headers, content, -, parts⟩ := parsePolicyDocument_accepts parsed
  obtain ⟨-, -, provenance⟩ := make_checked (acceptParts_made parts)
  rw [provenance, trim_provenance hex]

theorem policyRecord_hit {item : Double × KnowledgeChunk} {hit : RetrievalHit}
    (made : AuthorizedRetriever.hit item = .ok hit) :
    DomainTools.policyRecord hit =
      { policyId := trim item.2.documentId
        title := trim item.2.title
        text := trim item.2.text
        classification := "internal-synthetic"
        chunkId := trim item.2.chunkId
        version := trim item.2.version
        score := hit.score
        provenanceSha256 := trim item.2.provenanceSha256 } := by
  obtain ⟨text, citation⟩ := hit_ok made
  simp only [DomainTools.policyRecord, text, citation, AuthorizedRetriever.citation, trim_trim]

theorem policyRecord_chunk (accepted : Accepted unicode sha256 document) {item : Double × KnowledgeChunk}
    {hit : RetrievalHit} (chunked : ChunkOf document item.2) (made : AuthorizedRetriever.hit item = .ok hit) :
    DomainTools.policyRecord hit =
      { policyId := item.2.documentId
        title := item.2.title
        text := item.2.text
        classification := "internal-synthetic"
        chunkId := item.2.chunkId
        version := item.2.version
        score := hit.score
        provenanceSha256 := item.2.provenanceSha256 } := by
  have checked := accepted.checked
  have chunkId := accepted.trim_chunkId chunked
  have text := chunked.trim_text
  obtain ⟨embed, index, start, stop, chunk⟩ := chunked.made
  have fields : trim item.2.documentId = item.2.documentId ∧ trim item.2.title = item.2.title ∧
      trim item.2.version = item.2.version ∧ trim item.2.provenanceSha256 = item.2.provenanceSha256 := by
    rw [chunk]
    exact ⟨checked.idTrimmed, checked.titleTrimmed, checked.versionTrimmed, trim_provenance checked.provenance⟩
  rw [policyRecord_hit made, fields.1, fields.2.1, fields.2.2.1, fields.2.2.2, chunkId, text]

/-- The record of a chunk says of its document all but the classification, which is the same in every record. -/
theorem policyRecord_carries_iff (accepted : Accepted unicode sha256 document) {item : Double × KnowledgeChunk}
    {hit : RetrievalHit} (chunked : ChunkOf document item.2) (made : AuthorizedRetriever.hit item = .ok hit) :
    Carries (DomainTools.policyRecord hit) document document.provenanceSha256 item.2.chunkId ↔
      document.classification = .internalSynthetic := by
  rw [policyRecord_chunk accepted chunked made]
  constructor
  · intro carries
    have same : "internal-synthetic" = classificationText document.classification := carries.classification
    cases kind : document.classification with
    | internalSynthetic => rfl
    | publicSynthetic =>
      rw [kind] at same
      exact absurd same (by decide)
  · intro internal
    have text := chunked.text_within
    have kind : "internal-synthetic" = classificationText document.classification := by
      rw [internal]
      rfl
    obtain ⟨embed, index, start, stop, chunk⟩ := chunked.made
    have fields : item.2.documentId = document.documentId ∧ item.2.title = document.title ∧
        item.2.version = document.version ∧ item.2.provenanceSha256 = document.provenanceSha256 := by
      rw [chunk]
      exact ⟨rfl, rfl, rfl, rfl⟩
    exact ⟨fields.1, fields.2.1, fields.2.2.1, kind, fields.2.2.2, rfl, text⟩

theorem search_exactHit (repository : NovaBankRepository) {retriever : AuthorizedRetriever} {query : String}
    {callerRoles : Finset String} {limit : Int} {chunk : KnowledgeChunk} (asked : ¬ (strip query = "" ∨ 500 < query.length))
    (limited : ¬ (limit < 1 ∨ 5 < limit))
    (found : retriever.index.search query (retriever.embed query) callerRoles limit = .ok [(1, chunk)]) :
    DomainTools.search ⟨repository, retriever⟩ query callerRoles limit =
      .returned (.policies ⟨[DomainTools.policyRecord (AuthorizedRetriever.exactHit chunk)]⟩) := by
  rw [DomainTools.search, AuthorizedRetriever.retrieve_exact asked limited found]
  rfl

/-- A chunk that is found shows the classification. -/
theorem ProvenanceKept.internal (accepted : Accepted unicode sha256 document)
    (kept : ProvenanceKept document.provenanceSha256 document) (embed : String → List Double) {index : LocalVectorIndex}
    {query : String} {callerRoles : Finset String} {limit : Int} {chunk : KnowledgeChunk} (chunked : ChunkOf document chunk)
    (asked : ¬ (strip query = "" ∨ 500 < query.length)) (limited : ¬ (limit < 1 ∨ 5 < limit))
    (found : index.search query (embed query) callerRoles limit = .ok [(1, chunk)]) :
    document.classification = .internalSynthetic := by
  have returned := @search_exactHit novaBank ⟨index.toVectorIndex, embed⟩ _ _ _ _ asked limited found
  have answered := kept novaBank index embed query callerRoles limit _ _ returned found
  exact (policyRecord_carries_iff accepted chunked (AuthorizedRetriever.hit_one chunk)).mp
    ((List.forall₂_cons.mp answered).1 chunked)

/-- Some embedding finds a chunk of any document. -/
theorem search_constant {chunk : KnowledgeChunk} (unit : chunk.embedding = [1]) :
    LocalVectorIndex.search ⟨[chunk], List.pairwise_singleton _ _⟩ "policy" [1] chunk.allowedRoles 1 = .ok [(1, chunk)] := by
  refine LocalVectorIndex.search_sole (LocalVectorIndex.authorized_sole chunk) (by rw [unit]) ?_ (le_refl 1)
  rw [LocalVectorIndex.score, unit]
  decide +kernel

/-- The provenance of a document is kept exactly when its classification is the one that every record has. -/
theorem provenanceKept_iff (parsed : parsePolicyDocument unicode sha256 raw sourceName = .ok document)
    (hex : isProvenance (sha256 raw) = true) :
    ProvenanceKept (sha256 raw) document ↔ document.classification = .internalSynthetic := by
  have accepted : Accepted unicode sha256 document := ⟨raw, sourceName, parsed⟩
  rw [← parsed_digest parsed hex]
  constructor
  · intro kept
    obtain ⟨chunk, chunked, unit, -⟩ := accepted.chunked fun _ => [1]
    have asked : ¬ (strip "policy" = "" ∨ 500 < "policy".length) := by decide
    have limited : ¬ ((1 : Int) < 1 ∨ 5 < (1 : Int)) := by decide
    exact kept.internal accepted (fun _ => [1]) chunked asked limited (search_constant unit)
  · intro internal repository index embed query callerRoles limit results found returned searched
    obtain ⟨found', hits, searched', made, records⟩ := search_returned returned
    obtain rfl : found' = found := Except.ok.inj (searched'.symm.trans searched)
    rw [records, List.forall₂_map_right_iff]
    refine (Except.forall₂_of_mapM made).imp fun item hit made chunked => ?_
    exact (policyRecord_carries_iff accepted chunked made).mpr internal

end

theorem zeroDigest_hex (raw : ByteArray) : isProvenance (zeroDigest raw) = true := by
  unfold zeroDigest
  decide

theorem provenanceKept_refund : ∃ document,
    parsePolicyDocument asciiUnicode zeroDigest (String.ofList (refundText refundContent)).toUTF8 "refunds.md" =
        .ok document ∧
      ProvenanceKept (zeroDigest (String.ofList (refundText refundContent)).toUTF8) document := by
  obtain ⟨document, accepted, -, internal⟩ := refundDocument_accepted
  exact ⟨document, accepted, (provenanceKept_iff accepted (zeroDigest_hex _)).mpr internal⟩

/-! ## A public document -/

def publicHeaders : Metadata :=
  [("id", "POL-REF-003"), ("title", "Refunds"), ("version", "1.0"), ("classification", "public-synthetic"),
    ("allowed_roles", "transactions")]

def publicText : List Char :=
  ["---", "id: POL-REF-003", "title: Refunds", "version: 1.0", "classification: public-synthetic",
    "allowed_roles: transactions", "---"].flatMap (fun line => line.toList ++ ['\n']) ++ LocalVectorIndex.repeatedContent

set_option maxRecDepth 20000 in
theorem publicDocument_accepted : ∃ document,
    parsePolicyDocument asciiUnicode zeroDigest (String.ofList publicText).toUTF8 "refunds.md" = .ok document ∧
      document.classification = .publicSynthetic ∧ document.content = String.ofList LocalVectorIndex.repeatedContent := by
  have made : ((acceptParts asciiUnicode (String.ofList (List.replicate 64 '0')) "refunds.md" publicHeaders
      LocalVectorIndex.repeatedContent).toOption.map fun document => (document.classification, document.content)) =
        some (.publicSynthetic, String.ofList LocalVectorIndex.repeatedContent) := by
    decide
  obtain ⟨document, returned, fields⟩ := Option.map_eq_some_iff.mp made
  obtain ⟨kind, same⟩ := Prod.mk.inj fields
  have parts : splitDocument publicText = .ok (publicHeaders, LocalVectorIndex.repeatedContent) := by decide
  refine ⟨document, ?_, kind, same⟩
  rw [parsePolicyDocument_of_parts (by decide) (by decide) parts]
  exact toOption_eq_some returned

/-- The records of a public document say that it is an internal one: so does that of its one chunk, for a query of
    its one word. -/
theorem publicDocument_relabelled : ∃ document,
    parsePolicyDocument asciiUnicode zeroDigest (String.ofList publicText).toUTF8 "refunds.md" = .ok document ∧
      ¬ ProvenanceKept (zeroDigest (String.ofList publicText).toUTF8) document := by
  obtain ⟨document, parsed, kind, same⟩ := publicDocument_accepted
  refine ⟨document, parsed, fun kept => ?_⟩
  rw [← parsed_digest parsed (zeroDigest_hex _)] at kept
  have accepted : Accepted asciiUnicode zeroDigest document := ⟨_, _, parsed⟩
  have asked : ¬ (strip "refunds" = "" ∨ 500 < "refunds".length) := by decide
  have limited : ¬ ((3 : Int) < 1 ∨ 5 < (3 : Int)) := by decide
  obtain ⟨chunk, chunked, embedded, text⟩ := accepted.chunked LocalVectorIndex.refundsEmbed
  rw [same] at text
  have found := LocalVectorIndex.search_refunds (LocalVectorIndex.authorized_sole chunk) embedded text
    (show (1 : Int) ≤ 3 by decide)
  have internal := kept.internal accepted LocalVectorIndex.refundsEmbed chunked asked limited found
  rw [kind] at internal
  cases internal

end AgentPlatform.McpBoundary
