import AgentPlatform.Base.Fallible
import AgentPlatform.Rag.Embedding
import AgentPlatform.Rag.Index

/-! # Authorized retrieval -/

namespace AgentPlatform.Rag

open Python

inductive RetrieveError where
  | valueError (message : String)
  /-- A hit whose score is outside its contract. -/
  | validation (score : Double)
deriving DecidableEq, Repr

structure AuthorizedRetriever where
  index : VectorIndex
  embed : String → List Double

namespace AuthorizedRetriever

def defaultLimit : Int := 3

def citation (chunk : KnowledgeChunk) : Citation where
  documentId := trim chunk.documentId
  chunkId := trim chunk.chunkId
  title := trim chunk.title
  version := trim chunk.version
  provenanceSha256 := trim chunk.provenanceSha256

def hit (item : Double × KnowledgeChunk) : Except RetrieveError RetrievalHit :=
  let score := item.1.round 6
  if bounds : ¬ score < -1 ∧ ¬ 1 < score then .ok ⟨trim item.2.text, score, citation item.2, bounds⟩
  else .error (.validation score)

def retrieve (retriever : AuthorizedRetriever) (query : String) (callerRoles : Finset String)
    (limit : Int) : Except RetrieveError RetrievalResult := do
  if strip query = "" ∨ 500 < query.length then
    throw (.valueError "Retrieval query length is invalid")
  if limit < 1 ∨ 5 < limit then
    throw (.valueError "Retrieval result limit is invalid")
  let ranked ← (retriever.index.search query (retriever.embed query) callerRoles limit).mapError
    RetrieveError.valueError
  return ⟨← ranked.mapM hit⟩

theorem retrieve_ok {retriever : AuthorizedRetriever} {query : String} {callerRoles : Finset String} {limit : Int}
    {result : RetrievalResult} (retrieved : retriever.retrieve query callerRoles limit = .ok result) :
    ∃ found, retriever.index.search query (retriever.embed query) callerRoles limit = .ok found ∧
      found.mapM hit = .ok result.hits := by
  unfold retrieve at retrieved
  dsimp only at retrieved
  split at retrieved
  · cases retrieved
  · split at retrieved
    · cases retrieved
    · obtain ⟨found, searched, retrieved⟩ := Except.bind_eq_ok retrieved
      obtain ⟨hits, made, retrieved⟩ := Except.bind_eq_ok retrieved
      cases retrieved
      exact ⟨found, Except.mapError_eq_ok searched, made⟩

/-- A retrieval depends on the index through its search alone. -/
theorem retrieve_congr {first second : VectorIndex} {embed : String → List Double} {query : String}
    {callerRoles : Finset String} {limit : Int}
    (same : first.search query (embed query) callerRoles limit = second.search query (embed query) callerRoles limit) :
    retrieve ⟨first, embed⟩ query callerRoles limit = retrieve ⟨second, embed⟩ query callerRoles limit := by
  simp only [retrieve, same]

theorem one_bounds : ¬ (1 : Double) < -1 ∧ ¬ (1 : Double) < 1 := by decide

theorem round_one : (1 : Double).round 6 = 1 := by decide +kernel

/-- The hit of a chunk as similar as can be. -/
def exactHit (chunk : KnowledgeChunk) : RetrievalHit := ⟨trim chunk.text, 1, citation chunk, one_bounds⟩

theorem hit_one (chunk : KnowledgeChunk) : hit (1, chunk) = .ok (exactHit chunk) := by
  unfold hit
  simp only [round_one]
  exact dif_pos one_bounds

theorem retrieve_exact {retriever : AuthorizedRetriever} {query : String} {callerRoles : Finset String} {limit : Int}
    {chunk : KnowledgeChunk} (asked : ¬ (strip query = "" ∨ 500 < query.length)) (limited : ¬ (limit < 1 ∨ 5 < limit))
    (found : retriever.index.search query (retriever.embed query) callerRoles limit = .ok [(1, chunk)]) :
    retriever.retrieve query callerRoles limit = .ok ⟨[exactHit chunk]⟩ := by
  have hits : [((1 : Double), chunk)].mapM hit = .ok [exactHit chunk] := by
    rw [List.mapM_cons, hit_one]
    rfl
  unfold retrieve
  dsimp only
  rw [if_neg asked, if_neg limited, found]
  exact congrArg (· >>= fun hits => Except.ok (RetrievalResult.mk hits)) hits

end AuthorizedRetriever

namespace LocalVectorIndex

/-- The one chunk that a caller may see is found when it is as similar as can be. -/
theorem search_sole {index : LocalVectorIndex} {chunk : KnowledgeChunk} {query : String} {queryEmbedding : List Double}
    {callerRoles : Finset String} {limit : Int} (opened : index.authorized callerRoles = [chunk])
    (fits : chunk.embedding.length = queryEmbedding.length) (exact : score queryEmbedding chunk = 1)
    (limited : 1 ≤ limit) : index.search query queryEmbedding callerRoles limit = .ok [(1, chunk)] := by
  have cut : slice [((1 : Double), chunk)] 0 limit = [(1, chunk)] := by
    rw [slice_natural _ (by omega)]
    exact List.take_of_length_le (by simp only [List.length_singleton]; omega)
  rw [search_eq, opened, if_pos (by simpa using fits)]
  simp only [List.map_cons, List.map_nil, exact]
  exact congrArg Except.ok cut

/-- A chunk of one token is found by a query of that token. -/
theorem search_token {embedding : LocalHashEmbedding} {unicode : Unicode} {sha256 : ByteArray → Fin 32 → UInt8}
    {index : LocalVectorIndex} {chunk : KnowledgeChunk} {query token : String} {times times' : Nat}
    {callerRoles : Finset String} {limit : Int} (opened : index.authorized callerRoles = [chunk])
    (embedded : chunk.embedding = embedding.embed unicode sha256 chunk.text)
    (asked : tokensOf (unicode.casefold query).toList = List.replicate times token)
    (written : tokensOf (unicode.casefold chunk.text).toList = List.replicate times' token)
    (few : times = 1 ∨ times = 3) (few' : times' = 1 ∨ times' = 3) (limited : 1 ≤ limit) :
    index.search query (embedding.embed unicode sha256 query) callerRoles limit = .ok [(1, chunk)] := by
  have fits : chunk.embedding.length = (embedding.embed unicode sha256 query).length := by
    rw [embedded, LocalHashEmbedding.embed_token written few', LocalHashEmbedding.embed_token asked few]
  refine search_sole opened fits ?_ limited
  rw [score, embedded]
  exact LocalHashEmbedding.similarity_token asked written few few'

/-- The digest of `refunds`. -/
def refundsDigest (_ : ByteArray) (place : Fin 32) : UInt8 :=
  [79, 220, 29, 184, 206, 239, 16, 100, 249, 184, 170, 111, 124, 96, 205, 196, 37, 39,
    157, 253, 121, 151, 70, 19, 180, 115, 81, 29, 116, 201, 31, 61].getD place 0

def repeatedContent : List Char := "Refunds, refunds, refunds.".toList

@[irreducible] def refundsEmbed : String → List Double := LocalHashEmbedding.default.embed asciiUnicode refundsDigest

theorem search_refunds {index : LocalVectorIndex} {chunk : KnowledgeChunk} {callerRoles : Finset String} {limit : Int}
    (opened : index.authorized callerRoles = [chunk]) (embedded : chunk.embedding = refundsEmbed chunk.text)
    (text : chunk.text = String.ofList repeatedContent) (limited : 1 ≤ limit) :
    index.search "refunds" (refundsEmbed "refunds") callerRoles limit = .ok [(1, chunk)] := by
  have asked : tokensOf (asciiUnicode.casefold "refunds").toList = List.replicate 1 "refunds" := by decide
  have written : tokensOf (asciiUnicode.casefold chunk.text).toList = List.replicate 3 "refunds" := by
    rw [text]
    decide
  unfold refundsEmbed at embedded ⊢
  exact search_token opened embedded asked written (.inl rfl) (.inr rfl) limited

theorem authorized_sole (chunk : KnowledgeChunk) :
    authorized ⟨[chunk], List.pairwise_singleton _ _⟩ chunk.allowedRoles = [chunk] := by
  simp [authorized]

/-- Where no similarity is missing, search is the cut of the strict ranking of the authorized chunks, and neither it nor
    a retrieval over it depends on the order of insertion; in any case the hits are authorized chunks of positive
    similarity, and no other chunk matters. -/
theorem search_exact :
    (∀ (index : LocalVectorIndex) (query : String) (queryEmbedding : List Double)
        (callerRoles : Finset String) (limit : Int),
      ((∃ chunk ∈ index.chunks, chunk.allowedRoles ⊆ callerRoles ∧
          chunk.embedding.length ≠ queryEmbedding.length) ∧
        index.search query queryEmbedding callerRoles limit = .error dimensionError) ∨
      ((∀ chunk ∈ index.chunks, chunk.allowedRoles ⊆ callerRoles →
          chunk.embedding.length = queryEmbedding.length) ∧
        ∃ ranked, Candidates index queryEmbedding callerRoles ranked ∧
          (Comparable index queryEmbedding callerRoles → Ranked index queryEmbedding callerRoles ranked) ∧
          index.search query queryEmbedding callerRoles limit = .ok (slice ranked 0 limit) ∧
          (0 ≤ limit → slice ranked 0 limit = ranked.take limit.toNat))) ∧
    (∀ (first second : LocalVectorIndex) (callerRoles : Finset String),
      Agree first second callerRoles →
      (∀ query queryEmbedding limit,
        (first.search query queryEmbedding callerRoles limit = .error dimensionError ↔
          second.search query queryEmbedding callerRoles limit = .error dimensionError) ∧
        (Comparable first queryEmbedding callerRoles →
          first.search query queryEmbedding callerRoles limit =
            second.search query queryEmbedding callerRoles limit)) ∧
      ∀ embed query limit, Comparable first (embed query) callerRoles →
        AuthorizedRetriever.retrieve ⟨first.toVectorIndex, embed⟩ query callerRoles limit =
          AuthorizedRetriever.retrieve ⟨second.toVectorIndex, embed⟩ query callerRoles limit) ∧
    ∀ (first second : LocalVectorIndex) (callerRoles : Finset String),
      first.authorized callerRoles = second.authorized callerRoles →
      (∀ query queryEmbedding limit,
        first.search query queryEmbedding callerRoles limit =
          second.search query queryEmbedding callerRoles limit) ∧
      ∀ embed query limit,
        AuthorizedRetriever.retrieve ⟨first.toVectorIndex, embed⟩ query callerRoles limit =
          AuthorizedRetriever.retrieve ⟨second.toVectorIndex, embed⟩ query callerRoles limit := by
  refine ⟨fun index query queryEmbedding callerRoles limit => ?_, fun first second callerRoles agree => ?_,
    fun first second callerRoles same => ?_⟩
  · rcases search_cases index query queryEmbedding callerRoles limit with
      ⟨chunk, member, allowed, differs, failed⟩ | ⟨fits, ranked, candidates, order, found⟩
    · exact .inl ⟨⟨chunk, member, allowed, differs⟩, failed⟩
    · exact .inr ⟨fits, ranked, candidates, order, found, slice_natural ranked⟩
  · refine ⟨fun query queryEmbedding limit => ⟨search_fails_agree agree query queryEmbedding limit,
      fun comparable => search_agree agree comparable query limit⟩, fun embed query limit comparable => ?_⟩
    exact AuthorizedRetriever.retrieve_congr (search_agree agree comparable query limit)
  · exact ⟨search_authorized same, fun embed query limit =>
      AuthorizedRetriever.retrieve_congr (search_authorized same query (embed query) limit)⟩

def policyChunk (chunkId role : String) (embedding : List Double) (trimmed : trim role = role) :
    KnowledgeChunk where
  chunkId := chunkId
  documentId := "POL-PAY-001"
  title := "Payments"
  version := "1.0"
  classification := .publicSynthetic
  allowedRoles := {role}
  text := "Refunds settle in three days."
  provenanceSha256 := "0"
  embedding := embedding
  rolesTrimmed := by simpa using trimmed

def settlementChunk : KnowledgeChunk := policyChunk "POL-PAY-001#chunk-2" "transactions" [1] rfl

def sealedChunk : KnowledgeChunk := policyChunk "POL-PAY-001#chunk-1" "complaints" [1, 1] rfl

/-- A chunk whose embedding is no number. -/
def voidChunk : KnowledgeChunk := policyChunk "POL-PAY-001#chunk-3" "transactions" [.nan] rfl

def doubledChunk : KnowledgeChunk := policyChunk "POL-PAY-001#chunk-4" "transactions" [.ofRat 2] rfl

theorem risingChunks_distinct : [settlementChunk, voidChunk, doubledChunk].Pairwise (·.chunkId ≠ ·.chunkId) := by decide

theorem fallingChunks_distinct : [doubledChunk, voidChunk, settlementChunk].Pairwise (·.chunkId ≠ ·.chunkId) := by decide

/-- Between two chunks, one without a number keeps the sort from comparing them: the hits come as they were added. -/
theorem search_unordered :
    Agree ⟨_, risingChunks_distinct⟩ ⟨_, fallingChunks_distinct⟩ {"transactions"} ∧
      search ⟨_, risingChunks_distinct⟩ "refund" [1] {"transactions"} 2 =
        .ok [(1, settlementChunk), (.ofRat 2, doubledChunk)] ∧
      search ⟨_, fallingChunks_distinct⟩ "refund" [1] {"transactions"} 2 =
        .ok [(.ofRat 2, doubledChunk), (1, settlementChunk)] ∧
      ¬ ∃ ranked, Ranked ⟨_, risingChunks_distinct⟩ [1] {"transactions"} ranked ∧
        search ⟨_, risingChunks_distinct⟩ "refund" [1] {"transactions"} 2 = .ok (slice ranked 0 2) := by
  have rising : search ⟨_, risingChunks_distinct⟩ "refund" [1] {"transactions"} 2 =
      .ok [(1, settlementChunk), (.ofRat 2, doubledChunk)] := by decide +kernel
  have agree : Agree ⟨_, risingChunks_distinct⟩ ⟨_, fallingChunks_distinct⟩ {"transactions"} := by
    intro chunk _
    simp only [List.mem_cons, List.not_mem_nil, or_false]
    tauto
  refine ⟨agree, rising, by decide +kernel, ?_⟩
  rintro ⟨ranked, order, found⟩
  rw [rising] at found
  have taken : [(1, settlementChunk), (.ofRat 2, doubledChunk)] = slice ranked 0 2 := Except.ok.inj found
  have ordered := order.ordered.sublist (slice_isWithin ranked 0 2).sublist
  rw [← taken] at ordered
  have less := List.rel_of_pairwise_cons ordered (List.mem_singleton_self _)
  exact absurd less (by decide +kernel)

theorem settlement_comparable : Comparable ⟨[settlementChunk], List.pairwise_singleton _ _⟩ [1] {"transactions"} := by
  intro chunk member _
  rw [List.mem_singleton.mp member]
  decide +kernel

theorem sealedChunks_distinct : [sealedChunk, settlementChunk].Pairwise (·.chunkId ≠ ·.chunkId) := by decide

theorem search_exact_sealed :
    search ⟨[settlementChunk], List.pairwise_singleton _ _⟩ "refund" [1] {"transactions"} 1 = .ok [(1, settlementChunk)] ∧
      search ⟨_, sealedChunks_distinct⟩ "refund" [1] {"transactions"} 1 = .ok [(1, settlementChunk)] := by
  have found : search ⟨[settlementChunk], List.pairwise_singleton _ _⟩ "refund" [1] {"transactions"} 1 =
      .ok [(1, settlementChunk)] := by decide +kernel
  have agree : Agree ⟨[settlementChunk], List.pairwise_singleton _ _⟩ ⟨_, sealedChunks_distinct⟩ {"transactions"} := by
    intro chunk allowed
    simp only [List.mem_cons, List.not_mem_nil, or_false, iff_or_self]
    rintro rfl
    simp [sealedChunk, policyChunk] at allowed
  refine ⟨found, ?_⟩
  rw [← found]
  exact (((search_exact.2.1 _ _ _ agree).1 _ _ _).2 settlement_comparable).symm

end LocalVectorIndex

end AgentPlatform.Rag
