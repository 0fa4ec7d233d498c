import AgentPlatform.Base.Ranking
import AgentPlatform.Rag.Models
import Mathlib.Data.Prod.Lex
import Mathlib.Data.String.Basic

/-! # The local vector index -/

namespace AgentPlatform.Rag

open Python

instance : DecidableEq KnowledgeChunk := fun _ _ => decidable_of_iff _ KnowledgeChunk.ext_iff.symm

/-- Any backend that ranks the chunks a caller may see. -/
structure VectorIndex where
  search : (query : String) → (queryEmbedding : List Double) → (callerRoles : Finset String) →
    (limit : Int) → Except String (List (Double × KnowledgeChunk))

/-- Chunks in insertion order, keyed by their ids. -/
structure LocalVectorIndex where
  chunks : List KnowledgeChunk
  distinct : chunks.Pairwise (·.chunkId ≠ ·.chunkId)

namespace LocalVectorIndex

def empty : LocalVectorIndex := ⟨[], .nil⟩

/-- Chunks before a duplicate stay in the index. -/
def add (index : LocalVectorIndex) : List KnowledgeChunk → Except String Unit × LocalVectorIndex
  | [] => (.ok (), index)
  | chunk :: chunks =>
    if fresh : ∀ stored ∈ index.chunks, stored.chunkId ≠ chunk.chunkId then
      let chunks' := index.chunks ++ [chunk]
      add ⟨chunks', List.pairwise_append.mpr
        ⟨index.distinct, List.pairwise_singleton _ _, by simpa using fresh⟩⟩ chunks
    else (.error s!"Duplicate knowledge chunk: {chunk.chunkId}", index)

def dimensionError : String := "Embedding dimensions do not match"

def similarity (left right : List Double) : Except String Double :=
  if left.length ≠ right.length then .error dimensionError
  else .ok (Double.sum (List.zipWith (· * ·) left right))

def candidate (queryEmbedding : List Double) (chunk : KnowledgeChunk) :
    Except String (Double × KnowledgeChunk) := do
  return (← similarity queryEmbedding chunk.embedding, chunk)

/-- The key `(-score, chunk_id)`. -/
structure RankKey where
  negated : Double
  chunkId : String

/-- `<` of two keys compares the first of their parts that differ. -/
def RankKey.less (first second : RankKey) : Bool :=
  if first.negated.eq second.negated then decide (first.chunkId < second.chunkId)
  else decide (first.negated < second.negated)

/-- A sort keeps two keys as they stand unless the second is less. Where no number is among the scores, this
    is no order, and the language leaves open what the sort makes of it. -/
instance : LE RankKey := ⟨fun first second => second.less first = false⟩

instance : DecidableLE RankKey := fun first second => inferInstanceAs (Decidable (second.less first = false))

def rankKey (item : Double × KnowledgeChunk) : RankKey := ⟨-item.1, item.2.chunkId⟩

def authorized (index : LocalVectorIndex) (callerRoles : Finset String) : List KnowledgeChunk :=
  index.chunks.filter (·.allowedRoles ⊆ callerRoles)

def search (index : LocalVectorIndex) (_query : String) (queryEmbedding : List Double)
    (callerRoles : Finset String) (limit : Int) : Except String (List (Double × KnowledgeChunk)) := do
  let candidates ← (index.authorized callerRoles).mapM (candidate queryEmbedding)
  let ranked := sortedBy rankKey candidates
  return slice (ranked.filter (0 < ·.1)) 0 limit

def toVectorIndex (index : LocalVectorIndex) : VectorIndex := ⟨index.search⟩

theorem mem_authorized {index : LocalVectorIndex} {callerRoles : Finset String}
    {chunk : KnowledgeChunk} :
    chunk ∈ index.authorized callerRoles ↔ chunk ∈ index.chunks ∧ chunk.allowedRoles ⊆ callerRoles := by
  rw [authorized, List.mem_filter, decide_eq_true_iff]

def score (queryEmbedding : List Double) (chunk : KnowledgeChunk) : Double :=
  Double.sum (List.zipWith (· * ·) queryEmbedding chunk.embedding)

theorem similarity_eq (queryEmbedding : List Double) (chunk : KnowledgeChunk) :
    similarity queryEmbedding chunk.embedding =
      if chunk.embedding.length = queryEmbedding.length then .ok (score queryEmbedding chunk)
      else .error dimensionError := by
  simp only [similarity, score, ne_eq, ite_not, eq_comm]

theorem candidate_fits {queryEmbedding : List Double} {chunk : KnowledgeChunk}
    (fits : chunk.embedding.length = queryEmbedding.length) :
    candidate queryEmbedding chunk = .ok (score queryEmbedding chunk, chunk) := by
  rw [candidate, similarity_eq, if_pos fits]
  rfl

theorem candidate_differs {queryEmbedding : List Double} {chunk : KnowledgeChunk}
    (differs : chunk.embedding.length ≠ queryEmbedding.length) :
    candidate queryEmbedding chunk = .error dimensionError := by
  rw [candidate, similarity_eq, if_neg differs]
  rfl

theorem mapM_candidate (queryEmbedding : List Double) (chunks : List KnowledgeChunk) :
    chunks.mapM (candidate queryEmbedding) =
      if ∀ chunk ∈ chunks, chunk.embedding.length = queryEmbedding.length then
        .ok (chunks.map fun chunk => (score queryEmbedding chunk, chunk))
      else .error dimensionError := by
  induction chunks with
  | nil => rfl
  | cons chunk chunks ih =>
    rw [List.mapM_cons]
    by_cases fits : chunk.embedding.length = queryEmbedding.length
    · rw [candidate_fits fits, ih]
      simp only [List.forall_mem_cons, fits, true_and, List.map_cons]
      split <;> rfl
    · rw [candidate_differs fits, if_neg fun all => fits (all chunk List.mem_cons_self)]
      rfl

theorem search_eq (index : LocalVectorIndex) (query : String) (queryEmbedding : List Double)
    (callerRoles : Finset String) (limit : Int) :
    index.search query queryEmbedding callerRoles limit =
      if ∀ chunk ∈ index.authorized callerRoles, chunk.embedding.length = queryEmbedding.length then
        let ranked := sortedBy rankKey
          ((index.authorized callerRoles).map fun chunk => (score queryEmbedding chunk, chunk))
        .ok (slice (ranked.filter (0 < ·.1)) 0 limit)
      else .error dimensionError := by
  rw [search, mapM_candidate]
  simp only
  split <;> rfl

/-! ## The ranking -/

/-- What a search takes its hits from: the authorized chunks of positive similarity, each once. -/
structure Candidates (index : LocalVectorIndex) (queryEmbedding : List Double)
    (callerRoles : Finset String) (ranked : List (Double × KnowledgeChunk)) : Prop where
  members : ∀ score chunk, (score, chunk) ∈ ranked ↔
    chunk ∈ index.chunks ∧ chunk.allowedRoles ⊆ callerRoles ∧
      similarity queryEmbedding chunk.embedding = .ok score ∧ 0 < score
  once : ranked.Pairwise fun above below => above.2.chunkId ≠ below.2.chunkId

/-- The candidates in their order: greatest score first, ties by chunk id. -/
structure Ranked (index : LocalVectorIndex) (queryEmbedding : List Double)
    (callerRoles : Finset String) (ranked : List (Double × KnowledgeChunk)) : Prop
    extends Candidates index queryEmbedding callerRoles ranked where
  ordered : ranked.Pairwise fun above below =>
    below.1 < above.1 ∨ above.1 = below.1 ∧ above.2.chunkId < below.2.chunkId

/-- No authorized chunk has a similarity that is no number. -/
def Comparable (index : LocalVectorIndex) (queryEmbedding : List Double) (callerRoles : Finset String) : Prop :=
  ∀ chunk ∈ index.chunks, chunk.allowedRoles ⊆ callerRoles → score queryEmbedding chunk ≠ .nan

/-- The key of a number. -/
def orderKey (item : Double × KnowledgeChunk) : (WithBot (WithTop Rat))ᵒᵈ ×ₗ String :=
  toLex (OrderDual.toDual item.1.rank, item.2.chunkId)

theorem orderKey_lt {above below : Double × KnowledgeChunk} (number : above.1 ≠ .nan) (other : below.1 ≠ .nan) :
    orderKey above < orderKey below ↔
      below.1 < above.1 ∨ above.1 = below.1 ∧ above.2.chunkId < below.2.chunkId := by
  have same : above.1.rank = below.1.rank ↔ above.1 = below.1 :=
    ⟨Double.rank_injective number other, congrArg Double.rank⟩
  rw [orderKey, orderKey, Prod.Lex.toLex_lt_toLex, OrderDual.toDual_lt_toDual, ← Double.lt_iff_rank other number,
    OrderDual.toDual_inj, same]

theorem rankKey_le {above below : Double × KnowledgeChunk} (number : above.1 ≠ .nan) (other : below.1 ≠ .nan) :
    rankKey above ≤ rankKey below ↔ orderKey above ≤ orderKey below := by
  have negated : -below.1 ≠ .nan := fun same => other (Double.neg_injective (same.trans rfl))
  have less : (rankKey below).less (rankKey above) = true ↔ orderKey below < orderKey above := by
    rw [orderKey_lt other number]
    unfold RankKey.less
    by_cases same : below.1 = above.1
    · have equal : (rankKey below).negated.eq (rankKey above).negated = true :=
        (Double.eq_iff negated).mpr (congrArg Neg.neg same)
      have tied : ¬ above.1 < below.1 := by
        rw [same, Double.lt_iff_rank number number]
        exact lt_irrefl _
      rw [if_pos equal, decide_eq_true_iff, or_iff_right tied]
      exact (and_iff_right same).symm
    · have different : ¬ (rankKey below).negated.eq (rankKey above).negated = true := fun equal =>
        same (Double.neg_injective ((Double.eq_iff negated).mp equal))
      rw [if_neg different, decide_eq_true_iff, or_iff_left fun tied => same tied.1]
      exact Double.neg_lt_neg _ _
  change (rankKey below).less (rankKey above) = false ↔ _
  rw [← not_lt, ← less, Bool.not_eq_true]

/-- The chunks of an index that may take part in a search. -/
def Agree (first second : LocalVectorIndex) (callerRoles : Finset String) : Prop :=
  ∀ chunk : KnowledgeChunk, chunk.allowedRoles ⊆ callerRoles →
    (chunk ∈ first.chunks ↔ chunk ∈ second.chunks)

theorem Agree.comparable {first second : LocalVectorIndex} {queryEmbedding : List Double} {callerRoles : Finset String}
    (agree : Agree first second callerRoles) (comparable : Comparable first queryEmbedding callerRoles) :
    Comparable second queryEmbedding callerRoles :=
  fun chunk member allowed => comparable chunk ((agree chunk allowed).mpr member) allowed

theorem Candidates.number {index : LocalVectorIndex} {queryEmbedding : List Double} {callerRoles : Finset String}
    {ranked : List (Double × KnowledgeChunk)} (candidates : Candidates index queryEmbedding callerRoles ranked)
    {item : Double × KnowledgeChunk} (member : item ∈ ranked) : item.1 ≠ .nan := by
  obtain ⟨-, -, -, positive⟩ := (candidates.members item.1 item.2).mp member
  intro same
  rw [same] at positive
  cases positive

theorem Ranked.strict {index : LocalVectorIndex} {queryEmbedding : List Double} {callerRoles : Finset String}
    {ranked : List (Double × KnowledgeChunk)} (order : Ranked index queryEmbedding callerRoles ranked) :
    ranked.Pairwise (orderKey · < orderKey ·) :=
  order.ordered.imp_of_mem fun above below =>
    (orderKey_lt (order.number above) (order.number below)).mpr

theorem Ranked.unique {first second : LocalVectorIndex} {queryEmbedding : List Double}
    {callerRoles : Finset String} {above below : List (Double × KnowledgeChunk)}
    (agree : Agree first second callerRoles)
    (firstRanked : Ranked first queryEmbedding callerRoles above)
    (secondRanked : Ranked second queryEmbedding callerRoles below) : above = below := by
  apply eq_of_strict orderKey firstRanked.strict secondRanked.strict
  rintro ⟨score, chunk⟩
  rw [firstRanked.members, secondRanked.members]
  constructor
  · rintro ⟨member, allowed, rest⟩
    exact ⟨(agree chunk allowed).mp member, allowed, rest⟩
  · rintro ⟨member, allowed, rest⟩
    exact ⟨(agree chunk allowed).mpr member, allowed, rest⟩

/-- The candidates that a search cuts, before the cut. -/
def positives (index : LocalVectorIndex) (queryEmbedding : List Double) (callerRoles : Finset String) :
    List (Double × KnowledgeChunk) :=
  (sortedBy rankKey ((index.authorized callerRoles).map fun chunk => (score queryEmbedding chunk, chunk))).filter
    (0 < ·.1)

section

variable {index : LocalVectorIndex} {queryEmbedding : List Double} {callerRoles : Finset String}

theorem positives_candidates
    (fits : ∀ chunk ∈ index.authorized callerRoles, chunk.embedding.length = queryEmbedding.length) :
    Candidates index queryEmbedding callerRoles (index.positives queryEmbedding callerRoles) where
  members value chunk := by
    rw [positives, List.mem_filter, mem_sortedBy, List.mem_map, decide_eq_true_iff]
    constructor
    · rintro ⟨⟨chunk, member, same⟩, positive⟩
      obtain ⟨rfl, rfl⟩ := Prod.mk.inj same
      obtain ⟨stored, allowed⟩ := mem_authorized.mp member
      exact ⟨stored, allowed, by rw [similarity_eq, if_pos (fits chunk member)], positive⟩
    · rintro ⟨stored, allowed, scored, positive⟩
      have member := mem_authorized.mpr ⟨stored, allowed⟩
      rw [similarity_eq, if_pos (fits chunk member)] at scored
      exact ⟨⟨chunk, member, by rw [Except.ok.inj scored]⟩, positive⟩
  once := by
    have distinct : ((index.authorized callerRoles).map fun chunk => (score queryEmbedding chunk, chunk)).Pairwise
        fun above below => above.2.chunkId ≠ below.2.chunkId := by
      rw [List.pairwise_map]
      exact index.distinct.filter _
    exact (((sortedBy_perm rankKey _).pairwise_iff fun different => different.symm).mpr distinct).filter _

theorem positives_ranked
    (fits : ∀ chunk ∈ index.authorized callerRoles, chunk.embedding.length = queryEmbedding.length)
    (comparable : Comparable index queryEmbedding callerRoles) :
    Ranked index queryEmbedding callerRoles (index.positives queryEmbedding callerRoles) where
  toCandidates := positives_candidates fits
  ordered := by
    have numbers : ∀ item ∈ (index.authorized callerRoles).map fun chunk => (score queryEmbedding chunk, chunk),
        item.1 ≠ .nan := by
      rintro item member
      obtain ⟨chunk, stored, rfl⟩ := List.mem_map.mp member
      exact comparable chunk (mem_authorized.mp stored).1 (mem_authorized.mp stored).2
    have distinct : ((index.authorized callerRoles).map fun chunk => (score queryEmbedding chunk, chunk)).Pairwise
        (orderKey · ≠ orderKey ·) := by
      rw [List.pairwise_map]
      exact (index.distinct.filter _).imp fun different same => different (Prod.mk.inj (toLex.injective same)).2
    have sorted : sortedBy rankKey ((index.authorized callerRoles).map fun chunk => (score queryEmbedding chunk, chunk)) =
        sortedBy orderKey ((index.authorized callerRoles).map fun chunk => (score queryEmbedding chunk, chunk)) :=
      sortedBy_congr fun above member below member' => rankKey_le (numbers above member) (numbers below member')
    have strict := (sortedBy_strict distinct).filter (0 < ·.1)
    rw [← sorted] at strict
    exact strict.imp_of_mem fun above below less =>
      (orderKey_lt ((positives_candidates fits).number above) ((positives_candidates fits).number below)).mp less

end

/-- A search fails on an authorized chunk of another dimension, and otherwise cuts the candidates. -/
theorem search_cases (index : LocalVectorIndex) (query : String) (queryEmbedding : List Double)
    (callerRoles : Finset String) (limit : Int) :
    (∃ chunk ∈ index.chunks, chunk.allowedRoles ⊆ callerRoles ∧
        chunk.embedding.length ≠ queryEmbedding.length ∧
        index.search query queryEmbedding callerRoles limit = .error dimensionError) ∨
    ((∀ chunk ∈ index.chunks, chunk.allowedRoles ⊆ callerRoles →
        chunk.embedding.length = queryEmbedding.length) ∧
      ∃ ranked, Candidates index queryEmbedding callerRoles ranked ∧
        (Comparable index queryEmbedding callerRoles → Ranked index queryEmbedding callerRoles ranked) ∧
        index.search query queryEmbedding callerRoles limit = .ok (slice ranked 0 limit)) := by
  rw [search_eq]
  by_cases fits : ∀ chunk ∈ index.authorized callerRoles, chunk.embedding.length = queryEmbedding.length
  · right
    rw [if_pos fits]
    exact ⟨fun chunk member allowed => fits chunk (mem_authorized.mpr ⟨member, allowed⟩),
      _, positives_candidates fits, positives_ranked fits, rfl⟩
  · left
    rw [if_neg fits]
    push Not at fits
    obtain ⟨chunk, member, differs⟩ := fits
    obtain ⟨stored, allowed⟩ := mem_authorized.mp member
    exact ⟨chunk, stored, allowed, differs, rfl⟩

theorem mem_of_search {index : LocalVectorIndex} {query : String} {queryEmbedding : List Double}
    {callerRoles : Finset String} {limit : Int} {found : List (Double × KnowledgeChunk)}
    (searched : index.search query queryEmbedding callerRoles limit = .ok found) {item : Double × KnowledgeChunk}
    (member : item ∈ found) : item.2 ∈ index.chunks ∧ item.2.allowedRoles ⊆ callerRoles := by
  rcases search_cases index query queryEmbedding callerRoles limit with
    ⟨chunk, -, -, -, failed⟩ | ⟨-, ranked, candidates, -, cut⟩
  · rw [failed] at searched
    cases searched
  · rw [cut] at searched
    cases searched
    obtain ⟨stored, allowed, -⟩ := (candidates.members item.1 item.2).mp (mem_of_mem_slice member)
    exact ⟨stored, allowed⟩

/-- Whether a search fails does not depend on the order of the chunks. -/
theorem search_fails_agree {first second : LocalVectorIndex} {callerRoles : Finset String}
    (agree : Agree first second callerRoles) (query : String) (queryEmbedding : List Double) (limit : Int) :
    first.search query queryEmbedding callerRoles limit = .error dimensionError ↔
      second.search query queryEmbedding callerRoles limit = .error dimensionError := by
  rcases search_cases first query queryEmbedding callerRoles limit with
    ⟨chunk, member, allowed, differs, failed⟩ | ⟨fits, ranked, -, -, found⟩
  · rcases search_cases second query queryEmbedding callerRoles limit with
      ⟨_, _, _, _, failed'⟩ | ⟨fits', _⟩
    · exact iff_of_true failed failed'
    · exact absurd (fits' chunk ((agree chunk allowed).mp member) allowed) differs
  · rcases search_cases second query queryEmbedding callerRoles limit with
      ⟨chunk, member, allowed, differs, _⟩ | ⟨_, ranked', -, -, found'⟩
    · exact absurd (fits chunk ((agree chunk allowed).mpr member) allowed) differs
    · rw [found, found']
      constructor <;> intro absurd <;> cases absurd

theorem search_agree {first second : LocalVectorIndex} {callerRoles : Finset String} {queryEmbedding : List Double}
    (agree : Agree first second callerRoles) (comparable : Comparable first queryEmbedding callerRoles)
    (query : String) (limit : Int) :
    first.search query queryEmbedding callerRoles limit =
      second.search query queryEmbedding callerRoles limit := by
  rcases search_cases second query queryEmbedding callerRoles limit with
    ⟨_, _, _, _, failed⟩ | ⟨fits, ranked, -, order, found⟩
  · rw [failed, search_fails_agree agree query queryEmbedding limit, failed]
  · rcases search_cases first query queryEmbedding callerRoles limit with
      ⟨chunk, member, allowed, differs, _⟩ | ⟨_, ranked', -, order', found'⟩
    · exact absurd (fits chunk ((agree chunk allowed).mp member) allowed) differs
    · rw [found, found', (order' comparable).unique agree (order (agree.comparable comparable))]

/-- Chunks that the caller may not see do not matter. -/
theorem search_authorized {first second : LocalVectorIndex} {callerRoles : Finset String}
    (same : first.authorized callerRoles = second.authorized callerRoles) (query : String)
    (queryEmbedding : List Double) (limit : Int) :
    first.search query queryEmbedding callerRoles limit =
      second.search query queryEmbedding callerRoles limit := by
  rw [search, search, same]

end LocalVectorIndex

end AgentPlatform.Rag
