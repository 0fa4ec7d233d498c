import AgentPlatform.Base.History
import AgentPlatform.Rag.AzureSearch
import AgentPlatform.Rag.Retrieval

/-! # Adding chunks to an index

Both backends are filled batch by batch. The local index looks for duplicates while it inserts; the
search service overwrites the document under a key. -/

namespace AgentPlatform.Rag

namespace LocalVectorIndex

/-- The chunk comes upon its id in the index. -/
def Repeats (index : LocalVectorIndex) (chunk : KnowledgeChunk) : Prop :=
  ∃ stored ∈ index.chunks, stored.chunkId = chunk.chunkId

def DistinctIds (chunks : List KnowledgeChunk) : Prop := chunks.Pairwise (·.chunkId ≠ ·.chunkId)

/-- Either all of the batch is indexed, or none of it and the call fails. -/
def AllOrNothing (index : LocalVectorIndex) (batch : List KnowledgeChunk) : Prop :=
  ((index.add batch).1 = .ok () ∧ (index.add batch).2.chunks = index.chunks ++ batch) ∨
  ((∃ error, (index.add batch).1 = .error error) ∧ (index.add batch).2 = index)

theorem add_cases (index : LocalVectorIndex) (batch : List KnowledgeChunk) :
    (DistinctIds (index.chunks ++ batch) ∧ (index.add batch).1 = .ok () ∧
      (index.add batch).2.chunks = index.chunks ++ batch) ∨
    (∃ taken duplicate rest, batch = taken ++ duplicate :: rest ∧
      ¬ DistinctIds (index.chunks ++ batch) ∧
      (∃ stored ∈ index.chunks ++ taken, stored.chunkId = duplicate.chunkId) ∧
      (index.add batch).1 = .error s!"Duplicate knowledge chunk: {duplicate.chunkId}" ∧
      (index.add batch).2.chunks = index.chunks ++ taken) := by
  induction batch generalizing index with
  | nil =>
    left
    rw [List.append_nil]
    exact ⟨index.distinct, rfl, rfl⟩
  | cons chunk batch ih =>
    rw [add]
    split
    · rename_i fresh
      rcases ih ⟨index.chunks ++ [chunk], List.pairwise_append.mpr
          ⟨index.distinct, List.pairwise_singleton _ _, by simpa using fresh⟩⟩ with
        ⟨distinct, returned, stored⟩ | ⟨taken, duplicate, rest, rfl, repeated, found, failed, stored⟩
      · left
        rw [List.append_assoc, List.singleton_append] at distinct stored
        exact ⟨distinct, returned, stored⟩
      · right
        rw [List.append_assoc, List.singleton_append] at found stored repeated
        exact ⟨chunk :: taken, duplicate, rest, rfl, repeated, found, failed, stored⟩
    · rename_i stale
      push Not at stale
      obtain ⟨stored, member, same⟩ := stale
      right
      refine ⟨[], chunk, batch, rfl, ?_, ⟨stored, by simpa using member, same⟩, rfl, by simp⟩
      intro distinct
      exact (List.pairwise_append.mp distinct).2.2 stored member chunk List.mem_cons_self same

theorem eq_of_chunks {first second : LocalVectorIndex} (same : first.chunks = second.chunks) :
    first = second := by
  cases first
  cases second
  cases same
  rfl

theorem not_repeats_of_distinct {index : LocalVectorIndex} {chunk : KnowledgeChunk}
    {rest : List KnowledgeChunk} (distinct : DistinctIds (index.chunks ++ chunk :: rest)) :
    ¬ index.Repeats chunk := by
  rintro ⟨stored, member, same⟩
  exact (List.pairwise_append.mp distinct).2.2 stored member chunk List.mem_cons_self same

/-- A failing batch leaves the index as it was exactly when its first chunk is the duplicate. -/
theorem add_allOrNothing_iff (index : LocalVectorIndex) (batch : List KnowledgeChunk) :
    index.AllOrNothing batch ↔
      DistinctIds (index.chunks ++ batch) ∨ ∃ chunk ∈ batch.head?, index.Repeats chunk := by
  rcases add_cases index batch with
    ⟨distinct, returned, stored⟩ | ⟨taken, duplicate, rest, rfl, repeated, ⟨holder, member, same⟩, failed, stored⟩
  · exact iff_of_true (.inl ⟨returned, stored⟩) (.inl distinct)
  · constructor
    · rintro (⟨returned, _⟩ | ⟨_, unchanged⟩)
      · rw [failed] at returned
        cases returned
      · right
        have none : taken = [] := by
          rw [unchanged] at stored
          simpa using stored
        subst none
        rw [List.append_nil] at member
        exact ⟨duplicate, rfl, holder, member, same⟩
    · rintro (distinct | ⟨first, head, holder', member', same'⟩)
      · exact absurd distinct repeated
      · right
        refine ⟨⟨_, failed⟩, ?_⟩
        have none : taken = [] := by
          cases taken with
          | nil => rfl
          | cons chunk taken =>
            obtain rfl : chunk = first := Option.some.inj head
            have kept := (index.add (chunk :: taken ++ duplicate :: rest)).2.distinct
            rw [stored] at kept
            exact absurd ⟨holder', member', same'⟩ (not_repeats_of_distinct kept)
        subst none
        rw [List.append_nil] at stored
        exact eq_of_chunks stored

/-- The second of two equal chunks fails the call, and the first stays. -/
theorem add_allOrNothing_twice : ¬ empty.AllOrNothing [settlementChunk, settlementChunk] := by
  have kept : (empty.add [settlementChunk, settlementChunk]).2.chunks = [settlementChunk] := rfl
  have failed : (empty.add [settlementChunk, settlementChunk]).1 =
      .error "Duplicate knowledge chunk: POL-PAY-001#chunk-2" := rfl
  rintro (⟨returned, _⟩ | ⟨_, unchanged⟩)
  · rw [failed] at returned
    cases returned
  · rw [unchanged] at kept
    cases kept

end LocalVectorIndex

namespace AzureSearch

/-- The content, the roles and the version of one chunk. -/
def SearchDocument.SameVersion (first second : SearchDocument) : Prop :=
  first.chunkId = second.chunkId ∧ first.text = second.text ∧
    first.allowedRoles = second.allowedRoles ∧ first.version = second.version

@[refl] theorem SearchDocument.SameVersion.refl (document : SearchDocument) :
    document.SameVersion document := ⟨rfl, rfl, rfl, rfl⟩

theorem SearchDocument.SameVersion.symm {first second : SearchDocument}
    (same : first.SameVersion second) : second.SameVersion first :=
  ⟨same.1.symm, same.2.1.symm, same.2.2.1.symm, same.2.2.2.symm⟩

theorem SearchDocument.SameVersion.trans {first second third : SearchDocument}
    (same : first.SameVersion second) (same' : second.SameVersion third) : first.SameVersion third :=
  ⟨same.1.trans same'.1, same.2.1.trans same'.2.1, same.2.2.1.trans same'.2.2.1,
    same.2.2.2.trans same'.2.2.2⟩

/-- The documents of the service by their keys. -/
structure SearchIndex where
  lookup : String → Option SearchDocument
  keyed : ∀ key document, lookup key = some document → document.searchKey = key

namespace SearchIndex

def empty : SearchIndex where
  lookup _ := none
  keyed := by simp

/-- One document of `merge_or_upload_documents`: it carries every field, so nothing of the document
    under its key is left. -/
def upload (index : SearchIndex) (document : SearchDocument) : SearchIndex where
  lookup key := if key = document.searchKey then some document else index.lookup key
  keyed key stored found := by
    split at found
    · rename_i same
      rw [same, ← Option.some.inj found]
    · exact index.keyed key stored found

def mergeOrUpload (index : SearchIndex) (documents : List SearchDocument) : SearchIndex :=
  documents.foldl upload index

/-- `AzureSearchIndex.add`, with what it leaves in the service. -/
def add (index : SearchIndex) (batch : List KnowledgeChunk) : Except UnknownRoles Unit × SearchIndex :=
  match AzureSearch.add batch with
  | .error unknown => (.error unknown, index)
  | .ok documents => (.ok (), index.mergeOrUpload documents)

def Indexed (index : SearchIndex) (document : SearchDocument) : Prop :=
  ∃ key, index.lookup key = some document

/-- The service holds this version of the chunk. -/
def Keeps (index : SearchIndex) (document : SearchDocument) : Prop :=
  ∃ stored, index.lookup document.searchKey = some stored ∧ document.SameVersion stored

/-- A chunk of the batch comes upon its id in the index, or earlier in the batch, with other content,
    roles or version. -/
def Conflicts (index : SearchIndex) (batch : List KnowledgeChunk) : Prop :=
  (∃ chunk ∈ batch, ∃ stored, index.Indexed stored ∧ stored.chunkId = chunk.chunkId ∧
    ¬ stored.SameVersion (.ofChunk chunk)) ∨
  ¬ batch.Pairwise fun earlier later => earlier.chunkId = later.chunkId →
    (SearchDocument.ofChunk earlier).SameVersion (.ofChunk later)

/-- A call fails on a conflict and leaves the index; one that returns replaces no chunk, neither of
    the index nor of its own batch. -/
structure Preserves (index : SearchIndex) (batch : List KnowledgeChunk) : Prop where
  refuses : index.Conflicts batch → (∃ unknown, (index.add batch).1 = .error unknown) ∧ (index.add batch).2 = index
  keeps : (index.add batch).1 = .ok () → ∀ document,
    index.Indexed document ∨ document ∈ batch.map .ofChunk → (index.add batch).2.Keeps document

def ingest (batches : List (List KnowledgeChunk)) : SearchIndex :=
  batches.foldl (fun index batch => (index.add batch).2) empty

/-- Every call of the history preserves the versions it finds. -/
def Immutable (batches : List (List KnowledgeChunk)) : Prop :=
  Throughout (fun before batch => (ingest before).Preserves batch) batches

/-- Chunks of one search key are one chunk in one version. -/
def OneVersion (chunks : List KnowledgeChunk) : Prop :=
  ∀ first ∈ chunks, ∀ second ∈ chunks,
    searchDocumentKey first.chunkId = searchDocumentKey second.chunkId →
      (SearchDocument.ofChunk first).SameVersion (.ofChunk second)

def KnownRoles (batches : List (List KnowledgeChunk)) : Prop :=
  ∀ batch ∈ batches, ∀ chunk ∈ batch, chunk.allowedRoles ⊆ knownChunkRoles

theorem add_known (index : SearchIndex) {batch : List KnowledgeChunk}
    (known : ∀ chunk ∈ batch, chunk.allowedRoles ⊆ knownChunkRoles) :
    index.add batch = (.ok (), index.mergeOrUpload (batch.map .ofChunk)) := by
  have none : batch.find? (fun chunk => decide ((chunk.allowedRoles \ knownChunkRoles) ≠ ∅)) = none := by
    rw [List.find?_eq_none]
    intro chunk member
    rw [decide_eq_true_iff, not_not, Finset.sdiff_eq_empty_iff_subset]
    exact known chunk member
  rw [add, AzureSearch.add, none]

theorem lookup_mergeOrUpload {index : SearchIndex} {documents : List SearchDocument} {key : String}
    {document : SearchDocument} (found : (index.mergeOrUpload documents).lookup key = some document) :
    document ∈ documents ∨ index.lookup key = some document := by
  induction documents generalizing index with
  | nil => exact .inr found
  | cons first documents ih =>
    rcases ih found with member | held
    · exact .inl (List.mem_cons_of_mem _ member)
    · rw [upload] at held
      simp only at held
      split at held
      · left
        rw [← Option.some.inj held]
        exact List.mem_cons_self
      · exact .inr held

theorem mergeOrUpload_held {index : SearchIndex} (documents : List SearchDocument) {key : String}
    (held : (index.lookup key).isSome ∨ ∃ document ∈ documents, document.searchKey = key) :
    ((index.mergeOrUpload documents).lookup key).isSome := by
  induction documents generalizing index with
  | nil => simpa [mergeOrUpload] using held
  | cons first documents ih =>
    apply ih
    by_cases same : key = first.searchKey
    · left
      simp [upload, same]
    · rcases held with held | ⟨document, member, keyed⟩
      · left
        simpa [upload, same] using held
      · right
        rcases List.mem_cons.mp member with rfl | later
        · exact absurd keyed.symm same
        · exact ⟨document, later, keyed⟩

theorem ingest_concat (batches : List (List KnowledgeChunk)) (batch : List KnowledgeChunk) :
    ingest (batches ++ [batch]) = ((ingest batches).add batch).2 := by
  simp [ingest]

theorem indexed_ingest {batches : List (List KnowledgeChunk)} (known : KnownRoles batches) {key : String}
    {document : SearchDocument} (found : (ingest batches).lookup key = some document) :
    document ∈ batches.flatten.map .ofChunk := by
  induction batches using List.reverseRecOn with
  | nil => cases found
  | append_singleton batches batch ih =>
    have earlier : KnownRoles batches := fun batch member => known batch (List.mem_append_left _ member)
    rw [ingest_concat, add_known _ (known batch (by simp))] at found
    rw [List.flatten_append, List.map_append, List.mem_append]
    rcases lookup_mergeOrUpload found with member | held
    · right
      simpa using member
    · exact .inl (ih earlier held)

/-- Versions that never disagree are preserved by the next call. -/
theorem preserves_of_oneVersion {batches : List (List KnowledgeChunk)} {batch : List KnowledgeChunk}
    (known : KnownRoles (batches ++ [batch])) (one : OneVersion (batches ++ [batch]).flatten) :
    (ingest batches).Preserves batch := by
  have earlier : KnownRoles batches := fun batch member => known batch (List.mem_append_left _ member)
  have here : ∀ chunk ∈ batch, chunk ∈ (batches ++ [batch]).flatten := by
    intro chunk member
    exact List.mem_flatten_of_mem (by simp) member
  have before : ∀ chunk ∈ batches.flatten, chunk ∈ (batches ++ [batch]).flatten := by
    intro chunk member
    rw [List.flatten_append]
    exact List.mem_append_left _ member
  constructor
  · rintro (⟨chunk, member, stored, ⟨key, found⟩, same, revised⟩ | clash)
    · obtain ⟨old, indexed, rfl⟩ := List.mem_map.mp (indexed_ingest earlier found)
      have keys : searchDocumentKey old.chunkId = searchDocumentKey chunk.chunkId := congrArg _ same
      exact absurd (one old (before old indexed) chunk (here chunk member) keys) revised
    · refine absurd ?_ clash
      rw [List.pairwise_iff_forall_sublist]
      intro first second both same
      have members := both.subset
      exact one first (here first (members (by simp))) second (here second (members (by simp)))
        (congrArg _ same)
  · intro _ document present
    have uploaded : document ∈ (batches ++ [batch]).flatten.map .ofChunk := by
      rcases present with ⟨key, found⟩ | member
      · exact List.map_subset _ before (indexed_ingest earlier found)
      · exact List.map_subset _ here member
    have held : (((ingest batches).add batch).2.lookup document.searchKey).isSome := by
      rw [add_known _ (known batch (by simp))]
      apply mergeOrUpload_held
      rcases present with ⟨key, found⟩ | member
      · left
        rw [(ingest batches).keyed key document found, found]
        rfl
      · exact .inr ⟨document, member, rfl⟩
    obtain ⟨stored, found⟩ := Option.isSome_iff_exists.mp held
    refine ⟨stored, found, ?_⟩
    have keys := SearchIndex.keyed _ _ _ found
    rw [← ingest_concat] at found
    obtain ⟨first, member₁, rfl⟩ := List.mem_map.mp uploaded
    obtain ⟨second, member₂, rfl⟩ := List.mem_map.mp (indexed_ingest known found)
    exact one first member₁ second member₂ keys.symm

theorem keeps_of_immutable {batches : List (List KnowledgeChunk)} (known : KnownRoles batches)
    (immutable : Immutable batches) {chunk : KnowledgeChunk} (member : chunk ∈ batches.flatten) :
    (ingest batches).Keeps (.ofChunk chunk) := by
  induction batches using List.reverseRecOn with
  | nil => cases member
  | append_singleton batches batch ih =>
    have earlier : KnownRoles batches := fun batch member => known batch (List.mem_append_left _ member)
    have preserves := immutable batches batch [] rfl
    have returned : ((ingest batches).add batch).1 = .ok () := by
      rw [add_known _ (known batch (by simp))]
    rw [ingest_concat]
    rw [List.flatten_append, List.mem_append] at member
    rcases member with old | new
    · obtain ⟨stored, found, same⟩ := ih earlier immutable.prefix old
      obtain ⟨final, found', same'⟩ := preserves.keeps returned stored (.inl ⟨_, found⟩)
      rw [(ingest batches).keyed _ _ found] at found'
      exact ⟨final, found', same.trans same'⟩
    · exact preserves.keeps returned _ (.inr (List.mem_map_of_mem (by simpa using new)))

/-- A history of uploads preserves every version exactly when no two of its chunks share a search key
    and differ. -/
theorem immutable_iff (batches : List (List KnowledgeChunk)) (known : KnownRoles batches) :
    Immutable batches ↔ OneVersion batches.flatten := by
  constructor
  · intro immutable first member₁ second member₂ keys
    obtain ⟨stored, found, same⟩ := keeps_of_immutable known immutable member₁
    obtain ⟨stored', found', same'⟩ := keeps_of_immutable known immutable member₂
    have keys' : (SearchDocument.ofChunk first).searchKey = (SearchDocument.ofChunk second).searchKey := keys
    rw [← keys', found] at found'
    obtain rfl := Option.some.inj found'
    exact same.trans same'.symm
  · intro one before batch after split
    have sub : ∀ chunk ∈ (before ++ [batch]).flatten, chunk ∈ batches.flatten := by
      rw [split]
      intro chunk member
      simp only [List.flatten_append, List.mem_append, List.flatten_cons] at member ⊢
      rcases member with old | new
      · exact .inl old
      · exact .inr (.inl (by simpa using new))
    apply preserves_of_oneVersion
    · intro other member
      apply known
      rw [split]
      rcases List.mem_append.mp member with old | new
      · exact List.mem_append_left _ old
      · obtain rfl := List.mem_singleton.mp new
        exact List.mem_append_right _ List.mem_cons_self
    · exact fun first member₁ second member₂ => one first (sub first member₁) second (sub second member₂)

open LocalVectorIndex in
theorem immutable_distinct : Immutable [[settlementChunk], [sealedChunk]] := by
  apply (immutable_iff _ _).mpr
  · intro first member₁ second member₂ keys
    simp only [List.flatten_cons, List.flatten_nil, List.append_nil, List.singleton_append,
      List.mem_cons, List.not_mem_nil, or_false] at member₁ member₂
    rcases member₁ with rfl | rfl <;> rcases member₂ with rfl | rfl
    · rfl
    · exact absurd keys (by decide)
    · exact absurd keys (by decide)
    · rfl
  · intro batch member chunk inside
    simp only [List.mem_cons, List.not_mem_nil, or_false] at member
    rcases member with rfl | rfl
    · rw [List.mem_singleton.mp inside]
      decide
    · rw [List.mem_singleton.mp inside]
      decide

theorem trim_complaints : Python.trim "complaints" = "complaints" := rfl

/-- The same chunk in a second version, open to another role. -/
def revisedChunk : KnowledgeChunk :=
  { LocalVectorIndex.policyChunk "POL-PAY-001#chunk-2" "complaints" [1] trim_complaints with version := "2.0" }

open LocalVectorIndex in
theorem revised_silently : ¬ Immutable [[settlementChunk], [revisedChunk]] := by
  intro immutable
  have preserves := immutable [[settlementChunk]] [revisedChunk] [] rfl
  have indexed : (ingest [[settlementChunk]]).Indexed (.ofChunk settlementChunk) :=
    ⟨"POL-PAY-001--chunk-2", rfl⟩
  have conflict : (ingest [[settlementChunk]]).Conflicts [revisedChunk] := by
    refine .inl ⟨revisedChunk, by simp, _, indexed, rfl, ?_⟩
    rintro ⟨_, _, _, versions⟩
    exact absurd versions (by decide)
  obtain ⟨⟨unknown, failed⟩, _⟩ := preserves.refuses conflict
  have returned : ((ingest [[settlementChunk]]).add [revisedChunk]).1 = .ok () := rfl
  rw [returned] at failed
  cases failed

end SearchIndex

end AzureSearch

end AgentPlatform.Rag
