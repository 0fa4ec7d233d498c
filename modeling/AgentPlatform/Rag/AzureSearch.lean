import AgentPlatform.Base.OData
import AgentPlatform.Rag.Index
import Mathlib.Data.Finset.Sort

/-! # The Azure AI Search role filter

The filter is text for the service: access to a chunk is what the service makes of that text on the
roles stored with the chunk. -/

namespace AgentPlatform.Rag.AzureSearch

open Python

def roleDelimiter : String := "|"

def knownChunkRoles : Finset String := {"transactions", "customer", "complaints"}

/-- `text.replace(old, new)` of a single character. -/
def replaceChar (old : Char) (new : String) (text : String) : String :=
  String.ofList (text.toList.flatMap fun c => if c = old then new.toList else [c])

def searchDocumentKey (chunkId : String) : String := replaceChar '#' "--" chunkId

def buildRoleFilter (callerRoles : Finset String) : Except String String :=
  if ∃ role ∈ callerRoles, '|' ∈ role.toList then .error "Role values must not contain '|'"
  else
    let missingRoles := sorted ((knownChunkRoles \ callerRoles).val.map (replaceChar OData.quoteMark "''"))
    let missingCsv := roleDelimiter.intercalate missingRoles
    .ok s!"allowed_roles/all(r: not search.in(r, '{missingCsv}', '{roleDelimiter}'))"

structure SearchDocument where
  searchKey : String
  chunkId : String
  documentId : String
  title : String
  version : String
  classification : Classification
  allowedRoles : List String
  text : String
  provenanceSha256 : String
  embedding : List Double

def SearchDocument.ofChunk (chunk : KnowledgeChunk) : SearchDocument where
  searchKey := searchDocumentKey chunk.chunkId
  chunkId := chunk.chunkId
  documentId := chunk.documentId
  title := chunk.title
  version := chunk.version
  classification := chunk.classification
  allowedRoles := sorted chunk.allowedRoles.val
  text := chunk.text
  provenanceSha256 := chunk.provenanceSha256
  embedding := chunk.embedding

/-- `ValueError`: a chunk declares roles outside `knownChunkRoles`. -/
structure UnknownRoles where
  chunkId : String
  roles : List String
deriving DecidableEq, Repr

/-- The documents uploaded; without chunks there is no request. -/
def add (chunks : List KnowledgeChunk) : Except UnknownRoles (List SearchDocument) :=
  match chunks.find? fun chunk => (chunk.allowedRoles \ knownChunkRoles) ≠ ∅ with
  | some chunk => .error ⟨chunk.chunkId, sorted (chunk.allowedRoles \ knownChunkRoles).val⟩
  | none => .ok (chunks.map .ofChunk)

/-- What a filter text means on a document; `none` when the service rejects the text. -/
def evaluate (filter : String) (document : SearchDocument) : Option Bool := do
  let parsed ← OData.parse filter
  if parsed.field = "allowed_roles" then return parsed.holds document.allowedRoles else none

theorem known_plain : ∀ role ∈ knownChunkRoles,
    OData.quoteMark ∉ role.toList ∧ '|' ∉ role.toList ∧ role ≠ "" := by
  decide

def missing (callerRoles : Finset String) : List String := sorted (knownChunkRoles \ callerRoles).val

theorem mem_missing {callerRoles : Finset String} {role : String} :
    role ∈ missing callerRoles ↔ role ∈ knownChunkRoles ∧ role ∉ callerRoles := by
  rw [missing, mem_sorted, Finset.mem_val, Finset.mem_sdiff]

/-- The filter the text stands for. -/
def roleFilter (callerRoles : Finset String) : OData.CollectionFilter :=
  ⟨"allowed_roles", roleDelimiter.intercalate (missing callerRoles), roleDelimiter⟩

theorem flatMap_absent {old : Char} {text : List Char} (absent : old ∉ text) (new : List Char) :
    text.flatMap (fun c => if c = old then new else [c]) = text := by
  have same : ∀ c ∈ text, (if c = old then new else [c]) = [c] := by
    intro c member
    rw [if_neg]
    rintro rfl
    exact absent member
  rw [List.flatMap_congr same]
  exact List.flatMap_singleton' _

theorem replaceChar_absent {old : Char} {text : String} (absent : old ∉ text.toList) (new : String) :
    replaceChar old new text = text := by
  rw [replaceChar, flatMap_absent absent, String.ofList_toList]

theorem missing_eq (callerRoles : Finset String) :
    sorted ((knownChunkRoles \ callerRoles).val.map (replaceChar OData.quoteMark "''")) =
      missing callerRoles := by
  have plain : (knownChunkRoles \ callerRoles).val.map (replaceChar OData.quoteMark "''") =
      (knownChunkRoles \ callerRoles).val.map id :=
    Multiset.map_congr rfl fun role member =>
      replaceChar_absent (known_plain role (Finset.mem_sdiff.mp (Finset.mem_val.mp member)).1).1 _
  rw [plain, Multiset.map_id]
  rfl

theorem quoted_missing (callerRoles : Finset String) :
    OData.quoted (roleDelimiter.intercalate (missing callerRoles)).toList =
      (roleDelimiter.intercalate (missing callerRoles)).toList := by
  have plain : (missing callerRoles).map (OData.quoted ∘ String.toList) =
      (missing callerRoles).map String.toList :=
    List.map_congr_left fun role member =>
      OData.quoted_of_not_mem (known_plain role (mem_missing.mp member).1).1
  rw [String.toList_intercalate, roleDelimiter, show "|".toList = ['|'] from rfl,
    OData.quoted_intercalate (by decide), List.map_map, plain]

theorem buildRoleFilter_eq {callerRoles : Finset String}
    (separable : ∀ role ∈ callerRoles, '|' ∉ role.toList) :
    buildRoleFilter callerRoles = .ok (String.ofList (OData.render "r" (roleFilter callerRoles))) := by
  have accepted : ¬ ∃ role ∈ callerRoles, '|' ∈ role.toList := by
    rintro ⟨role, member, inside⟩
    exact separable role member inside
  rw [buildRoleFilter, if_neg accepted, missing_eq]
  have opening : "allowed_roles/all(r: not search.in(r, '".toList =
      "allowed_roles".toList ++ "/all(".toList ++ "r".toList ++ ": not search.in(".toList ++ "r".toList ++
        ", '".toList := by decide
  have delimiter : OData.quoted roleDelimiter.toList = roleDelimiter.toList := by decide
  simp only [Except.ok.injEq]
  rw [← String.toList_inj, String.toList_ofList]
  simp only [OData.render, roleFilter, quoted_missing, delimiter, toString, String.toList_append, opening]

theorem evaluate_roleFilter (callerRoles : Finset String) (document : SearchDocument) :
    evaluate (String.ofList (OData.render "r" (roleFilter callerRoles))) document =
      some ((roleFilter callerRoles).holds document.allowedRoles) := by
  have letters : ∀ c ∈ "allowed_roles".toList, OData.isNameChar c = true := by simp [OData.isNameChar]
  rw [evaluate, OData.parse_render (roleFilter callerRoles) letters (by simp [OData.isNameChar])]
  rfl

theorem mem_entries {callerRoles : Finset String} {role : String} (known : role ∈ knownChunkRoles) :
    role ∈ (roleFilter callerRoles).entries ↔ role ∉ callerRoles := by
  have facts := known_plain role known
  rw [OData.mem_entries_intercalate '|' rfl rfl, mem_missing]
  · simp [known, facts.2.2]
  · intro value member
    exact (known_plain value (mem_missing.mp member).1).2.1

theorem holds_iff {callerRoles : Finset String} {chunk : KnowledgeChunk}
    (known : chunk.allowedRoles ⊆ knownChunkRoles) :
    (roleFilter callerRoles).holds (SearchDocument.ofChunk chunk).allowedRoles =
      decide (chunk.allowedRoles ⊆ callerRoles) := by
  rw [OData.CollectionFilter.holds, Bool.eq_iff_iff, List.all_eq_true, decide_eq_true_iff]
  constructor
  · intro all role member
    have kept := all role ((Finset.mem_sort _).mpr member)
    rw [Bool.not_eq_true', decide_eq_false_iff_not, mem_entries (known member), not_not] at kept
    exact kept
  · intro allowed role member
    have listed := (Finset.mem_sort _).mp member
    rw [Bool.not_eq_true', decide_eq_false_iff_not, mem_entries (known listed), not_not]
    exact allowed listed

theorem add_accepts {chunks : List KnowledgeChunk} {documents : List SearchDocument}
    (added : add chunks = .ok documents) :
    documents = chunks.map .ofChunk ∧ ∀ chunk ∈ chunks, chunk.allowedRoles ⊆ knownChunkRoles := by
  unfold add at added
  split at added
  · cases added
  · rename_i found
    refine ⟨(Except.ok.inj added).symm, fun chunk member => ?_⟩
    have none := List.find?_eq_none.mp found chunk member
    rw [decide_eq_true_iff, not_not, Finset.sdiff_eq_empty_iff_subset] at none
    exact none

theorem buildRoleFilter_congr {first second : Finset String}
    (firstSeparable : ∀ role ∈ first, '|' ∉ role.toList)
    (secondSeparable : ∀ role ∈ second, '|' ∉ role.toList)
    (agree : first ∩ knownChunkRoles = second ∩ knownChunkRoles) :
    buildRoleFilter first = buildRoleFilter second := by
  have same : knownChunkRoles \ first = knownChunkRoles \ second := by
    rw [← Finset.sdiff_inter_self_right, agree, Finset.sdiff_inter_self_right]
  rw [buildRoleFilter_eq firstSeparable, buildRoleFilter_eq secondSeparable, roleFilter, roleFilter,
    missing, missing, same]

/-- The filter text admits a stored chunk exactly when the local index would, and names no role outside
    the known ones. -/
theorem buildRoleFilter_subset (callerRoles : Finset String)
    (separable : ∀ role ∈ callerRoles, '|' ∉ role.toList) :
    ∃ filter, buildRoleFilter callerRoles = .ok filter ∧
      (∀ chunks documents, add chunks = .ok documents →
        List.Forall₂ (fun chunk document =>
          evaluate filter document = some (decide (chunk.allowedRoles ⊆ callerRoles)) ∧
          ∀ index : LocalVectorIndex, chunk ∈ index.chunks →
            (evaluate filter document = some true ↔ chunk ∈ index.authorized callerRoles))
          chunks documents) ∧
      ∀ other : Finset String, (∀ role ∈ other, '|' ∉ role.toList) →
        other ∩ knownChunkRoles = callerRoles ∩ knownChunkRoles → buildRoleFilter other = .ok filter := by
  refine ⟨_, buildRoleFilter_eq separable, fun chunks documents added => ?_, fun other otherSeparable agree => ?_⟩
  · obtain ⟨rfl, known⟩ := add_accepts added
    rw [List.forall₂_map_right_iff, List.forall₂_same]
    intro chunk member
    have meaning : evaluate (String.ofList (OData.render "r" (roleFilter callerRoles))) (.ofChunk chunk) =
        some (decide (chunk.allowedRoles ⊆ callerRoles)) := by
      rw [evaluate_roleFilter, holds_iff (known chunk member)]
    refine ⟨meaning, fun index stored => ?_⟩
    rw [meaning, LocalVectorIndex.mem_authorized]
    simp [stored]
  · rw [buildRoleFilter_congr otherSeparable separable agree, buildRoleFilter_eq separable]

theorem buildRoleFilter_subset_partial :
    ∃ filter, buildRoleFilter {"transactions", "customer", "weird'role"} = .ok filter ∧
      buildRoleFilter {"transactions", "customer"} = .ok filter := by
  obtain ⟨filter, built, _, independent⟩ :=
    buildRoleFilter_subset {"transactions", "customer", "weird'role"} (by decide)
  exact ⟨filter, built, independent {"transactions", "customer"} (by decide) (by decide)⟩

end AgentPlatform.Rag.AzureSearch
