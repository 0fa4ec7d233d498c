import AgentPlatform.Rag.Models

namespace AgentPlatform.Rag

open Python

/-- The window end the loop settles on: the chunk size, pulled back to the last space. -/
def windowEnd (content : List Char) (chunkSize start : Int) : Int :=
  let stop := min (start + chunkSize) content.length
  if stop < content.length then
    let boundary := rfind content ' ' start stop
    if boundary > start then boundary else stop
  else stop

def windowText (content : List Char) (start stop : Int) : List Char :=
  stripBy isSpace (slice content start stop)

def makeChunk (document : KnowledgeDocument) (embed : String → List Double) (index : Nat)
    (text : List Char) : KnowledgeChunk where
  chunkId := document.documentId ++ "#chunk-" ++ toString index
  documentId := document.documentId
  title := document.title
  version := document.version
  classification := document.classification
  allowedRoles := document.allowedRoles
  text := String.ofList text
  provenanceSha256 := document.provenanceSha256
  embedding := embed (String.ofList text)
  rolesTrimmed := document.rolesTrimmed

/-- The `while` loop; `none` when the fuel ends before the loop does. -/
def chunkLoop (document : KnowledgeDocument) (embed : String → List Double)
    (chunkSize overlap : Int) :
    Nat → List KnowledgeChunk → Int → Nat → Option (List KnowledgeChunk)
  | 0, _, _, _ => none
  | fuel + 1, chunks, start, index =>
    let content := document.content.toList
    if start < content.length then
      let stop := windowEnd content chunkSize start
      let text := windowText content start stop
      let chunks' := if text = [] then chunks else chunks ++ [makeChunk document embed index text]
      let index' := if text = [] then index else index + 1
      if stop = content.length then some chunks'
      else chunkLoop document embed chunkSize overlap fuel chunks' (stop - overlap) index'
    else some chunks

/-- `ValueError("Chunking configuration is invalid")`. -/
inductive ChunkingError where
  | invalidConfiguration
deriving DecidableEq, Repr

def chunkDocument (fuel : Nat) (document : KnowledgeDocument) (embed : String → List Double)
    (chunkSize overlap : Int) : Option (Except ChunkingError (List KnowledgeChunk)) :=
  if chunkSize < 100 ∨ overlap < 0 ∨ overlap ≥ chunkSize then
    some (.error .invalidConfiguration)
  else
    (chunkLoop document embed chunkSize overlap fuel [] 0 1).map .ok

/-- The configurations `chunkDocument` accepts. -/
structure ChunkConfig where
  chunkSize : Int
  overlap : Int
  size_bound : 100 ≤ chunkSize
  overlap_nonneg : 0 ≤ overlap
  overlap_lt : overlap < chunkSize

theorem ChunkConfig.accepted (config : ChunkConfig) :
    ¬ (config.chunkSize < 100 ∨ config.overlap < 0 ∨ config.overlap ≥ config.chunkSize) := by
  have := config.size_bound
  have := config.overlap_nonneg
  have := config.overlap_lt
  omega

end AgentPlatform.Rag
