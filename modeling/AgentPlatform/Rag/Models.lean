import AgentPlatform.Base.Double
import AgentPlatform.Base.Text
import Mathlib.Data.Finset.Basic

namespace AgentPlatform.Rag

open Python

inductive Classification where
  | publicSynthetic
  | internalSynthetic
deriving DecidableEq, Repr

/-- A parsed policy document. Contract validation trims every string, the members of
    `allowedRoles` included. -/
structure KnowledgeDocument where
  documentId : String
  title : String
  version : String
  classification : Classification
  allowedRoles : Finset String
  content : String
  provenanceSha256 : String
  rolesTrimmed : ∀ role ∈ allowedRoles, trim role = role

theorem transactions_trimmed : ∀ role ∈ ({"transactions"} : Finset String), trim role = role := by decide

@[ext] structure KnowledgeChunk where
  chunkId : String
  documentId : String
  title : String
  version : String
  classification : Classification
  allowedRoles : Finset String
  text : String
  provenanceSha256 : String
  embedding : List Double
  rolesTrimmed : ∀ role ∈ allowedRoles, trim role = role

structure Citation where
  documentId : String
  chunkId : String
  title : String
  version : String
  provenanceSha256 : String
deriving DecidableEq, Repr

structure RetrievalHit where
  text : String
  score : Double
  citation : Citation
  scoreBounds : ¬ score < -1 ∧ ¬ 1 < score

structure RetrievalResult where
  hits : List RetrievalHit

end AgentPlatform.Rag
