import AgentPlatform.Base.Text
import AgentPlatform.ModelGateway.Contracts
import Mathlib.Algebra.GroupWithZero.Nat

namespace AgentPlatform.ModelGateway.MockChatModel

open Python

def providerName : String := "mock"

def modelName : String := "mock-deterministic"

def lastUserMessage (request : ModelGenerationRequest) : String :=
  match request.messages.reverse.find? fun message => message.role = .user with
  | some message => message.content
  | none => ""

/-- The prompt is counted in words, and each message as one word at least. -/
def promptTokens (request : ModelGenerationRequest) : Nat :=
  (request.messages.map fun message => max 1 (split message.content).length).sum

def content (request : ModelGenerationRequest) : String :=
  "[mock-deterministic] Acknowledged " ++ toString (split (lastUserMessage request)).length ++
    " word request for agent '" ++ request.agent ++ "'."

def generate (request : ModelGenerationRequest) : ModelGenerationResult where
  content := content request
  model := modelName
  provider := providerName
  usage := ⟨promptTokens request, (split (content request)).length⟩
  estimatedCostGbp := 0
  latencySeconds := 0
  finishReason := "stop"

end AgentPlatform.ModelGateway.MockChatModel
