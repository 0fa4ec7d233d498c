import AgentPlatform.Base.Text
import Mathlib.Algebra.Order.Ring.Rat
import Mathlib.Data.Rat.Defs

namespace AgentPlatform.ModelGateway

open Python

inductive ChatRole where
  | system
  | user
  | assistant
deriving DecidableEq, Repr

structure ChatMessage where
  role : ChatRole
  content : String
deriving DecidableEq, Repr

def ChatMessage.make (role : ChatRole) (content : String) : Option ChatMessage :=
  if 1 ≤ (trim content).length ∧ (trim content).length ≤ 8000 then some ⟨role, trim content⟩ else none

structure TokenUsage where
  promptTokens : Nat
  completionTokens : Nat
deriving DecidableEq, Repr

structure ModelGenerationRequest where
  model : String
  messages : List ChatMessage
  tenant : String
  agent : String
  maxTokens : Nat
  temperature : Rat
deriving DecidableEq

namespace ModelGenerationRequest

def defaultMaxTokens : Nat := 512
def defaultTemperature : Rat := 0

def make (model : String) (messages : List ChatMessage) (tenant agent : String) (maxTokens : Nat)
    (temperature : Rat) : Option ModelGenerationRequest :=
  if (1 ≤ (trim model).length ∧ (trim model).length ≤ 200) ∧ (1 ≤ messages.length ∧ messages.length ≤ 50) ∧
      (1 ≤ (trim tenant).length ∧ (trim tenant).length ≤ 200) ∧
      (1 ≤ (trim agent).length ∧ (trim agent).length ≤ 100) ∧
      (1 ≤ maxTokens ∧ maxTokens ≤ 4096) ∧ 0 ≤ temperature ∧ temperature ≤ 2 then
    some ⟨trim model, messages, trim tenant, trim agent, maxTokens, temperature⟩
  else none

end ModelGenerationRequest

structure ModelGenerationResult where
  content : String
  model : String
  provider : String
  usage : TokenUsage
  estimatedCostGbp : Rat
  latencySeconds : Rat
  finishReason : String
deriving DecidableEq

end AgentPlatform.ModelGateway
