import AgentPlatform.Agents.Parsing
import AgentPlatform.Domain.NovaBank
import AgentPlatform.McpBoundary.Gateway
import AgentPlatform.Rag.Retrieval

/-! # The tools of the domain servers -/

namespace AgentPlatform.McpBoundary

open Domain Python Rag

/-- `^CUST-\d{4,10}$` and `^TXN-\d{4,10}$`. -/
def requestPattern (unicode : Unicode) (letters : String) : Regex :=
  .seq (exactly letters.toList) (.seq (exactly ['-']) (Agents.identifierDigits unicode))

structure CustomerRequest (unicode : Unicode) where
  customerId : String
  wellFormed : fullMatch (requestPattern unicode "CUST") customerId = true

structure TransactionRequest (unicode : Unicode) where
  transactionId : String
  wellFormed : fullMatch (requestPattern unicode "TXN") transactionId = true

structure PolicySearchRequest where
  query : String
  limit : Int
  queryLength : 1 ≤ query.length ∧ query.length ≤ 500
  limitRange : 1 ≤ limit ∧ limit ≤ 5

structure CustomerRecord where
  customerId : String
  displayName : String
  contactPreference : String
  maskedEmail : String
deriving DecidableEq, Repr

structure AccountRecord where
  accountId : String
  accountType : String
  status : String
  currency : String
deriving DecidableEq, Repr

structure CustomerAccounts where
  customerId : String
  accounts : List AccountRecord
deriving DecidableEq, Repr

structure TransactionRecord where
  transactionId : String
  customerId : String
  accountId : String
  amount : Rat
  currency : String
  status : String
  paymentRoute : String
  failureReason : Option String
deriving DecidableEq, Repr

structure PolicyRecord where
  policyId : String
  title : String
  text : String
  classification : String
  chunkId : String
  version : String
  score : Double
  provenanceSha256 : String
deriving DecidableEq, Repr

structure PolicySearchResults where
  policies : List PolicyRecord
deriving DecidableEq, Repr

/-- The dictionaries that the agents pass as arguments. -/
inductive ToolDictionary where
  | customer (customerId : String)
  | transaction (transactionId : String)
  | policy (query : String) (limit : Int)
deriving DecidableEq, Repr

inductive ToolInput (unicode : Unicode) where
  | customer (request : CustomerRequest unicode)
  | transaction (request : TransactionRequest unicode)
  | policy (request : PolicySearchRequest)

inductive ToolOutput where
  | customer (record : CustomerRecord)
  | accounts (record : CustomerAccounts)
  | transaction (record : TransactionRecord)
  | policies (results : PolicySearchResults)
deriving DecidableEq, Repr

def CustomerRequest.make (unicode : Unicode) (customerId : String) : Option (CustomerRequest unicode) :=
  if wellFormed : fullMatch (requestPattern unicode "CUST") (trim customerId) = true then
    some ⟨trim customerId, wellFormed⟩
  else none

def TransactionRequest.make (unicode : Unicode) (transactionId : String) : Option (TransactionRequest unicode) :=
  if wellFormed : fullMatch (requestPattern unicode "TXN") (trim transactionId) = true then
    some ⟨trim transactionId, wellFormed⟩
  else none

def PolicySearchRequest.make (query : String) (limit : Int) : Option PolicySearchRequest :=
  if valid : (1 ≤ (trim query).length ∧ (trim query).length ≤ 500) ∧ 1 ≤ limit ∧ limit ≤ 5 then
    some ⟨trim query, limit, valid.1, valid.2⟩
  else none

/-- What the handlers of the tools read. -/
structure DomainTools where
  repository : NovaBankRepository
  retriever : AuthorizedRetriever

namespace DomainTools

variable (tools : DomainTools)

def getCustomer (customerId : String) : HandlerOutcome ToolOutput :=
  match tools.repository.getCustomer customerId with
  | none => .lookupOrValidation
  | some customer => .returned (.customer
      ⟨trim customer.customerId, trim customer.displayName, trim customer.contactPreference,
        trim customer.maskedEmail⟩)

def getAccounts (customerId : String) : HandlerOutcome ToolOutput :=
  .returned (.accounts ⟨trim customerId, (tools.repository.getCustomerAccounts customerId).map fun account =>
    ⟨trim account.accountId, trim account.accountType, trim account.status, trim account.currency⟩⟩)

def getTransaction (transactionId : String) : HandlerOutcome ToolOutput :=
  match tools.repository.getTransaction transactionId with
  | none => .lookupOrValidation
  | some transaction => .returned (.transaction
      { transactionId := trim transaction.transactionId
        customerId := trim transaction.customerId
        accountId := trim transaction.accountId
        amount := transaction.amount
        currency := trim transaction.currency
        status := trim transaction.status
        paymentRoute := trim transaction.paymentRoute
        failureReason := transaction.failureReason.map trim })

def policyRecord (hit : RetrievalHit) : PolicyRecord where
  policyId := trim hit.citation.documentId
  title := trim hit.citation.title
  text := trim hit.text
  classification := "internal-synthetic"
  chunkId := trim hit.citation.chunkId
  version := trim hit.citation.version
  score := hit.score
  provenanceSha256 := trim hit.citation.provenanceSha256

/-- `PolicyTools.search`. -/
def search (query : String) (callerRoles : Finset String) (limit : Int) : HandlerOutcome ToolOutput :=
  match tools.retriever.retrieve query callerRoles limit with
  | .error (.valueError _) => .failed
  | .error (.validation _) => .lookupOrValidation
  | .ok retrieval => .returned (.policies ⟨retrieval.hits.map policyRecord⟩)

end DomainTools

end AgentPlatform.McpBoundary
