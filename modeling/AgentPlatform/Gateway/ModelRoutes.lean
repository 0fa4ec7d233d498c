import AgentPlatform.Base.Admission
import AgentPlatform.Gateway.RateLimiter
import AgentPlatform.ModelGateway.ConcurrentRuns
import AgentPlatform.Rag.Groundedness
import AgentPlatform.Rag.Retrieval
import AgentPlatform.Rag.Synthesis

/-! # The routes of the model gateway

Generation, grounded answers and their demo page, for any number of requests of any tenants at once. -/

namespace AgentPlatform.Gateway

open Interleaving ModelGateway ModelGateway.Concurrent Python Rag Tenancy

/-! ## Requests and responses -/

structure ModelGenerateRequest where
  model : String
  messages : List ChatMessage
  maxTokens : Nat
  temperature : Rat
  modelLength : 1 ≤ model.length ∧ model.length ≤ 200
  messagesLength : 1 ≤ messages.length ∧ messages.length ≤ 50
  maxTokensRange : 1 ≤ maxTokens ∧ maxTokens ≤ 4096
  temperatureRange : 0 ≤ temperature ∧ temperature ≤ 2

structure ModelGenerateResponse where
  content : String
  model : String
  provider : String
  usage : TokenUsage
  estimatedCostGbp : Rat
  finishReason : String

structure RagAnswerRequest where
  query : String
  length : 1 ≤ query.length ∧ query.length ≤ 500

structure RagAnswerResponse where
  answer : String
  citations : List Citation
  termOverlapScore : Rat
  citationsFound : List String
  fabricatedCitations : List String
  isGrounded : Bool

/-- What the demo page shows of an answer. -/
structure DemoAnswer where
  answer : String
  isGrounded : Bool
  termOverlapScore : Rat
  chunkIds : List String

/-- The `detail` of a refusal. -/
inductive RefusalDetail where
  | notAllowed (error : ModelNotAllowed)
  | overBudget (error : ModelBudgetExceeded)
  | pii (error : Safety.PiiBlockedError)
  | contentSafety (error : Safety.ContentSafetyBlockedError)
  | text (message : String)

/-- What leaves a route: a response, a page, an `HTTPException`, or any other exception. -/
inductive RouteReply where
  | generated (response : ModelGenerateResponse)
  | answered (response : RagAnswerResponse)
  | page (result : Except GatewayException DemoAnswer)
  | refused (status : Nat) (detail : RefusalDetail)
  | escaped

/-- The `except` clauses around a call of the model gateway. -/
def refusalOf : GatewayException → RouteReply
  | .modelNotAllowed error => .refused 403 (.notAllowed error)
  | .budgetExceeded error => .refused 403 (.overBudget error)
  | .piiBlocked error => .refused 400 (.pii error)
  | .contentSafetyBlocked error => .refused 400 (.contentSafety error)
  | .providerFailure _ => .refused 503 (.text "The model provider is currently unavailable")
  | .timeout | .raised _ | .interrupted _ => .escaped

/-- The one `except` clause of the demo page. -/
def blockedPage : GatewayException → RouteReply
  | .timeout | .raised _ | .interrupted _ => .escaped
  | error => .page (.error error)

/-! ## The routes -/

/-- What `create_app` keeps for the routes, apart from the index and the model gateway. -/
structure RagService where
  unicode : Unicode
  embed : String → List Double
  evaluator : GroundednessEvaluator
  ragSynthesisModel : String

def modelGatewayAgent : String := "model-gateway-api"

section

variable {m : Type → Type} [Monad m] (generate : ModelGenerationRequest → m (Except GatewayException ModelGenerationResult))

/-- `generate` of the application. -/
@[irreducible] def generateRoute (payload : ModelGenerateRequest) (context : TenantContext) : m RouteReply :=
  match ModelGenerationRequest.make payload.model payload.messages context.tenant modelGatewayAgent payload.maxTokens
      payload.temperature with
  | none => pure .escaped
  | some request => do
    match ← generate request with
    | .error error => pure (refusalOf error)
    | .ok result => pure (.generated {
        content := result.content
        model := result.model
        provider := result.provider
        usage := result.usage
        estimatedCostGbp := result.estimatedCostGbp
        finishReason := result.finishReason })

variable (service : RagService) (index : VectorIndex)

def RagService.retrieve (query : String) (context : TenantContext) : Except RetrieveError RetrievalResult :=
  AuthorizedRetriever.retrieve ⟨index, service.embed⟩ query context.bundle.entitlements AuthorizedRetriever.defaultLimit

/-- Retrieval and synthesis, with what follows an exception of the model gateway, and an answer. -/
@[irreducible] def answerFrom (query : String) (context : TenantContext) (refuse : GatewayException → RouteReply)
    (respond : String → RetrievalResult → GroundednessReport → RouteReply) : m RouteReply :=
  match service.retrieve index query context with
  | .error _ => pure .escaped
  | .ok evidence => do
    match ← synthesizeGroundedAnswer generate service.ragSynthesisModel query evidence context.tenant
        defaultSynthesisAgent with
    | .error .validation => pure .escaped
    | .error (.gateway error) => pure (refuse error)
    | .ok answer =>
      match service.evaluator.evaluate service.unicode answer evidence with
      | .error _ => pure .escaped
      | .ok report => pure (respond answer evidence report)

def ragResponse (answer : String) (evidence : RetrievalResult) (report : GroundednessReport) : RouteReply :=
  .answered {
    answer := answer
    citations := evidence.hits.map RetrievalHit.citation
    termOverlapScore := report.termOverlapScore
    citationsFound := report.citationsFound
    fabricatedCitations := report.fabricatedCitations
    isGrounded := report.isGrounded }

def demoResponse (answer : String) (evidence : RetrievalResult) (report : GroundednessReport) : RouteReply :=
  .page (.ok {
    answer := answer
    isGrounded := report.isGrounded
    termOverlapScore := report.termOverlapScore
    chunkIds := evidence.hits.map fun hit => hit.citation.chunkId })

def ragAnswer (request : RagAnswerRequest) (context : TenantContext) : m RouteReply :=
  answerFrom generate service index request.query context refusalOf ragResponse

/-- `demo_rag` takes any text as the query. -/
def demoRag (query : String) (context : TenantContext) : m RouteReply :=
  answerFrom generate service index query context blockedPage demoResponse

end

/-! ## Requests at once -/

/-- An admitted request in the tenant of its caller. -/
inductive ModelVisit where
  | generate (payload : ModelGenerateRequest) (context : TenantContext)
  | answer (request : RagAnswerRequest) (context : TenantContext)
  | demo (query : String) (context : TenantContext)

namespace ModelVisit

def context : ModelVisit → TenantContext
  | .generate _ context | .answer _ context | .demo _ context => context

/-- The question that a visit asks of the documents. -/
def question : ModelVisit → Option String
  | .generate .. => none
  | .answer request _ => some request.query
  | .demo query _ => some query

section

variable {σ : Type} (gateway : ModelGateway σ) (service : RagService) (index : LocalVectorIndex)

def program : ModelVisit → Program Command Reply RouteReply
  | .generate payload context => generateRoute (Concurrent.generate gateway) payload context
  | .answer request context => ragAnswer (Concurrent.generate gateway) service index.toVectorIndex request context
  | .demo query context => demoRag (Concurrent.generate gateway) service index.toVectorIndex query context

/-- The evidence that a visit retrieves. -/
def Finds (visit : ModelVisit) (query : String) (evidence : RetrievalResult) : Prop :=
  visit.question = some query ∧ service.retrieve index.toVectorIndex query visit.context = .ok evidence

/-- The request that a visit makes of the model gateway. -/
def Asks (visit : ModelVisit) (request : ModelGenerationRequest) : Prop :=
  (∃ payload context, visit = .generate payload context ∧ ModelGenerationRequest.make payload.model payload.messages
      context.tenant modelGatewayAgent payload.maxTokens payload.temperature = some request) ∨
  ∃ query evidence message, visit.Finds service index query evidence ∧
    synthesisMessage query evidence = some message ∧
    ModelGenerationRequest.make service.ragSynthesisModel [message] visit.context.tenant defaultSynthesisAgent
      ModelGenerationRequest.defaultMaxTokens ModelGenerationRequest.defaultTemperature = some request

/-- A reply that speaks of documents is made from the evidence of the visit. -/
def Backed (visit : ModelVisit) (reply : RouteReply) : Prop :=
  (∀ response, reply = .answered response → ∃ query evidence report, visit.Finds service index query evidence ∧
    service.evaluator.evaluate service.unicode response.answer evidence = .ok report ∧
    reply = ragResponse response.answer evidence report) ∧
  ∀ shown, reply = .page (.ok shown) → ∃ query evidence report, visit.Finds service index query evidence ∧
    service.evaluator.evaluate service.unicode shown.answer evidence = .ok report ∧
    reply = demoResponse shown.answer evidence report

end

end ModelVisit

section

variable {σ : Type} {gateway : ModelGateway σ} {service : RagService} {index : LocalVectorIndex} {start : Rat}
  {visit : ModelVisit} {Holds : Command → Prop} {query : String} {evidence : RetrievalResult}

theorem obeys_synthesis (found : visit.Finds service index query evidence)
    (issues : ∀ request, visit.Asks service index request → Issues Holds (Concurrent.generate gateway request)) :
    Obeys Holds (fun _ => True) (synthesizeGroundedAnswer (Concurrent.generate gateway) service.ragSynthesisModel
      query evidence visit.context.tenant defaultSynthesisAgent) := by
  unfold synthesizeGroundedAnswer
  by_cases empty : evidence.hits = []
  · rw [if_pos empty]
    trivial
  · rw [if_neg empty]
    cases spoken : synthesisMessage query evidence with
    | none => trivial
    | some message =>
      dsimp only
      cases made : ModelGenerationRequest.make service.ragSynthesisModel [message] visit.context.tenant
          defaultSynthesisAgent ModelGenerationRequest.defaultMaxTokens ModelGenerationRequest.defaultTemperature with
      | none => trivial
      | some request =>
        dsimp only
        have own := (issues request (.inr ⟨query, evidence, message, found, spoken, made⟩)).obeys
        apply Obeys.bind own
        intro answer _
        cases answer <;> trivial

theorem obeys_answerFrom {refuse : GatewayException → RouteReply}
    {respond : String → RetrievalResult → GroundednessReport → RouteReply} {Post : RouteReply → Prop}
    (asked : visit.question = some query)
    (issues : ∀ request, visit.Asks service index request → Issues Holds (Concurrent.generate gateway request))
    (escaped : Post .escaped) (refused : ∀ error, Post (refuse error))
    (responded : ∀ answer evidence report, visit.Finds service index query evidence →
      service.evaluator.evaluate service.unicode answer evidence = .ok report → Post (respond answer evidence report)) :
    Obeys Holds Post (answerFrom (Concurrent.generate gateway) service index.toVectorIndex query visit.context refuse respond) := by
  unfold answerFrom
  cases found : service.retrieve index.toVectorIndex query visit.context with
  | error error => exact escaped
  | ok evidence =>
    dsimp only
    apply Obeys.bind (obeys_synthesis ⟨asked, found⟩ issues)
    intro answer _
    cases answer with
    | error error =>
      cases error with
      | validation => exact escaped
      | gateway error => exact refused error
    | ok answer =>
      dsimp only
      cases evaluated : service.evaluator.evaluate service.unicode answer evidence with
      | error error => exact escaped
      | ok report => exact responded answer evidence report ⟨asked, found⟩ evaluated

theorem backed_escaped : visit.Backed service index .escaped := by
  constructor <;> intro _ absurd <;> cases absurd

theorem backed_refusal (error : GatewayException) : visit.Backed service index (refusalOf error) := by
  constructor <;> intro _ absurd <;> cases error <;> cases absurd

theorem backed_blocked (error : GatewayException) : visit.Backed service index (blockedPage error) := by
  constructor <;> intro _ absurd <;> cases error <;> cases absurd

theorem obeys_generateRoute {payload : ModelGenerateRequest} {context : TenantContext} {Post : RouteReply → Prop}
    (issues : ∀ request, ModelGenerationRequest.make payload.model payload.messages context.tenant modelGatewayAgent
      payload.maxTokens payload.temperature = some request → Issues Holds (Concurrent.generate gateway request))
    (escaped : Post .escaped) (refused : ∀ error, Post (refusalOf error)) (generated : ∀ response, Post (.generated response)) :
    Obeys Holds Post (generateRoute (Concurrent.generate gateway) payload context) := by
  unfold generateRoute
  cases made : ModelGenerationRequest.make payload.model payload.messages context.tenant modelGatewayAgent
      payload.maxTokens payload.temperature with
  | none => exact escaped
  | some request =>
    dsimp only
    apply Obeys.bind (issues request made).obeys
    intro answer _
    cases answer with
    | error error => exact refused error
    | ok result => exact generated _

theorem backed_generated (response : ModelGenerateResponse) : visit.Backed service index (.generated response) := by
  constructor <;> intro _ absurd <;> cases absurd

theorem backed_answered {answer : String} {report : GroundednessReport} (found : visit.Finds service index query evidence)
    (evaluated : service.evaluator.evaluate service.unicode answer evidence = .ok report) :
    visit.Backed service index (ragResponse answer evidence report) := by
  constructor
  · intro response same
    cases same
    exact ⟨query, evidence, report, found, evaluated, rfl⟩
  · intro shown absurd
    cases absurd

theorem backed_shown {answer : String} {report : GroundednessReport} (found : visit.Finds service index query evidence)
    (evaluated : service.evaluator.evaluate service.unicode answer evidence = .ok report) :
    visit.Backed service index (demoResponse answer evidence report) := by
  constructor
  · intro response absurd
    cases absurd
  · intro shown same
    cases same
    exact ⟨query, evidence, report, found, evaluated, rfl⟩

/-- The commands of a visit are those of its generation, and its reply is made from its evidence. -/
theorem obeys_program
    (issues : ∀ request, visit.Asks service index request → Issues Holds (Concurrent.generate gateway request)) :
    Obeys Holds (visit.Backed service index) (visit.program gateway service index) := by
  cases visit with
  | generate payload context =>
    have own : Obeys Holds (ModelVisit.Backed service index (.generate payload context))
        (generateRoute (Concurrent.generate gateway) payload context) :=
      obeys_generateRoute (fun request made => issues request (.inl ⟨payload, context, rfl, made⟩)) backed_escaped
        backed_refusal backed_generated
    exact own
  | answer request context =>
    have own : Obeys Holds (ModelVisit.Backed service index (.answer request context))
        (answerFrom (Concurrent.generate gateway) service index.toVectorIndex request.query context refusalOf ragResponse) :=
      @obeys_answerFrom σ gateway service index (.answer request context) Holds request.query refusalOf ragResponse _ rfl
        issues backed_escaped backed_refusal fun _ _ _ found evaluated => backed_answered found evaluated
    exact own
  | demo query context =>
    have own : Obeys Holds (ModelVisit.Backed service index (.demo query context))
        (answerFrom (Concurrent.generate gateway) service index.toVectorIndex query context blockedPage demoResponse) :=
      @obeys_answerFrom σ gateway service index (.demo query context) Holds query blockedPage demoResponse _ rfl issues
        backed_escaped backed_blocked fun _ _ _ found evaluated => backed_shown found evaluated
    exact own

theorem request_fields {model tenant agent : String} {messages : List ChatMessage} {maxTokens : Nat} {temperature : Rat}
    {request : ModelGenerationRequest}
    (made : ModelGenerationRequest.make model messages tenant agent maxTokens temperature = some request) :
    request.tenant = trim tenant ∧ request.messages = messages := by
  unfold ModelGenerationRequest.make at made
  split at made
  · cases made
    exact ⟨rfl, rfl⟩
  · cases made

theorem ModelVisit.Asks.tenant {request : ModelGenerationRequest} (asks : visit.Asks service index request) :
    request.tenant = trim visit.context.tenant := by
  rcases asks with ⟨payload, context, rfl, made⟩ | ⟨query, evidence, message, -, -, made⟩
  · exact (request_fields made).1
  · exact (request_fields made).1

/-- A visit reserves in the budget of its tenant only. -/
theorem issues_program (visit : ModelVisit) :
    Issues (Command.ReservesFor (trim visit.context.tenant)) (visit.program gateway service index) := by
  have own (request : ModelGenerationRequest) (asks : visit.Asks service index request) :
      Issues (Command.ReservesFor (trim visit.context.tenant)) (Concurrent.generate gateway request) := by
    rw [← asks.tenant]
    exact (unfunded_generate gateway request).issues
  exact (obeys_program own).issues

end

/-! ## Tenants apart -/

/-- The routes behind the request limiter, which counts a request for its subject or, on the demo page, for the address
    of its client. Requests of other routes, and those that are refused before their own, ask the same limiter. -/
def routes {σ : Type} (limiter : InMemoryRateLimiter) (gateway : ModelGateway σ) (service : RagService)
    (index : LocalVectorIndex) (start : Rat) :
    Machine (AdmittedRequests × Interleaving.State BudgetState Command Reply RouteReply)
      (DoorEvent (Rat × LimitSource) ModelVisit Reaction)
      (DoorObservation ModelVisit GatewayAction RouteReply RateLimitExceeded) :=
  doored limiter.door (backend gateway.budget start) (ModelVisit.program gateway service index) fun _ => []

def isVisitOf (tenant : String) (visit : ModelVisit) : Bool := trim visit.context.tenant = tenant

/-- The events of the visits of a tenant, with what else asks the limiter under their keys. -/
def routesOf (limiter : InMemoryRateLimiter) (tenant : String)
    (events : List (DoorEvent (Rat × LimitSource) ModelVisit Reaction)) :
    List (DoorEvent (Rat × LimitSource) ModelVisit Reaction) :=
  events.filter (keeps limiter.door (arrivedCalls (isVisitOf tenant) events)
    (arrivedKeys limiter.door (isVisitOf tenant) events))

/-- What the visits of a tenant come to. -/
def repliesTo (tenant : String) (events : List (DoorEvent (Rat × LimitSource) ModelVisit Reaction))
    (log : List (DoorObservation ModelVisit GatewayAction RouteReply RateLimitExceeded)) :
    List (Nat × Except RateLimitExceeded RouteReply) :=
  results (arrivedCalls (isVisitOf tenant) events) log

/-- No visit of another tenant is counted under a key of a visit of this one. -/
def OwnKeys (tenant : String) (events : List (DoorEvent (Rat × LimitSource) ModelVisit Reaction)) : Prop :=
  ∀ asked id visit asked' id' visit', .arrive asked id visit ∈ events → .arrive asked' id' visit' ∈ events →
    asked.2.key = asked'.2.key → trim visit.context.tenant = tenant → trim visit'.context.tenant = tenant

section

variable {σ : Type} {limiter : InMemoryRateLimiter} {gateway : ModelGateway σ} {service : RagService}
  {first second : LocalVectorIndex} {start : Rat} {tenant : String}
  {events : List (DoorEvent (Rat × LimitSource) ModelVisit Reaction)}
  {final : AdmittedRequests × Interleaving.State BudgetState Command Reply RouteReply}
  {log : List (DoorObservation ModelVisit GatewayAction RouteReply RateLimitExceeded)}

theorem routes_alone (ran : (routes limiter gateway service first start).run events = some (final, log))
    (separate : OwnKeys tenant events) :
    ∃ alone own, (routes limiter gateway service first start).run (routesOf limiter tenant events) = some (alone, own) ∧
      repliesTo tenant events log = repliesTo tenant events own := by
  have kept (asked : Rat × LimitSource) (id : Nat) (visit : ModelVisit) (member : .arrive asked id visit ∈ events) :
      arrivedCalls (isVisitOf tenant) events id = isVisitOf tenant visit := arrivedCalls_eq ran _ member
  have owned (asked : Rat × LimitSource) (id : Nat) (visit : ModelVisit) (member : .arrive asked id visit ∈ events) :
      arrivedKeys limiter.door (isVisitOf tenant) events (limiter.door.key asked) = isVisitOf tenant visit := by
    refine arrivedKeys_eq _ (fun asked id visit asked' id' visit' listed listed' same mine => ?_) member
    exact decide_eq_true (separate asked id visit asked' id' visit' listed listed' same (of_decide_eq_true mine))
  have shown (asked : Rat × LimitSource) (id : Nat) (visit : ModelVisit) (member : .arrive asked id visit ∈ events)
      (keep : arrivedCalls (isVisitOf tenant) events id = true) : Shown (ledgerView tenant) (backend gateway.budget start) id
        (visit.program gateway service first) := by
    rw [kept asked id visit member] at keep
    have issues := @issues_program σ gateway service first visit
    rw [of_decide_eq_true keep] at issues
    exact shown_of_issues issues
  have hidden (asked : Rat × LimitSource) (id : Nat) (visit : ModelVisit) (member : .arrive asked id visit ∈ events)
      (drop : arrivedCalls (isVisitOf tenant) events id = false) :
      Hidden (ledgerView tenant) (backend gateway.budget start) id
        (visit.program gateway service first) := by
    rw [kept asked id visit member] at drop
    exact hidden_of_issues (of_decide_eq_false drop) (issues_program visit)
  obtain ⟨alone, own, ranOwn, behind⟩ := doored_keeps (ledgerView tenant) ⟨rfl, le_refl _⟩ (fun _ => trivial)
    (fun _ _ => trivial) (fun asked id visit member => (owned asked id visit member).trans (kept asked id visit member).symm)
    shown hidden ran
  exact ⟨alone, own, ranOwn, behind.results⟩

theorem answerFrom_congr {m : Type → Type} [Monad m]
    {generate : ModelGenerationRequest → m (Except GatewayException ModelGenerationResult)} {left right : VectorIndex}
    {query : String} {context : TenantContext} {refuse : GatewayException → RouteReply}
    {respond : String → RetrievalResult → GroundednessReport → RouteReply}
    (same : service.retrieve left query context = service.retrieve right query context) :
    answerFrom generate service left query context refuse respond = answerFrom generate service right query context refuse respond := by
  unfold answerFrom
  rw [same]

theorem program_agree {visit : ModelVisit}
    (agree : first.authorized visit.context.bundle.entitlements = second.authorized visit.context.bundle.entitlements) :
    visit.program gateway service first = visit.program gateway service second := by
  have retrieved (query : String) : service.retrieve first.toVectorIndex query visit.context =
      service.retrieve second.toVectorIndex query visit.context :=
    AuthorizedRetriever.retrieve_congr (LocalVectorIndex.search_authorized agree query _ _)
  cases visit with
  | generate payload context => rfl
  | answer request context => exact answerFrom_congr (retrieved request.query)
  | demo query context => exact answerFrom_congr (retrieved query)

/-- What a tenant is answered, or refused, depends on its own requests, on what else is counted under their keys and on
    the chunks that its entitlements open: the requests of other tenants may be left out, and every other chunk of the
    index be replaced, where no other tenant is counted under its keys. -/
theorem routes_noninterference (ran : (routes limiter gateway service first start).run events = some (final, log))
    (separate : OwnKeys tenant events)
    (agree : ∀ asked id visit, .arrive asked id visit ∈ events → trim visit.context.tenant = tenant →
      first.authorized visit.context.bundle.entitlements = second.authorized visit.context.bundle.entitlements) :
    ∃ alone own, (routes limiter gateway service second start).run (routesOf limiter tenant events) = some (alone, own) ∧
      repliesTo tenant events log = repliesTo tenant events own := by
  obtain ⟨alone, own, ranOwn, same⟩ := routes_alone ran separate
  refine ⟨alone, own, ?_, same⟩
  rw [← ranOwn]
  symm
  apply doored_congr
  intro asked id visit kept
  obtain ⟨member, keep⟩ := List.mem_filter.mp kept
  apply program_agree
  apply agree asked id visit member
  have mine : isVisitOf tenant visit = true := by
    rw [← arrivedCalls_eq ran (isVisitOf tenant) member]
    exact keep
  exact of_decide_eq_true mine

end

/-! ## A desk -/

section

variable {m : Type → Type} [Monad m] {generate : ModelGenerationRequest → m (Except GatewayException ModelGenerationResult)}
  {service : RagService} {query : String} {evidence : RetrievalResult}

/-- The answer that a generation comes to. -/
def synthesisFrom (generation : m (Except GatewayException ModelGenerationResult)) :
    m (Except (SynthesisError GatewayException) String) := do
  match ← generation with
  | .error error => pure (.error (.gateway error))
  | .ok result => pure (.ok result.content)

theorem synthesize_asked {model tenant agent : String} {message : ChatMessage} {request : ModelGenerationRequest}
    (retrieved : evidence.hits ≠ []) (spoken : synthesisMessage query evidence = some message)
    (made : ModelGenerationRequest.make model [message] tenant agent ModelGenerationRequest.defaultMaxTokens
      ModelGenerationRequest.defaultTemperature = some request) :
    synthesizeGroundedAnswer generate model query evidence tenant agent = synthesisFrom (generate request) := by
  rw [synthesizeGroundedAnswer, if_neg retrieved, spoken]
  dsimp only
  rw [made, synthesisFrom]
  apply bind_congr
  intro answer
  cases answer <;> rfl

/-- The reply to a question, with the report that the evaluation of an answer always comes to. -/
def replyFrom (service : RagService) (evidence : RetrievalResult) (refuse : GatewayException → RouteReply)
    (respond : String → RetrievalResult → GroundednessReport → RouteReply)
    (synthesis : m (Except (SynthesisError GatewayException) String)) : m RouteReply := do
  match ← synthesis with
  | .error .validation => pure .escaped
  | .error (.gateway error) => pure (refuse error)
  | .ok answer => pure (respond answer evidence (service.evaluator.report service.unicode answer evidence))

theorem answerFrom_found {index : VectorIndex} {context : TenantContext} {refuse : GatewayException → RouteReply}
    {respond : String → RetrievalResult → GroundednessReport → RouteReply}
    (found : service.retrieve index query context = .ok evidence) :
    answerFrom generate service index query context refuse respond = replyFrom service evidence refuse respond
      (synthesizeGroundedAnswer generate service.ragSynthesisModel query evidence context.tenant defaultSynthesisAgent) := by
  rw [answerFrom, found, replyFrom]
  apply bind_congr
  intro answer
  cases answer with
  | error error => cases error <;> rfl
  | ok answer =>
    dsimp only
    rw [GroundednessEvaluator.evaluate_eq]

end

theorem half_bounds : 0 ≤ (1 / 2 : Rat) ∧ (1 / 2 : Rat) ≤ 1 := by norm_num

def deskService : RagService := ⟨asciiUnicode, fun _ => [1], ⟨1 / 2, half_bounds⟩, "desk-model"⟩

theorem refund_length : 1 ≤ "refund".length ∧ "refund".length ≤ 500 := by decide

theorem deskModel_length : 1 ≤ "desk-model".length ∧ "desk-model".length ≤ 200 := by decide

theorem deskMessages_length : 1 ≤ [ChatMessage.mk .user "Where is the refund?"].length ∧
    [ChatMessage.mk .user "Where is the refund?"].length ≤ 50 := by decide

theorem deskTokens_range : 1 ≤ 512 ∧ 512 ≤ 4096 := by decide

theorem deskTemperature_range : 0 ≤ (0 : Rat) ∧ (0 : Rat) ≤ 2 := by norm_num

def deskPayload : ModelGenerateRequest where
  model := "desk-model"
  messages := [⟨.user, "Where is the refund?"⟩]
  maxTokens := 512
  temperature := 0
  modelLength := deskModel_length
  messagesLength := deskMessages_length
  maxTokensRange := deskTokens_range
  temperatureRange := deskTemperature_range

def deskContext : TenantContext := ⟨"payment-disputes", ⟨"payment-disputes", {"transactions"}⟩⟩

def deskQuestion : ModelVisit := .answer ⟨"refund", refund_length⟩ deskContext

def complaintsContext : TenantContext := ⟨"complaints", ⟨"complaints", {"complaints"}⟩⟩

theorem deskContext_tenant : trim deskContext.tenant = "payment-disputes" := by decide

theorem complaintsContext_tenant : trim complaintsContext.tenant ≠ "payment-disputes" := by decide

theorem deskChunks_distinct : [LocalVectorIndex.sealedChunk, LocalVectorIndex.settlementChunk].Pairwise
    (·.chunkId ≠ ·.chunkId) := by decide

/-- A chunk for complaints, and one for transactions. -/
def deskChunks : LocalVectorIndex := ⟨_, deskChunks_distinct⟩

def deskOwnChunks : LocalVectorIndex := ⟨[LocalVectorIndex.settlementChunk], List.pairwise_singleton _ _⟩

/-- What the question of the desk retrieves. -/
def deskEvidence : RetrievalResult := ⟨[AuthorizedRetriever.exactHit LocalVectorIndex.settlementChunk]⟩

theorem deskChunks_retrieve : deskService.retrieve deskChunks.toVectorIndex "refund" deskContext = .ok deskEvidence := by
  have searched : deskChunks.search "refund" [1] {"transactions"} 3 = .ok [(1, LocalVectorIndex.settlementChunk)] := by
    decide +kernel
  exact AuthorizedRetriever.retrieve_exact (by decide) (by decide) searched

def deskPrompt : String := buildSynthesisPrompt "refund" deskEvidence

theorem trim_spelled {text : String} {chars : List Char} (same : text = String.ofList chars)
    (kept : stripBy isWhiteSpace chars = chars) : trim text = text := by
  rw [trim, same, String.toList_ofList, kept]

theorem synthesisInstruction_spelled : synthesisInstruction.length = 240 ∧ synthesisInstruction.toList.head? = some 'A' := by
  have first : "Answer the question using ONLY the evidence below. Cite every fact you use with its bracketed chunk id exactly as ".length =
    114 := String.length_ofList
  have second : "given, for example [POL-PAY-001#chunk-1]. If the evidence does not answer the question, say so explicitly ".length =
    106 := String.length_ofList
  have third : "instead of guessing.".length = 20 := String.length_ofList
  have opening : ∃ rest, "Answer the question using ONLY the evidence below. Cite every fact you use with its bracketed chunk id exactly as ".toList =
    'A' :: rest := ⟨_, String.toList_ofList⟩
  obtain ⟨rest, spelled⟩ := opening
  unfold synthesisInstruction
  constructor
  · simp only [String.length_append, first, second, third]
  · simp only [String.toList_append, spelled, List.cons_append, List.head?_cons]

theorem deskEvidence_line : evidenceLine (AuthorizedRetriever.exactHit LocalVectorIndex.settlementChunk) =
    "[" ++ "POL-PAY-001#chunk-2" ++ "] " ++ "Refunds settle in three days." := by
  have chunkId : trim "POL-PAY-001#chunk-2" = "POL-PAY-001#chunk-2" := trim_spelled rfl rfl
  have text : trim "Refunds settle in three days." = "Refunds settle in three days." := trim_spelled rfl rfl
  exact congrArg₂ (fun first second => "[" ++ first ++ "] " ++ second) chunkId text

theorem deskPrompt_length : deskPrompt.length = 321 := by
  have opening : "[".length = 1 := String.length_ofList
  have chunkId : "POL-PAY-001#chunk-2".length = 19 := String.length_ofList
  have closing : "] ".length = 2 := String.length_ofList
  have text : "Refunds settle in three days.".length = 29 := String.length_ofList
  have heading : "\n\nEvidence:\n".length = 12 := String.length_ofList
  have asking : "\n\nQuestion: ".length = 12 := String.length_ofList
  have question : "refund".length = 6 := String.length_ofList
  simp only [deskPrompt, buildSynthesisPrompt, deskEvidence, List.map_cons, List.map_nil, deskEvidence_line,
    String.intercalate_singleton, String.length_append, synthesisInstruction_spelled.1, opening, chunkId, closing, text,
    heading, asking, question]

theorem deskPrompt_trim : trim deskPrompt = deskPrompt := by
  have last : "refund".toList.getLast? = some 'd' := congrArg List.getLast? String.toList_ofList
  apply trim_eq_self_iff.mpr
  simp only [deskPrompt, buildSynthesisPrompt, String.toList_append, List.append_assoc, List.head?_append,
    List.getLast?_append, synthesisInstruction_spelled.2, last, Option.some_or, Option.mem_def, Option.some.injEq,
    forall_eq']
  decide

theorem deskEvidence_spoken : synthesisMessage "refund" deskEvidence = some ⟨.user, deskPrompt⟩ := by
  change ChatMessage.make .user deskPrompt = _
  rw [ChatMessage.make, deskPrompt_trim, deskPrompt_length]
  rfl

def deskSynthesis : ModelGenerationRequest :=
  ⟨"desk-model", [⟨.user, deskPrompt⟩], "payment-disputes", defaultSynthesisAgent, 512, 0⟩

theorem deskSynthesis_made : ModelGenerationRequest.make "desk-model" [⟨.user, deskPrompt⟩] "payment-disputes"
    defaultSynthesisAgent ModelGenerationRequest.defaultMaxTokens ModelGenerationRequest.defaultTemperature =
      some deskSynthesis := by
  have model : trim "desk-model" = "desk-model" := trim_spelled rfl rfl
  have tenant : trim "payment-disputes" = "payment-disputes" := trim_spelled rfl rfl
  have agent : trim defaultSynthesisAgent = defaultSynthesisAgent := trim_spelled rfl rfl
  rw [ModelGenerationRequest.make, model, tenant, agent, if_pos (by decide)]
  rfl

/-- The generation of the desk, with the cost of its prompt. -/
def deskGeneration : Generation ModelGenerationResult :=
  (Concurrent.checkAndReserve "payment-disputes" (deskGateway.pricing.estimateCostGbp "desk-model" ⟨80, 512⟩)).andThen
    fun _ => Concurrent.complete deskGateway deskSynthesis deskSynthesis

theorem deskSynthesis_generate : Concurrent.generate deskGateway deskSynthesis = deskGeneration := by
  have cost : deskGateway.preflightCost "desk-model" deskSynthesis =
      deskGateway.pricing.estimateCostGbp "desk-model" ⟨80, 512⟩ := by
    have tokens : ModelGateway.estimatePromptTokens deskSynthesis = 80 := by
      simp only [ModelGateway.estimatePromptTokens, deskSynthesis, List.map_cons, List.map_nil, deskPrompt_length]
      rfl
    rw [ModelGateway.preflightCost, tokens]
    rfl
  rw [deskGeneration, ← cost]
  let reserving : Command := .reserve "payment-disputes" (deskGateway.preflightCost "desk-model" deskSynthesis)
  change Program.command reserving _ = Program.command reserving _
  congr 1
  funext reply
  cases reply <;> rfl

/-- The visits of the desk, with what its question retrieves and asks of the model. -/
def deskProgram : ModelVisit → Program Command Reply RouteReply
  | .generate payload context => generateRoute (Concurrent.generate deskGateway) payload context
  | .answer _ _ => replyFrom deskService deskEvidence refusalOf ragResponse (synthesisFrom deskGeneration)
  | .demo _ _ => replyFrom deskService deskEvidence blockedPage demoResponse (synthesisFrom deskGeneration)

theorem program_desk {visit : ModelVisit}
    (asked : ∀ query, visit.question = some query → query = "refund" ∧ visit.context = deskContext) :
    visit.program deskGateway deskService deskChunks = deskProgram visit := by
  have synthesis : synthesizeGroundedAnswer (Concurrent.generate deskGateway) deskService.ragSynthesisModel "refund"
      deskEvidence deskContext.tenant defaultSynthesisAgent = synthesisFrom deskGeneration :=
    (synthesize_asked (List.cons_ne_nil _ _) deskEvidence_spoken deskSynthesis_made).trans
      (congrArg synthesisFrom deskSynthesis_generate)
  cases visit with
  | generate payload context => rfl
  | answer request context =>
    obtain ⟨question, rfl⟩ := asked _ rfl
    change answerFrom _ _ _ request.query _ _ _ = _
    rw [question]
    exact (answerFrom_found deskChunks_retrieve).trans (congrArg _ synthesis)
  | demo query context =>
    obtain ⟨rfl, rfl⟩ := asked _ rfl
    exact (answerFrom_found deskChunks_retrieve).trans (congrArg _ synthesis)

theorem one_le_sixty : (1 : Int) ≤ 60 := by decide

theorem one_le_two_requests : 1 ≤ 2 := by decide

def deskLimiter : InMemoryRateLimiter := ⟨2, 60, one_le_two_requests, one_le_sixty⟩

/-- Requests of a tenant with a budget and of one without, behind a limiter that counts two requests of a subject in a
    minute, a request of another route among them. -/
def deskArrivals : List (DoorEvent (Rat × LimitSource) ModelVisit Reaction) :=
  [.arrive (0, .subject "ann") 0 (.generate deskPayload deskContext), .ask (0, .subject "ann"),
    .arrive (1, .subject "bob") 1 (.generate deskPayload complaintsContext), .arrive (1, .subject "ann") 2 deskQuestion,
    .arrive (61, .subject "ann") 3 deskQuestion] ++
    [0, 1, 3, 0, 3, 0, 1, 3, 0, 3, 0, 3].map fun id => .advance id (reaction (.ok deskResult) 1)

/-- The text of a reply. -/
def RouteReply.content : RouteReply → Option String
  | .generated response => some response.content
  | .answered response => some response.answer
  | _ => none

/-- The request past the limit is refused, and the others are answered. -/
def deskContents : List (Nat × Option String) := [(2, none), (0, some "On its way."), (3, some "On its way.")]

def repliedBy (contents : List (Nat × Option String))
    (ended : Option ((AdmittedRequests × Interleaving.State BudgetState Command Reply RouteReply) ×
      List (DoorObservation ModelVisit GatewayAction RouteReply RateLimitExceeded))) : Bool :=
  ended.any fun (_, log) => (repliesTo "payment-disputes" deskArrivals log).map
    (fun reply => (reply.1, reply.2.toOption.bind RouteReply.content)) = contents

theorem exists_of_repliedBy {contents : List (Nat × Option String)}
    {ended : Option ((AdmittedRequests × Interleaving.State BudgetState Command Reply RouteReply) ×
      List (DoorObservation ModelVisit GatewayAction RouteReply RateLimitExceeded))}
    (replied : repliedBy contents ended = true) :
    ∃ final log, ended = some (final, log) ∧ (repliesTo "payment-disputes" deskArrivals log).map
      (fun reply => (reply.1, reply.2.toOption.bind RouteReply.content)) = contents := by
  cases ended with
  | none => cases replied
  | some result => exact ⟨result.1, result.2, rfl, of_decide_eq_true replied⟩

theorem deskArrivals_cases {asked : Rat × LimitSource} {id : Nat} {visit : ModelVisit}
    (member : .arrive asked id visit ∈ deskArrivals) :
    asked.2 = .subject "ann" ∧ (visit = .generate deskPayload deskContext ∨ visit = deskQuestion) ∨
      asked.2 = .subject "bob" ∧ visit = .generate deskPayload complaintsContext := by
  simp only [deskArrivals, List.mem_append, List.mem_cons, DoorEvent.arrive.injEq, List.mem_map, reduceCtorEq, and_false,
    exists_false, List.not_mem_nil, or_false, false_or] at member
  rcases member with ⟨rfl, -, rfl⟩ | ⟨rfl, -, rfl⟩ | ⟨rfl, -, rfl⟩ | ⟨rfl, -, rfl⟩
  · exact .inl ⟨rfl, .inl rfl⟩
  · exact .inr ⟨rfl, rfl⟩
  · exact .inl ⟨rfl, .inr rfl⟩
  · exact .inl ⟨rfl, .inr rfl⟩

theorem deskArrivals_asked {asked : Rat × LimitSource} {id : Nat} {visit : ModelVisit}
    (member : .arrive asked id visit ∈ deskArrivals) (query : String) (question : visit.question = some query) :
    query = "refund" ∧ visit.context = deskContext := by
  rcases deskArrivals_cases member with ⟨-, rfl | rfl⟩ | ⟨-, rfl⟩ <;> cases question
  exact ⟨rfl, rfl⟩

theorem deskArrivals_reply :
    repliedBy deskContents ((routes deskLimiter deskGateway deskService deskChunks 0).run deskArrivals) = true := by
  have same : (routes deskLimiter deskGateway deskService deskChunks 0).run deskArrivals =
      (doored deskLimiter.door (backend deskGateway.budget 0) deskProgram fun _ => []).run deskArrivals :=
    doored_congr fun _ _ _ member => program_desk (deskArrivals_asked member)
  rw [same]
  decide +kernel

theorem deskArrivals_ownKeys : OwnKeys "payment-disputes" deskArrivals := by
  intro asked id visit asked' id' visit' member member' same own
  rcases deskArrivals_cases member with ⟨from_ann, -⟩ | ⟨-, rfl⟩
  · rcases deskArrivals_cases member' with ⟨-, rfl | rfl⟩ | ⟨from_bob, -⟩
    · exact deskContext_tenant
    · exact deskContext_tenant
    · rw [from_ann, from_bob] at same
      exact absurd same (by decide)
  · exact absurd own complaintsContext_tenant

theorem deskChunks_agree (asked : Rat × LimitSource) (id : Nat) (visit : ModelVisit)
    (member : .arrive asked id visit ∈ deskArrivals) (own : trim visit.context.tenant = "payment-disputes") :
    deskChunks.authorized visit.context.bundle.entitlements = deskOwnChunks.authorized visit.context.bundle.entitlements := by
  rcases deskArrivals_cases member with ⟨-, rfl | rfl⟩ | ⟨-, rfl⟩
  · rfl
  · rfl
  · exact absurd own complaintsContext_tenant

theorem routes_noninterference_desk : ∃ final log,
    (routes deskLimiter deskGateway deskService deskChunks 0).run deskArrivals = some (final, log) ∧
    (repliesTo "payment-disputes" deskArrivals log).map (fun reply => (reply.1, reply.2.toOption.bind RouteReply.content)) =
      deskContents ∧
    ∃ alone own, (routes deskLimiter deskGateway deskService deskOwnChunks 0).run
      (routesOf deskLimiter "payment-disputes" deskArrivals) = some (alone, own) ∧
        repliesTo "payment-disputes" deskArrivals log = repliesTo "payment-disputes" deskArrivals own := by
  obtain ⟨final, log, ran, replied⟩ := exists_of_repliedBy deskArrivals_reply
  exact ⟨final, log, ran, replied, routes_noninterference ran deskArrivals_ownKeys deskChunks_agree⟩

/-! ## What a tenant is shown -/

section

variable {σ : Type} {gateway : ModelGateway σ} {service : RagService} {index : LocalVectorIndex} {start : Rat}
  {visit : ModelVisit} {query : String} {evidence : RetrievalResult}

/-- The model is called with the request of the visit, whose messages alone the guards may have changed. -/
def ModelVisit.Calls (visit : ModelVisit) (service : RagService) (index : LocalVectorIndex) : Command → Prop
  | .call sent => ∃ request, visit.Asks service index request ∧ Forwards request sent
  | _ => True

end

/-- The chunks that a reply names, and whether it is marked grounded. -/
def RouteReply.sources : RouteReply → Option (List String × Bool)
  | .answered response => some (response.citations.map Citation.chunkId, response.isGrounded)
  | .page (.ok shown) => some (shown.chunkIds, shown.isGrounded)
  | _ => none

end AgentPlatform.Gateway
