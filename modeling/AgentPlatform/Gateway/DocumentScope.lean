import AgentPlatform.Evaluation.Runner
import AgentPlatform.Gateway.Investigate
import AgentPlatform.Rag.Embedding

/-! # The document scope of an investigation

The roles that open a tool and the entitlements that open documents are one set at the policy tool. -/

namespace AgentPlatform.Gateway

open Agents Domain Evaluation McpBoundary Models Orchestration Python Rag State Tenancy

/-- What `create_app` builds for the route, apart from the identity of the caller and the corpus. -/
structure InvestigationService where
  unicode : Unicode
  fingerprint : String → String
  tokenDigest : ByteArray → Fin 32 → UInt8
  embedding : LocalHashEmbedding
  limits : GatewayLimits
  runner : GraphRunner
  maxWorkflowSteps : Nat
  stepsPositive : 1 ≤ maxWorkflowSteps

/-- A request to the route, with the state and the clocks of the tool gateway that it meets. -/
structure Visit (unicode : Unicode) where
  payload : RouteRequest
  requestId : String
  uuid4 : Uuid
  now : Datetime
  clocks : Clocks
  state : LocalState unicode

namespace InvestigationService

variable (service : InvestigationService) (index : LocalVectorIndex)

def embed (text : String) : List Double := service.embedding.embed service.unicode service.tokenDigest text

def retriever : AuthorizedRetriever := ⟨index.toVectorIndex, service.embed⟩

def gateway : LocalGateway service.unicode :=
  buildLocalMcpGateway service.unicode service.fingerprint service.limits

def tools : DomainTools := ⟨novaBank, service.retriever index⟩

def invoke (clocks : Clocks) : ToolCall (StateM (LocalState service.unicode)) :=
  service.gateway.invoke (service.tools index).handle clocks

def operations (clocks : Clocks) : OperationsWorkflow (StateM (LocalState service.unicode)) :=
  { operationsWorkflow service.unicode service.runner (service.invoke index clocks) with
    maxSteps := service.maxWorkflowSteps
    maxStepsPositive := service.stepsPositive }

def roles (principal : Principal) (context : TenantContext) : Finset String :=
  principal.roles ∪ context.bundle.entitlements

def answer (visit : Visit service.unicode) (principal : Principal) (context : TenantContext) :
    Except WorkflowError InvestigationResponse :=
  (investigateWorkflow (service.operations index visit.clocks) visit.payload principal context visit.requestId
    visit.uuid4 visit.now visit.state).1.map Prod.snd

/-- What `rag_answer` retrieves. -/
def ragEvidence (query : String) (context : TenantContext) : Except RetrieveError RetrievalResult :=
  (service.retriever index).retrieve query context.bundle.entitlements AuthorizedRetriever.defaultLimit

/-- The search of the policy tool finds a chunk, and the specialist reports it as the evidence. -/
def ComesFrom (query : String) (callerRoles : Finset String) (evidence : Evidence) (chunk : KnowledgeChunk) : Prop :=
  ∃ found score hit, index.search query (service.embed query) callerRoles 3 = .ok found ∧ (score, chunk) ∈ found ∧
    AuthorizedRetriever.hit (score, chunk) = .ok hit ∧ policyEvidence (DomainTools.policyRecord hit) = .ok evidence

def Labelled (labels : Set String) : Prop := ∀ chunk ∈ index.chunks, ∀ role ∈ chunk.allowedRoles, role ∈ labels

/-- Each policy record of an answer comes from a chunk, and none from a chunk outside the entitlements of the
    tenant, whatever the corpus, the query and the state of the tools. -/
def Scoped (app : Application) (request : Request) (labels : Set String) : Prop :=
  ∀ principal context, authenticateInvoker app request = .ok (principal, context) →
    ∀ index visit response, Labelled index labels → service.answer index visit principal context = .ok response →
      ∀ evidence ∈ response.result.evidence, evidence.sourceType = .policy →
        let source := service.ComesFrom index (trim visit.payload.query) ((roles principal context).image trim) evidence
        (∃ chunk, source chunk) ∧ ∀ chunk, source chunk → chunk.allowedRoles ⊆ context.bundle.entitlements

/-- The graph does not reach a specialist, or every label that the caller holds by role or by tenant is an
    entitlement of the tenant. -/
def Confined (app : Application) (request : Request) (labels : Set String) : Prop :=
  service.runner.ends service.maxWorkflowSteps 2 = false ∨
    ∀ principal context, authenticateInvoker app request = .ok (principal, context) →
      1 ≤ (trim principal.subject).length ∧ (trim principal.subject).length ≤ 128 →
      ∀ role ∈ roles principal context, trim role ∈ labels → trim role ∈ context.bundle.entitlements

variable {service} {index} {query : String} {caller : CallerContext} {evidence : Evidence} {result : AgentResult}

/-! ## From the answer to the index -/

theorem caller_made {subject requestId : String} {roles : Finset String} {agent : AgentName}
    (made : CallerContext.make subject roles agent requestId = some caller) :
    caller.subject = trim subject ∧ caller.roles = roles.image trim ∧ caller.agent = agent := by
  unfold CallerContext.make at made
  split at made
  · cases made
    exact ⟨rfl, rfl, rfl⟩
  · cases made

theorem trim_invoke : trim "agent.invoke" = "agent.invoke" := by decide

theorem invoker_held {app : Application} {request : Request} {principal : Principal} {context : TenantContext}
    (admitted : authenticateInvoker app request = .ok (principal, context)) :
    "agent.invoke" ∈ (roles principal context).image trim := by
  obtain ⟨-, -, invoker, -⟩ := authenticateInvoker_ok admitted
  exact Finset.mem_image.mpr ⟨_, Finset.mem_union_left _ invoker, trim_invoke⟩

theorem invoke_policy (clocks : Clocks) (agent : caller.agent = .policy) (invoker : "agent.invoke" ∈ caller.roles)
    (arguments : ToolDictionary) (state : LocalState service.unicode) :
    ∃ after, service.invoke index clocks "policy.search" arguments caller state =
      (if (RateLimit.check service.gateway.rateLimit (service.gateway.rateWindow : Rat) (clocks.monotonic state.next)
          (state.requests (rateKey caller.subject "policy.search"))).1 then
        GovernedMCPGateway.answer (service.tools index).handle (policyTool service.unicode) arguments caller
      else .error (.gateway .rateLimited), after) := by
  have allowed : caller.agent.name ∈ (policyTool service.unicode).allowedAgents := by
    rw [agent]
    exact Finset.mem_singleton_self _
  have required : (policyTool service.unicode).requiredRoles ⊆ caller.roles := Finset.singleton_subset_iff.mpr invoker
  have found : service.gateway.lookup "policy.search" = some (policyTool service.unicode) := rfl
  obtain ⟨after, invoked, -⟩ := GovernedMCPGateway.invoke_eq (service.tools index).handle clocks arguments rfl found
    allowed required state
  exact ⟨after, invoked⟩

theorem request_made {limit : Int} {request : PolicySearchRequest}
    (made : PolicySearchRequest.make query limit = some request) :
    request.query = trim query ∧ request.limit = limit := by
  unfold PolicySearchRequest.make at made
  split at made
  · cases made
    exact ⟨rfl, rfl⟩
  · cases made

theorem policyTool_sources {results : PolicySearchResults}
    (answered : GovernedMCPGateway.answer (service.tools index).handle (policyTool service.unicode) (.policy query 3)
      caller = .ok (.policies results)) {policy : PolicyRecord} (member : policy ∈ results.policies)
    (reported : policyEvidence policy = .ok evidence) :
    ∃ chunk, service.ComesFrom index (trim query) caller.roles evidence chunk := by
  cases made : PolicySearchRequest.make query 3 with
  | none =>
    simp only [GovernedMCPGateway.answer, policyTool, policyInput, made, Option.map_none] at answered
    cases answered
  | some request =>
    simp only [GovernedMCPGateway.answer, policyTool, policyInput, made, Option.map_some] at answered
    obtain ⟨sought, limited⟩ := request_made made
    obtain ⟨raw, returned, same⟩ := ToolRegistration.answered_ok answered
    have searched : (service.tools index).search request.query caller.roles request.limit = .returned raw := returned
    rw [sought, limited] at searched
    unfold DomainTools.search at searched
    split at searched
    · cases searched
    · cases searched
    · rename_i retrieval retrieved
      cases searched
      cases same
      obtain ⟨hit, hits, rfl⟩ := List.mem_map.mp member
      obtain ⟨found, ranked, made⟩ := AuthorizedRetriever.retrieve_ok retrieved
      obtain ⟨⟨score, chunk⟩, present, scored⟩ := Except.exists_of_mapM made hits
      exact ⟨chunk, found, score, hit, ranked, present, scored, reported⟩

theorem specialist_sources {clocks : Clocks} {state : LocalState service.unicode} {agent : AgentName}
    (named : caller.agent = agent) (invoker : "agent.invoke" ∈ caller.roles)
    (reported : ((service.operations index clocks).specialist agent query caller state).1 = .ok result)
    (member : evidence ∈ result.evidence) (policy : evidence.sourceType = .policy) :
    ∃ chunk, service.ComesFrom index (trim query) caller.roles evidence chunk := by
  cases agent with
  | customer =>
    simp only [operations, operationsWorkflow, OperationsWorkflow.specialist] at reported
    exact absurd policy (customerInvestigate_sources reported member)
  | payments =>
    simp only [operations, operationsWorkflow, OperationsWorkflow.specialist] at reported
    exact absurd policy (paymentsInvestigate_sources reported member)
  | policy =>
    simp only [operations, operationsWorkflow, OperationsWorkflow.specialist] at reported
    obtain ⟨results, answered, record, listed, reported⟩ := policyInvestigate_sources reported member
    obtain ⟨after, invoked⟩ := @invoke_policy service index caller clocks named invoker (.policy query 3) state
    rw [invoked] at answered
    dsimp only at answered
    split at answered
    · exact @policyTool_sources service index query caller evidence results answered record listed reported
    · cases answered

theorem model_asked (clocks : Clocks) (query : String) :
    (service.operations index clocks).model query = pure (.ok (classifyRoute service.unicode query)) := rfl

theorem investigate_evidence {clocks : Clocks} {subject requestId : String} {callerRoles : Finset String}
    {state : LocalState service.unicode} {outcome : OperationsResult}
    (ended : ((service.operations index clocks).investigate query subject callerRoles requestId state).1 = .ok outcome)
    (member : evidence ∈ outcome.result.evidence) :
    service.runner.ends service.maxWorkflowSteps 2 = true ∧ ∃ agent caller result,
      CallerContext.make subject callerRoles agent requestId = some caller ∧
      ((service.operations index clocks).specialist agent query caller state).1 = .ok result ∧
      evidence ∈ result.evidence := by
  have asked := @model_asked service index clocks query
  by_cases enough : (service.operations index clocks).Reaches
  · refine ⟨enough, ?_⟩
    rcases OperationsWorkflow.node_cases (classifyRoute service.unicode query).route with
      ⟨review, -⟩ | ⟨-, agent, node⟩
    · rw [OperationsWorkflow.investigate_review asked enough review] at ended
      cases ended
      cases member
    · cases made : CallerContext.make subject callerRoles agent requestId with
      | none =>
        rw [OperationsWorkflow.investigate_invalid asked enough node made] at ended
        cases ended
      | some caller =>
        rw [OperationsWorkflow.investigate_specialist asked enough node made, run_bind] at ended
        cases reported : ((service.operations index clocks).specialist agent query caller state).1 with
        | error error =>
          rw [reported] at ended
          cases ended
          cases member
        | ok result =>
          rw [reported] at ended
          cases ended
          exact ⟨agent, caller, result, made, reported, member⟩
  · obtain ⟨failing, stopped⟩ := OperationsWorkflow.investigate_stopped asked enough
    rw [stopped] at ended
    cases ended

theorem answer_of_ended {principal : Principal} {context : TenantContext} {visit : Visit service.unicode}
    {outcome : OperationsResult}
    (ended : ((service.operations index visit.clocks).investigate visit.payload.query principal.subject
      (roles principal context) visit.requestId visit.state).1 = .ok outcome) :
    service.answer index visit principal context = .ok (investigationAnswer outcome visit.payload.query principal context
      visit.requestId visit.uuid4 visit.now).2 := by
  rw [answer, investigateWorkflow, run_bind, run_pure]
  rw [roles] at ended
  rw [ended]
  rfl

theorem answer_evidence {principal : Principal} {context : TenantContext} {visit : Visit service.unicode}
    {response : InvestigationResponse} (answered : service.answer index visit principal context = .ok response)
    (member : evidence ∈ response.result.evidence) :
    service.runner.ends service.maxWorkflowSteps 2 = true ∧ ∃ agent caller result,
      CallerContext.make principal.subject (roles principal context) agent visit.requestId = some caller ∧
      ((service.operations index visit.clocks).specialist agent visit.payload.query caller visit.state).1 = .ok result ∧
      evidence ∈ result.evidence := by
  obtain ⟨⟨operations, response'⟩, returned, rfl⟩ := Except.map_eq_ok answered
  rw [investigateWorkflow, run_bind, run_pure] at returned
  obtain ⟨outcome, ended, same⟩ := Except.map_eq_ok returned
  have kept := (investigationAnswer_outcome outcome visit.payload.query principal context visit.requestId visit.uuid4
    visit.now).2
  rw [same] at kept
  rw [show response'.result = outcome.result from kept] at member
  exact investigate_evidence ended member

theorem ComesFrom.opened {callerRoles : Finset String} {chunk : KnowledgeChunk}
    (source : service.ComesFrom index query callerRoles evidence chunk) :
    chunk ∈ index.chunks ∧ chunk.allowedRoles ⊆ callerRoles := by
  obtain ⟨found, score, hit, searched, member, -⟩ := source
  exact LocalVectorIndex.mem_of_search searched member

theorem scoped_of_confined {app : Application} {request : Request} {labels : Set String}
    (confined : service.Confined app request labels) : service.Scoped app request labels := by
  intro principal context admitted index visit response labelled answered evidence member policy
  obtain ⟨enough, agent, caller, result, made, reported, listed⟩ := answer_evidence answered member
  obtain ⟨-, held, named⟩ := caller_made made
  have invoker := invoker_held admitted
  rw [← held] at invoker ⊢
  refine ⟨specialist_sources named invoker reported listed policy, fun chunk source => ?_⟩
  have valid : (CallerContext.make principal.subject (roles principal context) agent visit.requestId).isSome = true := by
    rw [made]
    rfl
  have entitled := confined.resolve_left (by rw [enough]; exact Bool.noConfusion) principal context admitted
    (CallerContext.make_isSome.mp valid).1
  obtain ⟨stored, opened⟩ := source.opened
  intro role needed
  obtain ⟨own, union, rfl⟩ := Finset.mem_image.mp (held ▸ opened needed)
  exact entitled own union (labelled chunk stored _ needed)

theorem ragEvidence_scoped {context : TenantContext} {retrieved : RetrievalResult}
    (answered : service.ragEvidence index query context = .ok retrieved) {hit : RetrievalHit}
    (member : hit ∈ retrieved.hits) :
    ∃ score chunk, chunk ∈ index.chunks ∧ AuthorizedRetriever.hit (score, chunk) = .ok hit ∧
      chunk.allowedRoles ⊆ context.bundle.entitlements := by
  obtain ⟨found, searched, made⟩ := AuthorizedRetriever.retrieve_ok answered
  obtain ⟨⟨score, chunk⟩, ranked, scored⟩ := Except.exists_of_mapM made member
  obtain ⟨stored, allowed⟩ := @LocalVectorIndex.mem_of_search index query _ _ _ _ searched _ ranked
  exact ⟨score, chunk, stored, scored, allowed⟩

/-! ## A caller whose role opens a document -/

theorem amountless (unicode : Unicode) : (amountPattern unicode).search unicode.isWord "policy".toList = false := by
  rw [← Bool.not_eq_true, SearchPattern.search_iff]
  rintro ⟨before, matched, after, whole, ⟨start, rest, rfl, ⟨c, rfl, currency⟩, -⟩, -⟩
  have member : c ∈ "policy".toList := by
    rw [whole]
    simp
  have plain : ("policy".toList.all fun c => !decide (c ∈ ['£', '$', '€'])) = true := by decide
  have free := List.all_eq_true.mp plain c member
  rw [of_decide_eq_true currency |> decide_eq_true] at free
  cases free

theorem policy_routed (lower : service.unicode.casefold "policy" = "policy") :
    (classifyRoute service.unicode "policy").route = .policy := by
  have terms : termsOf (service.unicode.casefold "policy").toList = ["policy"] := by
    rw [lower]
    decide
  have calm : ((highRiskPatterns service.unicode).all fun pattern =>
      pattern.search service.unicode.isWord "policy".toList) = false := by
    simp only [highRiskPatterns, List.all_cons, amountless, Bool.false_and, Bool.and_false]
  simp only [classifyRoute, terms, calm]
  rfl

/-- A document that a role opens, embedded as the query is. -/
def openedChunk (service : InvestigationService) (role : String) : KnowledgeChunk :=
  LocalVectorIndex.policyChunk "POL-PAY-001#chunk-1" (trim role) (service.embed "policy") (trim_trim role)

def openedIndex (service : InvestigationService) (role : String) : LocalVectorIndex :=
  ⟨[openedChunk service role], List.pairwise_singleton _ _⟩

theorem policyQuestion_stripped : trim "policy" = "policy" := by decide

theorem policyQuestion_length : 1 ≤ "policy".length ∧ "policy".length ≤ 2000 := by decide

def policyQuestion : RouteRequest := ⟨"policy", policyQuestion_stripped, policyQuestion_length⟩

def openedVisit (service : InvestigationService) : Visit service.unicode where
  payload := policyQuestion
  requestId := "request-1"
  uuid4 := firstUuid
  now := noon
  clocks := ⟨fun _ => 0, fun _ => 0⟩
  state := (service.gateway.machine 0).init

def openedHit : RetrievalHit :=
  ⟨trim "Refunds settle in three days.", 1,
    ⟨trim "POL-PAY-001", trim "POL-PAY-001#chunk-1", trim "Payments", trim "1.0", trim "0"⟩, AuthorizedRetriever.one_bounds⟩

theorem openedChunk_hit (service : InvestigationService) (role : String) :
    AuthorizedRetriever.hit (1, openedChunk service role) = .ok openedHit := AuthorizedRetriever.hit_one _

set_option maxRecDepth 20000 in
theorem openedHit_reported :
    ∃ evidence result, policyEvidence (DomainTools.policyRecord openedHit) = .ok evidence ∧
      evidence.sourceType = .policy ∧ policyReport [DomainTools.policyRecord openedHit] = .ok result ∧
      result.evidence = [evidence] := by
  have fits : (policyEvidence (DomainTools.policyRecord openedHit)).isOk = true := by decide
  have worded : 1 ≤ ("Found " ++ toString 1 ++ " relevant synthetic policy record(s).").length ∧
      ("Found " ++ toString 1 ++ " relevant synthetic policy record(s).").length ≤ 2000 := by decide
  cases made : policyEvidence (DomainTools.policyRecord openedHit) with
  | error error =>
    rw [made] at fits
    cases fits
  | ok evidence =>
    have listed : [DomainTools.policyRecord openedHit].mapM policyEvidence = .ok [evidence] := by
      rw [List.mapM_cons, made]
      rfl
    refine ⟨evidence, ⟨.policy, _, [evidence], false, none, worded⟩, rfl, evidenceOf_ok made, ?_, rfl⟩
    rw [policyReport, if_neg (List.cons_ne_nil _ _), listed]
    change resultOf .policy ("Found " ++ toString 1 ++ " relevant synthetic policy record(s).") [evidence] false none = _
    exact dif_pos worded

theorem openedIndex_search {service : InvestigationService} {role : String} {callerRoles : Finset String}
    (lower : service.unicode.casefold "policy" = "policy") (held : trim role ∈ callerRoles) :
    (openedIndex service role).search "policy" (service.embed "policy") callerRoles 3 =
      .ok [(1, openedChunk service role)] := by
  have opened : (openedIndex service role).authorized callerRoles = [openedChunk service role] := by
    rw [LocalVectorIndex.authorized, openedIndex]
    exact List.filter_eq_self.mpr (by simpa [openedChunk, LocalVectorIndex.policyChunk] using held)
  have token : tokensOf (service.unicode.casefold "policy").toList = List.replicate 1 "policy" := by
    rw [lower]
    decide
  have scored : LocalVectorIndex.score (service.embed "policy") (openedChunk service role) = 1 :=
    LocalHashEmbedding.similarity_token token token (.inl rfl) (.inl rfl)
  exact LocalVectorIndex.search_sole opened rfl scored (by decide)

theorem openedIndex_retrieve {service : InvestigationService} {role : String} {callerRoles : Finset String}
    (lower : service.unicode.casefold "policy" = "policy") (held : trim role ∈ callerRoles) :
    (service.retriever (openedIndex service role)).retrieve "policy" callerRoles 3 = .ok ⟨[openedHit]⟩ := by
  have worded : ¬ (strip "policy" = "" ∨ 500 < "policy".length) := by decide
  have limited : ¬ ((3 : Int) < 1 ∨ 5 < (3 : Int)) := by decide
  have found : (service.retriever (openedIndex service role)).index.search "policy"
      ((service.retriever (openedIndex service role)).embed "policy") callerRoles 3 =
        .ok [(1, openedChunk service role)] := openedIndex_search lower held
  have opened : AuthorizedRetriever.exactHit (openedChunk service role) = openedHit :=
    Except.ok.inj ((AuthorizedRetriever.hit_one _).symm.trans (openedChunk_hit service role))
  rw [AuthorizedRetriever.retrieve_exact worded limited found, opened]

theorem search_returned {tools : DomainTools} {callerRoles : Finset String} {limit : Int} {found : RetrievalResult}
    (retrieved : tools.retriever.retrieve query callerRoles limit = .ok found) :
    tools.search query callerRoles limit = .returned (.policies ⟨found.hits.map DomainTools.policyRecord⟩) := by
  rw [DomainTools.search, retrieved]

theorem policyTool_answer {found : RetrievalResult} (valid : (PolicySearchRequest.make query 3).isSome = true)
    (retrieved : (service.retriever index).retrieve (trim query) caller.roles 3 = .ok found) :
    GovernedMCPGateway.answer (service.tools index).handle (policyTool service.unicode) (.policy query 3) caller =
      .ok (.policies ⟨found.hits.map DomainTools.policyRecord⟩) := by
  obtain ⟨request, made⟩ := Option.isSome_iff_exists.mp valid
  obtain ⟨sought, limited⟩ := request_made made
  have searched : (service.tools index).search request.query caller.roles request.limit =
      .returned (ToolOutput.policies ⟨found.hits.map DomainTools.policyRecord⟩) := by
    rw [sought, limited]
    exact @search_returned _ (service.tools index) _ _ _ retrieved
  simp only [GovernedMCPGateway.answer, policyTool, policyInput, made, Option.map_some]
  change ToolRegistration.answered _ ((service.tools index).search request.query caller.roles request.limit) = _
  rw [searched]
  rfl

theorem fresh_admits (service : InvestigationService) (now : Rat) (key : String) :
    (RateLimit.check service.gateway.rateLimit (service.gateway.rateWindow : Rat) now
      ((openedVisit service).state.requests key)).1 = true := by
  have positive : service.gateway.rateLimit ≠ 0 := Nat.ne_of_gt service.gateway.limitPositive
  simp [RateLimit.check, SlidingWindow.expire, openedVisit, GovernedMCPGateway.machine, positive]

theorem openedIndex_answer {service : InvestigationService} {role : String} {principal : Principal}
    {context : TenantContext} (lower : service.unicode.casefold "policy" = "policy")
    (enough : service.runner.ends service.maxWorkflowSteps 2 = true)
    (subject : 1 ≤ (trim principal.subject).length ∧ (trim principal.subject).length ≤ 128)
    (invoker : "agent.invoke" ∈ principal.roles) (held : role ∈ roles principal context) :
    ∃ response evidence, service.answer (openedIndex service role) (openedVisit service) principal context =
        .ok response ∧ evidence ∈ response.result.evidence ∧ evidence.sourceType = .policy ∧
      service.ComesFrom (openedIndex service role) (trim "policy") ((roles principal context).image trim) evidence
        (openedChunk service role) := by
  have request : trim "request-1" = "request-1" := by decide
  have valid : (CallerContext.make principal.subject (roles principal context) .policy "request-1").isSome = true :=
    CallerContext.make_isSome.mpr ⟨subject, by rw [request]; decide⟩
  obtain ⟨caller, made⟩ := Option.isSome_iff_exists.mp valid
  obtain ⟨-, opened, named⟩ := caller_made made
  have admitted : "agent.invoke" ∈ caller.roles := by
    rw [opened]
    exact Finset.mem_image.mpr ⟨_, Finset.mem_union_left _ invoker, trim_invoke⟩
  have has : trim role ∈ caller.roles := by
    rw [opened]
    exact Finset.mem_image_of_mem trim held
  obtain ⟨evidence, result, cited, typed, reported, listed⟩ := openedHit_reported
  have word := policyQuestion_stripped
  have answered := @policyTool_answer service (openedIndex service role) "policy" caller _ (by decide)
    (word.symm ▸ openedIndex_retrieve lower has)
  obtain ⟨after, invoked⟩ := @invoke_policy service (openedIndex service role) caller (openedVisit service).clocks named
    admitted (.policy "policy" 3) (openedVisit service).state
  rw [fresh_admits service, if_pos rfl, answered] at invoked
  have ran : ((service.operations (openedIndex service role) (openedVisit service).clocks).specialist .policy "policy"
      caller (openedVisit service).state).1 = .ok result := by
    simp only [operations, operationsWorkflow, OperationsWorkflow.specialist, policyInvestigate, run_bind, invoked]
    exact reported
  have node : (classifyRoute service.unicode "policy").route.node = .specialist .policy := by
    rw [policy_routed lower]
    rfl
  have investigated := OperationsWorkflow.investigate_specialist
    (@model_asked service (openedIndex service role) (openedVisit service).clocks "policy") enough node made
  have ended : ((service.operations (openedIndex service role) (openedVisit service).clocks).investigate "policy"
      principal.subject (roles principal context) "request-1" (openedVisit service).state).1 =
        .ok ⟨classifyRoute service.unicode "policy", result, 2, Nat.le_refl 2⟩ := by
    rw [investigated, run_bind, ran]
    rfl
  refine ⟨_, evidence, answer_of_ended ended, ?_, typed, ?_⟩
  · rw [(investigationAnswer_outcome _ _ _ _ _ _ _).2, listed]
    exact List.mem_singleton_self _
  · rw [word, ← opened]
    exact ⟨_, 1, openedHit, openedIndex_search lower has, List.mem_singleton_self _, openedChunk_hit service role, cited⟩

theorem not_scoped_of_opened {app : Application} {request : Request} {labels : Set String} {principal : Principal}
    {context : TenantContext} {role : String} (lower : service.unicode.casefold "policy" = "policy")
    (admitted : authenticateInvoker app request = .ok (principal, context))
    (enough : service.runner.ends service.maxWorkflowSteps 2 = true)
    (subject : 1 ≤ (trim principal.subject).length ∧ (trim principal.subject).length ≤ 128)
    (held : role ∈ roles principal context) (labelled : trim role ∈ labels)
    (foreign : trim role ∉ context.bundle.entitlements) : ¬ service.Scoped app request labels := by
  intro within
  obtain ⟨-, -, invoker, -⟩ := authenticateInvoker_ok admitted
  obtain ⟨response, evidence, answered, member, policy, source⟩ := openedIndex_answer lower enough subject invoker held
  have worded : Labelled (openedIndex service role) labels := by
    intro chunk stored needed opens
    rw [List.mem_singleton.mp stored] at opens
    rw [Finset.mem_singleton.mp opens]
    exact labelled
  have kept := (within principal context admitted (openedIndex service role) (openedVisit service) response worded
    answered evidence member policy).2 _ source
  exact foreign (kept (Finset.mem_singleton_self _))

/-- Investigations stay within the entitlements of the tenant exactly when the caller holds no other label of the
    documents. -/
theorem investigate_scoped_iff (service : InvestigationService) (app : Application) (request : Request)
    (labels : Set String) (lower : service.unicode.casefold "policy" = "policy") :
    service.Scoped app request labels ↔ service.Confined app request labels := by
  refine ⟨fun within => ?_, scoped_of_confined⟩
  by_contra unconfined
  simp only [Confined, not_or] at unconfined
  obtain ⟨several, unconfined⟩ := unconfined
  push Not at unconfined
  obtain ⟨principal, context, admitted, subject, role, held, labelled, foreign⟩ := unconfined
  exact not_scoped_of_opened lower admitted (Bool.eq_true_of_not_eq_false several) subject held labelled foreign within

def policyDigest : List UInt8 :=
  [130, 52, 18, 209, 234, 203, 103, 149, 98, 32, 229, 50, 149, 159, 1, 4, 96, 48, 87, 200, 135, 4, 134, 60, 163, 142,
    124, 209, 136, 253, 168, 18]

def localService : InvestigationService where
  unicode := asciiUnicode
  fingerprint := id
  tokenDigest _ place := policyDigest.getD place 0
  embedding := .default
  limits := .default
  runner := .lookingAhead
  maxWorkflowSteps := 8
  stepsPositive := one_le_eight

def disputesRegistry : TenantRegistry where
  bundles := [⟨"payment-disputes", {"transactions", "customer"}⟩]
  distinct := List.nodup_singleton _
  nonempty := List.cons_ne_nil _ _

def disputesApp : Application where
  settings := ⟨.test, none, none, none, "roles"⟩
  tenantRegistry := disputesRegistry
  verify _ _ _ _ := .error "no provider"

def disputesRequest (roles : String) : Request := ⟨none, some "tester", roles, some "payment-disputes"⟩

def disputesContext : TenantContext := ⟨"payment-disputes", ⟨"payment-disputes", {"transactions", "customer"}⟩⟩

/-- An invoker without further roles, over documents labelled with domains. -/
theorem investigate_scoped_invoker :
    localService.Scoped disputesApp (disputesRequest "agent.invoke") {"transactions", "customer", "complaints"} := by
  refine (investigate_scoped_iff localService disputesApp (disputesRequest "agent.invoke")
    {"transactions", "customer", "complaints"} (by decide)).mpr (.inr ?_)
  intro principal context admitted _ role held labelled
  have same : authenticateInvoker disputesApp (disputesRequest "agent.invoke") =
      .ok (⟨"tester", {"agent.invoke"}⟩, disputesContext) := by decide
  rw [same] at admitted
  cases admitted
  have entitled : ∀ role ∈ roles ⟨"tester", {"agent.invoke"}⟩ disputesContext,
      trim role = "agent.invoke" ∨ trim role ∈ disputesContext.bundle.entitlements := by decide
  rcases entitled role held with invoke | inside
  · rw [invoke] at labelled
    simp at labelled
  · exact inside

/-- A role of the caller opens the documents of complaints to the tenant of payment disputes. -/
theorem investigate_widened : ¬ localService.Scoped disputesApp (disputesRequest "agent.invoke, complaints") Set.univ := by
  have admitted : authenticateInvoker disputesApp (disputesRequest "agent.invoke, complaints") =
      .ok (⟨"tester", {"agent.invoke", "complaints"}⟩, disputesContext) := by decide
  have held : "complaints" ∈ roles ⟨"tester", {"agent.invoke", "complaints"}⟩ disputesContext := by decide
  exact not_scoped_of_opened (by decide) admitted (by decide) (by decide) held trivial
    (by decide)

end InvestigationService

end AgentPlatform.Gateway
