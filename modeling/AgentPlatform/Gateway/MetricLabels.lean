import AgentPlatform.Gateway.Investigate
import AgentPlatform.Gateway.RateLimiter
import AgentPlatform.Gateway.TokenIdentity
import AgentPlatform.McpBoundary.Audit
import Mathlib.Data.Finset.Prod
import Mathlib.Data.Set.Finite.Basic

/-! # The labels of the metrics

What requests, investigations and tool calls put into the labels of the counters and histograms. -/

namespace AgentPlatform.Gateway

open McpBoundary Orchestration Python State Tenancy

/-- The label tuples, by metric. -/
inductive MetricLabels where
  | httpRequests (method route status : String)
  | httpDuration (method route : String)
  | workflowCompletions (tenant route agent approvalRequired errorCode : String)
  | mcpCalls (tool outcome : String)
  | mcpDuration (tool : String)
deriving DecidableEq, Repr

def boundedErrorCodes : List String :=
  ["none", "MODEL_PROVIDER_FAILURE", "SPECIALIST_FAILURE", "CUSTOMER_ID_REQUIRED", "CUSTOMER_TOOL_FAILURE",
    "TRANSACTION_ID_REQUIRED", "PAYMENT_TOOL_FAILURE", "CUSTOMER_TRANSACTION_MISMATCH", "POLICY_TOOL_FAILURE",
    "POLICY_NOT_FOUND"]

def safeErrorCode (value : String) : String := if value ∈ boundedErrorCodes then value else "other"

def errorCodeOrNone (errorCode : Option String) : String :=
  (errorCode.filter fun code => code ≠ "").getD "none"

def lowerBool (flag : Bool) : String := if flag then "true" else "false"

def completionLabels (context : TenantContext) (response : InvestigationResponse) : MetricLabels :=
  .workflowCompletions context.tenant response.decision.route.name response.result.agent.name
    (lowerBool response.result.requiresHumanApproval) (safeErrorCode (errorCodeOrNone response.result.errorCode))

def outcomeLabel : AuditOutcome → String
  | .success => "success"
  | .denied => "denied"
  | .invalid => "invalid"
  | .timeout => "timeout"
  | .error => "error"

def MiddlewareEvent.labels : MiddlewareEvent → Option MetricLabels
  | .counted method route status => some (.httpRequests method route status)
  | .observed method route _ => some (.httpDuration method route)
  | _ => none

/-- `MCP_CALLS` and `MCP_DURATION`. -/
def observationLabels {Arguments Input Raw Output : Type} :
    Observation Arguments Input Raw Output → List MetricLabels
  | .counted tool outcome => [.mcpCalls tool (outcomeLabel outcome), .mcpDuration tool]
  | _ => []

/-- The part of the configuration that the labels depend on: the settings and the tenants, the body limit,
    the registered tools, and the status codes of the routes. -/
structure MeteredGateway (Arguments Input Raw Output : Type) where
  app : Application
  middleware : RequestSecurityMiddleware
  tools : GovernedMCPGateway Arguments Input Raw Output
  statuses : Finset Nat

/-- The routes behind the middleware as they stand when a request comes, with the status codes they answer. -/
structure ServedRoutes (statuses : Finset Nat) where
  app : WrappedApp
  answers : ∀ request requestId response, app request requestId = .responded response → response.status ∈ statuses

/-- A request passes the middleware, the investigation route runs for a caller, or the tool gateway moves. -/
inductive MeteredEvent (Arguments Raw : Type) (statuses : Finset Nat) where
  | http (request : HttpRequest) (fresh : Uuid) (elapsed : Rat) (routes : ServedRoutes statuses)
  | investigate (verify : String → String → String → String → Except String Claims) (caller : Request)
      (workflow : OperationsWorkflow Id) (query requestId : String) (uuid4 : Uuid) (now : Datetime)
  | tool (event : InvocationEvent Arguments Raw)

/-- The requests of an event are such that may be sent. -/
def MeteredEvent.Sends {Arguments Raw : Type} {statuses : Finset Nat} (Sent : HttpRequest → Prop) :
    MeteredEvent Arguments Raw statuses → Prop
  | .http request _ _ _ => Sent request
  | _ => True

def agentRoutes : List AgentRoute := [.customer, .payments, .policy, .humanReview]

def auditOutcomes : List AuditOutcome := [.success, .denied, .invalid, .timeout, .error]

def routeLabels : Finset String := insert "unmatched" knownMetricRoutes.toFinset

def agentLabels : Finset String := (agentRoutes.map AgentRoute.name).toFinset

def errorLabels : Finset String := insert "other" boundedErrorCodes.toFinset

/-- The tool labels of the calls, one for each registered tool and one for all others. -/
def toolLabels {Arguments Input Raw Output : Type} (tools : GovernedMCPGateway Arguments Input Raw Output) :
    Finset String :=
  insert "unapproved" (tools.tools.map ToolRegistration.name).toFinset

namespace MeteredGateway

variable {Arguments Input Raw Output : Type} (gateway : MeteredGateway Arguments Input Raw Output)

/-- The labels of one investigation: none where the caller or the body is refused or the workflow raises. -/
def investigationLabels (verify : String → String → String → String → Except String Claims) (caller : Request)
    (workflow : OperationsWorkflow Id) (query requestId : String) (uuid4 : Uuid) (now : Datetime) :
    List MetricLabels :=
  match authenticateInvoker (gateway.app.at verify) caller, RouteRequest.make query with
  | .ok (principal, context), some payload =>
    match (Investigation.mk workflow payload principal context requestId uuid4 now).run with
    | .error _ => []
    | .ok (_, response) => [completionLabels context response]
  | _, _ => []

/-- The state is that of the tool gateway; the other parts keep nothing that a label depends on. -/
def machine (start : Rat) :
    Machine (InvocationState Arguments Input Raw Output) (MeteredEvent Arguments Raw gateway.statuses)
      MetricLabels where
  init := (gateway.tools.machine start).init
  step state
    | .http request fresh elapsed routes =>
      some (state, (gateway.middleware.dispatch request fresh elapsed routes.app).events.filterMap
        MiddlewareEvent.labels)
    | .investigate verify caller workflow query requestId uuid4 now =>
      some (state, gateway.investigationLabels verify caller workflow query requestId uuid4 now)
    | .tool event =>
      ((gateway.tools.machine start).step state event).map fun moved =>
        (moved.1, moved.2.flatMap observationLabels)

def statusLabels : Finset String := (insert 504 gateway.statuses).image toString

/-- The label tuples of the configuration, for the methods of the requests that are recorded. -/
def labelSet (methods : Finset String) : Finset MetricLabels :=
  (methods ×ˢ routeLabels ×ˢ gateway.statusLabels).image (fun t => .httpRequests t.1 t.2.1 t.2.2) ∪
    (methods ×ˢ routeLabels).image (fun t => .httpDuration t.1 t.2) ∪
    (gateway.app.tenantRegistry.names ×ˢ agentLabels ×ˢ agentLabels ×ˢ {"true", "false"} ×ˢ errorLabels).image
      (fun t => .workflowCompletions t.1 t.2.1 t.2.2.1 t.2.2.2.1 t.2.2.2.2) ∪
    (toolLabels gateway.tools ×ˢ (auditOutcomes.map outcomeLabel).toFinset).image (fun t => .mcpCalls t.1 t.2) ∪
    (toolLabels gateway.tools).image .mcpDuration

/-- The middleware records the request: it does not declare a body that is too large, and does not ask for
    the metrics. -/
def Recorded (request : HttpRequest) : Prop :=
  gateway.middleware.declaresTooLarge request = false ∧ metricRoute request.path ≠ "/metrics"

def recordedMethods (Sent : HttpRequest → Prop) : Set String :=
  {method | ∃ request, Sent request ∧ gateway.Recorded request ∧ request.method = method}

/-- Membership in the label tuples of the configuration, metric by metric. -/
def Admits (methods : Finset String) : MetricLabels → Prop
  | .httpRequests method route status => method ∈ methods ∧ route ∈ routeLabels ∧ status ∈ gateway.statusLabels
  | .httpDuration method route => method ∈ methods ∧ route ∈ routeLabels
  | .workflowCompletions tenant route agent approvalRequired errorCode =>
    tenant ∈ gateway.app.tenantRegistry.names ∧ route ∈ agentLabels ∧ agent ∈ agentLabels ∧
      (approvalRequired = "true" ∨ approvalRequired = "false") ∧ errorCode ∈ errorLabels
  | .mcpCalls tool outcome =>
    tool ∈ toolLabels gateway.tools ∧ outcome ∈ (auditOutcomes.map outcomeLabel).toFinset
  | .mcpDuration tool => tool ∈ toolLabels gateway.tools

/-- One finite set has the labels of every run in which only such requests are sent. -/
def BoundedLabels (Sent : HttpRequest → Prop) : Prop :=
  ∃ labels : Finset MetricLabels, ∀ start events final log, (∀ event ∈ events, MeteredEvent.Sends Sent event) →
    (gateway.machine start).run events = some (final, log) → ∀ label ∈ log, label ∈ labels

end MeteredGateway

section

variable {Arguments Input Raw Output : Type} {tools : GovernedMCPGateway Arguments Input Raw Output}
  {gateway : MeteredGateway Arguments Input Raw Output} {methods : Finset String} {label : MetricLabels}

theorem mem_labelSet : label ∈ gateway.labelSet methods ↔ gateway.Admits methods label := by
  cases label <;> simp [MeteredGateway.labelSet, MeteredGateway.Admits]

theorem mem_agentLabels (route : AgentRoute) : route.name ∈ agentLabels := by
  cases route <;> decide

theorem mem_outcomeLabels (outcome : AuditOutcome) : outcomeLabel outcome ∈ (auditOutcomes.map outcomeLabel).toFinset := by
  cases outcome <;> decide

theorem mem_routeLabels (path : String) : metricRoute path ∈ routeLabels := by
  simp only [metricRoute, routeLabels, Finset.mem_insert, List.mem_toFinset]
  split
  · exact .inr ‹_›
  · exact .inl rfl

theorem mem_errorLabels (code : String) : safeErrorCode code ∈ errorLabels := by
  simp only [safeErrorCode, errorLabels, Finset.mem_insert, List.mem_toFinset]
  split
  · exact .inr ‹_›
  · exact .inl rfl

theorem mem_toolLabels (tool : String) : tools.toolLabel tool ∈ toolLabels tools := by
  simp only [GovernedMCPGateway.toolLabel, toolLabels, Finset.mem_insert, List.mem_toFinset]
  cases found : tools.lookup tool with
  | none => exact .inl rfl
  | some registration =>
    right
    rw [← GovernedMCPGateway.lookup_name found]
    exact List.mem_map_of_mem (List.mem_of_find?_eq_some found)

/-! ## What a step records -/

/-- The observation counts no tool, or one under its label. -/
def CountsTool (tools : GovernedMCPGateway Arguments Input Raw Output) :
    Observation Arguments Input Raw Output → Prop
  | .counted tool _ => tool ∈ toolLabels tools
  | _ => True

theorem conclude_counts (state : InvocationState Arguments Input Raw Output) (id : Nat) (caller : CallerContext)
    (tool fingerprint : String) (outcome : AuditOutcome) (elapsed : Rat) (attempts : Nat)
    (result : Except InvocationError Output) :
    ∀ observation ∈ (tools.conclude state id caller tool fingerprint outcome elapsed attempts result).2,
      CountsTool tools observation := by
  cases result <;> simp [GovernedMCPGateway.conclude, CountsTool, mem_toolLabels]

theorem begin_counts (state : InvocationState Arguments Input Raw Output) (now elapsed : Rat) (tool : String)
    (arguments : Arguments) (caller : CallerContext) :
    ∀ observation ∈ (tools.begin state now elapsed tool arguments caller).2, CountsTool tools observation := by
  by_cases serialises : tools.fingerprint arguments = none
  · simp [GovernedMCPGateway.begin, serialises, CountsTool]
  · rcases GovernedMCPGateway.begin_record state now elapsed tool caller serialises with
      ⟨requests, record, error, middle, begun, rfl | rfl | rfl, -⟩ |
      ⟨requests, registration, input, fingerprint, -, begun⟩
    all_goals
      rw [begun]
      simp [CountsTool, mem_toolLabels]

theorem settle_counts (state : InvocationState Arguments Input Raw Output)
    (call : PendingInvocation Arguments Input Raw Output) (elapsed : Rat) (ended : HandlerOutcome Raw) :
    ∀ observation ∈ (tools.settle state call elapsed ended).2, CountsTool tools observation := by
  suffices resumed : ∀ others, ∀ observation ∈ (tools.resume others call elapsed ended).2,
      CountsTool tools observation by
    intro observation member
    rcases List.mem_cons.mp member with rfl | later
    · trivial
    · exact resumed _ observation later
  intro others
  rcases tools.resume_cases others call elapsed ended with ⟨outcome, concluded⟩ | ⟨outcome, -, again⟩
  · rw [concluded]
    apply conclude_counts
  · rw [again]
    simp [CountsTool]

theorem tool_step_admits {start : Rat} {state next : InvocationState Arguments Input Raw Output}
    {event : InvocationEvent Arguments Raw} {out : List (Observation Arguments Input Raw Output)}
    (stepped : (gateway.tools.machine start).step state event = some (next, out)) :
    ∀ label ∈ out.flatMap observationLabels, gateway.Admits methods label := by
  have counts : ∀ observation ∈ out, CountsTool gateway.tools observation := by
    cases event with
    | invoke now elapsed tool arguments caller =>
      obtain ⟨-, begun⟩ := Option.ite_none_left_eq_some.mp stepped
      have same := congrArg Prod.snd (Option.some.inj begun)
      change _ = out at same
      rw [← same]
      apply begin_counts
    | handlerEnds id elapsed ended =>
      obtain ⟨call, -, settled⟩ := Option.map_eq_some_iff.mp stepped
      have same := congrArg Prod.snd settled
      change _ = out at same
      rw [← same]
      apply settle_counts
  intro label member
  obtain ⟨observation, seen, recorded⟩ := List.mem_flatMap.mp member
  have counted := counts observation seen
  cases observation with
  | counted tool outcome =>
    simp only [observationLabels, List.mem_cons, List.not_mem_nil, or_false] at recorded
    rcases recorded with rfl | rfl
    · exact ⟨counted, mem_outcomeLabels outcome⟩
    · exact counted
  | _ => cases recorded

theorem mem_complete_labels {request : HttpRequest} {requestId : String} {elapsed : Rat} {response : HttpResponse}
    (member : label ∈ (complete request requestId elapsed response).events.filterMap MiddlewareEvent.labels) :
    metricRoute request.path ≠ "/metrics" ∧
      (label = .httpRequests request.method (metricRoute request.path) (toString response.status) ∨
        label = .httpDuration request.method (metricRoute request.path)) := by
  by_cases metered : metricRoute request.path ≠ "/metrics"
  · refine ⟨metered, ?_⟩
    have either : MetricLabels.httpRequests request.method (metricRoute request.path) (toString response.status) =
        label ∨ MetricLabels.httpDuration request.method (metricRoute request.path) = label := by
      simpa [complete, if_pos metered, MiddlewareEvent.labels] using member
    exact either.imp Eq.symm Eq.symm
  · simp [complete, if_neg metered, MiddlewareEvent.labels] at member

theorem dispatch_labels {request : HttpRequest} {fresh : Uuid} {elapsed : Rat}
    {routes : ServedRoutes gateway.statuses}
    (member : label ∈ (gateway.middleware.dispatch request fresh elapsed routes.app).events.filterMap
      MiddlewareEvent.labels) :
    gateway.Recorded request ∧ (request.method ∈ methods → gateway.Admits methods label) := by
  cases declared : gateway.middleware.declaresTooLarge request with
  | true => simp [RequestSecurityMiddleware.dispatch, declared] at member
  | false =>
    have answered {response : HttpResponse} (status : response.status ∈ insert 504 gateway.statuses)
        (member : label ∈ (complete request (requestIdOf request fresh) elapsed response).events.filterMap
          MiddlewareEvent.labels) :
        gateway.Recorded request ∧ (request.method ∈ methods → gateway.Admits methods label) := by
      obtain ⟨metered, rfl | rfl⟩ := mem_complete_labels member
      · exact ⟨⟨declared, metered⟩, fun known =>
          ⟨known, mem_routeLabels request.path, Finset.mem_image_of_mem toString status⟩⟩
      · exact ⟨⟨declared, metered⟩, fun known => ⟨known, mem_routeLabels request.path⟩⟩
    have late : timeoutResponse.status ∈ insert 504 gateway.statuses := Finset.mem_insert_self ..
    cases ended : routes.app request (requestIdOf request fresh) with
    | responded response =>
      simp only [RequestSecurityMiddleware.dispatch, declared, ended] at member
      exact answered (Finset.mem_insert_of_mem (routes.answers _ _ _ ended)) member
    | timedOut =>
      simp only [RequestSecurityMiddleware.dispatch, declared, ended] at member
      exact answered late member
    | raised exception =>
      cases exception with
      | timeoutError =>
        simp only [RequestSecurityMiddleware.dispatch, declared, ended] at member
        exact answered late member
      | other className =>
        simp [RequestSecurityMiddleware.dispatch, declared, ended, MiddlewareEvent.labels] at member

theorem completion_admits {verify : String → String → String → String → Except String Claims} {caller : Request}
    {principal : Principal} {context : TenantContext} (response : InvestigationResponse)
    (admitted : authenticateInvoker (gateway.app.at verify) caller = .ok (principal, context)) :
    gateway.Admits methods (completionLabels context response) := by
  obtain ⟨state, -, -, resolved⟩ := authenticateInvoker_ok admitted
  refine ⟨?_, mem_agentLabels _, mem_agentLabels _, ?_, mem_errorLabels _⟩
  · exact TenantRegistry.mem_names_of_get (getTenantContext_ok resolved)
  · cases response.result.requiresHumanApproval
    · exact .inr rfl
    · exact .inl rfl

theorem investigation_admits {verify : String → String → String → String → Except String Claims}
    {caller : Request} {workflow : OperationsWorkflow Id} {query requestId : String} {uuid4 : Uuid} {now : Datetime} :
    ∀ label ∈ gateway.investigationLabels verify caller workflow query requestId uuid4 now,
      gateway.Admits methods label := by
  intro label member
  cases admitted : authenticateInvoker (gateway.app.at verify) caller with
  | error error => simp [MeteredGateway.investigationLabels, admitted] at member
  | ok found =>
    obtain ⟨principal, context⟩ := found
    cases made : RouteRequest.make query with
    | none => simp [MeteredGateway.investigationLabels, admitted, made] at member
    | some payload =>
      cases ended : (Investigation.mk workflow payload principal context requestId uuid4 now).run with
      | error error => simp [MeteredGateway.investigationLabels, admitted, made, ended] at member
      | ok answer =>
        obtain ⟨operations, response⟩ := answer
        simp only [MeteredGateway.investigationLabels, admitted, made, ended, List.mem_singleton] at member
        rw [member]
        exact completion_admits response admitted

theorem step_admits {start : Rat} {state next : InvocationState Arguments Input Raw Output}
    {event : MeteredEvent Arguments Raw gateway.statuses} {out : List MetricLabels}
    {Sent : HttpRequest → Prop} (known : ∀ method ∈ gateway.recordedMethods Sent, method ∈ methods)
    (sends : event.Sends Sent) (stepped : (gateway.machine start).step state event = some (next, out)) :
    ∀ label ∈ out, gateway.Admits methods label := by
  cases event with
  | http request fresh elapsed routes =>
    cases stepped
    intro label member
    obtain ⟨recorded, admits⟩ : gateway.Recorded request ∧
        (request.method ∈ methods → gateway.Admits methods label) := dispatch_labels member
    exact admits (known _ ⟨request, sends, recorded, rfl⟩)
  | investigate verify caller workflow query requestId uuid4 now =>
    cases stepped
    exact investigation_admits
  | tool event =>
    obtain ⟨⟨after, seen⟩, moved, same⟩ := Option.map_eq_some_iff.mp stepped
    cases same
    exact tool_step_admits moved

theorem run_admits {start : Rat} {events : List (MeteredEvent Arguments Raw gateway.statuses)}
    {final : InvocationState Arguments Input Raw Output} {log : List MetricLabels} {Sent : HttpRequest → Prop}
    (known : ∀ method ∈ gateway.recordedMethods Sent, method ∈ methods)
    (sent : ∀ event ∈ events, event.Sends Sent)
    (ran : (gateway.machine start).run events = some (final, log)) :
    ∀ label ∈ log, gateway.Admits methods label := by
  let Invariant : InvocationState Arguments Input Raw Output → List MetricLabels → Prop :=
    fun _ log => ∀ label ∈ log, gateway.Admits methods label
  have preserve (state : InvocationState Arguments Input Raw Output) (log : List MetricLabels)
      (event : MeteredEvent Arguments Raw gateway.statuses) (next : InvocationState Arguments Input Raw Output)
      (out : List MetricLabels) (before : Invariant state log) (sends : event.Sends Sent)
      (stepped : (gateway.machine start).step state event = some (next, out)) : Invariant next (log ++ out) := by
    intro label member
    rcases List.mem_append.mp member with earlier | added
    · exact before label earlier
    · exact step_admits known sends stepped label added
  have initial : Invariant (gateway.machine start).init [] := by simp [Invariant]
  exact Machine.run_invariant_of_events initial preserve sent ran

theorem timeout_records {request : HttpRequest} (recorded : gateway.Recorded request)
    (routes : ServedRoutes gateway.statuses) (late : ∀ request requestId, routes.app request requestId = .timedOut) :
    .httpDuration request.method (metricRoute request.path) ∈
      (gateway.middleware.dispatch request firstUuid 0 routes.app).events.filterMap MiddlewareEvent.labels := by
  obtain ⟨declared, metered⟩ := recorded
  simp [RequestSecurityMiddleware.dispatch, declared, late, complete, if_pos metered, MiddlewareEvent.labels]

def MetricLabels.method : MetricLabels → String
  | .httpDuration method _ => method
  | _ => ""

theorem recordedMethods_finite {Sent : HttpRequest → Prop} (bounded : gateway.BoundedLabels Sent) :
    (gateway.recordedMethods Sent).Finite := by
  obtain ⟨labels, bounded⟩ := bounded
  apply ((labels.finite_toSet).image MetricLabels.method).subset
  rintro method ⟨request, sent, recorded, rfl⟩
  let routes : ServedRoutes gateway.statuses := ⟨fun _ _ => .timedOut, by simp⟩
  let event : MeteredEvent Arguments Raw gateway.statuses := .http request firstUuid 0 routes
  have ran : (gateway.machine 0).run [event] = some (_, _ ++ []) :=
    Machine.runFrom_step rfl (Machine.runFrom_nil _)
  have sends : ∀ item ∈ [event], item.Sends Sent := by
    simpa [event, MeteredEvent.Sends] using sent
  have label := timeout_records recorded routes fun _ _ => rfl
  exact ⟨_, bounded 0 [event] _ _ sends ran _ (List.mem_append_left _ label), rfl⟩

end

/-- The labels are bounded exactly when the recorded requests have finitely many methods. -/
theorem MeteredGateway.boundedLabels_iff {Arguments Input Raw Output : Type}
    (gateway : MeteredGateway Arguments Input Raw Output) (Sent : HttpRequest → Prop) :
    gateway.BoundedLabels Sent ↔ (gateway.recordedMethods Sent).Finite := by
  constructor
  · exact recordedMethods_finite
  · intro finite
    refine ⟨gateway.labelSet finite.toFinset, fun start events final log sent ran label member => ?_⟩
    have known : ∀ method ∈ gateway.recordedMethods Sent, method ∈ finite.toFinset := by simp
    exact mem_labelSet.mpr (run_admits known sent ran label member)

def reviewGateway : MeteredGateway Nat Nat Nat Nat :=
  ⟨reviewApplication, ⟨1048576⟩, transactionGateway, {200, 400, 401, 403, 404, 405, 422, 429, 503}⟩

theorem latin_none : ∀ name value, (fun _ : String => (none : Option String)) name = some value →
    ∀ c ∈ value.toList, c.toNat < 256 := by
  simp

def scan (length : Nat) : HttpRequest where
  method := String.ofList (List.replicate length 'X')
  path := "/"
  headers _ := none
  chunks := []
  latin := latin_none

theorem scan_unbounded : ¬ reviewGateway.BoundedLabels fun _ => True := by
  intro bounded
  have finite := recordedMethods_finite bounded
  have methods : ∀ length, (scan length).method ∈ reviewGateway.recordedMethods fun _ => True := by
    intro length
    have metered : metricRoute "/" ≠ "/metrics" := by decide
    exact ⟨scan length, trivial, ⟨rfl, metered⟩, rfl⟩
  have injective : Function.Injective fun length => (scan length).method := by
    intro first second same
    have lengths := congrArg String.length same
    simpa [scan] using lengths
  exact Set.infinite_of_injective_forall_mem injective methods finite

end AgentPlatform.Gateway
