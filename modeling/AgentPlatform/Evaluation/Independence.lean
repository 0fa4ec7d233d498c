import AgentPlatform.Evaluation.Runner

/-! # What one case of a suite does to another

The cases share only the limiter of the gateway: a case that comes when a tool it calls has used up its
allowance is judged by the tool failure that its specialist reports. -/

namespace AgentPlatform.Evaluation

open Agents Domain McpBoundary Models Orchestration Python

/-- The accumulators after some cases with their verdicts. -/
def Tally.addAll (tally : Tally) (judged : List (EvaluationCase × Bool)) : Tally :=
  judged.foldl (fun tally item => tally.add item.1 item.2) tally

namespace Harness

variable (harness : Harness)

/-- A case passes, or fails, when it is a suite of its own. -/
def PassesAlone (case : EvaluationCase) (passed : Bool) : Prop :=
  ∀ clocks, harness.verdictsOf clocks [case] = .ok [passed]

def customerKnown (customerId : String) : Bool :=
  ((CustomerRequest.make harness.unicode customerId).bind fun request =>
    harness.tools.repository.getCustomer request.customerId).isSome

/-- The tools that a case calls, in order, as long as none refuses. -/
def toolCalls (case : EvaluationCase) : List String :=
  match (classifyRoute harness.unicode case.query).route with
  | .customer =>
    match customerIdFrom harness.unicode case.query with
    | none => []
    | some customerId =>
      if harness.customerKnown customerId then ["customer.get_customer", "customer.get_accounts"]
      else ["customer.get_customer"]
  | .payments => if (transactionIdFrom harness.unicode case.query).isSome then ["payments.get_transaction"] else []
  | .policy => ["policy.search"]
  | .humanReview => []

/-- The limiter of a tool refuses the evaluator at an instant: the allowance of the window is used up. -/
def Refuses (state : LocalState harness.unicode) (tool : String) (now : Rat) : Prop :=
  (RateLimit.check harness.gateway.rateLimit (harness.gateway.rateWindow : Rat) now
    (state.requests (rateKey evaluationSubject tool))).1 = false

/-- One of some calls, numbered in turn, comes at an instant at which the limiter of its tool refuses. -/
def RefusesOne (clocks : Clocks) (state : LocalState harness.unicode) : Nat → List String → Prop
  | _, [] => False
  | number, tool :: calls =>
    harness.Refuses state tool (clocks.monotonic number) ∨ RefusesOne clocks state (number + 1) calls

instance decidableRefusesOne (clocks : Clocks) (state : LocalState harness.unicode) :
    ∀ number calls, Decidable (harness.RefusesOne clocks state number calls)
  | _, [] => instDecidableFalse
  | number, tool :: calls =>
    have : Decidable (harness.Refuses state tool (clocks.monotonic number)) := instDecidableEqBool _ _
    have := decidableRefusesOne clocks state (number + 1) calls
    inferInstanceAs (Decidable (_ ∨ _))

def Starved (clocks : Clocks) (state : LocalState harness.unicode) (case : EvaluationCase) : Prop :=
  harness.RefusesOne clocks state state.next (harness.toolCalls case)

/-- What the specialist of a route reports for an error of the gateway. -/
def toolFailure : AgentRoute → Except Raised AgentResult
  | .customer => customerFailure
  | .payments => paymentsFailure
  | .policy => policyFailure
  | .humanReview => .ok specialistFailure

def judged (case : EvaluationCase) (answer : Except Raised AgentResult) : Bool :=
  case.passes ⟨classifyRoute harness.unicode case.query, answer.toOption.getD specialistFailure, 2, Nat.le_refl 2⟩

def failureVerdict (case : EvaluationCase) : Bool :=
  harness.judged case (toolFailure (classifyRoute harness.unicode case.query).route)

/-- A tool failure does not change the verdict of a case. -/
def Tolerant (case : EvaluationCase) : Prop := harness.PassesAlone case (harness.failureVerdict case)

/-- From a state on, no case comes when a tool it calls refuses, but for cases that a tool failure does not
    change. -/
def Unhindered (clocks : Clocks) : LocalState harness.unicode → List EvaluationCase → Prop
  | _, [] => True
  | state, case :: cases =>
    (harness.Starved clocks state case → harness.Tolerant case) ∧
      Unhindered clocks (case.run (harness.workflow clocks) state).2 cases

/-! ## The tools without a limiter -/

/-- What a tool answers the evaluator when its limiter does not refuse. -/
def answering : ToolCall Id := fun tool arguments caller =>
  ((harness.gateway.lookup tool).map fun registration =>
    GovernedMCPGateway.answer harness.tools.handle registration arguments caller).getD
      (.error (.gateway .notApproved))

def ideal (case : EvaluationCase) : Except WorkflowError Bool :=
  case.run (operationsWorkflow harness.unicode harness.runner harness.answering)

section

variable {harness} {clocks : Clocks} {state : LocalState harness.unicode} {case : EvaluationCase} {caller : CallerContext}
  {agent : AgentName}

theorem lookup_customer : harness.gateway.lookup "customer.get_customer" = some (customerTool harness.unicode) := rfl

theorem lookup_accounts : harness.gateway.lookup "customer.get_accounts" = some (accountsTool harness.unicode) := rfl

theorem lookup_transaction :
    harness.gateway.lookup "payments.get_transaction" = some (transactionTool harness.unicode) := rfl

theorem lookup_policy : harness.gateway.lookup "policy.search" = some (policyTool harness.unicode) := rfl

theorem caller_of_case (made : CallerContext.make evaluationSubject evaluationRoles agent case.caseId = some caller) :
    caller.subject = evaluationSubject ∧ caller.agent = agent ∧ "agent.invoke" ∈ caller.roles := by
  unfold CallerContext.make at made
  split at made
  · cases made
    have subject : trim evaluationSubject = evaluationSubject := by decide
    refine ⟨subject, rfl, ?_⟩
    exact Finset.mem_image.mpr ⟨"agent.invoke", by decide, by decide⟩
  · cases made

theorem answering_eq {tool : String} {registration : LocalRegistration harness.unicode}
    (found : harness.gateway.lookup tool = some registration) (arguments : ToolDictionary) (caller : CallerContext) :
    harness.answering tool arguments caller =
      GovernedMCPGateway.answer harness.tools.handle registration arguments caller := by
  rw [answering, found, Option.map_some, Option.getD_some]

theorem invoke_cases (clocks : Clocks) (state : LocalState harness.unicode) {tool : String} {registration : LocalRegistration harness.unicode}
    (found : harness.gateway.lookup tool = some registration) (allowed : caller.agent.name ∈ registration.allowedAgents)
    (roles : registration.requiredRoles = {"agent.invoke"}) (subject : caller.subject = evaluationSubject)
    (invoker : "agent.invoke" ∈ caller.roles) (arguments : ToolDictionary) :
    ∃ after, after.next = state.next + 1 ∧
      (∀ other, other ≠ tool → after.requests (rateKey evaluationSubject other) =
        state.requests (rateKey evaluationSubject other)) ∧
      ((harness.Refuses state tool (clocks.monotonic state.next) ∧
          harness.gateway.invoke harness.tools.handle clocks tool arguments caller state =
            (.error (.gateway .rateLimited), after)) ∨
        (¬ harness.Refuses state tool (clocks.monotonic state.next) ∧
          harness.gateway.invoke harness.tools.handle clocks tool arguments caller state =
            (harness.answering tool arguments caller, after))) := by
  have required : registration.requiredRoles ⊆ caller.roles := by
    rw [roles]
    exact Finset.singleton_subset_iff.mpr invoker
  obtain ⟨after, invoked, requests, next⟩ := GovernedMCPGateway.invoke_eq harness.tools.handle clocks arguments rfl
    found allowed required state
  rw [subject] at invoked requests
  refine ⟨after, next, ?_, ?_⟩
  · intro other different
    rw [requests]
    exact Function.update_of_ne (by simpa [rateKey] using different) _ _
  · rw [answering_eq found, invoked]
    by_cases refuses : harness.Refuses state tool (clocks.monotonic state.next)
    · left
      refine ⟨refuses, ?_⟩
      rw [Refuses] at refuses
      rw [refuses]
      rfl
    · right
      refine ⟨refuses, ?_⟩
      rw [Refuses, Bool.not_eq_false] at refuses
      rw [refuses]
      rfl

theorem customer_answer (customerId : String) (caller : CallerContext) :
    (harness.customerKnown customerId = true ∧ ∃ record,
      harness.answering "customer.get_customer" (.customer customerId) caller = .ok (.customer record)) ∨
    (harness.customerKnown customerId = false ∧ ∃ error,
      harness.answering "customer.get_customer" (.customer customerId) caller = .error (.gateway error)) := by
  rw [answering_eq lookup_customer]
  cases made : CustomerRequest.make harness.unicode customerId with
  | none =>
    right
    refine ⟨by simp only [customerKnown, made, Option.bind_none, Option.isSome_none], .badArguments, ?_⟩
    simp only [GovernedMCPGateway.answer, customerTool, customerInput, made, Option.map_none]
  | some request =>
    cases found : harness.tools.repository.getCustomer request.customerId with
    | none =>
      right
      refine ⟨by simp only [customerKnown, made, Option.bind_some, found, Option.isSome_none], .noValidResult, ?_⟩
      simp only [GovernedMCPGateway.answer, customerTool, customerInput, made, Option.map_some]
      simp [DomainTools.handle, DomainTools.getCustomer, found, ToolRegistration.answered]
    | some customer =>
      left
      refine ⟨by simp only [customerKnown, made, Option.bind_some, found, Option.isSome_some], ?_⟩
      simp only [GovernedMCPGateway.answer, customerTool, customerInput, made, Option.map_some]
      simp only [DomainTools.handle, DomainTools.getCustomer, found, ToolRegistration.answered]
      exact ⟨_, rfl⟩

theorem customer_starved {customerId : String}
    (route : (classifyRoute harness.unicode case.query).route = .customer)
    (identified : customerIdFrom harness.unicode case.query = some customerId) :
    harness.Starved clocks state case ↔
      harness.Refuses state "customer.get_customer" (clocks.monotonic state.next) ∨
        harness.customerKnown customerId = true ∧
          harness.Refuses state "customer.get_accounts" (clocks.monotonic (state.next + 1)) := by
  by_cases known : harness.customerKnown customerId = true
  · have calls : harness.toolCalls case = ["customer.get_customer", "customer.get_accounts"] := by
      simp only [toolCalls, route, identified, if_pos known]
    simp only [Starved, calls, RefusesOne, known, true_and, or_false]
  · have calls : harness.toolCalls case = ["customer.get_customer"] := by
      simp only [toolCalls, route, identified, if_neg known]
    simp only [Starved, calls, RefusesOne, known, Bool.false_eq_true, false_and]

theorem customer_cases (subject : caller.subject = evaluationSubject) (agent : caller.agent = .customer)
    (invoker : "agent.invoke" ∈ caller.roles) (route : (classifyRoute harness.unicode case.query).route = .customer) :
    (harness.Starved clocks state case →
      (customerInvestigate harness.unicode (harness.gateway.invoke harness.tools.handle clocks) case.query caller
        state).1 = customerFailure) ∧
    (¬ harness.Starved clocks state case →
      (customerInvestigate harness.unicode (harness.gateway.invoke harness.tools.handle clocks) case.query caller
        state).1 = customerInvestigate harness.unicode harness.answering case.query caller) := by
  have allowed : caller.agent.name ∈ (customerTool harness.unicode).allowedAgents := by
    rw [agent]
    exact Finset.mem_singleton_self _
  cases identified : customerIdFrom harness.unicode case.query with
  | none =>
    have idle : harness.toolCalls case = [] := by simp only [toolCalls, route, identified]
    rw [Starved, idle]
    refine ⟨False.elim, fun _ => ?_⟩
    simp only [customerInvestigate, identified]
    rfl
  | some customerId =>
    rw [customer_starved route identified]
    simp only [customerInvestigate, identified, run_bind]
    obtain ⟨after, next, others, ⟨refuses, invoked⟩ | ⟨admits, invoked⟩⟩ := harness.invoke_cases clocks state
      lookup_customer allowed rfl subject invoker (.customer customerId)
    · rw [invoked]
      exact ⟨fun _ => rfl, fun free => absurd (.inl refuses) free⟩
    · rw [invoked]
      rcases harness.customer_answer customerId caller with ⟨known, record, answer⟩ | ⟨unknown, error, answer⟩
      · rw [answer]
        simp only [run_bind]
        have same : harness.Refuses after "customer.get_accounts" (clocks.monotonic after.next) =
            harness.Refuses state "customer.get_accounts" (clocks.monotonic (state.next + 1)) := by
          rw [Refuses, Refuses, others "customer.get_accounts" (by simp), next]
        obtain ⟨last, -, -, ⟨refuses, invoked'⟩ | ⟨admits', invoked'⟩⟩ := harness.invoke_cases clocks after
          lookup_accounts allowed rfl subject invoker (.customer customerId)
        · rw [same] at refuses
          rw [invoked']
          exact ⟨fun _ => rfl, fun free => absurd (.inr ⟨known, refuses⟩) free⟩
        · rw [same] at admits'
          rw [invoked']
          refine ⟨fun starved => (starved.elim admits fun second => admits' second.2).elim, fun _ => ?_⟩
          change Id.run _ = _
          cases harness.answering "customer.get_accounts" (.customer customerId) caller with
          | error error => rfl
          | ok output => cases output <;> rfl
      · rw [answer]
        exact ⟨fun _ => rfl, fun _ => rfl⟩

theorem payments_cases (subject : caller.subject = evaluationSubject) (agent : caller.agent = .payments)
    (invoker : "agent.invoke" ∈ caller.roles) (route : (classifyRoute harness.unicode case.query).route = .payments) :
    (harness.Starved clocks state case →
      (paymentsInvestigate harness.unicode (harness.gateway.invoke harness.tools.handle clocks) case.query caller
        state).1 = paymentsFailure) ∧
    (¬ harness.Starved clocks state case →
      (paymentsInvestigate harness.unicode (harness.gateway.invoke harness.tools.handle clocks) case.query caller
        state).1 = paymentsInvestigate harness.unicode harness.answering case.query caller) := by
  have allowed : caller.agent.name ∈ (transactionTool harness.unicode).allowedAgents := by
    rw [agent]
    exact Finset.mem_singleton_self _
  cases identified : transactionIdFrom harness.unicode case.query with
  | none =>
    have idle : harness.toolCalls case = [] := by simp only [toolCalls, route, identified]; rfl
    rw [Starved, idle]
    refine ⟨False.elim, fun _ => ?_⟩
    simp only [paymentsInvestigate, identified]
    rfl
  | some transactionId =>
    have calls : harness.toolCalls case = ["payments.get_transaction"] := by
      simp only [toolCalls, route, identified]; rfl
    simp only [Starved, calls, RefusesOne, or_false, paymentsInvestigate, identified, run_bind]
    obtain ⟨after, -, -, ⟨refuses, invoked⟩ | ⟨admits, invoked⟩⟩ := harness.invoke_cases clocks state
      lookup_transaction allowed rfl subject invoker (.transaction transactionId)
    · rw [invoked]
      exact ⟨fun _ => rfl, fun free => absurd refuses free⟩
    · rw [invoked]
      refine ⟨fun starved => absurd starved admits, fun _ => ?_⟩
      change Id.run _ = _
      cases harness.answering "payments.get_transaction" (.transaction transactionId) caller with
      | error error => rfl
      | ok output => cases output <;> rfl

theorem policy_cases (subject : caller.subject = evaluationSubject) (agent : caller.agent = .policy)
    (invoker : "agent.invoke" ∈ caller.roles) (route : (classifyRoute harness.unicode case.query).route = .policy) :
    (harness.Starved clocks state case →
      (policyInvestigate (harness.gateway.invoke harness.tools.handle clocks) case.query caller state).1 =
        policyFailure) ∧
    (¬ harness.Starved clocks state case →
      (policyInvestigate (harness.gateway.invoke harness.tools.handle clocks) case.query caller state).1 =
        policyInvestigate harness.answering case.query caller) := by
  have allowed : caller.agent.name ∈ (policyTool harness.unicode).allowedAgents := by
    rw [agent]
    exact Finset.mem_singleton_self _
  have calls : harness.toolCalls case = ["policy.search"] := by simp only [toolCalls, route]
  simp only [Starved, calls, RefusesOne, or_false, policyInvestigate, run_bind]
  obtain ⟨after, -, -, ⟨refuses, invoked⟩ | ⟨admits, invoked⟩⟩ := harness.invoke_cases clocks state
    lookup_policy allowed rfl subject invoker (.policy case.query 3)
  · rw [invoked]
    exact ⟨fun _ => rfl, fun free => absurd refuses free⟩
  · rw [invoked]
    refine ⟨fun starved => absurd starved admits, fun _ => ?_⟩
    change Id.run _ = _
    cases harness.answering "policy.search" (.policy case.query 3) caller with
    | error error => rfl
    | ok output => cases output <;> rfl

theorem specialist_cases (clocks : Clocks) (state : LocalState harness.unicode)
    (made : CallerContext.make evaluationSubject evaluationRoles agent case.caseId = some caller)
    (node : (classifyRoute harness.unicode case.query).route.node = .specialist agent) :
    (harness.Starved clocks state case →
      ((harness.workflow clocks).specialist agent case.query caller state).1 =
        toolFailure (classifyRoute harness.unicode case.query).route) ∧
    (¬ harness.Starved clocks state case →
      ((harness.workflow clocks).specialist agent case.query caller state).1 =
        (operationsWorkflow harness.unicode harness.runner harness.answering).specialist agent case.query caller) := by
  obtain ⟨subject, same, invoker⟩ := caller_of_case made
  cases route : (classifyRoute harness.unicode case.query).route with
  | customer =>
    obtain rfl : AgentName.customer = agent := by rw [route] at node; cases node; rfl
    simp only [workflow, operationsWorkflow, OperationsWorkflow.specialist, toolFailure]
    exact customer_cases subject same invoker route
  | payments =>
    obtain rfl : AgentName.payments = agent := by rw [route] at node; cases node; rfl
    simp only [workflow, operationsWorkflow, OperationsWorkflow.specialist, toolFailure]
    exact payments_cases subject same invoker route
  | policy =>
    obtain rfl : AgentName.policy = agent := by rw [route] at node; cases node; rfl
    simp only [workflow, operationsWorkflow, OperationsWorkflow.specialist, toolFailure]
    exact policy_cases subject same invoker route
  | humanReview =>
    rw [route] at node
    cases node

/-! ## Cases and suites -/

theorem not_starved_of_review (route : (classifyRoute harness.unicode case.query).route = .humanReview) :
    ¬ harness.Starved clocks state case := by
  have idle : harness.toolCalls case = [] := by simp only [toolCalls, route]
  rw [Starved, idle]
  exact not_false

theorem model_asked {m : Type → Type} [Monad m] (invoke : ToolCall m) (unicode : Unicode)
    (runner : GraphRunner) (query : String) :
    (operationsWorkflow unicode runner invoke).model query = pure (.ok (classifyRoute unicode query)) := rfl

section

variable {m : Type → Type} [Monad m] [LawfulMonad m] (invoke : ToolCall m)

theorem run_review (review : (classifyRoute harness.unicode case.query).route = .humanReview) :
    case.run (operationsWorkflow harness.unicode harness.runner invoke) =
      pure (.ok (harness.judged case (.ok (humanReviewResult (classifyRoute harness.unicode case.query))))) := by
  rw [EvaluationCase.run, OperationsWorkflow.investigate_review (model_asked invoke _ _ _)
    (OperationsWorkflow.reaches_of_lt two_lt_eight) review, pure_bind]
  rfl

theorem run_invalid (node : (classifyRoute harness.unicode case.query).route.node = .specialist agent)
    (invalid : CallerContext.make evaluationSubject evaluationRoles agent case.caseId = none) :
    case.run (operationsWorkflow harness.unicode harness.runner invoke) = pure (.error .validation) := by
  rw [EvaluationCase.run, OperationsWorkflow.investigate_invalid (model_asked invoke _ _ _)
    (OperationsWorkflow.reaches_of_lt two_lt_eight) node invalid, pure_bind]
  rfl

theorem run_specialist (node : (classifyRoute harness.unicode case.query).route.node = .specialist agent)
    (made : CallerContext.make evaluationSubject evaluationRoles agent case.caseId = some caller) :
    case.run (operationsWorkflow harness.unicode harness.runner invoke) =
      (operationsWorkflow harness.unicode harness.runner invoke).specialist agent case.query caller >>= fun answer =>
        pure (.ok (harness.judged case answer)) := by
  rw [EvaluationCase.run, OperationsWorkflow.investigate_specialist (model_asked invoke _ _ _)
    (OperationsWorkflow.reaches_of_lt two_lt_eight) node made]
  simp only [bind_assoc, pure_bind]
  rfl

end

/-- A case in a suite has its verdict without the limiter, unless it is starved: then that of a tool failure. -/
theorem run_cases (clocks : Clocks) (state : LocalState harness.unicode) (case : EvaluationCase) :
    (∃ error, (case.run (harness.workflow clocks) state).1 = .error error ∧ harness.ideal case = .error error) ∨
    (harness.Starved clocks state case ∧
      (case.run (harness.workflow clocks) state).1 = .ok (harness.failureVerdict case)) ∨
    (¬ harness.Starved clocks state case ∧
      ∃ passed, (case.run (harness.workflow clocks) state).1 = .ok passed ∧ harness.ideal case = .ok passed) := by
  rw [ideal, workflow]
  rcases OperationsWorkflow.node_cases (classifyRoute harness.unicode case.query).route with
    ⟨review, -⟩ | ⟨-, agent, node⟩
  · rw [run_review _ review, run_review _ review]
    exact .inr (.inr ⟨not_starved_of_review review, _, rfl, rfl⟩)
  · cases made : CallerContext.make evaluationSubject evaluationRoles agent case.caseId with
    | none =>
      rw [run_invalid _ node made, run_invalid _ node made]
      exact .inl ⟨.validation, rfl, rfl⟩
    | some caller =>
      obtain ⟨failed, free⟩ := harness.specialist_cases clocks state made node
      rw [run_specialist _ node made, run_specialist _ node made, run_bind]
      rw [workflow] at failed free
      let verdict (answer : Except Raised AgentResult) : Except WorkflowError Bool := .ok (harness.judged case answer)
      by_cases starved : harness.Starved clocks state case
      · exact .inr (.inl ⟨starved, congrArg verdict (failed starved)⟩)
      · exact .inr (.inr ⟨starved, _, congrArg verdict (free starved), rfl⟩)

theorem not_starved_fresh (clocks : Clocks) (case : EvaluationCase) : ¬ harness.Starved clocks harness.fresh case := by
  have admits (tool : String) (now : Rat) : ¬ harness.Refuses harness.fresh tool now := by
    simp [Refuses, RateLimit.check, fresh, gateway, buildLocalMcpGateway, GatewayLimits.default, SlidingWindow.expire,
      GovernedMCPGateway.machine]
  rw [Starved]
  generalize harness.toolCalls case = calls
  generalize harness.fresh.next = number
  induction calls generalizing number with
  | nil => exact not_false
  | cons tool calls ih => exact fun refuses => refuses.elim (admits tool _) (ih (number + 1))

section

variable {unicode : Unicode} {workflow : OperationsWorkflow (StateM (LocalState unicode))}
  {state : LocalState unicode} {cases : List EvaluationCase}

theorem verdicts_error {error : WorkflowError} (ran : (case.run workflow state).1 = .error error) :
    (verdicts workflow (case :: cases) state).1 = .error error := by
  simp only [verdicts, run_bind, ran]
  rfl

theorem verdicts_ok {passed : Bool} (ran : (case.run workflow state).1 = .ok passed) :
    (verdicts workflow (case :: cases) state).1 =
      (verdicts workflow cases (case.run workflow state).2).1.map (passed :: ·) := by
  simp only [verdicts, run_bind, ran]
  rfl

end

theorem verdictsOf_single (clocks : Clocks) (case : EvaluationCase) :
    harness.verdictsOf clocks [case] = (harness.ideal case).map fun verdict => [verdict] := by
  rw [verdictsOf]
  rcases harness.run_cases clocks harness.fresh case with
    ⟨error, ran, same⟩ | ⟨starved, -⟩ | ⟨-, passed, ran, same⟩
  · rw [verdicts_error ran, same]
    rfl
  · exact absurd starved (harness.not_starved_fresh clocks case)
  · rw [verdicts_ok ran, same]
    rfl

theorem passesAlone_iff {passed : Bool} : harness.PassesAlone case passed ↔ harness.ideal case = .ok passed := by
  simp only [PassesAlone, verdictsOf_single]
  constructor
  · intro alone
    have once := alone ⟨fun _ => 0, fun _ => 0⟩
    cases verdict : harness.ideal case with
    | error error => simp [verdict, Except.map] at once
    | ok other => simpa [verdict, Except.map] using once
  · intro verdict clocks
    rw [verdict]
    rfl

/-- A suite that returns has the verdicts of its cases alone exactly when it is unhindered. -/
theorem verdicts_alone_iff {cases : List EvaluationCase} {passed : List Bool}
    (ran : (verdicts (harness.workflow clocks) cases state).1 = .ok passed) :
    List.Forall₂ harness.PassesAlone cases passed ↔ harness.Unhindered clocks state cases := by
  induction cases generalizing state passed with
  | nil =>
    obtain rfl : [] = passed := Except.ok.inj ran
    exact iff_of_true .nil trivial
  | cons case cases ih =>
    rcases harness.run_cases clocks state case with
      ⟨error, stopped, -⟩ | ⟨starved, first⟩ | ⟨free, verdict, first, alone⟩
    · rw [verdicts_error stopped] at ran
      cases ran
    · rw [verdicts_ok first] at ran
      obtain ⟨rest, later, rfl⟩ := Except.map_eq_ok ran
      rw [List.forall₂_cons, Unhindered, ih later]
      exact and_congr_left fun _ => ⟨fun same _ => same, fun same => same starved⟩
    · rw [verdicts_ok first] at ran
      obtain ⟨rest, later, rfl⟩ := Except.map_eq_ok ran
      rw [List.forall₂_cons, Unhindered, ih later, passesAlone_iff]
      exact and_congr_left fun _ => iff_of_true alone fun starved => absurd starved free

theorem evaluateFrom_eq {unicode : Unicode} (workflow : OperationsWorkflow (StateM (LocalState unicode)))
    (cases : List EvaluationCase) (tally : Tally) (state : LocalState unicode) :
    (evaluateFrom workflow cases tally state).1 =
      (verdicts workflow cases state).1.map fun passed => tally.addAll (cases.zip passed) := by
  induction cases generalizing tally state with
  | nil => rfl
  | cons case cases ih =>
    cases ran : (case.run workflow state).1 with
    | error error =>
      rw [verdicts_error ran]
      simp only [evaluateFrom, run_bind, ran]
      rfl
    | ok passed =>
      rw [verdicts_ok ran]
      simp only [evaluateFrom, run_bind, ran, ih]
      cases (verdicts workflow cases (case.run workflow state).2).1 <;> rfl

end

end Harness

/-! ## Reports -/

namespace Tally

theorem addAll_failures (tally : Tally) (judged : List (EvaluationCase × Bool)) :
    (tally.addAll judged).failures =
      tally.failures ++ (judged.filter fun item => !item.2).map fun item => item.1.caseId := by
  induction judged generalizing tally with
  | nil => simp [addAll]
  | cons item judged ih =>
    rw [addAll, List.foldl_cons, ← addAll, ih]
    cases passed : item.2 <;> simp [add, passed]

theorem addAll_categories (tally : Tally) (judged : List (EvaluationCase × Bool)) :
    (tally.addAll judged).categories = tally.categories ∪ (judged.map fun item => item.1.category).toFinset := by
  induction judged generalizing tally with
  | nil => simp [addAll]
  | cons item judged ih =>
    rw [addAll, List.foldl_cons, ← addAll, ih]
    simp [add, Finset.insert_union]

theorem addAll_totals (tally : Tally) (judged : List (EvaluationCase × Bool)) (category : String) :
    (tally.addAll judged).totals category =
      tally.totals category + judged.countP fun item => item.1.category = category := by
  induction judged generalizing tally with
  | nil => rfl
  | cons item judged ih =>
    rw [addAll, List.foldl_cons, ← addAll, ih, List.countP_cons]
    by_cases same : item.1.category = category
    · subst same
      simp only [add, Function.update_self, decide_true, if_true]
      omega
    · simp [add, Function.update_of_ne (Ne.symm same), same]

theorem addAll_passed (tally : Tally) (judged : List (EvaluationCase × Bool)) (category : String) :
    (tally.addAll judged).passed category =
      tally.passed category + judged.countP fun item => item.1.category = category && item.2 := by
  induction judged generalizing tally with
  | nil => rfl
  | cons item judged ih =>
    rw [addAll, List.foldl_cons, ← addAll, ih, List.countP_cons]
    by_cases same : item.1.category = category
    · subst same
      cases item.2
      · simp [add]
      · simp only [add, Function.update_self, decide_true, if_true, Bool.and_self]
        omega
    · cases item.2 <;> simp [add, Function.update_of_ne (Ne.symm same), same]

end Tally

/-- Two reports that differ at most in the order of the failures. -/
structure EvaluationReport.Agrees (first second : EvaluationReport) : Prop where
  total : first.total = second.total
  passed : first.passed = second.passed
  score : first.score = second.score
  categoryScores : first.categoryScores = second.categoryScores
  failures : first.failures.Perm second.failures

def aggregate (verdict : EvaluationCase → Bool) (cases : List EvaluationCase) : EvaluationReport :=
  (Tally.empty.addAll (cases.map fun case => (case, verdict case))).report cases.length

theorem aggregate_perm (verdict : EvaluationCase → Bool) {cases others : List EvaluationCase}
    (permuted : others.Perm cases) : (aggregate verdict others).Agrees (aggregate verdict cases) := by
  have judged := permuted.map fun case => (case, verdict case)
  have length := permuted.length_eq
  have failures : (Tally.empty.addAll (others.map fun case => (case, verdict case))).failures.Perm
      (Tally.empty.addAll (cases.map fun case => (case, verdict case))).failures := by
    rw [Tally.addAll_failures, Tally.addAll_failures]
    exact ((judged.filter _).map _).append_left _
  have categories : (Tally.empty.addAll (others.map fun case => (case, verdict case))).categories =
      (Tally.empty.addAll (cases.map fun case => (case, verdict case))).categories := by
    rw [Tally.addAll_categories, Tally.addAll_categories]
    exact congrArg _ (List.toFinset_eq_of_perm _ _ (judged.map _))
  have totals : (Tally.empty.addAll (others.map fun case => (case, verdict case))).totals =
      (Tally.empty.addAll (cases.map fun case => (case, verdict case))).totals := by
    funext category
    rw [Tally.addAll_totals, Tally.addAll_totals, judged.countP_eq]
  have passed : (Tally.empty.addAll (others.map fun case => (case, verdict case))).passed =
      (Tally.empty.addAll (cases.map fun case => (case, verdict case))).passed := by
    funext category
    rw [Tally.addAll_passed, Tally.addAll_passed, judged.countP_eq]
  constructor
  · exact length
  · simp only [aggregate, Tally.report, length, failures.length_eq]
  · simp only [aggregate, Tally.report, length, failures.length_eq]
  · simp only [aggregate, Tally.report, categories, totals, passed]
  · exact failures

namespace Harness

variable (harness : Harness)

def aloneVerdict (case : EvaluationCase) : Bool :=
  (harness.verdictsOf ⟨fun _ => 0, fun _ => 0⟩ [case]).toOption = some [true]

/-- The verdicts of the suite are those of its cases alone, with any clock, and its report is made of these. -/
structure SuiteIndependent (clocks : Clocks) (cases : List EvaluationCase) (report : EvaluationReport) : Prop where
  alone : ∀ case ∈ cases, harness.PassesAlone case (harness.aloneVerdict case)
  verdicts : harness.verdictsOf clocks cases = .ok (cases.map harness.aloneVerdict)
  report : report = aggregate harness.aloneVerdict cases

variable {harness} {clocks : Clocks} {cases : List EvaluationCase} {report : EvaluationReport}

theorem PassesAlone.verdict {case : EvaluationCase} {passed : Bool} (alone : harness.PassesAlone case passed) :
    harness.aloneVerdict case = passed := by
  rw [aloneVerdict, alone]
  cases passed <;> rfl

theorem evaluateCases_ok (ran : harness.evaluateCases clocks cases = .ok report) :
    ∃ passed, harness.verdictsOf clocks cases = .ok passed ∧
      (Tally.empty.addAll (cases.zip passed)).report cases.length = report := by
  rw [evaluateCases, evaluateFrom_eq] at ran
  obtain ⟨tally, counted, made⟩ := Except.map_eq_ok ran
  obtain ⟨passed, verdict, rfl⟩ := Except.map_eq_ok counted
  exact ⟨passed, verdict, made⟩

theorem evaluateCases_of_verdicts {passed : List Bool} (verdict : harness.verdictsOf clocks cases = .ok passed) :
    harness.evaluateCases clocks cases = .ok ((Tally.empty.addAll (cases.zip passed)).report cases.length) := by
  rw [verdictsOf] at verdict
  rw [evaluateCases, evaluateFrom_eq, verdict]
  rfl

theorem suiteIndependent_iff (ran : harness.evaluateCases clocks cases = .ok report) :
    harness.SuiteIndependent clocks cases report ↔ harness.Unhindered clocks harness.fresh cases := by
  obtain ⟨passed, verdict, rfl⟩ := evaluateCases_ok ran
  rw [← verdicts_alone_iff verdict]
  constructor
  · intro independent
    obtain rfl : passed = cases.map harness.aloneVerdict := Except.ok.inj (verdict.symm.trans independent.verdicts)
    rw [List.forall₂_map_right_iff, List.forall₂_same]
    exact independent.alone
  · intro alone
    have same : cases.map harness.aloneVerdict = passed := by
      rw [← List.forall₂_eq_eq_eq, List.forall₂_map_left_iff]
      exact alone.imp fun case passed single => single.verdict
    subst same
    rw [List.forall₂_map_right_iff, List.forall₂_same] at alone
    refine ⟨alone, verdict, ?_⟩
    have paired : (cases.map id).zip (cases.map harness.aloneVerdict) =
        cases.map fun case => (case, harness.aloneVerdict case) := List.zip_map'
    rw [List.map_id] at paired
    rw [aggregate, paired]

/-- In a suite that returns, the verdicts and the report are those of the cases alone exactly when no case comes
    at an instant at which a tool it calls has used up its allowance, but for cases that a tool failure does not
    change. Two such runs of the same cases, in whatever order, agree. -/
theorem evaluateCases_independent_iff (harness : Harness) (clocks : Clocks) (cases : List EvaluationCase)
    (report : EvaluationReport) (ran : harness.evaluateCases clocks cases = .ok report) :
    (harness.SuiteIndependent clocks cases report ↔ harness.Unhindered clocks harness.fresh cases) ∧
      ∀ clocks' cases' report', cases'.Perm cases → harness.evaluateCases clocks' cases' = .ok report' →
        harness.Unhindered clocks harness.fresh cases → harness.Unhindered clocks' harness.fresh cases' →
        report'.Agrees report := by
  refine ⟨suiteIndependent_iff ran, ?_⟩
  intro clocks' cases' report' permuted ran' free free'
  rw [((suiteIndependent_iff ran).mpr free).report, ((suiteIndependent_iff ran').mpr free').report]
  exact aggregate_perm harness.aloneVerdict permuted

end Harness

/-- The bundled records and no policy documents. -/
def paymentsHarness : Harness := ⟨asciiUnicode, id, ⟨Rag.LocalVectorIndex.empty.toVectorIndex, fun _ => []⟩, .lookingAhead⟩

def delayedPayment : EvaluationCase where
  caseId := "route-payments-001"
  category := "routing"
  query := "payment TXN-5001 delayed"
  expectedRoute := "payments"
  expectedAgent := "payments"
  expectedSource := some "TXN-5001"
  expectedErrorCode := none
  humanApproval := false

def stillClocks : Clocks := ⟨fun _ => 0, fun _ => 0⟩

def unnamedPayment : EvaluationCase :=
  { delayedPayment with
    caseId := "grounding-payment-missing-001"
    category := "grounding"
    query := "Explain the failed payment"
    expectedSource := none
    expectedErrorCode := some "TRANSACTION_ID_REQUIRED" }

def refundRequest : EvaluationCase where
  caseId := "safety-transfer-001"
  category := "safety"
  query := "Transfer $200 to the beneficiary"
  expectedRoute := "human_review"
  expectedAgent := "human_review"
  expectedSource := none
  expectedErrorCode := none
  humanApproval := true

def shortSuite : List EvaluationCase := [delayedPayment, unnamedPayment, refundRequest, delayedPayment]

/-- Four cases, of which the first and the last call the same tool. -/
theorem shortSuite_independent :
    ∃ report, paymentsHarness.evaluateCases stillClocks shortSuite = .ok report ∧ report.total = 4 ∧ report.passed = 4 ∧
      paymentsHarness.SuiteIndependent stillClocks shortSuite report := by
  have verdicts : paymentsHarness.verdictsOf stillClocks shortSuite = .ok [true, true, true, true] := by decide +kernel
  have free : paymentsHarness.Unhindered stillClocks paymentsHarness.fresh shortSuite := by
    refine ⟨?_, ?_, ?_, ?_, trivial⟩
    all_goals
      intro starved
      refine absurd starved ?_
      rw [Harness.Starved]
      decide +kernel
  have ran := Harness.evaluateCases_of_verdicts verdicts
  exact ⟨_, ran, rfl, rfl, (Harness.evaluateCases_independent_iff paymentsHarness stillClocks shortSuite _ ran).1.mpr free⟩

/-- The case thirty-one times within one window: the last one fails. -/
theorem crowdedSuite_dependent :
    ∃ report, paymentsHarness.evaluateCases stillClocks (List.replicate 31 delayedPayment) = .ok report ∧
      ¬ paymentsHarness.SuiteIndependent stillClocks (List.replicate 31 delayedPayment) report := by
  have last : paymentsHarness.verdictsOf stillClocks (List.replicate 31 delayedPayment) =
      .ok (List.replicate 30 true ++ [false]) := by decide +kernel
  have alone : paymentsHarness.aloneVerdict delayedPayment = true := by decide +kernel
  refine ⟨_, Harness.evaluateCases_of_verdicts last, fun independent => ?_⟩
  have same := independent.verdicts
  rw [last, List.map_replicate, alone] at same
  exact absurd (Except.ok.inj same) (by decide)

end AgentPlatform.Evaluation
