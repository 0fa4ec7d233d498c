import AgentPlatform.Orchestration.Operations

/-! # How an investigation ends

One call of the model, then one call of a specialist or a human review. -/

namespace AgentPlatform.Orchestration

open McpBoundary Python

namespace OperationsWorkflow

variable (workflow : OperationsWorkflow Id)

/-- The decision that an investigation follows. -/
def routed (query : String) : RoutingDecision :=
  ((workflow.model query : Except Raised RoutingDecision).toOption).getD unavailableDecision

/-- The result of a specialist, or its replacement. -/
def specialistResult (agent : AgentName) (query : String) (caller : CallerContext) : AgentResult :=
  ((workflow.specialist agent query caller : Except Raised AgentResult).toOption).getD specialistFailure

end OperationsWorkflow

/-! ## A model that answers without effect -/

namespace OperationsWorkflow

theorem graph_specialist {m : Type → Type} [Monad m] (workflow : OperationsWorkflow m) (agent : AgentName) :
    workflow.graph.node (.specialist agent) = workflow.runSpecialist agent := by
  simp only [graph]

theorem next_specialist {m : Type → Type} [Monad m] (workflow : OperationsWorkflow m) (route : AgentRoute)
    (state : OperationsState) : workflow.graph.next route.node state = none := by
  cases route <;> rfl

/-- The two node steps of an investigation fit into its limit. -/
def Reaches {m : Type → Type} (workflow : OperationsWorkflow m) : Prop := workflow.runner.ends workflow.maxSteps 2 = true

theorem reaches_of_lt {m : Type → Type} {workflow : OperationsWorkflow m} (spare : 2 < workflow.maxSteps) :
    workflow.Reaches := workflow.runner.spare _ 2 spare

theorem Reaches.two_le {m : Type → Type} {workflow : OperationsWorkflow m} (reaches : workflow.Reaches) :
    2 ≤ workflow.maxSteps := GraphRunner.le_of_ends reaches

theorem Reaches.starts {m : Type → Type} {workflow : OperationsWorkflow m} (reaches : workflow.Reaches) :
    workflow.runner.starts workflow.maxSteps 1 = true := workflow.runner.started _ _ reaches

section

variable {m : Type → Type} [Monad m] [LawfulMonad m] {workflow : OperationsWorkflow m} {query subject requestId : String}
  {roles : Finset String} {answer : Except Raised RoutingDecision}

/-- The decision that an answer of the model leads to. -/
def settled (answer : Except Raised RoutingDecision) : RoutingDecision := answer.toOption.getD unavailableDecision

theorem supervisor_classify (asked : workflow.model query = pure answer) :
    ∃ errorCode, workflow.supervisor.classify ⟨query, none, 0, none⟩ =
      pure (.ok ⟨query, some (settled answer), 1, errorCode⟩) := by
  cases answer with
  | ok decision =>
    refine ⟨none, ?_⟩
    simp only [SupervisorWorkflow.classify, supervisor, asked, pure_bind]
    rfl
  | error error =>
    refine ⟨some "MODEL_PROVIDER_FAILURE", ?_⟩
    simp only [SupervisorWorkflow.classify, supervisor, asked, pure_bind]
    rfl

theorem supervisor_route (asked : workflow.model query = pure answer)
    (ends : workflow.runner.ends workflow.maxSteps 1 = true) :
    ∃ errorCode, workflow.supervisor.route query = pure (.ok ⟨settled answer, 1, errorCode, Nat.le_refl 1⟩) := by
  obtain ⟨more, steps⟩ := Nat.exists_eq_add_of_le' workflow.maxStepsPositive
  obtain ⟨errorCode, classified⟩ := supervisor_classify asked
  have ran : workflow.supervisor.graph.runFrom workflow.runner workflow.maxSteps (more + 1) 0 ()
      ⟨query, none, 0, none⟩ = pure (.ok ⟨query, some (settled answer), 1, errorCode⟩) :=
    StateGraph.runFrom_end more ends classified rfl
  rw [← steps] at ran
  refine ⟨errorCode, ?_⟩
  change workflow.supervisor.graph.runFrom workflow.runner workflow.maxSteps workflow.maxSteps 0 ()
    ⟨query, none, 0, none⟩ >>= _ = _
  rw [ran, pure_bind]
  rfl

/-- Under a limit of one step the supervisor may itself be stopped. -/
theorem supervisor_cases (asked : workflow.model query = pure answer) :
    (∃ errorCode, workflow.supervisor.route query = pure (.ok ⟨settled answer, 1, errorCode, Nat.le_refl 1⟩)) ∨
      workflow.supervisor.route query = pure (.error .recursionLimit) := by
  cases ends : workflow.runner.ends workflow.maxSteps 1 with
  | true => exact .inl (supervisor_route asked ends)
  | false =>
    right
    have stopped : workflow.supervisor.graph.runFrom workflow.runner workflow.maxSteps workflow.maxSteps 0 ()
        ⟨query, none, 0, none⟩ = pure (.error .recursion) := by
      cases starts : workflow.runner.starts workflow.maxSteps 0 with
      | false => exact StateGraph.runFrom_over workflow.maxSteps starts
      | true =>
        obtain ⟨more, steps⟩ := Nat.exists_eq_add_of_le' workflow.maxStepsPositive
        obtain ⟨errorCode, classified⟩ := supervisor_classify asked
        have last := @StateGraph.runFrom_last _ _ _ _ _ workflow.supervisor.graph workflow.runner ()
          ⟨query, none, 0, none⟩ workflow.maxSteps 0 more starts fun _ => rfl
        rw [← steps, show workflow.supervisor.graph.node () = workflow.supervisor.classify from rfl, classified,
          pure_bind, ends] at last
        exact last
    change workflow.supervisor.graph.runFrom workflow.runner workflow.maxSteps workflow.maxSteps 0 ()
      ⟨query, none, 0, none⟩ >>= _ = _
    rw [stopped, pure_bind]
    rfl

theorem classify_eq (state : OperationsState) (asked : workflow.model state.query = pure answer)
    (ends : workflow.runner.ends workflow.maxSteps 1 = true) :
    workflow.classify state =
      pure (.ok { state with decision := some (settled answer), steps := state.steps + 1 }) := by
  obtain ⟨errorCode, routed⟩ := supervisor_route asked ends
  rw [classify, routed, pure_bind]

/-- The node of the decision, with the steps that are left to it. -/
def proceed (workflow : OperationsWorkflow m) (left : Nat) (decision : RoutingDecision) (query subject : String)
    (roles : Finset String) (requestId : String) : m (Except (GraphError WorkflowError) OperationsState) :=
  workflow.graph.runFrom workflow.runner workflow.maxSteps left 1 decision.route.node
    ⟨query, some decision, none, 1, subject, roles, requestId⟩

theorem investigate_eq (asked : workflow.model query = pure answer) (reaches : workflow.Reaches) :
    ∃ more, workflow.investigate query subject roles requestId =
      workflow.proceed (more + 1) (settled answer) query subject roles requestId >>= fun output =>
        pure ((output.mapError WorkflowError.ofGraph).bind result) := by
  obtain ⟨more, steps⟩ := Nat.exists_eq_add_of_le' reaches.two_le
  have starts := workflow.runner.started _ _ (workflow.runner.spare workflow.maxSteps 1 reaches.two_le)
  have first : workflow.graph.node .classify ⟨query, none, none, 0, subject, roles, requestId⟩ =
      pure (.ok ⟨query, some (settled answer), none, 1, subject, roles, requestId⟩) :=
    classify_eq _ asked (workflow.runner.spare workflow.maxSteps 1 reaches.two_le)
  have onward : workflow.graph.next .classify ⟨query, some (settled answer), none, 1, subject, roles, requestId⟩ =
      some (settled answer).route.node := rfl
  have ran := StateGraph.runFrom_step (more + 1) starts first onward
  rw [show more + 1 + 1 = workflow.maxSteps from steps.symm] at ran
  exact ⟨more, congrArg (· >>= _) ran⟩

theorem investigate_failing {failing : m (GraphError WorkflowError)}
    (ran : workflow.graph.runFrom workflow.runner workflow.maxSteps workflow.maxSteps 0 .classify
      ⟨query, none, none, 0, subject, roles, requestId⟩ = failing >>= fun error => pure (.error error)) :
    workflow.investigate query subject roles requestId =
      (WorkflowError.ofGraph <$> failing) >>= fun error => pure (.error error) := by
  rw [investigate, StateGraph.invoke, show workflow.graph.entry = .classify from rfl, ran, bind_assoc, bind_map_left]
  refine bind_congr fun error => ?_
  rw [pure_bind]
  rfl

/-- Without enough steps an investigation raises, whatever its specialist does before. -/
theorem investigate_stopped (asked : workflow.model query = pure answer) (short : ¬ workflow.Reaches) :
    ∃ failing : m WorkflowError, workflow.investigate query subject roles requestId =
      failing >>= fun error => pure (.error error) := by
  suffices failed : ∃ failing : m (GraphError WorkflowError),
      workflow.graph.runFrom workflow.runner workflow.maxSteps workflow.maxSteps 0 .classify
        ⟨query, none, none, 0, subject, roles, requestId⟩ = failing >>= fun error => pure (.error error) by
    obtain ⟨failing, ran⟩ := failed
    exact ⟨_, investigate_failing ran⟩
  obtain ⟨more, steps⟩ := Nat.exists_eq_add_of_le' workflow.maxStepsPositive
  cases starts : workflow.runner.starts workflow.maxSteps 0 with
  | false => exact ⟨pure .recursion, by rw [StateGraph.runFrom_over _ starts, pure_bind]⟩
  | true =>
    rcases supervisor_cases asked with ⟨errorCode, routed⟩ | stopped
    · have first : workflow.graph.node .classify ⟨query, none, none, 0, subject, roles, requestId⟩ =
          pure (.ok ⟨query, some (settled answer), none, 1, subject, roles, requestId⟩) := by
        change workflow.classify _ = _
        rw [classify, routed, pure_bind]
        rfl
      have onward : workflow.graph.next .classify ⟨query, some (settled answer), none, 1, subject, roles, requestId⟩ =
          some (settled answer).route.node := rfl
      have ran := StateGraph.runFrom_step more starts first onward
      rw [← steps] at ran
      rw [ran]
      exact StateGraph.runFrom_short more (workflow.next_specialist _) (Bool.eq_false_iff.mpr short)
    · have first : workflow.graph.node .classify ⟨query, none, none, 0, subject, roles, requestId⟩ =
          pure (.error .recursionLimit) := by
        change workflow.classify _ = _
        rw [classify, stopped, pure_bind]
      have ran := StateGraph.runFrom_raised more starts first
      rw [← steps] at ran
      exact ⟨pure (.raised .recursionLimit), by rw [ran, pure_bind]⟩

theorem investigate_review (asked : workflow.model query = pure answer) (reaches : workflow.Reaches)
    (route : (settled answer).route = .humanReview) :
    workflow.investigate query subject roles requestId =
      pure (.ok ⟨settled answer, humanReviewResult (settled answer), 2, Nat.le_refl 2⟩) := by
  obtain ⟨more, investigated⟩ := @investigate_eq _ _ _ workflow query subject requestId roles _ asked reaches
  have ended : workflow.graph.node .humanReview ⟨query, some (settled answer), none, 1, subject, roles, requestId⟩ =
      pure (.ok ⟨query, some (settled answer), some (humanReviewResult (settled answer)), 2, subject, roles,
        requestId⟩) := rfl
  rw [investigated, proceed, route, AgentRoute.node, StateGraph.runFrom_end more reaches ended rfl, pure_bind]
  rfl

theorem investigate_invalid (asked : workflow.model query = pure answer) (reaches : workflow.Reaches)
    {agent : AgentName} (node : (settled answer).route.node = .specialist agent)
    (invalid : CallerContext.make subject roles agent requestId = none) :
    workflow.investigate query subject roles requestId = pure (.error .validation) := by
  obtain ⟨more, investigated⟩ := @investigate_eq _ _ _ workflow query subject requestId roles _ asked reaches
  have stopped : workflow.graph.node (.specialist agent)
      ⟨query, some (settled answer), none, 1, subject, roles, requestId⟩ = pure (.error .validation) := by
    simp only [graph_specialist, runSpecialist, invalid]
  rw [investigated, proceed, node, StateGraph.runFrom_raised more reaches.starts stopped, pure_bind]
  rfl

theorem investigate_specialist (asked : workflow.model query = pure answer) (reaches : workflow.Reaches)
    {agent : AgentName} (node : (settled answer).route.node = .specialist agent) {caller : CallerContext}
    (made : CallerContext.make subject roles agent requestId = some caller) :
    workflow.investigate query subject roles requestId =
      workflow.specialist agent query caller >>= fun result =>
        pure (.ok ⟨settled answer, result.toOption.getD specialistFailure, 2, Nat.le_refl 2⟩) := by
  obtain ⟨more, investigated⟩ := @investigate_eq _ _ _ workflow query subject requestId roles _ asked reaches
  have last (state : OperationsState) : workflow.graph.next (.specialist agent) state = none := rfl
  rw [investigated, proceed, node, StateGraph.runFrom_last more reaches.starts last, graph_specialist]
  simp only [runSpecialist, made, bind_assoc, pure_bind]
  refine bind_congr fun stepped => ?_
  simp only [if_pos (show workflow.runner.ends workflow.maxSteps (1 + 1) = true from reaches)]
  rfl

end

/-! ## Specialists without effect -/

theorem node_cases (route : AgentRoute) :
    (route = .humanReview ∧ route.node = .humanReview) ∨
      (route ≠ .humanReview ∧ ∃ agent, route.node = .specialist agent) := by
  cases route with
  | customer => exact .inr ⟨by simp, .customer, rfl⟩
  | payments => exact .inr ⟨by simp, .payments, rfl⟩
  | policy => exact .inr ⟨by simp, .policy, rfl⟩
  | humanReview => exact .inl ⟨rfl, rfl⟩

end OperationsWorkflow

end AgentPlatform.Orchestration
