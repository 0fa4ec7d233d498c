import AgentPlatform.McpBoundary.Gateway

/-! # Mediation of tool calls

What every interleaving of calls keeps: of each call, its own observations tell that it passed the
gates; of each limiter key, its admissions stay within the limit. -/

namespace AgentPlatform.McpBoundary

open RateLimit SlidingWindow

variable {Arguments Input Raw Output : Type}

namespace Observation

def id : Observation Arguments Input Raw Output → Option Nat
  | .invoked id .. | .admitted id .. | .rateRefused id .. | .handlerStarted id .. | .handlerEnded id ..
  | .audited id .. | .returned id .. | .raised id .. => some id
  | .counted .. => none

def isStart : Observation Arguments Input Raw Output → Bool
  | .handlerStarted .. => true
  | _ => false

def admission (key : String) : Observation Arguments Input Raw Output → Option Rat
  | .admitted _ subject tool now => if rateKey subject tool = key then some now else none
  | _ => none

/-- A refusal for the tool, the agent, the role or the rate. -/
def IsDenial : Observation Arguments Input Raw Output → Prop
  | .raised _ (.gateway (.toolNotFound _)) | .raised _ (.gateway (.accessDenied _)) => True
  | _ => False

def IsAdmission : Observation Arguments Input Raw Output → Prop
  | .admitted .. => True
  | _ => False

/-- It tells of nothing that a gate decides. -/
def IsQuiet : Observation Arguments Input Raw Output → Prop
  | .admitted .. | .rateRefused .. | .handlerStarted .. | .returned .. => False
  | _ => True

/-- It is an observation of the call, or of no call. -/
def Concerns (id : Nat) (observation : Observation Arguments Input Raw Output) : Prop :=
  observation.id = some id ∨ observation.id = none

end Observation

def callLog (id : Nat) (log : List (Observation Arguments Input Raw Output)) :
    List (Observation Arguments Input Raw Output) :=
  log.filter fun observation => observation.id = some id

def admissions (key : String) (log : List (Observation Arguments Input Raw Output)) : List Rat :=
  log.filterMap (Observation.admission key)

namespace GovernedMCPGateway

variable (gateway : GovernedMCPGateway Arguments Input Raw Output)

/-- The call passed every gate before: a registered tool, its agents, its roles, its limiter and its
    input model. -/
def Authorized (before : List (Observation Arguments Input Raw Output)) (id : Nat) (tool : String)
    (input : Input) (caller : CallerContext) : Prop :=
  ∃ registration arguments now, gateway.lookup tool = some registration ∧
    .invoked id tool arguments caller ∈ before ∧ caller.agent.name ∈ registration.allowedAgents ∧
    registration.requiredRoles ⊆ caller.roles ∧ registration.inputModel arguments = some input ∧
    .admitted id caller.subject tool now ∈ before

/-- The output is what the tool's output model made of a result of the call's handler. -/
def Validated (before : List (Observation Arguments Input Raw Output)) (id : Nat) (output : Output) : Prop :=
  ∃ registration tool arguments caller raw, gateway.lookup tool = some registration ∧
    .invoked id tool arguments caller ∈ before ∧ .handlerEnded id (.returned raw) ∈ before ∧
    registration.outputModel raw = some output

/-- What an observation of a call tells of those before it. -/
def Grounded (before : List (Observation Arguments Input Raw Output)) :
    Observation Arguments Input Raw Output → Prop
  | .handlerStarted id tool input caller => gateway.Authorized before id tool input caller
  | .returned id output => gateway.Validated before id output
  | _ => True

structure CallMediated (call : List (Observation Arguments Input Raw Output)) : Prop where
  grounded : Throughout gateway.Grounded call
  attempts : call.countP Observation.isStart ≤ gateway.maxAttempts
  denied : ∀ denial ∈ call, denial.IsDenial →
    ∀ observation ∈ call, ¬ observation.IsAdmission ∧ observation.isStart = false

/-- What the limiter answers of the admissions before. -/
def Metering (before : List (Observation Arguments Input Raw Output)) :
    Observation Arguments Input Raw Output → Prop
  | .admitted _ subject tool now =>
    admittedIn (gateway.rateWindow : Rat) now (admissions (rateKey subject tool) before) < gateway.rateLimit
  | .rateRefused _ subject tool now =>
    gateway.rateLimit ≤ admittedIn (gateway.rateWindow : Rat) now (admissions (rateKey subject tool) before)
  | _ => True

structure CallRunning (pending : PendingInvocation Arguments Input Raw Output)
    (call : List (Observation Arguments Input Raw Output)) : Prop where
  authorized : gateway.Authorized call pending.id pending.registration.name pending.input pending.caller
  registered : gateway.lookup pending.registration.name = some pending.registration
  counted : call.countP Observation.isStart = pending.attempts
  bounded : pending.attempts ≤ gateway.maxAttempts
  undenied : ∀ observation ∈ call, ¬ observation.IsDenial

/-- What every run keeps. -/
structure Governed (state : InvocationState Arguments Input Raw Output)
    (log : List (Observation Arguments Input Raw Output)) : Prop where
  mediated : ∀ id, gateway.CallMediated (callLog id log)
  running : ∀ call ∈ state.pending, call.id < state.next ∧ gateway.CallRunning call (callLog call.id log)
  fresh : ∀ id, state.next ≤ id → callLog id log = []
  metering : Throughout gateway.Metering log
  metered : ∀ key,
    Metered (gateway.rateWindow : Rat) state.now (admissions key log) (state.requests key)

end GovernedMCPGateway

theorem callLog_append (id : Nat) (first second : List (Observation Arguments Input Raw Output)) :
    callLog id (first ++ second) = callLog id first ++ callLog id second :=
  List.filter_append ..

theorem admissions_append (key : String) (first second : List (Observation Arguments Input Raw Output)) :
    admissions key (first ++ second) = admissions key first ++ admissions key second :=
  List.filterMap_append

theorem callLog_of_other {id other : Nat} {out : List (Observation Arguments Input Raw Output)}
    (own : ∀ observation ∈ out, observation.Concerns id) (apart : other ≠ id) :
    callLog other out = [] := by
  rw [callLog, List.filter_eq_nil_iff]
  intro observation member
  rcases own observation member with same | none
  · simpa [same] using Ne.symm apart
  · simp [none]

namespace ToolRegistration

/-- What the end of a handler means to the caller when no attempt follows it. -/
def answered (registration : ToolRegistration Arguments Input Raw Output) : HandlerOutcome Raw →
    Except InvocationError Output
  | .returned raw =>
    match registration.outputModel raw with
    | some output => .ok output
    | none => .error (.gateway .noValidResult)
  | .timedOut => .error (.gateway .timedOut)
  | .lookupOrValidation => .error (.gateway .noValidResult)
  | .failed => .error (.gateway .executionFailed)
  | .interrupted => .error .interrupted

variable {registration : ToolRegistration Arguments Input Raw Output} {ended : HandlerOutcome Raw}

theorem answered_ok {output : Output} (answer : registration.answered ended = .ok output) :
    ∃ raw, ended = .returned raw ∧ registration.outputModel raw = some output := by
  cases ended with
  | returned raw =>
    refine ⟨raw, rfl, ?_⟩
    cases valid : registration.outputModel raw with
    | some other =>
      simp only [answered, valid, Except.ok.injEq] at answer
      rw [answer]
    | none => simp only [answered, valid, reduceCtorEq] at answer
  | _ => cases answer

theorem answered_gateway {error : InvocationError} (answer : registration.answered ended = .error error) :
    (∃ message, error = .gateway (.toolFailure message)) ∨ ended = .interrupted ∧ error = .interrupted := by
  cases ended with
  | returned raw =>
    cases valid : registration.outputModel raw with
    | some other => simp only [answered, valid, reduceCtorEq] at answer
    | none =>
      simp only [answered, valid, Except.error.injEq] at answer
      exact .inl ⟨_, answer.symm⟩
  | interrupted => exact .inr ⟨rfl, (Except.error.inj answer).symm⟩
  | _ => exact .inl ⟨_, (Except.error.inj answer).symm⟩

theorem answered_error {error : InvocationError} (answer : registration.answered ended = .error error)
    (message : String) : error ≠ .gateway (.toolNotFound message) ∧ error ≠ .gateway (.accessDenied message) := by
  rcases answered_gateway answer with ⟨_, rfl⟩ | ⟨-, rfl⟩
  · exact ⟨by simp, by simp⟩
  · exact ⟨by simp, by simp⟩

end ToolRegistration

namespace GovernedMCPGateway

variable {gateway : GovernedMCPGateway Arguments Input Raw Output}

theorem lookup_name {tool : String} {registration : ToolRegistration Arguments Input Raw Output}
    (found : gateway.lookup tool = some registration) : registration.name = tool := by
  simpa using List.find?_some found

theorem Authorized.mono {before more : List (Observation Arguments Input Raw Output)} {id : Nat}
    {tool : String} {input : Input} {caller : CallerContext}
    (authorized : gateway.Authorized before id tool input caller) (wider : before ⊆ more) :
    gateway.Authorized more id tool input caller := by
  obtain ⟨registration, arguments, now, found, invoked, agent, roles, valid, admitted⟩ := authorized
  exact ⟨registration, arguments, now, found, wider invoked, agent, roles, valid, wider admitted⟩

theorem Validated.mono {before more : List (Observation Arguments Input Raw Output)} {id : Nat}
    {output : Output} (validated : gateway.Validated before id output) (wider : before ⊆ more) :
    gateway.Validated more id output := by
  obtain ⟨registration, tool, arguments, caller, raw, found, invoked, ended, valid⟩ := validated
  exact ⟨registration, tool, arguments, caller, raw, found, wider invoked, wider ended, valid⟩

/-! ## What a step observes -/

theorem conclude_error (state : InvocationState Arguments Input Raw Output) (id : Nat)
    (caller : CallerContext) (tool fingerprint : String) (outcome : AuditOutcome) (elapsed : Rat)
    (attempts : Nat) (error : InvocationError) :
    ∃ audit out, gateway.conclude state id caller tool fingerprint outcome elapsed attempts
        (.error error) = ({ state with audit := audit }, out) ∧
      (∀ observation ∈ out, observation.IsQuiet ∧ observation.Concerns id) ∧
      ((∀ message, error ≠ .gateway (.toolNotFound message) ∧ error ≠ .gateway (.accessDenied message)) →
        ∀ observation ∈ out, ¬ observation.IsDenial) := by
  refine ⟨_, _, rfl, ?_, fun other => ?_⟩
  · simp [Observation.IsQuiet, Observation.Concerns, Observation.id]
  · simp only [List.mem_cons, List.not_mem_nil, or_false, forall_eq_or_imp, forall_eq]
    refine ⟨not_false, not_false, fun denial => ?_⟩
    unfold Observation.IsDenial at denial
    split at denial
    all_goals simp_all

theorem conclude_ok (state : InvocationState Arguments Input Raw Output) (id : Nat)
    (caller : CallerContext) (tool fingerprint : String) (outcome : AuditOutcome) (elapsed : Rat)
    (attempts : Nat) (output : Output) :
    ∃ audit record, gateway.conclude state id caller tool fingerprint outcome elapsed attempts (.ok output) =
      ({ state with audit := audit },
        [.counted (gateway.toolLabel tool) outcome, .audited id record, .returned id output]) :=
  ⟨_, _, rfl⟩

theorem begin_cases (state : InvocationState Arguments Input Raw Output) (now elapsed : Rat)
    (tool : String) (arguments : Arguments) (caller : CallerContext) :
    (∃ audit out, gateway.begin state now elapsed tool arguments caller =
        ({ state with now := now, next := state.next + 1, audit := audit },
          .invoked state.next tool arguments caller :: out) ∧
      ∀ observation ∈ out, observation.IsQuiet ∧ observation.Concerns state.next) ∨
    (∃ audit out kept,
      RateLimit.check gateway.rateLimit (gateway.rateWindow : Rat) now
        (state.requests (rateKey caller.subject tool)) = (false, kept) ∧
      gateway.begin state now elapsed tool arguments caller =
        ({ state with
            now := now
            next := state.next + 1
            requests := Function.update state.requests (rateKey caller.subject tool) kept
            audit := audit },
          .invoked state.next tool arguments caller :: .rateRefused state.next caller.subject tool now ::
            out) ∧
      ∀ observation ∈ out, observation.IsQuiet ∧ observation.Concerns state.next) ∨
    (∃ audit out kept,
      RateLimit.check gateway.rateLimit (gateway.rateWindow : Rat) now
        (state.requests (rateKey caller.subject tool)) = (true, kept) ∧
      gateway.begin state now elapsed tool arguments caller =
        ({ state with
            now := now
            next := state.next + 1
            requests := Function.update state.requests (rateKey caller.subject tool) kept
            audit := audit },
          .invoked state.next tool arguments caller :: .admitted state.next caller.subject tool now ::
            out) ∧
      ∀ observation ∈ out, observation.IsQuiet ∧ observation.Concerns state.next ∧
        ¬ observation.IsDenial) ∨
    (∃ registration input fingerprint kept,
      gateway.lookup tool = some registration ∧ caller.agent.name ∈ registration.allowedAgents ∧
      registration.requiredRoles ⊆ caller.roles ∧ registration.inputModel arguments = some input ∧
      RateLimit.check gateway.rateLimit (gateway.rateWindow : Rat) now
        (state.requests (rateKey caller.subject tool)) = (true, kept) ∧
      gateway.begin state now elapsed tool arguments caller =
        ({ state with
            now := now
            next := state.next + 1
            requests := Function.update state.requests (rateKey caller.subject tool) kept
            pending := ⟨state.next, registration, input, caller, fingerprint, 1, .error⟩ :: state.pending },
          [.invoked state.next tool arguments caller, .admitted state.next caller.subject tool now,
            .handlerStarted state.next tool input caller])) := by
  simp only [begin]
  cases gateway.fingerprint arguments with
  | none =>
    refine .inl ⟨state.audit, _, rfl, ?_⟩
    simp [Observation.IsQuiet, Observation.Concerns, Observation.id]
  | some fingerprint =>
    have denied (started : InvocationState Arguments Input Raw Output) (error : InvocationError) :=
      gateway.conclude_error started state.next caller tool fingerprint .denied elapsed 0 error
    simp only [admitCall]
    split
    · obtain ⟨audit, out, concluded, calm, -⟩ := denied
        { state with now := now, next := state.next + 1 } (.gateway .notApproved)
      exact .inl ⟨audit, out, by rw [concluded], calm⟩
    · rename_i registration found
      split
      · obtain ⟨audit, out, concluded, calm, -⟩ := denied
          { state with now := now, next := state.next + 1 } (.gateway .agentDenied)
        exact .inl ⟨audit, out, by rw [concluded], calm⟩
      · rename_i agent
        split
        · obtain ⟨audit, out, concluded, calm, -⟩ := denied
            { state with now := now, next := state.next + 1 } (.gateway .roleDenied)
          exact .inl ⟨audit, out, by rw [concluded], calm⟩
        · rename_i roles
          split
          · rename_i kept checked
            obtain ⟨audit, out, concluded, calm, -⟩ := denied
              { state with
                now := now
                next := state.next + 1
                requests := Function.update state.requests (rateKey caller.subject tool) kept }
              (.gateway .rateLimited)
            exact .inr (.inl ⟨audit, out, kept, checked, by rw [concluded], calm⟩)
          · rename_i kept checked
            cases valid : registration.inputModel arguments with
            | none =>
              obtain ⟨audit, out, concluded, calm, undenied⟩ := gateway.conclude_error
                { state with
                  now := now
                  next := state.next + 1
                  requests := Function.update state.requests (rateKey caller.subject tool) kept }
                state.next caller tool fingerprint .invalid elapsed 0 (.gateway .badArguments)
              have allowed := undenied fun message => by simp [MCPGatewayError.badArguments]
              refine .inr (.inr (.inl ⟨audit, out, kept, checked, ?_, ?_⟩))
              · simp only [concluded]
              · exact fun observation member =>
                  ⟨(calm observation member).1, (calm observation member).2, allowed observation member⟩
            | some input =>
              exact .inr (.inr (.inr ⟨registration, input, fingerprint, kept, found, not_not.mp agent,
                not_not.mp roles, valid, checked, rfl⟩))

theorem resume_cases (state : InvocationState Arguments Input Raw Output)
    (call : PendingInvocation Arguments Input Raw Output) (elapsed : Rat) (ended : HandlerOutcome Raw) :
    (∃ outcome, gateway.resume state call elapsed ended =
        gateway.conclude state call.id call.caller call.registration.name call.fingerprint outcome elapsed
          call.attempts (call.registration.answered ended)) ∨
    (∃ outcome, call.attempts ≠ gateway.maxAttempts ∧ gateway.resume state call elapsed ended =
        ({ state with pending := { call with attempts := call.attempts + 1, outcome := outcome } :: state.pending },
          [.handlerStarted call.id call.registration.name call.input call.caller])) := by
  cases ended with
  | returned raw =>
    cases valid : call.registration.outputModel raw with
    | some output => exact .inl ⟨.success, by simp only [resume, ToolRegistration.answered, valid]⟩
    | none => exact .inl ⟨.error, by simp only [resume, ToolRegistration.answered, valid]⟩
  | timedOut =>
    by_cases left : call.attempts < gateway.maxAttempts
    · exact .inr ⟨.timeout, left.ne, by simp only [resume, if_pos left]⟩
    · exact .inl ⟨.timeout, by simp only [resume, if_neg left, ToolRegistration.answered]⟩
  | lookupOrValidation => exact .inl ⟨.error, rfl⟩
  | failed =>
    by_cases last : call.attempts = gateway.maxAttempts
    · exact .inl ⟨.error, by simp only [resume, if_pos last, ToolRegistration.answered]⟩
    · exact .inr ⟨.error, last, by simp only [resume, if_neg last]⟩
  | interrupted => exact .inl ⟨call.outcome, rfl⟩

/-- The end of a handler ends the call with an error, returns a validated output, or starts one more
    attempt. -/
theorem settle_cases (state : InvocationState Arguments Input Raw Output)
    (call : PendingInvocation Arguments Input Raw Output) (elapsed : Rat) (ended : HandlerOutcome Raw)
    (bounded : call.attempts ≤ gateway.maxAttempts) :
    (∃ audit out, gateway.settle state call elapsed ended =
        ({ state with pending := state.pending.filter fun other => other.id ≠ call.id, audit := audit },
          .handlerEnded call.id ended :: out) ∧
      ∀ observation ∈ out, observation.IsQuiet ∧ observation.Concerns call.id ∧
        ¬ observation.IsDenial) ∨
    (∃ audit outcome record raw output, ended = .returned raw ∧
      call.registration.outputModel raw = some output ∧
      gateway.settle state call elapsed ended =
        ({ state with pending := state.pending.filter fun other => other.id ≠ call.id, audit := audit },
          [.handlerEnded call.id ended, .counted (gateway.toolLabel call.registration.name) outcome,
            .audited call.id record, .returned call.id output])) ∨
    (∃ outcome, call.attempts < gateway.maxAttempts ∧
      gateway.settle state call elapsed ended =
        ({ state with pending := { call with attempts := call.attempts + 1, outcome := outcome } ::
            state.pending.filter fun other => other.id ≠ call.id },
          [.handlerEnded call.id ended,
            .handlerStarted call.id call.registration.name call.input call.caller])) := by
  have resumed := gateway.resume_cases
    { state with pending := state.pending.filter fun other => other.id ≠ call.id } call elapsed ended
  rcases resumed with ⟨outcome, concluded⟩ | ⟨outcome, more, again⟩
  · cases answer : call.registration.answered ended with
    | ok output =>
      obtain ⟨raw, rfl, valid⟩ := ToolRegistration.answered_ok answer
      obtain ⟨audit, record, closed⟩ := gateway.conclude_ok
        { state with pending := state.pending.filter fun other => other.id ≠ call.id } call.id call.caller
        call.registration.name call.fingerprint outcome elapsed call.attempts output
      refine .inr (.inl ⟨audit, outcome, record, raw, output, rfl, valid, ?_⟩)
      rw [settle, concluded, answer, closed]
    | error error =>
      obtain ⟨audit, out, closed, calm, undenied⟩ := gateway.conclude_error
        { state with pending := state.pending.filter fun other => other.id ≠ call.id } call.id call.caller
        call.registration.name call.fingerprint outcome elapsed call.attempts error
      refine .inl ⟨audit, out, by rw [settle, concluded, answer, closed], fun observation member => ?_⟩
      exact ⟨(calm observation member).1, (calm observation member).2,
        undenied (ToolRegistration.answered_error answer) observation member⟩
  · refine .inr (.inr ⟨outcome, by omega, ?_⟩)
    rw [settle, again]

end GovernedMCPGateway

/-! ## Observations that no gate decides -/

namespace Observation

variable {observation : Observation Arguments Input Raw Output}

theorem IsQuiet.grounded (quiet : observation.IsQuiet) (gateway : GovernedMCPGateway Arguments Input Raw Output)
    (before : List (Observation Arguments Input Raw Output)) : gateway.Grounded before observation := by
  cases observation <;> first | exact quiet.elim | trivial

theorem IsQuiet.metering (quiet : observation.IsQuiet) (gateway : GovernedMCPGateway Arguments Input Raw Output)
    (before : List (Observation Arguments Input Raw Output)) : gateway.Metering before observation := by
  cases observation <;> first | exact quiet.elim | trivial

theorem IsQuiet.isStart (quiet : observation.IsQuiet) : observation.isStart = false := by
  cases observation <;> first | exact quiet.elim | rfl

theorem IsQuiet.not_isAdmission (quiet : observation.IsQuiet) : ¬ observation.IsAdmission := by
  cases observation <;> first | exact quiet.elim | exact not_false

theorem admission_of_not_isAdmission (key : String) (other : ¬ observation.IsAdmission) :
    observation.admission key = none := by
  cases observation <;> first | exact absurd trivial other | rfl

end Observation

theorem admissions_eq_nil (key : String) {out : List (Observation Arguments Input Raw Output)}
    (others : ∀ observation ∈ out, ¬ observation.IsAdmission) : admissions key out = [] :=
  List.filterMap_eq_nil_iff.mpr fun observation member =>
    Observation.admission_of_not_isAdmission key (others observation member)

theorem admissions_cons (key : String) (observation : Observation Arguments Input Raw Output)
    (rest : List (Observation Arguments Input Raw Output)) :
    admissions key (observation :: rest) = (observation.admission key).toList ++ admissions key rest := by
  cases found : observation.admission key with
  | none => simp [admissions, found]
  | some now => simp [admissions, found]

theorem admissions_of_admission (key : String) (id : Nat) (tool : String) (arguments : Arguments)
    (caller : CallerContext) (now : Rat) (rest : List (Observation Arguments Input Raw Output)) :
    admissions key (.invoked id tool arguments caller :: .admitted id caller.subject tool now :: rest) =
      (if rateKey caller.subject tool = key then [now] else []) ++ admissions key rest := by
  rw [admissions_cons, admissions_cons]
  by_cases same : rateKey caller.subject tool = key
  · simp [Observation.admission, same]
  · simp [Observation.admission, same]

theorem countP_isStart_of_idle {out : List (Observation Arguments Input Raw Output)}
    (idle : ∀ observation ∈ out, observation.isStart = false) : out.countP Observation.isStart = 0 :=
  List.countP_eq_zero.mpr fun observation member => by simp [idle observation member]

theorem mem_of_mem_callLog {id : Nat} {log : List (Observation Arguments Input Raw Output)}
    {observation : Observation Arguments Input Raw Output} (member : observation ∈ callLog id log) :
    observation ∈ log :=
  (List.mem_filter.mp member).1

namespace GovernedMCPGateway

variable {gateway : GovernedMCPGateway Arguments Input Raw Output}

theorem CallMediated.extend {call out : List (Observation Arguments Input Raw Output)}
    (mediated : gateway.CallMediated call) (undenied : ∀ observation ∈ call, ¬ observation.IsDenial)
    (grounded : Throughout (fun before observation => gateway.Grounded (call ++ before) observation) out)
    (attempts : call.countP Observation.isStart + out.countP Observation.isStart ≤ gateway.maxAttempts)
    (allowed : ∀ observation ∈ out, ¬ observation.IsDenial) : gateway.CallMediated (call ++ out) where
  grounded := mediated.grounded.append grounded
  attempts := by rwa [List.countP_append]
  denied denial member isDenial :=
    ((List.mem_append.mp member).elim (undenied denial) (allowed denial) isDenial).elim

theorem CallMediated.of_quiet {call : List (Observation Arguments Input Raw Output)}
    (grounded : ∀ observation ∈ call, ∀ before, gateway.Grounded before observation)
    (idle : ∀ observation ∈ call, observation.isStart = false)
    (unadmitted : ∀ observation ∈ call, ¬ observation.IsAdmission) : gateway.CallMediated call where
  grounded := .of_forall_mem grounded
  attempts := by
    rw [countP_isStart_of_idle idle]
    exact Nat.zero_le _
  denied _ _ _ observation member := ⟨unadmitted observation member, idle observation member⟩

theorem Governed.extend {state next : InvocationState Arguments Input Raw Output}
    {log out : List (Observation Arguments Input Raw Output)} (governed : gateway.Governed state log) (id : Nat)
    (own : ∀ observation ∈ out, observation.Concerns id) (onward : state.next ≤ next.next)
    (known : id < next.next) (mediated : gateway.CallMediated (callLog id log ++ callLog id out))
    (running : ∀ call ∈ next.pending, (call ∈ state.pending ∧ call.id ≠ id) ∨
      (call.id = id ∧ gateway.CallRunning call (callLog id log ++ callLog id out)))
    (metering : Throughout (fun before observation => gateway.Metering (log ++ before) observation) out)
    (metered : ∀ key, Metered (gateway.rateWindow : Rat) next.now (admissions key log ++ admissions key out)
      (next.requests key)) : gateway.Governed next (log ++ out) where
  mediated other := by
    rw [callLog_append]
    by_cases same : other = id
    · rwa [same]
    · rw [callLog_of_other own same, List.append_nil]
      exact governed.mediated other
  running call member := by
    rw [callLog_append]
    rcases running call member with ⟨waiting, apart⟩ | ⟨same, runs⟩
    · obtain ⟨older, runs⟩ := governed.running call waiting
      rw [callLog_of_other own apart, List.append_nil]
      exact ⟨older.trans_le onward, runs⟩
    · rw [same]
      exact ⟨known, runs⟩
  fresh other later := by
    rw [callLog_append, governed.fresh other (onward.trans later), callLog_of_other own (by omega)]
    rfl
  metering := governed.metering.append metering
  metered key := by
    rw [admissions_append]
    exact metered key

theorem Governed.initial (start : Rat) : gateway.Governed (gateway.machine start).init [] where
  mediated _ := .of_quiet (by simp [callLog]) (by simp [callLog]) (by simp [callLog])
  running _ member := (List.not_mem_nil member).elim
  fresh _ _ := rfl
  metering := .nil _
  metered _ := .empty _ _

theorem metered_update {requests : String → List Rat} {key : String} {kept : List Rat} {now later : Rat}
    {history added : String → List Rat}
    (metered : ∀ key, Metered (gateway.rateWindow : Rat) now (history key) (requests key))
    (onward : now ≤ later) (asked : Metered (gateway.rateWindow : Rat) later (history key ++ added key) kept)
    (others : ∀ other, other ≠ key → added other = []) (other : String) :
    Metered (gateway.rateWindow : Rat) later (history other ++ added other)
      (Function.update requests key kept other) := by
  by_cases same : other = key
  · rw [same, Function.update_self]
    exact asked
  · rw [Function.update_of_ne same, others other same, List.append_nil]
    exact (metered other).advance onward

theorem asked_after (key : String) (log : List (Observation Arguments Input Raw Output)) (id : Nat)
    (tool : String) (arguments : Arguments) (caller : CallerContext) :
    admissions key (log ++ [.invoked id tool arguments caller]) = admissions key log := by
  rw [admissions_append, admissions_cons]
  exact List.append_nil _

theorem Governed.admission {state : InvocationState Arguments Input Raw Output}
    {log : List (Observation Arguments Input Raw Output)} {now : Rat} {caller : CallerContext}
    {tool : String} {kept : List Rat} (governed : gateway.Governed state log) (onward : state.now ≤ now)
    (admitted : RateLimit.check gateway.rateLimit (gateway.rateWindow : Rat) now
      (state.requests (rateKey caller.subject tool)) = (true, kept)) (id : Nat) (arguments : Arguments)
    (rest : List (Observation Arguments Input Raw Output))
    (unadmitted : ∀ observation ∈ rest, ¬ observation.IsAdmission)
    (unmetered : ∀ observation ∈ rest, ∀ before, gateway.Metering before observation) :
    Throughout (fun before observation => gateway.Metering (log ++ before) observation)
        (.invoked id tool arguments caller :: .admitted id caller.subject tool now :: rest) ∧
      ∀ key, Metered (gateway.rateWindow : Rat) now
        (admissions key log ++
          admissions key (.invoked id tool arguments caller :: .admitted id caller.subject tool now :: rest))
        (Function.update state.requests (rateKey caller.subject tool) kept key) := by
  obtain ⟨room, metered⟩ := (governed.metered _).of_admitted onward admitted
  constructor
  · refine .cons trivial (.cons ?_ (.of_forall_mem fun observation member _ =>
      unmetered observation member _))
    simpa only [Metering, asked_after] using room
  · refine metered_update governed.metered onward ?_ fun other apart => ?_
    · rwa [admissions_of_admission, admissions_eq_nil _ unadmitted, if_pos rfl]
    · rw [admissions_of_admission, admissions_eq_nil _ unadmitted, if_neg (Ne.symm apart)]
      rfl

theorem Governed.waiting {state : InvocationState Arguments Input Raw Output}
    {log : List (Observation Arguments Input Raw Output)} (governed : gateway.Governed state log)
    {call : PendingInvocation Arguments Input Raw Output} (member : call ∈ state.pending) :
    call ∈ state.pending ∧ call.id ≠ state.next :=
  ⟨member, (governed.running call member).1.ne⟩

theorem Governed.unasked {state : InvocationState Arguments Input Raw Output}
    {log rest : List (Observation Arguments Input Raw Output)} {now : Rat} {tool : String}
    {arguments : Arguments} {caller : CallerContext} {audit : List AuditRecord}
    (governed : gateway.Governed state log) (onward : state.now ≤ now)
    (calm : ∀ observation ∈ rest, observation.IsQuiet ∧ observation.Concerns state.next) :
    gateway.Governed { state with now := now, next := state.next + 1, audit := audit }
      (log ++ .invoked state.next tool arguments caller :: rest) := by
  have quiet : ∀ observation ∈ Observation.invoked state.next tool arguments caller :: rest,
      observation.IsQuiet := List.forall_mem_cons.mpr ⟨trivial, fun _ member => (calm _ member).1⟩
  refine governed.extend state.next
    (List.forall_mem_cons.mpr ⟨.inl rfl, fun _ member => (calm _ member).2⟩) (Nat.le_succ _)
    (Nat.lt_succ_self _) ?_ (fun call member => .inl (governed.waiting member))
    (.of_forall_mem fun observation member before => (quiet observation member).metering gateway _)
    fun key => ?_
  · rw [governed.fresh state.next le_rfl, List.nil_append]
    exact .of_quiet (fun _ member => (quiet _ (mem_of_mem_callLog member)).grounded gateway)
      (fun _ member => (quiet _ (mem_of_mem_callLog member)).isStart)
      (fun _ member => (quiet _ (mem_of_mem_callLog member)).not_isAdmission)
  · rw [admissions_eq_nil key fun _ member => (quiet _ member).not_isAdmission, List.append_nil]
    exact (governed.metered key).advance onward

theorem Governed.refused {state : InvocationState Arguments Input Raw Output}
    {log rest : List (Observation Arguments Input Raw Output)} {now : Rat} {tool : String}
    {arguments : Arguments} {caller : CallerContext} {audit : List AuditRecord} {kept : List Rat}
    (governed : gateway.Governed state log) (onward : state.now ≤ now)
    (refused : RateLimit.check gateway.rateLimit (gateway.rateWindow : Rat) now
      (state.requests (rateKey caller.subject tool)) = (false, kept))
    (calm : ∀ observation ∈ rest, observation.IsQuiet ∧ observation.Concerns state.next) :
    gateway.Governed
      { state with
        now := now
        next := state.next + 1
        requests := Function.update state.requests (rateKey caller.subject tool) kept
        audit := audit }
      (log ++ .invoked state.next tool arguments caller ::
        .rateRefused state.next caller.subject tool now :: rest) := by
  obtain ⟨full, metered⟩ := (governed.metered _).of_refused onward refused
  have plain : ∀ observation ∈ Observation.invoked state.next tool arguments caller ::
      .rateRefused state.next caller.subject tool now :: rest,
      (∀ before, gateway.Grounded before observation) ∧ observation.isStart = false ∧
        ¬ observation.IsAdmission :=
    List.forall_mem_cons.mpr ⟨⟨fun _ => trivial, rfl, not_false⟩, List.forall_mem_cons.mpr
      ⟨⟨fun _ => trivial, rfl, not_false⟩, fun _ member => ⟨(calm _ member).1.grounded gateway,
        (calm _ member).1.isStart, (calm _ member).1.not_isAdmission⟩⟩⟩
  refine governed.extend state.next (List.forall_mem_cons.mpr ⟨.inl rfl, List.forall_mem_cons.mpr
      ⟨.inl rfl, fun _ member => (calm _ member).2⟩⟩) (Nat.le_succ _) (Nat.lt_succ_self _) ?_
    (fun call member => .inl (governed.waiting member)) ?_ ?_
  · rw [governed.fresh state.next le_rfl, List.nil_append]
    exact .of_quiet (fun _ member => (plain _ (mem_of_mem_callLog member)).1)
      (fun _ member => (plain _ (mem_of_mem_callLog member)).2.1)
      (fun _ member => (plain _ (mem_of_mem_callLog member)).2.2)
  · refine .cons trivial (.cons ?_ (.of_forall_mem fun _ member _ => (calm _ member).1.metering gateway _))
    simpa only [Metering, asked_after] using full
  · have unadmitted (key : String) := admissions_eq_nil key fun _ member => (plain _ member).2.2
    refine metered_update governed.metered onward ?_ fun other _ => unadmitted other
    rwa [unadmitted, List.append_nil]

theorem Governed.invalid {state : InvocationState Arguments Input Raw Output}
    {log rest : List (Observation Arguments Input Raw Output)} {now : Rat} {tool : String}
    {arguments : Arguments} {caller : CallerContext} {audit : List AuditRecord} {kept : List Rat}
    (governed : gateway.Governed state log) (onward : state.now ≤ now)
    (admitted : RateLimit.check gateway.rateLimit (gateway.rateWindow : Rat) now
      (state.requests (rateKey caller.subject tool)) = (true, kept))
    (calm : ∀ observation ∈ rest, observation.IsQuiet ∧ observation.Concerns state.next ∧
      ¬ observation.IsDenial) :
    gateway.Governed
      { state with
        now := now
        next := state.next + 1
        requests := Function.update state.requests (rateKey caller.subject tool) kept
        audit := audit }
      (log ++ .invoked state.next tool arguments caller ::
        .admitted state.next caller.subject tool now :: rest) := by
  obtain ⟨metering, metered⟩ := governed.admission onward admitted state.next arguments rest
    (fun _ member => (calm _ member).1.not_isAdmission)
    fun _ member => (calm _ member).1.metering gateway
  have plain : ∀ observation ∈ Observation.invoked state.next tool arguments caller ::
      .admitted state.next caller.subject tool now :: rest,
      (∀ before, gateway.Grounded before observation) ∧ observation.isStart = false ∧
        ¬ observation.IsDenial :=
    List.forall_mem_cons.mpr ⟨⟨fun _ => trivial, rfl, not_false⟩, List.forall_mem_cons.mpr
      ⟨⟨fun _ => trivial, rfl, not_false⟩, fun _ member => ⟨(calm _ member).1.grounded gateway,
        (calm _ member).1.isStart, (calm _ member).2.2⟩⟩⟩
  refine governed.extend state.next (List.forall_mem_cons.mpr ⟨.inl rfl, List.forall_mem_cons.mpr
      ⟨.inl rfl, fun _ member => (calm _ member).2.1⟩⟩) (Nat.le_succ _) (Nat.lt_succ_self _) ?_
    (fun call member => .inl (governed.waiting member)) metering metered
  rw [governed.fresh state.next le_rfl]
  refine CallMediated.extend (.of_quiet (by simp) (by simp) (by simp)) (by simp) ?_ ?_ ?_
  · exact .of_forall_mem fun _ member before => (plain _ (mem_of_mem_callLog member)).1 before
  · rw [countP_isStart_of_idle fun _ member => (plain _ (mem_of_mem_callLog member)).2.1]
    exact Nat.zero_le _
  · exact fun _ member => (plain _ (mem_of_mem_callLog member)).2.2

theorem Governed.started {state : InvocationState Arguments Input Raw Output}
    {log : List (Observation Arguments Input Raw Output)} {now : Rat} {tool fingerprint : String}
    {arguments : Arguments} {caller : CallerContext} {kept : List Rat} {input : Input}
    {registration : ToolRegistration Arguments Input Raw Output} {outcome : AuditOutcome}
    (governed : gateway.Governed state log) (onward : state.now ≤ now)
    (found : gateway.lookup tool = some registration) (agent : caller.agent.name ∈ registration.allowedAgents)
    (roles : registration.requiredRoles ⊆ caller.roles) (valid : registration.inputModel arguments = some input)
    (admitted : RateLimit.check gateway.rateLimit (gateway.rateWindow : Rat) now
      (state.requests (rateKey caller.subject tool)) = (true, kept)) :
    gateway.Governed
      { state with
        now := now
        next := state.next + 1
        requests := Function.update state.requests (rateKey caller.subject tool) kept
        pending := ⟨state.next, registration, input, caller, fingerprint, 1, outcome⟩ :: state.pending }
      (log ++ [.invoked state.next tool arguments caller, .admitted state.next caller.subject tool now,
        .handlerStarted state.next tool input caller]) := by
  obtain ⟨metering, metered⟩ := governed.admission onward admitted state.next arguments
    [.handlerStarted state.next tool input caller] (by simp [Observation.IsAdmission])
    (by simp [Metering])
  have own : callLog state.next ([.invoked state.next tool arguments caller,
      .admitted state.next caller.subject tool now, .handlerStarted state.next tool input caller] :
      List (Observation Arguments Input Raw Output)) =
      [.invoked state.next tool arguments caller, .admitted state.next caller.subject tool now,
        .handlerStarted state.next tool input caller] := by
    simp [callLog, Observation.id]
  have authorized (before : List (Observation Arguments Input Raw Output))
      (invoked : .invoked state.next tool arguments caller ∈ before)
      (metered : .admitted state.next caller.subject tool now ∈ before) :
      gateway.Authorized before state.next tool input caller :=
    ⟨registration, arguments, now, found, invoked, agent, roles, valid, metered⟩
  refine governed.extend state.next (by simp [Observation.Concerns, Observation.id]) (Nat.le_succ _)
    (Nat.lt_succ_self _) ?_ (fun call member => ?_) metering metered
  · rw [governed.fresh state.next le_rfl, own]
    refine CallMediated.extend (.of_quiet (by simp) (by simp) (by simp)) (by simp) ?_ ?_ ?_
    · exact .cons trivial (.cons trivial (.cons (authorized _ (by simp) (by simp)) (.nil _)))
    · simpa [Observation.isStart] using gateway.attemptsPositive
    · simp [Observation.IsDenial]
  · rcases List.mem_cons.mp member with rfl | member
    · refine .inr ⟨rfl, ?_⟩
      rw [governed.fresh state.next le_rfl, own]
      refine ⟨?_, ?_, ?_, gateway.attemptsPositive, ?_⟩
      · rw [lookup_name found]
        exact authorized _ (by simp) (by simp)
      · rwa [lookup_name found]
      · simp [Observation.isStart]
      · simp [Observation.IsDenial]
    · exact .inl (governed.waiting member)

theorem begin_governed {state next : InvocationState Arguments Input Raw Output}
    {log out : List (Observation Arguments Input Raw Output)} {now elapsed : Rat} {tool : String}
    {arguments : Arguments} {caller : CallerContext} (governed : gateway.Governed state log)
    (onward : state.now ≤ now) (stepped : gateway.begin state now elapsed tool arguments caller = (next, out)) :
    gateway.Governed next (log ++ out) := by
  rcases gateway.begin_cases state now elapsed tool arguments caller with
    ⟨audit, rest, began, calm⟩ | ⟨audit, rest, kept, refused, began, calm⟩ |
    ⟨audit, rest, kept, admitted, began, calm⟩ |
    ⟨registration, input, fingerprint, kept, found, agent, roles, valid, admitted, began⟩
  · obtain ⟨rfl, rfl⟩ := Prod.mk.inj (began.symm.trans stepped)
    exact governed.unasked onward calm
  · obtain ⟨rfl, rfl⟩ := Prod.mk.inj (began.symm.trans stepped)
    exact governed.refused onward refused calm
  · obtain ⟨rfl, rfl⟩ := Prod.mk.inj (began.symm.trans stepped)
    exact governed.invalid onward admitted calm
  · obtain ⟨rfl, rfl⟩ := Prod.mk.inj (began.symm.trans stepped)
    exact governed.started onward found agent roles valid admitted

theorem Governed.settled {state : InvocationState Arguments Input Raw Output}
    {log out : List (Observation Arguments Input Raw Output)} {audit : List AuditRecord}
    {pending : List (PendingInvocation Arguments Input Raw Output)} (governed : gateway.Governed state log)
    (id : Nat) (known : id < state.next)
    (running : ∀ call ∈ pending, (call ∈ state.pending ∧ call.id ≠ id) ∨
      (call.id = id ∧ gateway.CallRunning call (callLog id log ++ callLog id out)))
    (plain : ∀ observation ∈ out, observation.Concerns id ∧ ¬ observation.IsAdmission ∧
      ∀ before, gateway.Metering before observation)
    (mediated : gateway.CallMediated (callLog id log ++ callLog id out)) :
    gateway.Governed { state with pending := pending, audit := audit } (log ++ out) := by
  refine governed.extend id (fun _ member => (plain _ member).1) le_rfl known mediated running
    (.of_forall_mem fun _ member before => (plain _ member).2.2 _) fun key => ?_
  rw [admissions_eq_nil key fun _ member => (plain _ member).2.1, List.append_nil]
  exact governed.metered key

theorem settle_governed {state next : InvocationState Arguments Input Raw Output}
    {log out : List (Observation Arguments Input Raw Output)} {elapsed : Rat}
    {call : PendingInvocation Arguments Input Raw Output} {ended : HandlerOutcome Raw}
    (governed : gateway.Governed state log) (waiting : call ∈ state.pending)
    (stepped : gateway.settle state call elapsed ended = (next, out)) : gateway.Governed next (log ++ out) := by
  obtain ⟨known, runs⟩ := governed.running call waiting
  have mediated := governed.mediated call.id
  have others : ∀ other ∈ state.pending.filter fun other => other.id ≠ call.id,
      other ∈ state.pending ∧ other.id ≠ call.id := by simp
  rcases gateway.settle_cases state call elapsed ended runs.bounded with
    ⟨audit, rest, settled, calm⟩ | ⟨audit, outcome, record, raw, output, rfl, valid, settled⟩ |
    ⟨outcome, left, settled⟩
  · obtain ⟨rfl, rfl⟩ := Prod.mk.inj (settled.symm.trans stepped)
    have plain : ∀ observation ∈ Observation.handlerEnded call.id ended :: rest,
        observation.IsQuiet ∧ observation.Concerns call.id ∧ ¬ observation.IsDenial :=
      List.forall_mem_cons.mpr ⟨⟨trivial, .inl rfl, not_false⟩, calm⟩
    refine governed.settled call.id known (fun other member => .inl (others other member))
      (fun _ member => ⟨(plain _ member).2.1, (plain _ member).1.not_isAdmission,
        (plain _ member).1.metering gateway⟩) (mediated.extend runs.undenied ?_ ?_ ?_)
    · exact .of_forall_mem fun _ member before =>
        (plain _ (mem_of_mem_callLog member)).1.grounded gateway _
    · rw [countP_isStart_of_idle fun _ member => (plain _ (mem_of_mem_callLog member)).1.isStart,
        runs.counted]
      exact runs.bounded
    · exact fun _ member => (plain _ (mem_of_mem_callLog member)).2.2
  · obtain ⟨rfl, rfl⟩ := Prod.mk.inj (settled.symm.trans stepped)
    obtain ⟨_, arguments, _, _, invoked, _⟩ := runs.authorized
    have own : callLog call.id ([.handlerEnded call.id (.returned raw),
        .counted (gateway.toolLabel call.registration.name) outcome, .audited call.id record,
        .returned call.id output] : List (Observation Arguments Input Raw Output)) =
        [.handlerEnded call.id (.returned raw), .audited call.id record, .returned call.id output] := by
      simp [callLog, Observation.id]
    refine governed.settled call.id known (fun other member => .inl (others other member))
      (by simp [Observation.Concerns, Observation.id, Observation.IsAdmission, Metering])
      (mediated.extend runs.undenied ?_ ?_ ?_)
    · rw [own]
      exact .cons trivial (.cons trivial (.cons ⟨call.registration, call.registration.name, arguments,
        call.caller, raw, runs.registered, by simp [invoked], by simp, valid⟩ (.nil _)))
    · rw [own]
      simpa [Observation.isStart, runs.counted] using runs.bounded
    · simp [own, Observation.IsDenial]
  · obtain ⟨rfl, rfl⟩ := Prod.mk.inj (settled.symm.trans stepped)
    have own : callLog call.id ([.handlerEnded call.id ended, .handlerStarted call.id call.registration.name
        call.input call.caller] : List (Observation Arguments Input Raw Output)) =
        [.handlerEnded call.id ended, .handlerStarted call.id call.registration.name call.input
          call.caller] := by
      simp [callLog, Observation.id]
    refine governed.settled call.id known (fun other member => ?_)
      (by simp [Observation.Concerns, Observation.id, Observation.IsAdmission, Metering])
      (mediated.extend runs.undenied ?_ ?_ ?_)
    · rcases List.mem_cons.mp member with rfl | member
      · refine .inr ⟨rfl, ?_⟩
        rw [own]
        refine ⟨runs.authorized.mono (List.subset_append_left _ _), runs.registered, ?_, left, ?_⟩
        · simp [Observation.isStart, runs.counted]
        · simpa [Observation.IsDenial, or_imp, forall_and] using runs.undenied
      · exact .inl (others other member)
    · rw [own]
      exact .cons trivial (.cons (runs.authorized.mono (List.subset_append_left _ _)) (.nil _))
    · rw [own]
      simpa [Observation.isStart, runs.counted, Nat.succ_le_iff] using left
    · simp [own, Observation.IsDenial]

/-- Every run of the gateway, whatever its callers and its handlers do. -/
theorem run_governed {start : Rat} {events : List (InvocationEvent Arguments Raw)}
    {final : InvocationState Arguments Input Raw Output}
    {log : List (Observation Arguments Input Raw Output)}
    (ran : (gateway.machine start).run events = some (final, log)) : gateway.Governed final log := by
  refine Machine.run_invariant gateway.Governed (.initial start) ?_ ran
  intro state before event next out governed stepped
  cases event with
  | invoke now elapsed tool arguments caller =>
    simp only [machine] at stepped
    split at stepped
    · cases stepped
    · rename_i onward
      exact begin_governed governed (not_lt.mp onward) (Option.some.inj stepped)
  | handlerEnds id elapsed ended =>
    simp only [machine, Option.map_eq_some_iff] at stepped
    obtain ⟨call, found, settled⟩ := stepped
    exact settle_governed governed (List.mem_of_find?_eq_some found) settled

theorem admission_eq_some {key : String} {observation : Observation Arguments Input Raw Output} {now : Rat}
    (same : observation.admission key = some now) :
    ∃ id subject tool, observation = .admitted id subject tool now ∧ rateKey subject tool = key := by
  cases observation with
  | admitted id subject tool instant =>
    simp only [Observation.admission, Option.ite_none_right_eq_some, Option.some.injEq] at same
    obtain ⟨sameKey, rfl⟩ := same
    exact ⟨id, subject, tool, rfl, sameKey⟩
  | _ => cases same

/-- No window of a key holds more admissions than the limit. -/
theorem Governed.admittedIn_le {state : InvocationState Arguments Input Raw Output}
    {log : List (Observation Arguments Input Raw Output)} (governed : gateway.Governed state log)
    (key : String) (t : Rat) :
    admittedIn (gateway.rateWindow : Rat) t (admissions key log) ≤ gateway.rateLimit := by
  refine RateLimit.admittedIn_le (governed.metered key).ordered (Throughout.filterMap _ ?_) t
  refine governed.metering.imp fun before observation metering now same => ?_
  obtain ⟨id, subject, tool, rfl, rfl⟩ := admission_eq_some same
  exact metering

/-- Of each call: its handlers run only past the gates and at most `maxAttempts` times, what it returns
    is validated, and a denial leaves it unadmitted. Of each key: a call is admitted exactly when the
    admissions in the window that ends with it leave room, so no window holds more than the limit. -/
structure Mediated (gateway : GovernedMCPGateway Arguments Input Raw Output)
    (log : List (Observation Arguments Input Raw Output)) : Prop where
  calls : ∀ id, gateway.CallMediated (callLog id log)
  metering : Throughout gateway.Metering log
  bounded : ∀ subject tool t,
    admittedIn (gateway.rateWindow : Rat) t (admissions (rateKey subject tool) log) ≤ gateway.rateLimit

/-- Every interleaving of calls is mediated. -/
theorem invoke_mediated (gateway : GovernedMCPGateway Arguments Input Raw Output) (start : Rat)
    (events : List (InvocationEvent Arguments Raw)) (final : InvocationState Arguments Input Raw Output)
    (log : List (Observation Arguments Input Raw Output))
    (ran : (gateway.machine start).run events = some (final, log)) : gateway.Mediated log := by
  have governed := run_governed ran
  exact ⟨governed.mediated, governed.metering, fun _ _ => governed.admittedIn_le _⟩

end GovernedMCPGateway

def paymentsCaller : CallerContext where
  subject := "operations-user"
  roles := {"payments.read"}
  agent := .payments
  requestId := "request-1"
  subjectLength := by decide
  requestIdLength := by decide
  rolesTrimmed := by decide
  subjectTrimmed := by decide
  requestIdTrimmed := by decide

/-- One tool over numbers: even arguments validate, results below 100 do. -/
def transactionGateway : GovernedMCPGateway Nat Nat Nat Nat where
  maxAttempts := 2
  rateLimit := 1
  rateWindow := 60
  tools := [⟨"transaction.get", {"payments"}, {"payments.read"},
    fun number => if number % 2 = 0 then some number else none,
    fun raw => if raw < 100 then some raw else none⟩]
  fingerprint number := some number.repr
  attemptsPositive := Nat.two_pos
  limitPositive := by decide
  distinct := by decide

/-- Two calls in flight: the first is retried after a timeout, the second is refused for its rate. -/
def overlappingCalls : List (InvocationEvent Nat Nat) :=
  [.invoke 0 0 "transaction.get" 4 paymentsCaller, .invoke 1 0 "transaction.get" 6 paymentsCaller,
    .handlerEnds 0 0 .timedOut, .handlerEnds 0 0 (.returned 7),
    .invoke 60 0 "transaction.get" 5 paymentsCaller]

theorem overlappingCalls_mediated : ∃ final log,
    (transactionGateway.machine 0).run overlappingCalls = some (final, log) ∧
      log.countP Observation.isStart = 2 ∧
      admissions "operations-user:transaction.get" log = [0, 60] ∧ transactionGateway.Mediated log := by
  have ran : (transactionGateway.machine 0).run overlappingCalls = some
      (((transactionGateway.machine 0).run overlappingCalls).get (by decide +kernel)) := by
    rw [Option.some_get]
  exact ⟨_, _, ran, by decide +kernel, by decide +kernel,
    transactionGateway.invoke_mediated 0 overlappingCalls _ _ ran⟩

end AgentPlatform.McpBoundary
