import AgentPlatform.McpBoundary.Mediation

/-! # The audit trail of tool calls

The observations of one call follow one of three shapes: refused, running, or finished after some
retried attempts. -/

namespace AgentPlatform.McpBoundary

variable {Arguments Input Raw Output : Type}

def HandlerOutcome.verdict : HandlerOutcome Raw → AuditOutcome
  | .timedOut => .timeout
  | _ => .error

/-- An end after which another attempt may start. -/
def HandlerOutcome.IsTransient : HandlerOutcome Raw → Prop
  | .timedOut | .failed => True
  | _ => False

namespace Observation

def record : Observation Arguments Input Raw Output → Option AuditRecord
  | .audited _ record => some record
  | _ => none

def result : Observation Arguments Input Raw Output → Option (Except InvocationError Output)
  | .returned _ output => some (.ok output)
  | .raised _ error => some (.error error)
  | _ => none

def ending (id : Nat) : Except InvocationError Output → Observation Arguments Input Raw Output
  | .ok output => .returned id output
  | .error error => .raised id error

def handlerEnd : Observation Arguments Input Raw Output → Option (HandlerOutcome Raw)
  | .handlerEnded _ ended => some ended
  | _ => none

end Observation

def records (log : List (Observation Arguments Input Raw Output)) : List AuditRecord :=
  log.filterMap Observation.record

def results (log : List (Observation Arguments Input Raw Output)) : List (Except InvocationError Output) :=
  log.filterMap Observation.result

def handlerEnds (log : List (Observation Arguments Input Raw Output)) : List (HandlerOutcome Raw) :=
  log.filterMap Observation.handlerEnd

/-- The attempts of a call after some that ended. -/
def attempts (id : Nat) (tool : String) (input : Input) (caller : CallerContext)
    (ended : List (HandlerOutcome Raw)) : List (Observation Arguments Input Raw Output) :=
  .handlerStarted id tool input caller ::
    ended.flatMap fun outcome => [.handlerEnded id outcome, .handlerStarted id tool input caller]

/-- What the attempts that ended left as the outcome. -/
def lastVerdict (ended : List (HandlerOutcome Raw)) : AuditOutcome :=
  (ended.getLast?.map HandlerOutcome.verdict).getD .error

/-- A refusal and the outcome it is recorded as. -/
def Refuses : MCPGatewayError → AuditOutcome → Prop
  | .toolNotFound _, .denied | .accessDenied _, .denied | .invalidArguments _, .invalid => True
  | _, _ => False

/-- What the call tells of itself in its record. -/
def Identifies (tool : String) (caller : CallerContext) (record : AuditRecord) : Prop :=
  record.requestId = caller.requestId ∧ record.subject = caller.subject ∧ record.agent = caller.agent ∧
    record.tool = Python.trim tool

namespace GovernedMCPGateway

variable (gateway : GovernedMCPGateway Arguments Input Raw Output)

/-- How the last attempt decides the outcome and what leaves the call. -/
inductive Concludes (outputModel : Raw → Option Output) (ended : List (HandlerOutcome Raw)) :
    HandlerOutcome Raw → AuditOutcome → Except InvocationError Output → Prop where
  | returned {raw : Raw} {output : Output} (valid : outputModel raw = some output) :
      Concludes outputModel ended (.returned raw) .success (.ok output)
  | invalid {raw : Raw} (invalid : outputModel raw = none) :
      Concludes outputModel ended (.returned raw) .error (.error (.gateway .noValidResult))
  | timedOut : Concludes outputModel ended .timedOut .timeout (.error (.gateway .timedOut))
  | lookupOrValidation :
      Concludes outputModel ended .lookupOrValidation .error (.error (.gateway .noValidResult))
  | failed : Concludes outputModel ended .failed .error (.error (.gateway .executionFailed))
  | interrupted : Concludes outputModel ended .interrupted (lastVerdict ended) (.error .interrupted)

/-- The observations of a call that awaits its handler. -/
def Running (pending : PendingInvocation Arguments Input Raw Output)
    (call : List (Observation Arguments Input Raw Output)) : Prop :=
  ∃ arguments now ended,
    call = .invoked pending.id pending.registration.name arguments pending.caller ::
      .admitted pending.id pending.caller.subject pending.registration.name now ::
      attempts pending.id pending.registration.name pending.input pending.caller ended ∧
    (∀ outcome ∈ ended, outcome.IsTransient) ∧ ended.length + 1 = pending.attempts ∧
    pending.attempts ≤ gateway.maxAttempts ∧ pending.outcome = lastVerdict ended

/-- The observations of a call that ended. -/
inductive Completed (id : Nat) : List (Observation Arguments Input Raw Output) → Prop where
  | refused {tool : String} {arguments : Arguments} {caller : CallerContext} {record : AuditRecord}
      {error : MCPGatewayError} {middle : List (Observation Arguments Input Raw Output)}
      (gates : ∀ observation ∈ middle, observation.record = none ∧ observation.result = none ∧
        observation.handlerEnd = none ∧ observation.isStart = false)
      (refuses : Refuses error record.outcome) (unattempted : record.attemptCount = 0)
      (identifies : Identifies tool caller record) :
      Completed id (.invoked id tool arguments caller :: middle ++
        [.audited id record, .raised id (.gateway error)])
  | finished {tool : String} {arguments : Arguments} {caller : CallerContext} {now : Rat} {input : Input}
      {outputModel : Raw → Option Output} {ended : List (HandlerOutcome Raw)} {last : HandlerOutcome Raw}
      {record : AuditRecord} {result : Except InvocationError Output}
      {ending : Observation Arguments Input Raw Output}
      (transient : ∀ outcome ∈ ended, outcome.IsTransient)
      (concludes : Concludes outputModel ended last record.outcome result)
      (answers : ending = .ending id result)
      (counted : record.attemptCount = ended.length + 1) (bounded : ended.length + 1 ≤ gateway.maxAttempts)
      (identifies : Identifies tool caller record) :
      Completed id (.invoked id tool arguments caller :: .admitted id caller.subject tool now ::
        attempts id tool input caller ended ++ [.handlerEnded id last, .audited id record, ending])

/-- What every run keeps. -/
structure Audited (state : InvocationState Arguments Input Raw Output)
    (log : List (Observation Arguments Input Raw Output)) : Prop where
  sink : state.audit = records log
  running : ∀ call ∈ state.pending, call.id < state.next ∧ gateway.Running call (callLog call.id log)
  completed : ∀ id < state.next, (∀ call ∈ state.pending, call.id ≠ id) →
    gateway.Completed id (callLog id log)
  fresh : ∀ id, state.next ≤ id → callLog id log = []

variable {gateway : GovernedMCPGateway Arguments Input Raw Output}

theorem conclude_record (state : InvocationState Arguments Input Raw Output) (id : Nat)
    (caller : CallerContext) (tool fingerprint : String) (outcome : AuditOutcome) (elapsed : Rat)
    (attempts : Nat) (result : Except InvocationError Output) :
    ∃ record, gateway.conclude state id caller tool fingerprint outcome elapsed attempts result =
        ({ state with audit := state.audit ++ [record] },
          [.counted (gateway.toolLabel tool) outcome, .audited id record, .ending id result]) ∧
      record.outcome = outcome ∧ record.attemptCount = attempts ∧ Identifies tool caller record := by
  cases result with
  | ok output => exact ⟨_, rfl, rfl, rfl, rfl, rfl, rfl, rfl⟩
  | error error => exact ⟨_, rfl, rfl, rfl, rfl, rfl, rfl, rfl⟩

theorem begin_record (state : InvocationState Arguments Input Raw Output) (now elapsed : Rat)
    (tool : String) {arguments : Arguments} (caller : CallerContext)
    (serialises : gateway.fingerprint arguments ≠ none) :
    (∃ requests record error middle,
      gateway.begin state now elapsed tool arguments caller =
        ({ state with
            now := now
            next := state.next + 1
            requests := requests
            audit := state.audit ++ [record] },
          .invoked state.next tool arguments caller :: middle ++
            [.counted (gateway.toolLabel tool) record.outcome, .audited state.next record,
              .raised state.next (.gateway error)]) ∧
      (middle = [] ∨ middle = [.rateRefused state.next caller.subject tool now] ∨
        middle = [.admitted state.next caller.subject tool now]) ∧
      Refuses error record.outcome ∧ record.attemptCount = 0 ∧ Identifies tool caller record) ∨
    (∃ requests registration input fingerprint,
      registration.name = tool ∧
      gateway.begin state now elapsed tool arguments caller =
        ({ state with
            now := now
            next := state.next + 1
            requests := requests
            pending := ⟨state.next, registration, input, caller, fingerprint, 1, .error⟩ :: state.pending },
          [.invoked state.next tool arguments caller, .admitted state.next caller.subject tool now,
            .handlerStarted state.next tool input caller])) := by
  have refusal (started : InvocationState Arguments Input Raw Output) (fingerprint : String)
      (outcome : AuditOutcome) (error : MCPGatewayError) (refuses : Refuses error outcome) :
      ∃ record, gateway.conclude started state.next caller tool fingerprint outcome elapsed 0
          (.error (.gateway error)) = ({ started with audit := started.audit ++ [record] },
            [.counted (gateway.toolLabel tool) record.outcome, .audited state.next record,
              .raised state.next (.gateway error)]) ∧
        Refuses error record.outcome ∧ record.attemptCount = 0 ∧ Identifies tool caller record := by
    obtain ⟨record, concluded, rfl, unattempted, identifies⟩ := gateway.conclude_record started state.next caller
      tool fingerprint outcome elapsed 0 (.error (.gateway error))
    exact ⟨record, concluded, refuses, unattempted, identifies⟩
  simp only [begin]
  cases found : gateway.fingerprint arguments with
  | none => exact absurd found serialises
  | some fingerprint =>
    simp only [admitCall]
    split
    · obtain ⟨record, concluded, told⟩ := refusal { state with now := now, next := state.next + 1 } fingerprint
        .denied .notApproved trivial
      exact .inl ⟨_, record, _, [], by rw [concluded]; rfl, .inl rfl, told⟩
    · rename_i registration lookup
      split
      · obtain ⟨record, concluded, told⟩ := refusal { state with now := now, next := state.next + 1 }
          fingerprint .denied .agentDenied trivial
        exact .inl ⟨_, record, _, [], by rw [concluded]; rfl, .inl rfl, told⟩
      · split
        · obtain ⟨record, concluded, told⟩ := refusal { state with now := now, next := state.next + 1 }
            fingerprint .denied .roleDenied trivial
          exact .inl ⟨_, record, _, [], by rw [concluded]; rfl, .inl rfl, told⟩
        · split
          · rename_i kept checked
            obtain ⟨record, concluded, told⟩ := refusal
              { state with
                now := now
                next := state.next + 1
                requests := Function.update state.requests (rateKey caller.subject tool) kept }
              fingerprint .denied .rateLimited trivial
            exact .inl ⟨_, record, _, [_], by rw [concluded]; rfl, .inr (.inl rfl), told⟩
          · rename_i kept checked
            cases registration.inputModel arguments with
            | none =>
              obtain ⟨record, concluded, told⟩ := refusal
                { state with
                  now := now
                  next := state.next + 1
                  requests := Function.update state.requests (rateKey caller.subject tool) kept }
                fingerprint .invalid .badArguments trivial
              exact .inl ⟨_, record, _, [_], by simp only [concluded]; rfl, .inr (.inr rfl), told⟩
            | some input =>
              exact .inr ⟨_, registration, input, fingerprint, lookup_name lookup, rfl⟩

/-- The end of a handler ends the call with its record, or starts the next attempt after a transient
    end. -/
theorem settle_record (state : InvocationState Arguments Input Raw Output)
    (call : PendingInvocation Arguments Input Raw Output) (elapsed : Rat) (ended : HandlerOutcome Raw)
    {earlier : List (HandlerOutcome Raw)} (known : call.outcome = lastVerdict earlier)
    (bounded : call.attempts ≤ gateway.maxAttempts) :
    (∃ record result, gateway.settle state call elapsed ended =
        ({ state with
            pending := state.pending.filter fun other => other.id ≠ call.id
            audit := state.audit ++ [record] },
          [.handlerEnded call.id ended, .counted (gateway.toolLabel call.registration.name) record.outcome,
            .audited call.id record, .ending call.id result]) ∧
      Concludes call.registration.outputModel earlier ended record.outcome result ∧
      record.attemptCount = call.attempts ∧ Identifies call.registration.name call.caller record) ∨
    (ended.IsTransient ∧ call.attempts < gateway.maxAttempts ∧
      gateway.settle state call elapsed ended =
        ({ state with pending := { call with attempts := call.attempts + 1, outcome := ended.verdict } ::
            state.pending.filter fun other => other.id ≠ call.id },
          [.handlerEnded call.id ended,
            .handlerStarted call.id call.registration.name call.input call.caller])) := by
  have concluding (outcome : AuditOutcome) (result : Except InvocationError Output)
      (concludes : Concludes call.registration.outputModel earlier ended outcome result)
      (resumed : gateway.resume { state with pending := state.pending.filter fun other => other.id ≠ call.id }
        call elapsed ended = gateway.conclude
          { state with pending := state.pending.filter fun other => other.id ≠ call.id } call.id call.caller
          call.registration.name call.fingerprint outcome elapsed call.attempts result) :
      ∃ record result, gateway.settle state call elapsed ended =
          ({ state with
              pending := state.pending.filter fun other => other.id ≠ call.id
              audit := state.audit ++ [record] },
            [.handlerEnded call.id ended, .counted (gateway.toolLabel call.registration.name) record.outcome,
              .audited call.id record, .ending call.id result]) ∧
        Concludes call.registration.outputModel earlier ended record.outcome result ∧
        record.attemptCount = call.attempts ∧ Identifies call.registration.name call.caller record := by
    obtain ⟨record, concluded, rfl, counted, identifies⟩ := gateway.conclude_record
      { state with pending := state.pending.filter fun other => other.id ≠ call.id } call.id call.caller
      call.registration.name call.fingerprint outcome elapsed call.attempts result
    exact ⟨record, result, by rw [settle, resumed, concluded], concludes, counted, identifies⟩
  cases ended with
  | returned raw =>
    cases valid : call.registration.outputModel raw with
    | some output => exact .inl (concluding _ _ (.returned valid) (by simp only [resume, valid]))
    | none => exact .inl (concluding _ _ (.invalid valid) (by simp only [resume, valid]))
  | timedOut =>
    by_cases left : call.attempts < gateway.maxAttempts
    · exact .inr ⟨trivial, left, by simp only [settle, resume, if_pos left, HandlerOutcome.verdict]⟩
    · exact .inl (concluding _ _ .timedOut (by simp only [resume, if_neg left]))
  | lookupOrValidation => exact .inl (concluding _ _ .lookupOrValidation rfl)
  | failed =>
    by_cases last : call.attempts = gateway.maxAttempts
    · exact .inl (concluding _ _ .failed (by simp only [resume, if_pos last]))
    · exact .inr ⟨trivial, by omega, by simp only [settle, resume, if_neg last, HandlerOutcome.verdict]⟩
  | interrupted => exact .inl (concluding _ _ .interrupted (by simp only [resume, known]))

end GovernedMCPGateway

theorem records_append (first second : List (Observation Arguments Input Raw Output)) :
    records (first ++ second) = records first ++ records second :=
  List.filterMap_append

theorem attempts_snoc (id : Nat) (tool : String) (input : Input) (caller : CallerContext)
    (ended : List (HandlerOutcome Raw)) (outcome : HandlerOutcome Raw) :
    (attempts id tool input caller (ended ++ [outcome]) : List (Observation Arguments Input Raw Output)) =
      attempts id tool input caller ended ++
        [.handlerEnded id outcome, .handlerStarted id tool input caller] := by
  simp [attempts]

theorem lastVerdict_snoc (ended : List (HandlerOutcome Raw)) (outcome : HandlerOutcome Raw) :
    lastVerdict (ended ++ [outcome]) = outcome.verdict := by
  simp [lastVerdict]

namespace GovernedMCPGateway

variable {gateway : GovernedMCPGateway Arguments Input Raw Output}

theorem Audited.extend {state next : InvocationState Arguments Input Raw Output}
    {log out : List (Observation Arguments Input Raw Output)} (audited : gateway.Audited state log) (id : Nat)
    (own : ∀ observation ∈ out, observation.Concerns id) (sink : next.audit = state.audit ++ records out)
    (onward : id < next.next ∧ (next.next = state.next ∨ next.next = state.next + 1 ∧ id = state.next))
    (pending : ∀ call ∈ next.pending, (call ∈ state.pending ∧ call.id ≠ id) ∨
      (call.id = id ∧ gateway.Running call (callLog id log ++ callLog id out)))
    (others : ∀ call ∈ state.pending, call.id ≠ id → call ∈ next.pending)
    (completed : (∀ call ∈ next.pending, call.id ≠ id) →
      gateway.Completed id (callLog id log ++ callLog id out)) : gateway.Audited next (log ++ out) where
  sink := by rw [sink, audited.sink, records_append]
  running call member := by
    rw [callLog_append]
    rcases pending call member with ⟨waiting, apart⟩ | ⟨rfl, runs⟩
    · obtain ⟨older, runs⟩ := audited.running call waiting
      rw [callLog_of_other own apart, List.append_nil]
      exact ⟨by omega, runs⟩
    · exact ⟨onward.1, runs⟩
  completed other older idle := by
    rw [callLog_append]
    by_cases same : other = id
    · rw [same] at idle ⊢
      exact completed idle
    · rw [callLog_of_other own same, List.append_nil]
      refine audited.completed other (by omega) fun call waiting here => ?_
      exact idle call (others call waiting (by omega)) here
  fresh other later := by
    rw [callLog_append, audited.fresh other (by omega), callLog_of_other own (by omega)]
    rfl

theorem Audited.initial (start : Rat) : gateway.Audited (gateway.machine start).init [] where
  sink := rfl
  running _ member := (List.not_mem_nil member).elim
  completed id older := absurd older (Nat.not_lt_zero id)
  fresh _ _ := rfl

theorem begin_audited {state next : InvocationState Arguments Input Raw Output}
    {log out : List (Observation Arguments Input Raw Output)} {now elapsed : Rat} {tool : String}
    {arguments : Arguments} {caller : CallerContext} (audited : gateway.Audited state log)
    (serialises : gateway.fingerprint arguments ≠ none)
    (stepped : gateway.begin state now elapsed tool arguments caller = (next, out)) :
    gateway.Audited next (log ++ out) := by
  have waiting (call : PendingInvocation Arguments Input Raw Output) (member : call ∈ state.pending) :
      call ∈ state.pending ∧ call.id ≠ state.next :=
    ⟨member, (audited.running call member).1.ne⟩
  rcases begin_record state now elapsed tool caller serialises with
    ⟨requests, record, error, middle, began, gates, refuses, unattempted, identifies⟩ |
    ⟨requests, registration, input, fingerprint, rfl, began⟩
  · obtain ⟨rfl, rfl⟩ := Prod.mk.inj (began.symm.trans stepped)
    have quiet : ∀ observation ∈ middle, observation.Concerns state.next ∧ observation.record = none ∧
        observation.result = none ∧ observation.handlerEnd = none ∧ observation.isStart = false := by
      rcases gates with rfl | rfl | rfl
      all_goals simp [Observation.Concerns, Observation.id, Observation.record, Observation.result,
        Observation.handlerEnd, Observation.isStart]
    have own : callLog state.next (.invoked state.next tool arguments caller :: middle ++
        [.counted (gateway.toolLabel tool) record.outcome, .audited state.next record,
          .raised state.next (.gateway error)]) =
        .invoked state.next tool arguments caller :: middle ++
          [.audited state.next record, .raised state.next (.gateway error)] := by
      rcases gates with rfl | rfl | rfl
      all_goals simp [callLog, Observation.id]
    refine audited.extend state.next ?_ ?_ ⟨Nat.lt_succ_self _, .inr ⟨rfl, rfl⟩⟩
      (fun call member => .inl (waiting call member)) (fun call member _ => member) fun _ => ?_
    · intro observation member
      simp only [List.mem_append, List.mem_cons, List.not_mem_nil, or_false] at member
      rcases member with (rfl | member) | rfl | rfl | rfl
      · exact .inl rfl
      · exact (quiet observation member).1
      · exact .inr rfl
      · exact .inl rfl
      · exact .inl rfl
    · have none_written : records middle = [] :=
        List.filterMap_eq_nil_iff.mpr fun observation member => (quiet observation member).2.1
      rw [records_append, show records (.invoked state.next tool arguments caller :: middle) = [] from
        none_written]
      rfl
    · rw [audited.fresh state.next le_rfl, own]
      exact .refused (fun observation member => (quiet observation member).2) refuses unattempted identifies
  · obtain ⟨rfl, rfl⟩ := Prod.mk.inj (began.symm.trans stepped)
    have own : callLog state.next ([.invoked state.next registration.name arguments caller,
        .admitted state.next caller.subject registration.name now,
        .handlerStarted state.next registration.name input caller] :
        List (Observation Arguments Input Raw Output)) =
        [.invoked state.next registration.name arguments caller,
          .admitted state.next caller.subject registration.name now,
          .handlerStarted state.next registration.name input caller] := by
      simp [callLog, Observation.id]
    refine audited.extend state.next (by simp [Observation.Concerns, Observation.id])
      (List.append_nil _).symm ⟨Nat.lt_succ_self _, .inr ⟨rfl, rfl⟩⟩ ?_
      (fun call member _ => List.mem_cons_of_mem _ member) fun idle => ?_
    · intro call member
      rcases List.mem_cons.mp member with rfl | member
      · refine .inr ⟨rfl, ?_⟩
        rw [audited.fresh state.next le_rfl, own]
        exact ⟨arguments, now, [], rfl, by simp, rfl, gateway.attemptsPositive, rfl⟩
      · exact .inl (waiting call member)
    · exact (idle _ List.mem_cons_self rfl).elim

theorem settle_audited {state next : InvocationState Arguments Input Raw Output}
    {log out : List (Observation Arguments Input Raw Output)} {elapsed : Rat}
    {call : PendingInvocation Arguments Input Raw Output} {ended : HandlerOutcome Raw}
    (audited : gateway.Audited state log) (waiting : call ∈ state.pending)
    (stepped : gateway.settle state call elapsed ended = (next, out)) : gateway.Audited next (log ++ out) := by
  obtain ⟨known, arguments, now, earlier, shape, transient, counted, bounded, outcome⟩ :=
    audited.running call waiting
  have others (other : PendingInvocation Arguments Input Raw Output) (member : other ∈ state.pending)
      (apart : other.id ≠ call.id) :
      other ∈ state.pending.filter fun other => other.id ≠ call.id := by
    simp [member, apart]
  rcases settle_record state call elapsed ended outcome bounded with
    ⟨record, result, settled, concludes, attempted, identifies⟩ | ⟨again, left, settled⟩
  · obtain ⟨rfl, rfl⟩ := Prod.mk.inj (settled.symm.trans stepped)
    refine audited.extend call.id ?_ ?_ ⟨known, .inl rfl⟩ (fun other member => .inl ?_) others fun _ => ?_
    · cases result with
      | ok output => simp [Observation.ending, Observation.Concerns, Observation.id]
      | error error => simp [Observation.ending, Observation.Concerns, Observation.id]
    · cases result with
      | ok output => rfl
      | error error => rfl
    · simpa using member
    · have own : callLog call.id ([.handlerEnded call.id ended,
          .counted (gateway.toolLabel call.registration.name) record.outcome, .audited call.id record,
          .ending call.id result] : List (Observation Arguments Input Raw Output)) =
          [.handlerEnded call.id ended, .audited call.id record, .ending call.id result] := by
        cases result with
        | ok output => simp [Observation.ending, callLog, Observation.id]
        | error error => simp [Observation.ending, callLog, Observation.id]
      rw [own, shape, List.cons_append, List.cons_append]
      exact .finished transient concludes rfl (attempted.trans counted.symm) (counted ▸ bounded) identifies
  · obtain ⟨rfl, rfl⟩ := Prod.mk.inj (settled.symm.trans stepped)
    refine audited.extend call.id (by simp [Observation.Concerns, Observation.id])
      (List.append_nil _).symm ⟨known, .inl rfl⟩ ?_
      (fun other member apart => List.mem_cons_of_mem _ (others other member apart)) fun idle => ?_
    · intro other member
      rcases List.mem_cons.mp member with rfl | member
      · refine .inr ⟨rfl, arguments, now, earlier ++ [ended], ?_, ?_, ?_, left, (lastVerdict_snoc _ _).symm⟩
        · rw [shape, attempts_snoc]
          simp [callLog, Observation.id]
        · intro outcome member
          rcases List.mem_append.mp member with member | member
          · exact transient outcome member
          · rwa [List.mem_singleton.mp member]
        · simp [counted]
      · exact .inl (by simpa using member)
    · exact (idle _ List.mem_cons_self rfl).elim

end GovernedMCPGateway

/-! ## What a record tells -/

@[simp] theorem records_attempts (id : Nat) (tool : String) (input : Input) (caller : CallerContext)
    (ended : List (HandlerOutcome Raw)) :
    records (attempts id tool input caller ended : List (Observation Arguments Input Raw Output)) = [] := by
  induction ended using List.reverseRecOn with
  | nil => rfl
  | append_singleton ended outcome ih => rw [attempts_snoc, records_append, ih]; rfl

@[simp] theorem results_attempts (id : Nat) (tool : String) (input : Input) (caller : CallerContext)
    (ended : List (HandlerOutcome Raw)) :
    results (attempts id tool input caller ended : List (Observation Arguments Input Raw Output)) = [] := by
  induction ended using List.reverseRecOn with
  | nil => rfl
  | append_singleton ended outcome ih => rw [attempts_snoc, results, List.filterMap_append, ← results, ih]; rfl

@[simp] theorem handlerEnds_attempts (id : Nat) (tool : String) (input : Input) (caller : CallerContext)
    (ended : List (HandlerOutcome Raw)) :
    handlerEnds (attempts id tool input caller ended : List (Observation Arguments Input Raw Output)) =
      ended := by
  induction ended using List.reverseRecOn with
  | nil => rfl
  | append_singleton ended outcome ih =>
    rw [attempts_snoc, handlerEnds, List.filterMap_append, ← handlerEnds, ih]
    rfl

@[simp] theorem starts_attempts (id : Nat) (tool : String) (input : Input) (caller : CallerContext)
    (ended : List (HandlerOutcome Raw)) :
    (attempts id tool input caller ended : List (Observation Arguments Input Raw Output)).countP
      Observation.isStart = ended.length + 1 := by
  induction ended using List.reverseRecOn with
  | nil => rfl
  | append_singleton ended outcome ih =>
    rw [attempts_snoc, List.countP_append, ih, List.length_append]
    rfl

theorem attempts_transient {before : List (Observation Arguments Input Raw Output)} {id : Nat} {tool : String}
    {input : Input} {caller : CallerContext} {ended : List (HandlerOutcome Raw)}
    (first : Throughout (fun before observation => observation.isStart = true →
      ∀ outcome ∈ handlerEnds before, outcome.IsTransient) before) (none_ended : handlerEnds before = [])
    (transient : ∀ outcome ∈ ended, outcome.IsTransient) :
    Throughout (fun before observation => observation.isStart = true →
      ∀ outcome ∈ handlerEnds before, outcome.IsTransient)
      (before ++ attempts id tool input caller ended) := by
  induction ended using List.reverseRecOn with
  | nil =>
    refine first.snoc fun _ outcome member => ?_
    rw [none_ended] at member
    exact (List.not_mem_nil member).elim
  | append_singleton ended outcome ih =>
    rw [attempts_snoc, ← List.append_assoc]
    have earlier := ih fun outcome member => transient outcome (List.mem_append_left _ member)
    refine .append earlier (.cons (fun start => by cases start) (.cons (fun _ other member => ?_) (.nil _)))
    rw [handlerEnds, List.filterMap_append, List.filterMap_append] at member
    rcases List.mem_append.mp member with member | member
    · rcases List.mem_append.mp member with member | member
      · rw [← handlerEnds, none_ended] at member
        exact (List.not_mem_nil member).elim
      · rw [← handlerEnds, handlerEnds_attempts] at member
        exact transient other (List.mem_append_left _ member)
    · exact transient other (List.mem_append_right _ member)

def IsDenied (result : Except InvocationError Output) : Prop :=
  ∃ message, result = .error (.gateway (.toolNotFound message)) ∨
    result = .error (.gateway (.accessDenied message))

def IsInvalid (result : Except InvocationError Output) : Prop :=
  ∃ message, result = .error (.gateway (.invalidArguments message))

def IsToolFailure (result : Except InvocationError Output) : Prop :=
  ∃ message, result = .error (.gateway (.toolFailure message))

/-- The record of a call that ended, against what the call did and how it ended. A call interrupted from
    outside `Exception` raises that interruption. -/
structure FaithfulRecord (maxAttempts : Nat) (call : List (Observation Arguments Input Raw Output))
    (result : Except InvocationError Output) (record : AuditRecord) : Prop where
  success : record.outcome = .success ↔ ∃ output, result = .ok output
  denied : record.outcome = .denied ↔ IsDenied result ∧ call.countP Observation.isStart = 0
  invalid : record.outcome = .invalid ↔ IsInvalid result ∧ call.countP Observation.isStart = 0
  unattempted : IsDenied result ∨ IsInvalid result → call.countP Observation.isStart = 0
  failure : (∀ output, result ≠ .ok output) → ¬ IsDenied result → ¬ IsInvalid result →
    result ≠ .error .interrupted → IsToolFailure result ∧
      ∃ last, (handlerEnds call).getLast? = some last ∧ record.outcome = last.verdict
  interruption : result = .error .interrupted → record.outcome = lastVerdict (handlerEnds call).dropLast
  attempts : record.attemptCount = call.countP Observation.isStart
  bounded : call.countP Observation.isStart ≤ maxAttempts
  retried : Throughout (fun before observation => observation.isStart = true →
    ∀ outcome ∈ handlerEnds before, outcome.IsTransient) call
  identified : ∃ id tool arguments caller, .invoked id tool arguments caller ∈ call ∧
    Identifies tool caller record

theorem FaithfulRecord.of_refusal {maxAttempts : Nat} {call : List (Observation Arguments Input Raw Output)}
    {error : MCPGatewayError} {record : AuditRecord} (refuses : Refuses error record.outcome)
    (unattempted : record.attemptCount = 0) (idle : call.countP Observation.isStart = 0)
    (identified : ∃ id tool arguments caller, .invoked id tool arguments caller ∈ call ∧
      Identifies tool caller record) :
    FaithfulRecord maxAttempts call (.error (.gateway error)) record := by
  have unstarted : Throughout (fun before observation => observation.isStart = true →
      ∀ outcome ∈ handlerEnds before, outcome.IsTransient) call :=
    .of_forall_mem fun observation member _ start =>
      absurd start (by simpa using List.countP_eq_zero.mp idle observation member)
  have counted : record.attemptCount = call.countP Observation.isStart := unattempted.trans idle.symm
  have bounded : call.countP Observation.isStart ≤ maxAttempts := idle ▸ Nat.zero_le _
  cases outcome : record.outcome with
  | denied =>
    have denial : IsDenied (.error (.gateway error) : Except InvocationError Output) := by
      rw [outcome] at refuses
      cases error with
      | accessDenied message => exact ⟨message, .inr rfl⟩
      | toolNotFound message => exact ⟨message, .inl rfl⟩
      | _ => exact refuses.elim
    have valid : ¬ IsInvalid (.error (.gateway error) : Except InvocationError Output) := by
      rintro ⟨message, same⟩
      obtain ⟨_, same' | same'⟩ := denial
      all_goals simp_all
    exact ⟨by simp [outcome], by simp [outcome, denial, idle], by simp [outcome, valid], fun _ => idle,
      fun _ undenied => absurd denial undenied, nofun, counted, bounded, unstarted, identified⟩
  | invalid =>
    have invalid : IsInvalid (.error (.gateway error) : Except InvocationError Output) := by
      rw [outcome] at refuses
      cases error with
      | invalidArguments message => exact ⟨message, rfl⟩
      | _ => exact refuses.elim
    have undenied : ¬ IsDenied (.error (.gateway error) : Except InvocationError Output) := by
      obtain ⟨_, same'⟩ := invalid
      rintro ⟨message, same | same⟩
      all_goals simp_all
    exact ⟨by simp [outcome], by simp [outcome, undenied], by simp [outcome, invalid, idle], fun _ => idle,
      fun _ _ valid => absurd invalid valid, nofun, counted, bounded, unstarted, identified⟩
  | _ =>
    rw [outcome] at refuses
    cases error <;> exact refuses.elim

theorem HandlerOutcome.verdict_cases (ended : HandlerOutcome Raw) :
    ended.verdict = .timeout ∨ ended.verdict = .error := by
  cases ended with
  | timedOut => exact .inl rfl
  | _ => exact .inr rfl

theorem lastVerdict_cases (ended : List (HandlerOutcome Raw)) :
    lastVerdict ended = .timeout ∨ lastVerdict ended = .error := by
  rw [lastVerdict]
  cases ended.getLast? with
  | none => exact .inr rfl
  | some last => exact last.verdict_cases

theorem GovernedMCPGateway.Concludes.spec {outputModel : Raw → Option Output}
    {ended : List (HandlerOutcome Raw)} {last : HandlerOutcome Raw} {outcome : AuditOutcome}
    {result : Except InvocationError Output}
    (concludes : Concludes outputModel ended last outcome result) :
    (outcome = .success ∧ ∃ output, result = .ok output) ∨
      (outcome = last.verdict ∧ IsToolFailure result) ∨
      (outcome = lastVerdict ended ∧ result = .error .interrupted) := by
  cases concludes with
  | returned => exact .inl ⟨rfl, _, rfl⟩
  | invalid => exact .inr (.inl ⟨rfl, _, rfl⟩)
  | timedOut => exact .inr (.inl ⟨rfl, _, rfl⟩)
  | lookupOrValidation => exact .inr (.inl ⟨rfl, _, rfl⟩)
  | failed => exact .inr (.inl ⟨rfl, _, rfl⟩)
  | interrupted => exact .inr (.inr ⟨rfl, rfl⟩)

theorem FaithfulRecord.of_attempts {maxAttempts : Nat} {call : List (Observation Arguments Input Raw Output)}
    {outputModel : Raw → Option Output} {ended : List (HandlerOutcome Raw)} {last : HandlerOutcome Raw}
    {record : AuditRecord} {result : Except InvocationError Output}
    (concludes : GovernedMCPGateway.Concludes outputModel ended last record.outcome result)
    (ends : handlerEnds call = ended ++ [last]) (started : call.countP Observation.isStart = ended.length + 1)
    (counted : record.attemptCount = ended.length + 1) (bounded : ended.length + 1 ≤ maxAttempts)
    (retried : Throughout (fun before observation => observation.isStart = true →
      ∀ outcome ∈ handlerEnds before, outcome.IsTransient) call)
    (identified : ∃ id tool arguments caller, .invoked id tool arguments caller ∈ call ∧
      Identifies tool caller record) : FaithfulRecord maxAttempts call result record := by
  have tells : record.outcome ≠ .denied ∧ record.outcome ≠ .invalid ∧ ¬ IsDenied result ∧ ¬ IsInvalid result ∧
      (record.outcome = .success ↔ ∃ output, result = .ok output) := by
    rcases concludes.spec with ⟨same, output, rfl⟩ | ⟨same, message, rfl⟩ | ⟨same, rfl⟩
    · simp [same, IsDenied, IsInvalid]
    · rcases last.verdict_cases with verdict | verdict
      · simp [same, verdict, IsDenied, IsInvalid]
      · simp [same, verdict, IsDenied, IsInvalid]
    · rcases lastVerdict_cases ended with verdict | verdict
      · simp [same, verdict, IsDenied, IsInvalid]
      · simp [same, verdict, IsDenied, IsInvalid]
  obtain ⟨noDenial, noInvalid, undenied, valid, success⟩ := tells
  refine ⟨success, by simp [noDenial, undenied], by simp [noInvalid, valid],
    fun refused => (refused.elim undenied valid).elim, fun failed _ _ going => ?_, fun interrupted => ?_,
    counted.trans started.symm, started ▸ bounded, retried, identified⟩
  · rw [ends, List.getLast?_concat]
    rcases concludes.spec with ⟨-, output, same⟩ | ⟨same, failure⟩ | ⟨-, same⟩
    · exact absurd same (failed output)
    · exact ⟨failure, last, rfl, same⟩
    · exact absurd same going
  · rw [ends, List.dropLast_concat]
    rcases concludes.spec with ⟨-, output, same⟩ | ⟨-, message, same⟩ | ⟨same, -⟩
    · cases same.symm.trans interrupted
    · cases same.symm.trans interrupted
    · exact same

theorem GovernedMCPGateway.Completed.faithful {gateway : GovernedMCPGateway Arguments Input Raw Output}
    {id : Nat} {call : List (Observation Arguments Input Raw Output)}
    (completed : gateway.Completed id call) :
    ∃ record result, records call = [record] ∧ results call = [result] ∧
      FaithfulRecord gateway.maxAttempts call result record := by
  cases completed with
  | @refused tool arguments caller record error middle gates refuses unattempted identifies =>
    have no_records : records middle = [] :=
      List.filterMap_eq_nil_iff.mpr fun observation member => (gates observation member).1
    have no_results : results middle = [] :=
      List.filterMap_eq_nil_iff.mpr fun observation member => (gates observation member).2.1
    have idle : middle.countP Observation.isStart = 0 :=
      countP_isStart_of_idle fun observation member => (gates observation member).2.2.2
    refine ⟨record, .error (.gateway error), ?_, ?_, .of_refusal refuses unattempted ?_
      ⟨id, tool, arguments, caller, by simp, identifies⟩⟩
    · rw [records_append, show records (.invoked id tool arguments caller :: middle) = [] from no_records]
      rfl
    · rw [results, List.filterMap_append, ← results,
        show results (.invoked id tool arguments caller :: middle) = [] from no_results]
      rfl
    · rw [List.countP_append, List.countP_cons, idle]
      rfl
  | @finished tool arguments caller now input outputModel ended last record result ending transient concludes
      answers counted bounded identifies =>
    subst answers
    have shape : Observation.invoked id tool arguments caller ::
        .admitted id caller.subject tool now :: attempts id tool input caller ended ++
        [.handlerEnded id last, .audited id record, .ending id result] =
        [.invoked id tool arguments caller, .admitted id caller.subject tool now] ++
        (attempts id tool input caller ended ++
          [.handlerEnded id last, .audited id record, .ending id result]) := rfl
    have front : ∀ observation ∈ ([.invoked id tool arguments caller, .admitted id caller.subject tool now] :
        List (Observation Arguments Input Raw Output)), observation.isStart = false := by
      simp [Observation.isStart]
    have back : ∀ observation ∈ ([.handlerEnded id last, .audited id record, .ending id result] :
        List (Observation Arguments Input Raw Output)), observation.isStart = false := by
      cases result with
      | ok output => simp [Observation.isStart, Observation.ending]
      | error error => simp [Observation.isStart, Observation.ending]
    refine ⟨record, result, ?_, ?_, .of_attempts concludes ?_ ?_ counted bounded ?_
      ⟨id, tool, arguments, caller, by simp, identifies⟩⟩
    · rw [shape, records_append, records_append, records_attempts]
      cases result <;> rfl
    · rw [shape, results, List.filterMap_append, List.filterMap_append, ← results, ← results, results_attempts]
      cases result <;> rfl
    · rw [shape, handlerEnds, List.filterMap_append, List.filterMap_append, ← handlerEnds, ← handlerEnds,
        handlerEnds_attempts]
      cases result <;> rfl
    · rw [shape, List.countP_append, List.countP_append, starts_attempts, countP_isStart_of_idle front,
        countP_isStart_of_idle back, Nat.zero_add, Nat.add_zero]
    · rw [shape, ← List.append_assoc]
      refine (attempts_transient ?_ rfl transient).append (.of_forall_mem fun observation member _ start => ?_)
      · exact .of_forall_mem fun observation member _ start => by rw [front observation member] at start; cases start
      · rw [back observation member] at start
        cases start

def InvocationEvent.Serialises (gateway : GovernedMCPGateway Arguments Input Raw Output) :
    InvocationEvent Arguments Raw → Prop
  | .invoke _ _ _ arguments _ => gateway.fingerprint arguments ≠ none
  | .handlerEnds .. => True

namespace GovernedMCPGateway

variable {gateway : GovernedMCPGateway Arguments Input Raw Output}

theorem run_audited {start : Rat} {events : List (InvocationEvent Arguments Raw)}
    {final : InvocationState Arguments Input Raw Output}
    {log : List (Observation Arguments Input Raw Output)}
    (serialise : ∀ event ∈ events, event.Serialises gateway)
    (ran : (gateway.machine start).run events = some (final, log)) : gateway.Audited final log := by
  refine Machine.run_invariant_of_events (.initial start) ?_ serialise ran
  intro state before event next out audited serialises stepped
  cases event with
  | invoke now elapsed tool arguments caller =>
    simp only [machine] at stepped
    split at stepped
    · cases stepped
    · exact begin_audited audited serialises (Option.some.inj stepped)
  | handlerEnds id elapsed ended =>
    simp only [machine, Option.map_eq_some_iff] at stepped
    obtain ⟨call, found, settled⟩ := stepped
    exact settle_audited audited (List.mem_of_find?_eq_some found) settled

theorem Running.unrecorded {pending : PendingInvocation Arguments Input Raw Output}
    {call : List (Observation Arguments Input Raw Output)} (running : gateway.Running pending call) :
    records call = [] ∧ results call = [] := by
  obtain ⟨arguments, now, ended, rfl, -⟩ := running
  exact ⟨records_attempts .., results_attempts ..⟩

theorem Audited.call_cases {state : InvocationState Arguments Input Raw Output}
    {log : List (Observation Arguments Input Raw Output)} (audited : gateway.Audited state log) (id : Nat) :
    (records (callLog id log) = [] ∧ results (callLog id log) = []) ∨ gateway.Completed id (callLog id log) := by
  by_cases older : id < state.next
  · by_cases waiting : ∃ call ∈ state.pending, call.id = id
    · obtain ⟨call, member, rfl⟩ := waiting
      exact .inl (audited.running call member).2.unrecorded
    · push Not at waiting
      exact .inr (audited.completed id older waiting)
  · rw [audited.fresh id (by omega)]
    exact .inl ⟨rfl, rfl⟩

end GovernedMCPGateway

end AgentPlatform.McpBoundary
