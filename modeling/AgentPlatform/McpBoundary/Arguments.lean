import AgentPlatform.Base.PythonJson
import AgentPlatform.McpBoundary.Audit

/-! # The calls that leave no record

The arguments are serialised before the protected region of a call, and its record accepts the name of the
tool only as Unicode text. -/

namespace AgentPlatform.McpBoundary

open PyJson

/-- A dictionary with string keys among the objects of the interpreter, and the calls that its stack leaves
    to the encoder. -/
structure ToolArguments where
  graph : Nat → Object
  root : Nat
  stackLeft : Nat
  entries : List (Str × Nat)
  isDict : graph root = .dict (entries.map fun entry => (.str entry.1, entry.2))

/-- What the serialisation of the arguments needs of them. -/
def ToolArguments.Encodable (arguments : ToolArguments) : Prop :=
  PyJson.Encodable arguments.graph arguments.stackLeft arguments.root

def fingerprint (floatRepr : Rat → String) (sha256 : String → String) (arguments : ToolArguments) :
    Option String :=
  ((dumps floatRepr arguments.graph arguments.stackLeft arguments.root).toOption).map sha256

/-- A caller invokes a tool by any string, or the handler that a call awaits ends. -/
inductive NamedEvent (Raw : Type) where
  | invoke (now elapsed : Rat) (tool : Str) (arguments : ToolArguments) (caller : CallerContext)
  | handlerEnds (id : Nat) (elapsed : Rat) (ended : HandlerOutcome Raw)

inductive NamedObservation (Input Raw Output : Type) where
  | call (observation : Observation ToolArguments Input Raw Output)
  /-- The `ValidationError` of the record leaves `invoke`. -/
  | rejected (id : Nat) (tool : Str)

variable {Input Raw Output : Type}

namespace NamedObservation

def observation : NamedObservation Input Raw Output → Option (Observation ToolArguments Input Raw Output)
  | .call observation => some observation
  | .rejected _ _ => none

def Ends (id : Nat) : NamedObservation Input Raw Output → Prop
  | .call (.returned other _) | .call (.raised other _) | .rejected other _ => other = id
  | _ => False

/-- What is raised is an error of the gateway. -/
def Safe : NamedObservation Input Raw Output → Prop
  | .call (.raised _ error) => ∃ raised, error = .gateway raised
  | .rejected _ _ => False
  | _ => True

end NamedObservation

/-- The observations apart from the rejected records. -/
def calls (log : List (NamedObservation Input Raw Output)) : List (Observation ToolArguments Input Raw Output) :=
  log.filterMap NamedObservation.observation

namespace GovernedMCPGateway

variable (gateway : GovernedMCPGateway ToolArguments Input Raw Output)

def hashing (floatRepr : Rat → String) (sha256 : String → String) :
    GovernedMCPGateway ToolArguments Input Raw Output :=
  { gateway with fingerprint := McpBoundary.fingerprint floatRepr sha256 }

/-- `invoke` up to its first await. No tool is registered under a name that is no Unicode text. -/
def beginNamed (state : InvocationState ToolArguments Input Raw Output) (now elapsed : Rat) (tool : Str)
    (arguments : ToolArguments) (caller : CallerContext) :
    InvocationState ToolArguments Input Raw Output × List (NamedObservation Input Raw Output) :=
  match tool.text with
  | some name =>
    let (after, out) := gateway.begin state now elapsed name arguments caller
    (after, out.map .call)
  | none =>
    let started := { state with now := now, next := state.next + 1 }
    match gateway.fingerprint arguments with
    | none => (started, [.call (.raised state.next .unserialisable)])
    | some _ => (started, [.call (.counted "unapproved" .denied), .rejected state.next tool])

def namedMachine (start : Rat) :
    Machine (InvocationState ToolArguments Input Raw Output) (NamedEvent Raw)
      (NamedObservation Input Raw Output) where
  init := (gateway.machine start).init
  step state
    | .invoke now elapsed tool arguments caller =>
      if now < state.now then none else some (gateway.beginNamed state now elapsed tool arguments caller)
    | .handlerEnds id elapsed ended =>
      ((gateway.machine start).step state (.handlerEnds id elapsed ended)).map fun moved =>
        (moved.1, moved.2.map .call)

end GovernedMCPGateway

/-- Every call that ended has exactly one record, and raised nothing but an error of the gateway. -/
structure EveryCallAudited (state : InvocationState ToolArguments Input Raw Output)
    (log : List (NamedObservation Input Raw Output)) : Prop where
  sink : state.audit = records (calls log)
  once : ∀ id, (∃ observation ∈ log, observation.Ends id) → (records (callLog id (calls log))).length = 1
  safe : ∀ observation ∈ log, observation.Safe

/-- The name is Unicode text and the arguments serialise; no handler is interrupted from outside
    `Exception`. -/
def NamedEvent.Orderly : NamedEvent Raw → Prop
  | .invoke _ _ tool arguments _ => (∀ point ∈ tool, isSurrogate point = false) ∧ arguments.Encodable
  | .handlerEnds _ _ ended => ended ≠ .interrupted

def NamedEvent.event : NamedEvent Raw → Option (InvocationEvent ToolArguments Raw)
  | .invoke now elapsed tool arguments caller =>
    tool.text.map fun name => .invoke now elapsed name arguments caller
  | .handlerEnds id elapsed ended => some (.handlerEnds id elapsed ended)

section

variable {gateway : GovernedMCPGateway ToolArguments Input Raw Output} {floatRepr : Rat → String}
  {sha256 : String → String}

theorem fingerprint_ne_none {arguments : ToolArguments} :
    fingerprint floatRepr sha256 arguments ≠ none ↔ arguments.Encodable := by
  have serialised : (dumps floatRepr arguments.graph arguments.stackLeft arguments.root).isOk = true ↔
      arguments.Encodable := dumps_isOk
  rw [← serialised, fingerprint]
  cases dumps floatRepr arguments.graph arguments.stackLeft arguments.root with
  | error error => exact iff_of_false (fun found => found rfl) Bool.false_ne_true
  | ok text => exact iff_of_true (Option.some_ne_none _) rfl

theorem text_isSome {tool : Str} : tool.text.isSome = true ↔ ∀ point ∈ tool, isSurrogate point = false := by
  rw [Str.text]
  split
  · rename_i found
    obtain ⟨point, member, surrogate⟩ := List.any_eq_true.mp found
    exact iff_of_false Bool.false_ne_true fun text => absurd (surrogate.symm.trans (text point member)) (by decide)
  · rename_i none_found
    exact iff_of_true rfl (by simpa using none_found)

theorem calls_map (log : List (Observation ToolArguments Input Raw Output)) :
    calls (log.map .call : List (NamedObservation Input Raw Output)) = log := by
  rw [calls, List.filterMap_map]
  exact List.filterMap_some

theorem conclude_safe (state : InvocationState ToolArguments Input Raw Output) (id : Nat) (caller : CallerContext)
    (tool fingerprint : String) (outcome : AuditOutcome) (elapsed : Rat) (attempts : Nat)
    {result : Except InvocationError Output} (safe : ∀ error, result = .error error → ∃ raised, error = .gateway raised) :
    ∀ observation ∈ (gateway.conclude state id caller tool fingerprint outcome elapsed attempts result).2,
      (NamedObservation.call observation).Safe := by
  cases result with
  | ok output => simp [GovernedMCPGateway.conclude, NamedObservation.Safe]
  | error error => simpa [GovernedMCPGateway.conclude, NamedObservation.Safe] using safe error rfl

theorem begin_safe {state : InvocationState ToolArguments Input Raw Output} {now elapsed : Rat} {tool : String}
    {arguments : ToolArguments} {caller : CallerContext} (serialises : gateway.fingerprint arguments ≠ none) :
    ∀ observation ∈ (gateway.begin state now elapsed tool arguments caller).2,
      (NamedObservation.call observation).Safe := by
  rcases GovernedMCPGateway.begin_record state now elapsed tool caller serialises with
    ⟨requests, record, error, middle, begun, rfl | rfl | rfl, -⟩ |
    ⟨requests, registration, input, fingerprint, -, begun⟩
  all_goals
    rw [begun]
    simp [NamedObservation.Safe]

theorem settle_safe {state : InvocationState ToolArguments Input Raw Output}
    {call : PendingInvocation ToolArguments Input Raw Output} {elapsed : Rat} {ended : HandlerOutcome Raw}
    (going : ended ≠ .interrupted) :
    ∀ observation ∈ (gateway.settle state call elapsed ended).2, (NamedObservation.call observation).Safe := by
  suffices resumed : ∀ others, ∀ observation ∈ (gateway.resume others call elapsed ended).2,
      (NamedObservation.call observation).Safe by
    intro observation member
    rcases List.mem_cons.mp member with rfl | later
    · trivial
    · exact resumed _ observation later
  intro others
  rcases gateway.resume_cases others call elapsed ended with ⟨outcome, concluded⟩ | ⟨outcome, -, again⟩
  · rw [concluded]
    apply conclude_safe
    intro error answer
    rcases ToolRegistration.answered_gateway answer with ⟨message, raised⟩ | ⟨interrupted, -⟩
    · exact ⟨_, raised⟩
    · exact absurd interrupted going
  · rw [again]
    simp [NamedObservation.Safe]

/-! ## Orderly runs -/

theorem begin_named {tool : Str} {name : String} (named : tool.text = some name)
    (state : InvocationState ToolArguments Input Raw Output) (now elapsed : Rat) (arguments : ToolArguments)
    (caller : CallerContext) :
    gateway.beginNamed state now elapsed tool arguments caller =
      ((gateway.begin state now elapsed name arguments caller).1,
        (gateway.begin state now elapsed name arguments caller).2.map .call) := by
  simp only [GovernedMCPGateway.beginNamed, named]

theorem named_step {start : Rat} {state next : InvocationState ToolArguments Input Raw Output}
    {event : NamedEvent Raw} {out : List (NamedObservation Input Raw Output)}
    (orderly : event.Orderly) (stepped : ((gateway.hashing floatRepr sha256).namedMachine start).step state event =
      some (next, out)) :
    ∃ inner observed, event.event = some inner ∧ inner.Serialises (gateway.hashing floatRepr sha256) ∧
      ((gateway.hashing floatRepr sha256).machine start).step state inner = some (next, observed) ∧
      out = observed.map .call ∧ ∀ observation ∈ out, observation.Safe := by
  cases event with
  | invoke now elapsed tool arguments caller =>
    obtain ⟨unicode, encodable⟩ := orderly
    obtain ⟨name, named⟩ := Option.isSome_iff_exists.mp (text_isSome.mpr unicode)
    obtain ⟨onward, begun⟩ := Option.ite_none_left_eq_some.mp stepped
    rw [begin_named named] at begun
    obtain ⟨rfl, rfl⟩ := Prod.mk.inj (Option.some.inj begun)
    have serialises : (gateway.hashing floatRepr sha256).fingerprint arguments ≠ none :=
      fingerprint_ne_none.mpr encodable
    refine ⟨.invoke now elapsed name arguments caller, _, by simp [NamedEvent.event, named], serialises,
      if_neg onward, rfl, ?_⟩
    rw [List.forall_mem_map]
    exact begin_safe serialises
  | handlerEnds id elapsed ended =>
    obtain ⟨⟨after, observed⟩, moved, same⟩ := Option.map_eq_some_iff.mp stepped
    obtain ⟨rfl, rfl⟩ := Prod.mk.inj same
    refine ⟨.handlerEnds id elapsed ended, observed, rfl, trivial, moved, rfl, ?_⟩
    obtain ⟨call, -, settled⟩ := Option.map_eq_some_iff.mp moved
    have out : (GovernedMCPGateway.settle (gateway.hashing floatRepr sha256) state call elapsed ended).2 = observed :=
      congrArg Prod.snd settled
    rw [List.forall_mem_map, ← out]
    exact settle_safe orderly

theorem named_run {start : Rat} {state final : InvocationState ToolArguments Input Raw Output}
    {events : List (NamedEvent Raw)} {log : List (NamedObservation Input Raw Output)}
    (orderly : ∀ event ∈ events, event.Orderly)
    (ran : ((gateway.hashing floatRepr sha256).namedMachine start).runFrom state events = some (final, log)) :
    (∀ event ∈ events.filterMap NamedEvent.event, event.Serialises (gateway.hashing floatRepr sha256)) ∧
      (∃ observed, ((gateway.hashing floatRepr sha256).machine start).runFrom state
        (events.filterMap NamedEvent.event) = some (final, observed) ∧ log = observed.map .call) ∧
      ∀ observation ∈ log, observation.Safe := by
  induction events generalizing state log with
  | nil =>
    cases ran
    exact ⟨by simp, ⟨[], rfl, rfl⟩, by simp⟩
  | cons event events ih =>
    obtain ⟨next, out, rest, stepped, onward, rfl⟩ := Machine.runFrom_cons ran
    obtain ⟨inner, observed, translated, serialises, moved, rfl, safe⟩ :=
      named_step (orderly event List.mem_cons_self) stepped
    obtain ⟨later, ⟨more, continued, rfl⟩, safeLater⟩ :=
      ih (fun other member => orderly other (List.mem_cons_of_mem _ member)) onward
    rw [List.filterMap_cons_some translated]
    refine ⟨?_, ⟨observed ++ more, Machine.runFrom_step moved continued, by rw [List.map_append]⟩, ?_⟩
    · rw [List.forall_mem_cons]
      exact ⟨serialises, later⟩
    · intro observation member
      exact (List.mem_append.mp member).elim (safe observation) (safeLater observation)

theorem results_of_ends {observed : List (Observation ToolArguments Input Raw Output)} {id : Nat}
    {observation : NamedObservation Input Raw Output} (member : observation ∈ observed.map .call)
    (ends : observation.Ends id) : results (callLog id observed) ≠ [] := by
  obtain ⟨inner, seen, rfl⟩ := List.mem_map.mp member
  cases inner with
  | returned other output =>
    have same : other = id := ends
    have own : Observation.returned other output ∈ callLog id observed :=
      List.mem_filter.mpr ⟨seen, by simp [Observation.id, same]⟩
    exact List.ne_nil_of_mem (List.mem_filterMap.mpr ⟨_, own, rfl⟩)
  | raised other error =>
    have same : other = id := ends
    have own : Observation.raised other error ∈ callLog id observed :=
      List.mem_filter.mpr ⟨seen, by simp [Observation.id, same]⟩
    exact List.ne_nil_of_mem (List.mem_filterMap.mpr ⟨_, own, rfl⟩)
  | _ => exact ends.elim

theorem everyCallAudited_of_orderly {start : Rat} {final : InvocationState ToolArguments Input Raw Output}
    {events : List (NamedEvent Raw)} {log : List (NamedObservation Input Raw Output)}
    (orderly : ∀ event ∈ events, event.Orderly)
    (ran : ((gateway.hashing floatRepr sha256).namedMachine start).run events = some (final, log)) :
    EveryCallAudited final log := by
  obtain ⟨serialise, ⟨observed, called, rfl⟩, safe⟩ := named_run orderly ran
  have audited : (gateway.hashing floatRepr sha256).Audited final observed :=
    GovernedMCPGateway.run_audited serialise called
  refine ⟨by rw [calls_map]; exact audited.sink, ?_, safe⟩
  rintro id ⟨observation, member, ends⟩
  rw [calls_map]
  rcases audited.call_cases id with ⟨-, unfinished⟩ | completed
  · exact absurd unfinished (results_of_ends member ends)
  · obtain ⟨record, result, recorded, -⟩ := completed.faithful
    rw [recorded]
    rfl

/-! ## Disorderly runs -/

theorem unsafe_of_disorderly {start : Rat} {state next : InvocationState ToolArguments Input Raw Output}
    {event : NamedEvent Raw} {out : List (NamedObservation Input Raw Output)} (disorderly : ¬ event.Orderly)
    (stepped : ((gateway.hashing floatRepr sha256).namedMachine start).step state event = some (next, out)) :
    ∃ observation ∈ out, ¬ observation.Safe := by
  cases event with
  | invoke now elapsed tool arguments caller =>
    obtain ⟨-, begun⟩ := Option.ite_none_left_eq_some.mp stepped
    have unserialisable (failed : (gateway.hashing floatRepr sha256).fingerprint arguments = none) :
        .call (.raised state.next .unserialisable) ∈ out := by
      cases named : tool.text with
      | some name =>
        rw [begin_named named] at begun
        obtain ⟨-, rfl⟩ := Prod.mk.inj (Option.some.inj begun)
        simp [GovernedMCPGateway.begin, failed]
      | none =>
        simp only [GovernedMCPGateway.beginNamed, named, failed] at begun
        obtain ⟨-, rfl⟩ := Prod.mk.inj (Option.some.inj begun)
        simp
    cases failed : (gateway.hashing floatRepr sha256).fingerprint arguments with
    | none => exact ⟨_, unserialisable failed, by simp [NamedObservation.Safe]⟩
    | some hash =>
      have serialised : fingerprint floatRepr sha256 arguments ≠ none :=
        Option.ne_none_iff_exists'.mpr ⟨hash, failed⟩
      have encodable : arguments.Encodable := fingerprint_ne_none.mp serialised
      cases named : tool.text with
      | some name =>
        have unicode : ∀ point ∈ tool, isSurrogate point = false := by
          rw [← text_isSome, named]
          rfl
        exact absurd ⟨unicode, encodable⟩ disorderly
      | none =>
        simp only [GovernedMCPGateway.beginNamed, named, failed] at begun
        obtain ⟨-, rfl⟩ := Prod.mk.inj (Option.some.inj begun)
        exact ⟨.rejected state.next tool, by simp, not_false⟩
  | handlerEnds id elapsed ended =>
    have interrupted : ended = .interrupted := not_not.mp disorderly
    obtain ⟨⟨after, observed⟩, moved, same⟩ := Option.map_eq_some_iff.mp stepped
    obtain ⟨call, -, settled⟩ := Option.map_eq_some_iff.mp moved
    obtain ⟨-, rfl⟩ := Prod.mk.inj same
    have out : (GovernedMCPGateway.settle (gateway.hashing floatRepr sha256) state call elapsed ended).2 = observed :=
      congrArg Prod.snd settled
    refine ⟨.call (.raised call.id .interrupted), List.mem_map_of_mem ?_, by simp [NamedObservation.Safe]⟩
    rw [← out, interrupted]
    simp [GovernedMCPGateway.settle, GovernedMCPGateway.resume, GovernedMCPGateway.conclude]

end

/-- The calls of a run are all audited exactly when every name is Unicode text, all arguments serialise and
    no handler is interrupted from outside `Exception`. -/
theorem invoke_everyCallAudited_iff (gateway : GovernedMCPGateway ToolArguments Input Raw Output)
    (floatRepr : Rat → String) (sha256 : String → String) (start : Rat) (events : List (NamedEvent Raw))
    (final : InvocationState ToolArguments Input Raw Output) (log : List (NamedObservation Input Raw Output))
    (ran : ((gateway.hashing floatRepr sha256).namedMachine start).run events = some (final, log)) :
    EveryCallAudited final log ↔ ∀ event ∈ events, event.Orderly := by
  constructor
  · intro audited event member
    by_contra disorderly
    obtain ⟨before, after, out, stepped, seen⟩ := Machine.runFrom_mem ran member
    obtain ⟨observation, emitted, escaping⟩ := unsafe_of_disorderly disorderly stepped
    exact escaping (audited.safe observation (seen emitted))
  · intro orderly
    exact everyCallAudited_of_orderly orderly ran

def transactionTools : GovernedMCPGateway ToolArguments Nat Nat Nat where
  maxAttempts := 2
  rateLimit := 30
  rateWindow := 60
  tools := [⟨"payments.get_transaction", {"payments"}, {"payments.read"},
    fun arguments => some arguments.entries.length, some⟩]
  fingerprint _ := none
  attemptsPositive := Nat.two_pos
  limitPositive := Nat.le_of_ble_eq_true rfl
  distinct := List.nodup_singleton _

def transactionArguments : ToolArguments where
  graph
    | 0 => .dict [(.str (Str.ofString "transaction_id"), 1)]
    | _ => .str (Str.ofString "TXN-1001")
  root := 0
  stackLeft := 100
  entries := [(Str.ofString "transaction_id", 1)]
  isDict := rfl

def recordedCall : List (NamedEvent Nat) :=
  [.invoke 0 0 (Str.ofString "payments.get_transaction") transactionArguments paymentsCaller,
    .handlerEnds 0 0 (.returned 7)]

theorem recordedCall_everyCallAudited : ∃ final log,
    ((transactionTools.hashing (fun _ => "0.0") id).namedMachine 0).run recordedCall = some (final, log) ∧
      EveryCallAudited final log := by
  obtain ⟨⟨final, log⟩, ran⟩ := Option.isSome_iff_exists.mp
    (show (((transactionTools.hashing (fun _ => "0.0") id).namedMachine 0).run recordedCall).isSome = true by
      decide)
  have unicode : ∀ point ∈ Str.ofString "payments.get_transaction", isSurrogate point = false :=
    text_isSome.mp (by decide)
  have text : (dumps (fun _ => "0.0") transactionArguments.graph 100 0).isOk = true := by decide
  have orderly : ∀ event ∈ recordedCall, event.Orderly := by
    simp only [recordedCall, List.forall_mem_cons]
    exact ⟨⟨unicode, dumps_isOk.mp text⟩, by simp [NamedEvent.Orderly], by simp⟩
  exact ⟨final, log, ran,
    (invoke_everyCallAudited_iff transactionTools (fun _ => "0.0") id 0 recordedCall final log ran).mpr orderly⟩

/-- `{"filter": {"a": 1, 2: 1}}`. -/
def mixedKeys : ToolArguments where
  graph
    | 0 => .dict [(.str (Str.ofString "filter"), 1)]
    | 1 => .dict [(.str (Str.ofString "a"), 2), (.int 2, 2)]
    | _ => .int 1
  root := 0
  stackLeft := 100
  entries := [(Str.ofString "filter", 1)]
  isDict := rfl

def mixedCall : NamedEvent Nat :=
  .invoke 0 0 (Str.ofString "payments.get_transaction") mixedKeys paymentsCaller

theorem mixedCall_unaudited : ∃ final log,
    ((transactionTools.hashing (fun _ => "0.0") id).namedMachine 0).run [mixedCall] = some (final, log) ∧
      ¬ EveryCallAudited final log := by
  obtain ⟨⟨final, log⟩, ran⟩ := Option.isSome_iff_exists.mp
    (show (((transactionTools.hashing (fun _ => "0.0") id).namedMachine 0).run [mixedCall]).isSome = true by
      decide)
  have unsortable : ¬ Sortable [(.str (Str.ofString "a"), 2), (.int 2, 2)] := by decide
  have disorderly : ¬ mixedCall.Orderly := by
    rintro ⟨-, encodable⟩
    have inner : Nested mixedKeys.graph 0 1 1 :=
      .inside (show 1 ∈ (mixedKeys.graph 0).children by simp [mixedKeys, Object.children]) (.here 1)
    exact unsortable (encodable 1 1 inner).1.1
  refine ⟨final, log, ran, fun audited => ?_⟩
  obtain ⟨before, after, out, stepped, seen⟩ := Machine.runFrom_mem ran (List.mem_singleton_self mixedCall)
  obtain ⟨observation, emitted, escaping⟩ := unsafe_of_disorderly disorderly stepped
  exact escaping (audited.safe observation (seen emitted))

end AgentPlatform.McpBoundary
