import AgentPlatform.Base.KeyedLimit
import AgentPlatform.McpBoundary.Mediation

/-! # Tool quotas

The limiter counts the calls of a subject to a tool under a key that joins the two by a colon. -/

namespace AgentPlatform.McpBoundary

open Python RateLimit

variable {Arguments Input Raw Output : Type}

/-- What an observation tells of the limiter: whose call of which tool, and whether it was admitted. -/
def Observation.verdict : Observation Arguments Input Raw Output → Option ((String × String) × Bool)
  | .admitted _ subject tool _ => some ((subject, tool), true)
  | .rateRefused _ subject tool _ => some ((subject, tool), false)
  | _ => none

def quotaOf (subject tool : String) (log : List (Observation Arguments Input Raw Output)) : List Bool :=
  ((log.filterMap Observation.verdict).filter fun verdict => verdict.1 = (subject, tool)).map Prod.snd

def InvocationEvent.isCall (subject tool : String) : InvocationEvent Arguments Raw → Bool
  | .invoke _ _ name _ caller => caller.subject = subject ∧ name = tool
  | .handlerEnds .. => false

namespace GovernedMCPGateway

variable (gateway : GovernedMCPGateway Arguments Input Raw Output)

/-- The call passes every gate before the limiter. -/
def reachesLimiter (tool : String) (arguments : Arguments) (caller : CallerContext) : Bool :=
  (gateway.fingerprint arguments).isSome &&
    (gateway.lookup tool).any fun registration =>
      decide (caller.agent.name ∈ registration.allowedAgents ∧ registration.requiredRoles ⊆ caller.roles)

def quotaCheck : InvocationEvent Arguments Raw → Option (Check String (String × String) Rat)
  | .invoke now _ tool arguments caller =>
    if gateway.reachesLimiter tool arguments caller then
      some ⟨(caller.subject, tool), rateKey caller.subject tool, now⟩
    else none
  | .handlerEnds .. => none

def Reaches (subject tool : String) : Prop :=
  ∃ arguments caller, caller.subject = subject ∧ gateway.reachesLimiter tool arguments caller = true

/-- The calls of other pairs do not show in the quota of a pair. -/
def QuotaUnaffected (subject tool : String) : Prop :=
  ∀ start start' events events' final final' log log',
    (gateway.machine start).run events = some (final, log) →
    (gateway.machine start').run events' = some (final', log') →
    events.filter (InvocationEvent.isCall subject tool) = events'.filter (InvocationEvent.isCall subject tool) →
    quotaOf subject tool log = quotaOf subject tool log'

def KeysInjective : Prop :=
  ∀ subject tool subject' tool', gateway.Reaches subject tool → gateway.Reaches subject' tool' →
    rateKey subject tool = rateKey subject' tool' → subject = subject' ∧ tool = tool'

/-- A registered tool whose gates some caller passes. -/
def Usable (registration : ToolRegistration Arguments Input Raw Output) : Prop :=
  registration ∈ gateway.tools ∧ (∃ agent : AgentName, agent.name ∈ registration.allowedAgents) ∧
    ∀ role ∈ registration.requiredRoles, trim role = role

/-- One usable tool's name is a text, a colon and another usable tool's name, where the text with a colon
    before it can end a subject. -/
def Ambiguous : Prop :=
  (∃ arguments fingerprint, gateway.fingerprint arguments = some fingerprint) ∧
    ∃ first second between, gateway.Usable first ∧ gateway.Usable second ∧
      second.name = between ++ ":" ++ first.name ∧ between.length ≤ 126 ∧ trim (":" ++ between) = ":" ++ between

section

variable {gateway}

theorem reachesLimiter_iff {tool : String} {arguments : Arguments} {caller : CallerContext} :
    gateway.reachesLimiter tool arguments caller = true ↔
      (∃ fingerprint, gateway.fingerprint arguments = some fingerprint) ∧
        ∃ registration, gateway.lookup tool = some registration ∧
          caller.agent.name ∈ registration.allowedAgents ∧ registration.requiredRoles ⊆ caller.roles := by
  simp only [reachesLimiter, Bool.and_eq_true, Option.isSome_iff_exists, Option.any_eq_true,
    decide_eq_true_eq]

theorem begin_unasked {tool : String} {arguments : Arguments} {caller : CallerContext}
    (stopped : gateway.reachesLimiter tool arguments caller = false)
    (state : InvocationState Arguments Input Raw Output) (now elapsed : Rat) :
    (gateway.begin state now elapsed tool arguments caller).1.requests = state.requests ∧
      (gateway.begin state now elapsed tool arguments caller).2.filterMap Observation.verdict = [] := by
  have unreached := mt reachesLimiter_iff.mpr (Bool.eq_false_iff.mp stopped)
  cases serialised : gateway.fingerprint arguments with
  | none =>
    simp only [begin, serialised]
    exact ⟨trivial, rfl⟩
  | some fingerprint =>
    cases found : gateway.lookup tool with
    | none =>
      simp only [begin, serialised, admitCall, found]
      exact ⟨rfl, rfl⟩
    | some registration =>
      by_cases agent : caller.agent.name ∈ registration.allowedAgents
      · by_cases roles : registration.requiredRoles ⊆ caller.roles
        · exact absurd ⟨⟨fingerprint, serialised⟩, registration, found, agent, roles⟩ unreached
        · simp only [begin, serialised, admitCall, found, not_true, agent, roles, not_false_iff, if_true, if_false]
          exact ⟨rfl, rfl⟩
      · simp only [begin, serialised, admitCall, found, agent, not_false_iff, if_true]
        exact ⟨rfl, rfl⟩

theorem begin_asked {tool : String} {arguments : Arguments} {caller : CallerContext}
    (reached : gateway.reachesLimiter tool arguments caller = true)
    (state : InvocationState Arguments Input Raw Output) (now elapsed : Rat) :
    (gateway.begin state now elapsed tool arguments caller).1.requests =
        Function.update state.requests (rateKey caller.subject tool)
          (check gateway.rateLimit (gateway.rateWindow : Rat) now
            (state.requests (rateKey caller.subject tool))).2 ∧
      (gateway.begin state now elapsed tool arguments caller).2.filterMap Observation.verdict =
        [((caller.subject, tool), (check gateway.rateLimit (gateway.rateWindow : Rat) now
          (state.requests (rateKey caller.subject tool))).1)] := by
  obtain ⟨⟨fingerprint, serialised⟩, registration, found, agent, roles⟩ := reachesLimiter_iff.mp reached
  rcases checked : check gateway.rateLimit (gateway.rateWindow : Rat) now
    (state.requests (rateKey caller.subject tool)) with ⟨admitted, kept⟩
  simp only [begin, serialised, admitCall, found, not_true, agent, roles, if_false, checked]
  cases admitted with
  | false => exact ⟨rfl, rfl⟩
  | true =>
    cases valid : registration.inputModel arguments with
    | none => exact ⟨rfl, rfl⟩
    | some input => exact ⟨rfl, rfl⟩

theorem settle_unasked (state : InvocationState Arguments Input Raw Output)
    (call : PendingInvocation Arguments Input Raw Output) (elapsed : Rat) (ended : HandlerOutcome Raw) :
    (gateway.settle state call elapsed ended).1.requests = state.requests ∧
      (gateway.settle state call elapsed ended).2.filterMap Observation.verdict = [] := by
  have resumed := gateway.resume_cases
    { state with pending := state.pending.filter fun other => other.id ≠ call.id } call elapsed ended
  rcases resumed with ⟨outcome, concluded⟩ | ⟨outcome, -, again⟩
  · rw [settle, concluded]
    cases call.registration.answered ended <;> exact ⟨rfl, rfl⟩
  · rw [settle, again]
    exact ⟨rfl, rfl⟩

theorem step_asks {start : Rat} (state : InvocationState Arguments Input Raw Output)
    (event : InvocationEvent Arguments Raw) (next : InvocationState Arguments Input Raw Output)
    (out : List (Observation Arguments Input Raw Output))
    (stepped : (gateway.machine start).step state event = some (next, out)) :
    Asks gateway.rateLimit (gateway.rateWindow : Rat) gateway.quotaCheck Observation.verdict state.requests
      next.requests event out := by
  cases event with
  | invoke now elapsed tool arguments caller =>
    simp only [machine] at stepped
    obtain ⟨-, begun⟩ := Option.ite_none_left_eq_some.mp stepped
    have same := Option.some.inj begun
    cases reached : gateway.reachesLimiter tool arguments caller with
    | false =>
      obtain ⟨requests, silent⟩ := begin_unasked reached state now elapsed
      rw [same] at requests silent
      exact .inl ⟨by simp [quotaCheck, reached], requests, silent⟩
    | true =>
      obtain ⟨requests, verdict⟩ := begin_asked reached state now elapsed
      rw [same] at requests verdict
      exact .inr ⟨⟨(caller.subject, tool), rateKey caller.subject tool, now⟩, by simp [quotaCheck, reached],
        requests, verdict⟩
  | handlerEnds id elapsed ended =>
    simp only [machine, Option.map_eq_some_iff] at stepped
    obtain ⟨call, -, settled⟩ := stepped
    obtain ⟨requests, silent⟩ : (gateway.settle state call elapsed ended).1.requests = state.requests ∧
        (gateway.settle state call elapsed ended).2.filterMap Observation.verdict = [] :=
      settle_unasked state call elapsed ended
    rw [settled] at requests silent
    exact .inl ⟨rfl, requests, silent⟩

theorem run_quota {start : Rat} {events : List (InvocationEvent Arguments Raw)}
    {final : InvocationState Arguments Input Raw Output} {log : List (Observation Arguments Input Raw Output)}
    (ran : (gateway.machine start).run events = some (final, log)) (subject tool : String) :
    quotaOf subject tool log =
      verdictsOn (subject, tool) gateway.rateLimit (gateway.rateWindow : Rat)
        (events.filterMap gateway.quotaCheck) := by
  rw [quotaOf, RateLimit.runFrom_verdicts InvocationState.requests step_asks ran]
  rfl

/-- Two pairs with one key are equal, or a colon within one of the subjects stands for the key's own. -/
theorem rateKey_eq {subject tool subject' tool' : String}
    (same : rateKey subject tool = rateKey subject' tool') :
    (subject = subject' ∧ tool = tool') ∨
    (∃ between, tool' = between ++ ":" ++ tool ∧ subject = subject' ++ ":" ++ between) ∨
    (∃ between, tool = between ++ ":" ++ tool' ∧ subject' = subject ++ ":" ++ between) := by
  have joined : subject.toList ++ ':' :: tool.toList = subject'.toList ++ ':' :: tool'.toList := by
    simpa [rateKey] using congrArg String.toList same
  rcases List.append_eq_append_iff.mp joined with ⟨rest, longer, tail⟩ | ⟨rest, longer, tail⟩
  · cases rest with
    | nil =>
      left
      rw [List.append_nil] at longer
      exact ⟨(String.toList_inj.mp longer).symm, String.toList_inj.mp (List.cons.inj tail).2⟩
    | cons c rest =>
      obtain ⟨rfl, tail⟩ := List.cons.inj tail
      refine .inr (.inr ⟨String.ofList rest, String.toList_inj.mp ?_, String.toList_inj.mp ?_⟩)
      · simpa using tail
      · simpa using longer
  · cases rest with
    | nil =>
      left
      rw [List.append_nil] at longer
      exact ⟨String.toList_inj.mp longer, (String.toList_inj.mp (List.cons.inj tail).2).symm⟩
    | cons c rest =>
      obtain ⟨rfl, tail⟩ := List.cons.inj tail
      refine .inr (.inl ⟨String.ofList rest, String.toList_inj.mp ?_, String.toList_inj.mp ?_⟩)
      · simpa using tail
      · simpa using longer

theorem lookup_of_mem {registration : ToolRegistration Arguments Input Raw Output}
    (registered : registration ∈ gateway.tools) : gateway.lookup registration.name = some registration := by
  cases found : gateway.lookup registration.name with
  | none => simpa using List.find?_eq_none.mp found registration registered
  | some other =>
    have present : other ∈ gateway.tools := List.mem_of_find?_eq_some found
    rw [List.inj_on_of_nodup_map gateway.distinct present registered (lookup_name found)]

theorem Reaches.usable {subject tool : String} (reaches : gateway.Reaches subject tool) :
    1 ≤ subject.length ∧ subject.length ≤ 128 ∧ trim subject = subject ∧
      ∃ registration, gateway.Usable registration ∧ registration.name = tool := by
  obtain ⟨arguments, caller, rfl, reached⟩ := reaches
  obtain ⟨-, registration, found, agent, roles⟩ := reachesLimiter_iff.mp reached
  refine ⟨caller.subjectLength.1, caller.subjectLength.2, caller.subjectTrimmed, registration, ⟨List.mem_of_find?_eq_some found, ?_, ?_⟩,
    lookup_name found⟩
  · exact ⟨caller.agent, agent⟩
  · exact fun role required => caller.rolesTrimmed role (roles required)

theorem Usable.reachesLimiter {registration : ToolRegistration Arguments Input Raw Output}
    (usable : gateway.Usable registration) {arguments : Arguments} {fingerprint : String}
    (serialised : gateway.fingerprint arguments = some fingerprint) {subject : String} (nonempty : 1 ≤ subject.length)
    (short : subject.length ≤ 128) (trimmed : trim subject = subject) :
    ∃ caller : CallerContext, caller.subject = subject ∧
      gateway.reachesLimiter registration.name arguments caller = true := by
  obtain ⟨registered, ⟨agent, allowed⟩, roles⟩ := usable
  have requestLength : 1 ≤ subject.length ∧ subject.length ≤ 128 := ⟨nonempty, short⟩
  refine ⟨⟨subject, registration.requiredRoles, agent, subject, requestLength, requestLength, roles, trimmed,
    trimmed⟩, rfl, ?_⟩
  exact reachesLimiter_iff.mpr
    ⟨⟨fingerprint, serialised⟩, registration, lookup_of_mem registered, allowed, Finset.Subset.refl _⟩

theorem trim_after_colon {subject between : String}
    (trimmed : trim (subject ++ ":" ++ between) = subject ++ ":" ++ between) :
    trim (":" ++ between) = ":" ++ between := by
  obtain ⟨-, last⟩ := trim_eq_self_iff.mp trimmed
  rw [trim_eq_self_iff]
  constructor
  · simp [isWhiteSpace]
  · intro c member
    refine last c ?_
    simpa [List.getLast?_append] using member

theorem ambiguous_of_joined {subject tool tool' between : String}
    (reaches : gateway.Reaches (subject ++ ":" ++ between) tool) (reaches' : gateway.Reaches subject tool')
    (joined : tool' = between ++ ":" ++ tool) : gateway.Ambiguous := by
  have serialised : ∃ arguments fingerprint, gateway.fingerprint arguments = some fingerprint := by
    obtain ⟨arguments, caller, -, reached⟩ := reaches
    exact ⟨arguments, (reachesLimiter_iff.mp reached).1⟩
  obtain ⟨-, short, trimmed, first, usable, rfl⟩ := reaches.usable
  obtain ⟨nonempty, -, -, second, usable', rfl⟩ := reaches'.usable
  have bound : between.length ≤ 126 := by
    simp only [String.length_append, show ":".length = 1 from rfl] at short
    omega
  exact ⟨serialised, first, second, between, usable, usable', joined, bound, trim_after_colon trimmed⟩

theorem keysInjective_of_unambiguous (plain : ¬ gateway.Ambiguous) : gateway.KeysInjective := by
  intro subject tool subject' tool' reaches reaches' same
  rcases rateKey_eq same with equal | ⟨between, joined, rfl⟩ | ⟨between, joined, rfl⟩
  · exact equal
  · exact absurd (ambiguous_of_joined reaches reaches' joined) plain
  · exact absurd (ambiguous_of_joined reaches' reaches joined) plain

theorem Ambiguous.collision (ambiguous : gateway.Ambiguous) :
    ∃ (arguments : Arguments) (first second : CallerContext) (tool tool' : String),
      gateway.reachesLimiter tool arguments first = true ∧ gateway.reachesLimiter tool' arguments second = true ∧
      rateKey first.subject tool = rateKey second.subject tool' ∧ first.subject ≠ second.subject := by
  obtain ⟨⟨arguments, fingerprint, serialised⟩, first, second, between, usable, usable', joined, bound, trimmed⟩ :=
    ambiguous
  have long : ("a" ++ ":" ++ between).length ≤ 128 := by
    simp only [String.length_append, show ":".length = 1 from rfl, show "a".length = 1 from rfl]
    omega
  have nonempty : 1 ≤ ("a" ++ ":" ++ between).length := by
    simp only [String.length_append, show ":".length = 1 from rfl, show "a".length = 1 from rfl]
    omega
  have whole : trim ("a" ++ ":" ++ between) = "a" ++ ":" ++ between := by
    obtain ⟨-, last⟩ := trim_eq_self_iff.mp trimmed
    rw [trim_eq_self_iff]
    constructor
    · simp [isWhiteSpace]
    · intro c member
      refine last c ?_
      simpa [List.getLast?_append] using member
  obtain ⟨caller, subject, reached⟩ := usable.reachesLimiter serialised nonempty long whole
  have single : 1 ≤ "a".length ∧ "a".length ≤ 128 ∧ trim "a" = "a" := by decide
  obtain ⟨caller', subject', reached'⟩ := usable'.reachesLimiter serialised single.1 single.2.1 single.2.2
  refine ⟨arguments, caller, caller', first.name, second.name, reached, reached', ?_, ?_⟩
  · rw [subject, subject', joined, rateKey, rateKey]
    simp only [String.append_assoc]
  · rw [subject, subject']
    intro same
    have lengths := congrArg String.length same
    simp only [String.length_append, show ":".length = 1 from rfl, show "a".length = 1 from rfl] at lengths
    omega

theorem keysInjective_iff : gateway.KeysInjective ↔ ¬ gateway.Ambiguous := by
  refine ⟨?_, keysInjective_of_unambiguous⟩
  intro injective ambiguous
  obtain ⟨arguments, first, second, tool, tool', reached, reached', shared, differ⟩ := ambiguous.collision
  exact differ (injective _ _ _ _ ⟨arguments, first, rfl, reached⟩ ⟨arguments, second, rfl, reached'⟩ shared).1

/-! ## Runs -/

theorem quotaCheck_some {event : InvocationEvent Arguments Raw} {asked : Check String (String × String) Rat}
    (found : gateway.quotaCheck event = some asked) :
    asked.key = rateKey asked.source.1 asked.source.2 ∧ gateway.Reaches asked.source.1 asked.source.2 ∧
      ∀ subject tool, decide (asked.source = (subject, tool)) = InvocationEvent.isCall subject tool event := by
  cases event with
  | invoke now elapsed name arguments caller =>
    simp only [quotaCheck, Option.ite_none_right_eq_some, Option.some.injEq] at found
    obtain ⟨reached, rfl⟩ := found
    exact ⟨rfl, ⟨arguments, caller, rfl, reached⟩, fun subject tool => by simp [InvocationEvent.isCall]⟩
  | handlerEnds id elapsed ended => cases found

theorem checks_filter (subject tool : String) (events : List (InvocationEvent Arguments Raw)) :
    ((events.filterMap gateway.quotaCheck).filter fun asked => asked.source = (subject, tool)) =
      (events.filter (InvocationEvent.isCall subject tool)).filterMap gateway.quotaCheck := by
  apply RateLimit.checks_filter fun source : String × String => decide (source = (subject, tool))
  intro event asked found
  exact (quotaCheck_some found).2.2 subject tool

theorem checks_apart (injective : gateway.KeysInjective) (events : List (InvocationEvent Arguments Raw))
    (subject tool : String) :
    (keyed gateway.rateLimit (gateway.rateWindow : Rat)).Apart
      (fun asked : Check String (String × String) Rat => asked.source = (subject, tool))
      (events.filterMap gateway.quotaCheck) := by
  intro own ownMember other otherMember keep drop shared
  obtain ⟨event, -, found⟩ := List.mem_filterMap.mp ownMember
  obtain ⟨event', -, found'⟩ := List.mem_filterMap.mp otherMember
  obtain ⟨key, reaches, -⟩ := quotaCheck_some found
  obtain ⟨key', reaches', -⟩ := quotaCheck_some found'
  have same : rateKey own.source.1 own.source.2 = rateKey other.source.1 other.source.2 := by
    rw [← key, ← key']
    exact shared
  obtain ⟨subjects, tools⟩ := injective _ _ _ _ reaches reaches' same
  have ownSource : own.source = (subject, tool) := of_decide_eq_true keep
  have otherSource : other.source ≠ (subject, tool) := of_decide_eq_false drop
  exact otherSource ((Prod.ext subjects tools).symm.trans ownSource)

theorem quotaUnaffected_of_injective (injective : gateway.KeysInjective) (subject tool : String) :
    gateway.QuotaUnaffected subject tool := by
  intro start start' events events' final final' log log' ran ran' same
  rw [run_quota ran, run_quota ran',
    verdictsOn_filter (fun source : String × String => decide (source = (subject, tool)))
      (checks_apart injective events subject tool) (decide_eq_true rfl),
    verdictsOn_filter (fun source : String × String => decide (source = (subject, tool)))
      (checks_apart injective events' subject tool) (decide_eq_true rfl), checks_filter, checks_filter, same]

theorem begin_now (state : InvocationState Arguments Input Raw Output) (now elapsed : Rat) (tool : String)
    (arguments : Arguments) (caller : CallerContext) :
    (gateway.begin state now elapsed tool arguments caller).1.now = now := by
  rcases gateway.begin_cases state now elapsed tool arguments caller with
    ⟨_, _, begun, _⟩ | ⟨_, _, _, _, begun, _⟩ | ⟨_, _, _, _, begun, _⟩ | ⟨_, _, _, _, _, _, _, _, _, begun⟩ <;>
    rw [begun]

theorem runFrom_exists {start : Rat} {state : InvocationState Arguments Input Raw Output}
    (instant : state.now = start) (calls : List (String × Arguments × CallerContext)) :
    ∃ final log, (gateway.machine start).runFrom state
      (calls.map fun call => .invoke start 0 call.1 call.2.1 call.2.2) = some (final, log) := by
  induction calls generalizing state with
  | nil => exact ⟨_, _, Machine.runFrom_nil state⟩
  | cons call calls ih =>
    obtain ⟨tool, arguments, caller⟩ := call
    have allowed : ¬ start < state.now := by rw [instant]; exact lt_irrefl start
    have moved : (gateway.machine start).step state (.invoke start 0 tool arguments caller) =
      some (gateway.begin state start 0 tool arguments caller) := if_neg allowed
    obtain ⟨final, log, ran⟩ := ih (gateway.begin_now state start 0 tool arguments caller)
    exact ⟨final, _, Machine.runFrom_step moved ran⟩

theorem run_exists (gateway : GovernedMCPGateway Arguments Input Raw Output) (start : Rat)
    (calls : List (String × Arguments × CallerContext)) :
    ∃ final log, (gateway.machine start).run
      (calls.map fun call => .invoke start 0 call.1 call.2.1 call.2.2) = some (final, log) := by
  have initial : (gateway.machine start).init.now = start := rfl
  exact runFrom_exists initial calls

theorem Ambiguous.not_unaffected (ambiguous : gateway.Ambiguous) (positive : 0 < gateway.rateWindow) :
    ∃ subject tool, ¬ gateway.QuotaUnaffected subject tool := by
  obtain ⟨arguments, first, second, tool, tool', reached, reached', shared, differ⟩ := ambiguous.collision
  refine ⟨second.subject, tool', fun unaffected => ?_⟩
  let flood : Check String (String × String) Rat := ⟨(first.subject, tool), rateKey first.subject tool, 0⟩
  let last : Check String (String × String) Rat := ⟨(second.subject, tool'), rateKey second.subject tool', 0⟩
  have apart : flood.source ≠ last.source := fun same => differ (congrArg Prod.fst same)
  have window : (0 : Rat) - (gateway.rateWindow : Rat) < 0 := by
    have cast : (0 : Rat) < gateway.rateWindow := by exact_mod_cast positive
    rwa [zero_sub, neg_lt_zero]
  obtain ⟨final, log, ran⟩ := gateway.run_exists 0
    (List.replicate gateway.rateLimit (tool, arguments, first) ++ [(tool', arguments, second)])
  obtain ⟨final', log', ran'⟩ := gateway.run_exists 0 [(tool', arguments, second)]
  have alike := unaffected 0 0 _ _ final final' log log' ran ran'
    (by simp [InvocationEvent.isCall, differ])
  have refused : quotaOf second.subject tool' log = [false] := by
    rw [run_quota ran]
    have starved : verdictsOn last.source gateway.rateLimit (gateway.rateWindow : Rat)
        (List.replicate gateway.rateLimit flood ++ [last]) = [false] :=
      verdictsOn_starved flood last window rfl rfl shared.symm apart
    simpa [quotaCheck, reached, reached', flood, last] using starved
  have admitted : quotaOf second.subject tool' log' = [true] := by
    rw [run_quota ran']
    have alone := verdictsOn_alone last window rfl gateway.limitPositive
    simpa [quotaCheck, reached', last] using alone
  rw [refused, admitted] at alike
  cases alike

/-- With a window of some length, as the settings require, the quotas are apart exactly when the keys are. -/
theorem quotaUnaffected_iff (positive : 0 < gateway.rateWindow) :
    (∀ subject tool, gateway.QuotaUnaffected subject tool) ↔ ¬ gateway.Ambiguous := by
  constructor
  · intro unaffected ambiguous
    obtain ⟨subject, tool, affected⟩ := ambiguous.not_unaffected positive
    exact affected (unaffected subject tool)
  · intro plain subject tool
    exact quotaUnaffected_of_injective (keysInjective_of_unambiguous plain) subject tool

end

end GovernedMCPGateway

/-- Quotas are per subject and tool exactly when no usable tool's name is a colon and another usable tool's
    name after a text that can end a subject. -/
theorem GovernedMCPGateway.quota_iff (gateway : GovernedMCPGateway Arguments Input Raw Output) :
    ((∀ subject tool, gateway.QuotaUnaffected subject tool) ∧ gateway.KeysInjective) ↔ ¬ gateway.Ambiguous := by
  constructor
  · intro separate
    exact keysInjective_iff.mp separate.2
  · intro plain
    have injective := keysInjective_of_unambiguous plain
    exact ⟨fun subject tool => quotaUnaffected_of_injective injective subject tool, injective⟩

/-- Two tools, one of them named by the other after `b:`. -/
def colonGateway : GovernedMCPGateway Nat Nat Nat Nat where
  maxAttempts := 2
  rateLimit := 1
  rateWindow := 60
  tools := [⟨"c", {"payments"}, {}, some, some⟩, ⟨"b:c", {"payments"}, {}, some, some⟩]
  fingerprint number := some number.repr
  attemptsPositive := Nat.two_pos
  limitPositive := Nat.one_pos
  distinct := by decide

def shortCaller : CallerContext := { paymentsCaller with
  subject := "a"
  subjectLength := by decide
  subjectTrimmed := by decide }

def colonCaller : CallerContext := { paymentsCaller with
  subject := "a:b"
  subjectLength := by decide
  subjectTrimmed := by decide }

theorem colonCaller_refused :
    ¬ ((∀ subject tool, colonGateway.QuotaUnaffected subject tool) ∧ colonGateway.KeysInjective) := by
  rintro ⟨unaffected, -⟩
  obtain ⟨⟨final, log⟩, ran, refused⟩ := (Option.any_eq_true _ _).mp
    (show ((colonGateway.machine 0).run [.invoke 0 0 "b:c" 0 shortCaller, .invoke 1 0 "c" 0 colonCaller]).any
      (fun outcome => quotaOf "a:b" "c" outcome.2 = [false]) = true by decide +kernel)
  obtain ⟨⟨final', log'⟩, ran', admitted⟩ := (Option.any_eq_true _ _).mp
    (show ((colonGateway.machine 0).run [.invoke 1 0 "c" 0 colonCaller]).any
      (fun outcome => quotaOf "a:b" "c" outcome.2 = [true]) = true by decide +kernel)
  have alike := unaffected "a:b" "c" 0 0 _ _ final final' log log' ran ran' rfl
  rw [of_decide_eq_true refused, of_decide_eq_true admitted] at alike
  cases alike

end AgentPlatform.McpBoundary
