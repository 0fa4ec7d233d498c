import AgentPlatform.Gateway.RateLimiter
import AgentPlatform.Gateway.TokenIdentity

/-! # The two namespaces of the request limiter

Subjects and demo clients are counted under keys of one table. -/

namespace AgentPlatform.Gateway

def LimitSource.isDemo : LimitSource → Bool
  | .subject _ => false
  | .demo _ => true

/-- The requests that may be sent to a gateway. -/
structure LimitedTraffic where
  app : Application
  limiter : InMemoryRateLimiter
  Sent : LimitedRequest → Prop

namespace LimitedTraffic

variable (traffic : LimitedTraffic)

def Run (start : Rat) (events : List LimitedEvent) (log : List LimitedAnswer) : Prop :=
  (∀ event ∈ events, traffic.Sent event.request) ∧
    ∃ final, (traffic.limiter.machine traffic.app start).run events = some (final, log)

/-- Runs with the same demo requests admit and refuse them alike, whatever authenticated requests come
    between; or the other way round. -/
def Unaffected (demo : Bool) : Prop :=
  ∀ start events events' log log', traffic.Run start events log → traffic.Run start events' log' →
    (events.filter fun event => event.request.isDemo = demo) =
      (events'.filter fun event => event.request.isDemo = demo) →
    ∀ source : LimitSource, source.isDemo = demo →
      admissionsOf traffic.app source log = admissionsOf traffic.app source log'

/-- No subject is counted under the key of a demo client. -/
def KeysDisjoint : Prop :=
  ∀ request other name client, traffic.Sent request → traffic.Sent other →
    request.source traffic.app = some (.subject name) → other.source traffic.app = some (.demo client) →
    LimitSource.key (.subject name) ≠ LimitSource.key (.demo client)

/-- A caller is authenticated under the demo prefix with the address of a demo client. -/
def Impersonated : Prop :=
  ∃ verify request principal state client, traffic.Sent (.authenticated verify request) ∧
    traffic.Sent (.demo client) ∧
    getPrincipal (traffic.app.at verify) request ⟨none⟩ = .ok (principal, state) ∧
    principal.subject = "demo-ip:" ++ client.getD "unknown"

section

variable {traffic} {app : Application}

theorem source_authenticated {verify : String → String → String → String → Except String Claims}
    {request : Request} {source : LimitSource}
    (counted : (LimitedRequest.authenticated verify request).source app = some source) :
    ∃ principal state, getPrincipal (app.at verify) request ⟨none⟩ = .ok (principal, state) ∧
      source = .subject principal.subject := by
  cases found : getPrincipal (app.at verify) request ⟨none⟩ with
  | error error => simp [LimitedRequest.source, found, Except.toOption] at counted
  | ok result =>
    obtain ⟨principal, state⟩ := result
    simp only [LimitedRequest.source, found, Except.toOption, Option.map_some, Option.some.injEq] at counted
    exact ⟨principal, state, rfl, counted.symm⟩

theorem source_isDemo {request : LimitedRequest} {source : LimitSource}
    (counted : request.source app = some source) : source.isDemo = request.isDemo := by
  cases request with
  | authenticated verify request =>
    obtain ⟨principal, state, -, rfl⟩ := source_authenticated counted
    rfl
  | demo client =>
    obtain rfl := Option.some.inj counted
    rfl

theorem impersonated_of_shared {request other : LimitedRequest} {source source' : LimitSource}
    (sent : traffic.Sent request) (sentOther : traffic.Sent other)
    (counted : request.source traffic.app = some source) (countedOther : other.source traffic.app = some source')
    (subject : source.isDemo = false) (demo : source'.isDemo = true) (shared : source.key = source'.key) :
    traffic.Impersonated := by
  rw [source_isDemo counted] at subject
  rw [source_isDemo countedOther] at demo
  cases request with
  | demo client => cases subject
  | authenticated verify request =>
    cases other with
    | authenticated verify' request' => cases demo
    | demo client =>
      obtain ⟨principal, state, found, rfl⟩ := source_authenticated counted
      obtain rfl := Option.some.inj countedOther
      exact ⟨verify, request, principal, state, client, sent, sentOther, found, shared⟩

theorem mem_checks {events : List LimitedEvent} {asked : RateLimit.Check String LimitSource Rat}
    (member : asked ∈ events.filterMap (LimitedEvent.check app)) :
    ∃ event ∈ events, event.request.source app = some asked.source ∧ asked.key = asked.source.key := by
  obtain ⟨event, present, found⟩ := List.mem_filterMap.mp member
  obtain ⟨source, counted, rfl⟩ := Option.map_eq_some_iff.mp found
  exact ⟨event, present, counted, rfl⟩

theorem checks_filter (demo : Bool) (events : List LimitedEvent) :
    ((events.filterMap (LimitedEvent.check app)).filter fun asked => asked.source.isDemo = demo) =
      (events.filter fun event => event.request.isDemo = demo).filterMap (LimitedEvent.check app) := by
  apply RateLimit.checks_filter fun source : LimitSource => decide (source.isDemo = demo)
  intro event asked found
  obtain ⟨source, counted, rfl⟩ := Option.map_eq_some_iff.mp found
  rw [source_isDemo counted]

theorem checks_apart (apart : ¬ traffic.Impersonated) {events : List LimitedEvent}
    (sent : ∀ event ∈ events, traffic.Sent event.request) (demo : Bool) :
    (RateLimit.keyed traffic.limiter.limit (traffic.limiter.window : Rat)).Apart
      (fun asked : RateLimit.Check String LimitSource Rat => asked.source.isDemo = demo)
      (events.filterMap (LimitedEvent.check traffic.app)) := by
  intro own ownMember other otherMember keep drop shared
  obtain ⟨event, present, counted, ownKey⟩ := mem_checks ownMember
  obtain ⟨event', present', counted', otherKey⟩ := mem_checks otherMember
  have same : own.source.key = other.source.key := by
    rw [← ownKey, ← otherKey]
    exact shared
  have ownKind : own.source.isDemo = demo := of_decide_eq_true keep
  have otherKind : other.source.isDemo = !demo := Bool.eq_not.mpr (of_decide_eq_false drop)
  apply apart
  cases demo with
  | false =>
    exact impersonated_of_shared (sent event present) (sent event' present') counted counted' ownKind otherKind
      same
  | true =>
    exact impersonated_of_shared (sent event' present') (sent event present) counted' counted otherKind
      ownKind same.symm

/-- The admissions of one kind of source are the verdicts on the checks of that kind alone. -/
theorem Run.admissions_eq {start : Rat} {events : List LimitedEvent} {log : List LimitedAnswer}
    (ran : traffic.Run start events log) (apart : ¬ traffic.Impersonated) {demo : Bool} {source : LimitSource}
    (kind : source.isDemo = demo) :
    admissionsOf traffic.app source log =
      RateLimit.verdictsOn source traffic.limiter.limit (traffic.limiter.window : Rat)
        ((events.filter fun event => event.request.isDemo = demo).filterMap (LimitedEvent.check traffic.app)) := by
  obtain ⟨sent, final, ran⟩ := ran
  rw [InMemoryRateLimiter.run_admissions ran source, ← checks_filter]
  exact RateLimit.verdictsOn_filter (fun source : LimitSource => decide (source.isDemo = demo))
    (checks_apart apart sent demo) (decide_eq_true kind)

theorem unaffected_of_apart (apart : ¬ traffic.Impersonated) (demo : Bool) : traffic.Unaffected demo := by
  intro start events events' log log' ran ran' same source kind
  rw [ran.admissions_eq apart kind, ran'.admissions_eq apart kind, same]

theorem exists_run {start : Rat} {events : List LimitedEvent}
    (sent : ∀ event ∈ events, traffic.Sent event.request) (instant : ∀ event ∈ events, event.now = start) :
    ∃ log, traffic.Run start events log := by
  have ordered : events.Pairwise fun first second => first.now ≤ second.now := by
    apply List.Pairwise.imp_of_mem _ (List.pairwise_of_forall fun _ _ => trivial)
    intro first second member member' _
    rw [instant first member, instant second member']
  have later : ∀ event ∈ events,
      (traffic.limiter.machine traffic.app start).init.now ≤ event.now := by
    intro event member
    exact (instant event member).ge
  obtain ⟨final, log, ran⟩ := traffic.limiter.runFrom_exists traffic.app ordered later
  exact ⟨log, sent, final, ran⟩

theorem not_unaffected {first second : LimitedRequest} {source source' : LimitSource}
    (sent : traffic.Sent first) (sent' : traffic.Sent second)
    (counted : first.source traffic.app = some source) (counted' : second.source traffic.app = some source')
    (differ : source.isDemo ≠ source'.isDemo) (shared : source'.key = source.key) :
    ¬ traffic.Unaffected source'.isDemo := by
  intro unaffected
  let flood : LimitedEvent := ⟨0, first⟩
  let last : LimitedEvent := ⟨0, second⟩
  have onlyLast : ∀ event ∈ [last], traffic.Sent event.request ∧ event.now = 0 := by
    intro event member
    rw [List.mem_singleton.mp member]
    exact ⟨sent', rfl⟩
  have all : ∀ event ∈ List.replicate traffic.limiter.limit flood ++ [last],
      traffic.Sent event.request ∧ event.now = 0 := by
    intro event member
    rcases List.mem_append.mp member with early | late
    · rw [List.eq_of_mem_replicate early]
      exact ⟨sent, rfl⟩
    · exact onlyLast event late
  obtain ⟨log, ran⟩ := exists_run (fun event member => (all event member).1) fun event member => (all event member).2
  obtain ⟨log', ran'⟩ := exists_run (fun event member => (onlyLast event member).1)
    fun event member => (onlyLast event member).2
  have floodKind : ¬ flood.request.isDemo = source'.isDemo := by
    rw [← source_isDemo counted]
    exact differ
  have same : (List.replicate traffic.limiter.limit flood ++ [last]).filter
      (fun event => event.request.isDemo = source'.isDemo) =
        [last].filter fun event => event.request.isDemo = source'.isDemo := by
    simp [List.filter_append, floodKind]
  have alike := unaffected 0 _ _ log log' ran ran' same source' rfl
  obtain ⟨-, final, ran⟩ := ran
  obtain ⟨-, final', ran'⟩ := ran'
  have apart : source ≠ source' := fun equal => differ (congrArg LimitSource.isDemo equal)
  have positive : (0 : Rat) - (traffic.limiter.window : Rat) < 0 := by
    have window : (0 : Rat) < traffic.limiter.window := by exact_mod_cast traffic.limiter.windowPositive
    rwa [zero_sub, neg_lt_zero]
  have checks : (List.replicate traffic.limiter.limit flood ++ [last]).filterMap
      (LimitedEvent.check traffic.app) =
      List.replicate traffic.limiter.limit ⟨source, source.key, 0⟩ ++ [⟨source', source'.key, 0⟩] := by
    simp [LimitedEvent.check, List.filterMap_append, flood, last, counted, counted']
  have checks' : [last].filterMap (LimitedEvent.check traffic.app) = [⟨source', source'.key, 0⟩] := by
    simp [LimitedEvent.check, last, counted']
  have refused : admissionsOf traffic.app source' log = [false] := by
    rw [InMemoryRateLimiter.run_admissions ran, checks]
    exact RateLimit.verdictsOn_starved ⟨source, source.key, 0⟩ ⟨source', source'.key, 0⟩ positive rfl rfl shared
      apart
  have admitted : admissionsOf traffic.app source' log' = [true] := by
    rw [InMemoryRateLimiter.run_admissions ran', checks']
    exact RateLimit.verdictsOn_alone ⟨source', source'.key, 0⟩ positive rfl traffic.limiter.limitPositive
  rw [refused, admitted] at alike
  cases alike

theorem unaffected_iff (demo : Bool) : traffic.Unaffected demo ↔ ¬ traffic.Impersonated := by
  refine ⟨?_, fun apart => unaffected_of_apart apart demo⟩
  rintro unaffected ⟨verify, request, principal, state, client, sent, sentDemo, found, shared⟩
  have counted : (LimitedRequest.authenticated verify request).source traffic.app =
      some (.subject principal.subject) := by
    simp [LimitedRequest.source, found, Except.toOption]
  have countedDemo : (LimitedRequest.demo client).source traffic.app = some (.demo client) := rfl
  have differ : LimitSource.isDemo (.subject principal.subject) ≠ LimitSource.isDemo (.demo client) :=
    Bool.false_ne_true
  cases demo with
  | true => exact not_unaffected sent sentDemo counted countedDemo differ shared.symm unaffected
  | false => exact not_unaffected sentDemo sent countedDemo counted differ.symm shared unaffected

theorem keysDisjoint_iff : traffic.KeysDisjoint ↔ ¬ traffic.Impersonated := by
  constructor
  · rintro disjoint ⟨verify, request, principal, state, client, sent, sentDemo, found, shared⟩
    refine disjoint _ _ principal.subject client sent sentDemo ?_ rfl shared
    simp [LimitedRequest.source, found, Except.toOption]
  · intro apart request other name client sent sentOther counted countedOther shared
    exact apart (impersonated_of_shared sent sentOther counted countedOther rfl rfl shared)

end

end LimitedTraffic

/-- Demo clients and authenticated subjects are limited apart exactly when nobody is authenticated under
    the demo prefix with the address of a demo client. -/
theorem LimitedTraffic.separated_iff (traffic : LimitedTraffic) :
    (traffic.Unaffected true ∧ traffic.Unaffected false ∧ traffic.KeysDisjoint) ↔ ¬ traffic.Impersonated := by
  rw [unaffected_iff, unaffected_iff, keysDisjoint_iff, and_self, and_self]

theorem one_le_minute : (1 : Int) ≤ 60 := by decide

/-- A gateway in local mode that admits one request a minute under each key. -/
def localTraffic : LimitedTraffic where
  app := { reviewApplication with settings := ⟨.localhost, none, none, none, "roles"⟩ }
  limiter := ⟨1, 60, Nat.one_pos, one_le_minute⟩
  Sent _ := True

/-- A caller with the local user header `demo-ip:203.0.113.7`. -/
def impersonation : LimitedRequest :=
  .authenticated reviewApplication.verify ⟨none, some "demo-ip:203.0.113.7", "", none⟩

def demoVisit : LimitedRequest := .demo (some "203.0.113.7")

theorem impersonation_refuses_demo :
    ¬ (localTraffic.Unaffected true ∧ localTraffic.Unaffected false ∧ localTraffic.KeysDisjoint) := by
  rintro ⟨unaffected, -, -⟩
  let client : LimitSource := .demo (some "203.0.113.7")
  obtain ⟨⟨final, log⟩, ran, refused⟩ := (Option.any_eq_true _ _).mp
    (show ((localTraffic.limiter.machine localTraffic.app 0).run [⟨0, impersonation⟩, ⟨1, demoVisit⟩]).any
      (fun outcome => admissionsOf localTraffic.app client outcome.2 = [false]) = true by decide +kernel)
  obtain ⟨⟨final', log'⟩, ran', admitted⟩ := (Option.any_eq_true _ _).mp
    (show ((localTraffic.limiter.machine localTraffic.app 0).run [⟨1, demoVisit⟩]).any
      (fun outcome => admissionsOf localTraffic.app client outcome.2 = [true]) = true by decide +kernel)
  have alike := unaffected 0 _ _ log log' ⟨fun _ _ => trivial, final, ran⟩ ⟨fun _ _ => trivial, final', ran'⟩ rfl
    client rfl
  rw [of_decide_eq_true refused, of_decide_eq_true admitted] at alike
  cases alike

end AgentPlatform.Gateway
