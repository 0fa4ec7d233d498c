import AgentPlatform.Base.Keyed
import AgentPlatform.Base.KeyedLimit
import AgentPlatform.Base.Machine
import AgentPlatform.Gateway.Auth
import Mathlib.Algebra.Order.Field.Rat

/-! # The request limiter of the gateway

One limiter serves the routes that authenticate their caller and the demo routes that do not. -/

namespace AgentPlatform.Gateway

open Python

/-- The limiter with the bounds that the settings put on it. -/
structure InMemoryRateLimiter where
  limit : Nat
  window : Int
  limitPositive : 1 ≤ limit
  windowPositive : 1 ≤ window

structure RateLimitExceeded where
  retryAfter : Int
deriving DecidableEq, Repr

def RateLimitExceeded.status : Nat := 429

def RateLimitExceeded.detail : String := "Rate limit exceeded"

inductive LimitedError where
  | auth (error : AuthError)
  | exceeded (error : RateLimitExceeded)
deriving DecidableEq, Repr

/-- `defaultdict(deque)`: the instants of the admitted requests by key. -/
abbrev AdmittedRequests := String → List Rat

def InMemoryRateLimiter.check (limiter : InMemoryRateLimiter) (requests : AdmittedRequests) (now : Rat)
    (key : String) : Except RateLimitExceeded Unit × AdmittedRequests :=
  match RateLimit.check limiter.limit (limiter.window : Rat) now (requests key) with
  | (false, kept) => (.error ⟨limiter.window⟩, Function.update requests key kept)
  | (true, kept) => (.ok (), Function.update requests key kept)

def enforceRateLimit (limiter : InMemoryRateLimiter) (app : Application) (requests : AdmittedRequests)
    (now : Rat) (request : Request) : Except LimitedError Principal × AdmittedRequests :=
  match getPrincipal app request ⟨none⟩ with
  | .error error => (.error (.auth error), requests)
  | .ok (principal, _) =>
    match limiter.check requests now principal.subject with
    | (.ok (), after) => (.ok principal, after)
    | (.error error, after) => (.error (.exceeded error), after)

/-- The key of a demo request, from the address of its client where it has one. -/
def demoKey (client : Option String) : String := "demo-ip:" ++ client.getD "unknown"

def enforceDemoRateLimit (limiter : InMemoryRateLimiter) (requests : AdmittedRequests) (now : Rat)
    (client : Option String) : Except RateLimitExceeded Unit × AdmittedRequests :=
  limiter.check requests now (demoKey client)

/-- A request behind either limit; a token is verified as the keys and the clock stand then. -/
inductive LimitedRequest where
  | authenticated (verify : String → String → String → String → Except String Claims) (request : Request)
  | demo (client : Option String)

structure LimitedEvent where
  now : Rat
  request : LimitedRequest

structure LimitedAnswer where
  request : LimitedRequest
  answer : Except LimitedError Unit

structure LimiterState where
  now : Rat
  requests : AdmittedRequests

def Application.at (app : Application)
    (verify : String → String → String → String → Except String Claims) : Application :=
  { app with verify := verify }

def InMemoryRateLimiter.answer (limiter : InMemoryRateLimiter) (app : Application) (requests : AdmittedRequests)
    (now : Rat) : LimitedRequest → Except LimitedError Unit × AdmittedRequests
  | .authenticated verify request =>
    let (result, after) := enforceRateLimit limiter (app.at verify) requests now request
    (result.map fun _ => (), after)
  | .demo client =>
    let (result, after) := enforceDemoRateLimit limiter requests now client
    (result.mapError LimitedError.exceeded, after)

def InMemoryRateLimiter.machine (limiter : InMemoryRateLimiter) (app : Application) (start : Rat) :
    Machine LimiterState LimitedEvent LimitedAnswer where
  init := ⟨start, fun _ => []⟩
  step state event :=
    if event.now < state.now then none
    else
      let (answer, after) := limiter.answer app state.requests event.now event.request
      some (⟨event.now, after⟩, [⟨event.request, answer⟩])

/-- Whom the limiter counts a request for. -/
inductive LimitSource where
  | subject (name : String)
  | demo (client : Option String)
deriving DecidableEq, Repr

def LimitSource.key : LimitSource → String
  | .subject name => name
  | .demo client => demoKey client

/-- The limiter as a service: a request asks at an instant, for its source. -/
def InMemoryRateLimiter.door (limiter : InMemoryRateLimiter) :
    KeyedService String (List Rat) (Rat × LimitSource) (Except RateLimitExceeded Unit) where
  key asked := asked.2.key
  serve requests asked :=
    let (admitted, kept) := RateLimit.check limiter.limit (limiter.window : Rat) asked.1 requests
    (kept, if admitted then .ok () else .error ⟨limiter.window⟩)

theorem InMemoryRateLimiter.door_call (limiter : InMemoryRateLimiter) (requests : AdmittedRequests) (now : Rat)
    (source : LimitSource) : limiter.door.call requests (now, source) =
      ((limiter.check requests now source.key).2, (limiter.check requests now source.key).1) := by
  rcases checked : RateLimit.check limiter.limit (limiter.window : Rat) now (requests source.key) with ⟨admitted, kept⟩
  cases admitted <;> simp [KeyedService.call, door, check, checked]

/-- A request without a principal is counted for nobody. -/
def LimitedRequest.source (app : Application) : LimitedRequest → Option LimitSource
  | .authenticated verify request =>
    ((getPrincipal (app.at verify) request ⟨none⟩).toOption).map fun found => .subject found.1.subject
  | .demo client => some (.demo client)

def LimitedRequest.isDemo : LimitedRequest → Bool
  | .authenticated .. => false
  | .demo _ => true

def LimitedEvent.check (app : Application) (event : LimitedEvent) :
    Option (RateLimit.Check String LimitSource Rat) :=
  (event.request.source app).map fun source => ⟨source, source.key, event.now⟩

def LimitedAnswer.verdict (app : Application) (item : LimitedAnswer) : Option (LimitSource × Bool) :=
  (item.request.source app).map fun source => (source, item.answer.isOk)

/-- The admissions and refusals of the requests counted for a source. -/
def admissionsOf (app : Application) (source : LimitSource) (log : List LimitedAnswer) : List Bool :=
  ((log.filterMap (LimitedAnswer.verdict app)).filter fun verdict => verdict.1 = source).map Prod.snd

section

variable {limiter : InMemoryRateLimiter} {app : Application}

theorem InMemoryRateLimiter.check_eq (limiter : InMemoryRateLimiter) (requests : AdmittedRequests) (now : Rat)
    (key : String) :
    (limiter.check requests now key).1.isOk =
        (RateLimit.check limiter.limit (limiter.window : Rat) now (requests key)).1 ∧
      (limiter.check requests now key).2 = Function.update requests key
        (RateLimit.check limiter.limit (limiter.window : Rat) now (requests key)).2 := by
  rcases checked : RateLimit.check limiter.limit (limiter.window : Rat) now (requests key) with ⟨admitted, kept⟩
  cases admitted <;> simp only [check, checked] <;> exact ⟨rfl, trivial⟩

theorem InMemoryRateLimiter.answer_source (limiter : InMemoryRateLimiter) {request : LimitedRequest} {source : LimitSource}
    (counted : request.source app = some source) (requests : AdmittedRequests) (now : Rat) :
    (limiter.answer app requests now request).1.isOk = (limiter.check requests now source.key).1.isOk ∧
      (limiter.answer app requests now request).2 = (limiter.check requests now source.key).2 := by
  cases request with
  | authenticated verify request =>
    cases found : getPrincipal (app.at verify) request ⟨none⟩ with
    | error error => simp [LimitedRequest.source, found, Except.toOption] at counted
    | ok result =>
      obtain ⟨principal, state⟩ := result
      simp only [LimitedRequest.source, found, Except.toOption, Option.map_some, Option.some.injEq] at counted
      subst counted
      rcases checked : limiter.check requests now principal.subject with ⟨verdict, after⟩
      cases verdict <;> simp only [answer, enforceRateLimit, found, LimitSource.key, checked] <;>
        exact ⟨rfl, trivial⟩
  | demo client =>
    obtain rfl := Option.some.inj counted
    rcases checked : limiter.check requests now (demoKey client) with ⟨verdict, after⟩
    cases verdict <;> simp only [answer, enforceDemoRateLimit, LimitSource.key, checked] <;>
      exact ⟨rfl, trivial⟩

theorem InMemoryRateLimiter.answer_no_source {request : LimitedRequest}
    (uncounted : request.source app = none) (requests : AdmittedRequests) (now : Rat) :
    (limiter.answer app requests now request).2 = requests := by
  cases request with
  | authenticated verify request =>
    cases found : getPrincipal (app.at verify) request ⟨none⟩ with
    | error error => simp only [answer, enforceRateLimit, found]
    | ok result => simp [LimitedRequest.source, found, Except.toOption] at uncounted
  | demo client => cases uncounted

theorem InMemoryRateLimiter.step_inv {start : Rat} {state next : LimiterState} {event : LimitedEvent}
    {out : List LimitedAnswer} (stepped : (limiter.machine app start).step state event = some (next, out)) :
    state.now ≤ event.now ∧
      next = ⟨event.now, (limiter.answer app state.requests event.now event.request).2⟩ ∧
      out = [⟨event.request, (limiter.answer app state.requests event.now event.request).1⟩] := by
  simp only [machine] at stepped
  obtain ⟨onward, same⟩ := Option.ite_none_left_eq_some.mp stepped
  cases same
  exact ⟨not_lt.mp onward, rfl, rfl⟩

theorem InMemoryRateLimiter.step_asks {start : Rat} (state : LimiterState) (event : LimitedEvent)
    (next : LimiterState) (out : List LimitedAnswer)
    (stepped : (limiter.machine app start).step state event = some (next, out)) :
    RateLimit.Asks limiter.limit (limiter.window : Rat) (LimitedEvent.check app) (LimitedAnswer.verdict app)
      state.requests next.requests event out := by
  obtain ⟨-, rfl, rfl⟩ := step_inv stepped
  cases counted : event.request.source app with
  | none =>
    left
    exact ⟨by simp [LimitedEvent.check, counted], answer_no_source counted state.requests event.now,
      by simp [LimitedAnswer.verdict, counted]⟩
  | some source =>
    right
    obtain ⟨verdict, after⟩ := limiter.answer_source counted state.requests event.now
    obtain ⟨checked, updated⟩ := limiter.check_eq state.requests event.now source.key
    refine ⟨⟨source, source.key, event.now⟩, by simp [LimitedEvent.check, counted], after.trans updated, ?_⟩
    simp [LimitedAnswer.verdict, counted, verdict, checked]

/-- The admissions and refusals of a run are the verdicts on its checks. -/
theorem InMemoryRateLimiter.run_admissions {start : Rat} {final : LimiterState} {events : List LimitedEvent}
    {log : List LimitedAnswer} (ran : (limiter.machine app start).run events = some (final, log))
    (source : LimitSource) :
    admissionsOf app source log =
      RateLimit.verdictsOn source limiter.limit (limiter.window : Rat)
        (events.filterMap (LimitedEvent.check app)) := by
  rw [admissionsOf, RateLimit.runFrom_verdicts LimiterState.requests step_asks ran]
  rfl

theorem InMemoryRateLimiter.runFrom_exists (limiter : InMemoryRateLimiter) (app : Application) {start : Rat}
    {state : LimiterState} {events : List LimitedEvent}
    (ordered : events.Pairwise fun first second => first.now ≤ second.now)
    (later : ∀ event ∈ events, state.now ≤ event.now) :
    ∃ final log, (limiter.machine app start).runFrom state events = some (final, log) := by
  induction events generalizing state with
  | nil => exact ⟨_, _, Machine.runFrom_nil state⟩
  | cons event events ih =>
    obtain ⟨first, rest⟩ := List.pairwise_cons.mp ordered
    have allowed : ¬ event.now < state.now := not_lt.mpr (later event List.mem_cons_self)
    have moved : (limiter.machine app start).step state event = some
        (⟨event.now, (limiter.answer app state.requests event.now event.request).2⟩,
          [⟨event.request, (limiter.answer app state.requests event.now event.request).1⟩]) := if_neg allowed
    have onward : ∀ other ∈ events, (LimiterState.mk event.now
        (limiter.answer app state.requests event.now event.request).2).now ≤ other.now := first
    obtain ⟨final, log, ran⟩ := ih rest onward
    exact ⟨_, _, Machine.runFrom_step moved ran⟩

end

end AgentPlatform.Gateway
