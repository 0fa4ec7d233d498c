import AgentPlatform.Gateway.Middleware
import AgentPlatform.State.Instants

/-! # What the middleware guarantees

The headers of every answer, and the body that the wrapped application may receive. -/

namespace AgentPlatform.Gateway

open Python State

/-- The security headers that do not depend on the request. -/
def securityHeaders : List (String × String) :=
  [("x-content-type-options", "nosniff"), ("x-frame-options", "DENY"), ("referrer-policy", "no-referrer"),
    ("permissions-policy", "camera=(), microphone=(), geolocation=()"), ("cache-control", "no-store"),
    ("content-security-policy", "default-src 'none'; frame-ancestors 'none'")]

/-- A response with every security header and the request id of the request, which has the allowed form. -/
def Dispatched.Enveloped (dispatched : Dispatched) : Prop :=
  ∃ response, dispatched.result = .ok response ∧
    (∀ field ∈ securityHeaders, response.headers field.1 = some field.2) ∧
    response.headers "x-request-id" = some dispatched.requestId ∧ isRequestId dispatched.requestId = true

def HttpRequest.bodySize (request : HttpRequest) : Nat := (request.chunks.map List.length).sum

def MiddlewareEvent.delivered : MiddlewareEvent → Nat
  | .forwarded chunks => (chunks.map List.length).sum
  | _ => 0

/-- The bytes of body that the wrapped application may receive. -/
def Dispatched.delivered (dispatched : Dispatched) : Nat := (dispatched.events.map MiddlewareEvent.delivered).sum

def Dispatched.Answered (dispatched : Dispatched) (status : Nat) : Prop :=
  ∃ response, dispatched.result = .ok response ∧ response.status = status

section

theorem headers_set_self (headers : Headers) (name value : String) : headers.set name value name = some value :=
  Function.update_self ..

theorem headers_set_of_ne (headers : Headers) {name other : String} (value : String) (apart : other ≠ name) :
    headers.set name value other = headers other :=
  Function.update_of_ne apart ..

theorem secure_headers (response : HttpResponse) (requestId : String) :
    ∀ field ∈ securityHeaders, (secure response requestId).headers field.1 = some field.2 := by
  intro field member
  simp only [securityHeaders, List.mem_cons, List.not_mem_nil, or_false] at member
  rcases member with rfl | rfl | rfl | rfl | rfl | rfl <;>
    simp (disch := decide) only [secure, headers_set_self, headers_set_of_ne]

theorem secure_requestId (response : HttpResponse) (requestId : String) :
    (secure response requestId).headers "x-request-id" = some requestId := by
  simp (disch := decide) only [secure, headers_set_self, headers_set_of_ne]

theorem isRequestIdChar_hexDigit (digit : Fin 16) : isRequestIdChar (hexDigit digit) = true := by
  revert digit
  decide

theorem uuid_text_length (uuid : Uuid) : uuid.text.length = 36 := by
  have digits := uuid.length
  simp only [Uuid.text, String.length_ofList, List.length_append, List.length_cons, List.length_take,
    List.length_drop, List.length_map]
  omega

theorem isRequestId_uuid (uuid : Uuid) : isRequestId uuid.text = true := by
  have hex : ∀ c ∈ uuid.digits.map hexDigit, isRequestIdChar c = true := by
    intro c member
    obtain ⟨digit, -, rfl⟩ := List.mem_map.mp member
    exact isRequestIdChar_hexDigit digit
  have chars : ∀ c ∈ uuid.text.toList, isRequestIdChar c = true := by
    intro c member
    simp only [Uuid.text, String.toList_ofList, List.mem_append, List.mem_cons] at member
    rcases member with (((part | rfl | part) | rfl | part) | rfl | part) | rfl | part
    · exact hex c (List.mem_of_mem_take part)
    · rfl
    · exact hex c (List.mem_of_mem_drop (List.mem_of_mem_take part))
    · rfl
    · exact hex c (List.mem_of_mem_drop (List.mem_of_mem_take part))
    · rfl
    · exact hex c (List.mem_of_mem_drop (List.mem_of_mem_take part))
    · rfl
    · exact hex c (List.mem_of_mem_drop part)
  simp only [isRequestId, uuid_text_length, Bool.and_eq_true, decide_eq_true_eq, List.all_eq_true]
  exact ⟨by decide, chars⟩

theorem isRequestId_requestIdOf (request : HttpRequest) (fresh : Uuid) :
    isRequestId (requestIdOf request fresh) = true := by
  by_cases sent : isRequestId ((request.headers "x-request-id").getD "") = true
  · simp only [requestIdOf, if_pos sent]
    exact sent
  · simp only [requestIdOf, if_neg sent]
    exact isRequestId_uuid fresh

variable {middleware : RequestSecurityMiddleware} {request : HttpRequest} {fresh : Uuid} {elapsed : Rat}
  {app : WrappedApp}

theorem dispatch_cases (middleware : RequestSecurityMiddleware) (request : HttpRequest) (fresh : Uuid)
    (elapsed : Rat) (app : WrappedApp) :
    (middleware.declaresTooLarge request = true ∧ middleware.dispatch request fresh elapsed app =
      ⟨requestIdOf request fresh, [], .ok (secure oversizedResponse (requestIdOf request fresh))⟩) ∨
    (middleware.declaresTooLarge request = false ∧
      ((∃ response, (∀ className, app request (requestIdOf request fresh) ≠ .raised (.other className)) ∧
        middleware.dispatch request fresh elapsed app =
          complete request (requestIdOf request fresh) elapsed response) ∨
      ∃ className, app request (requestIdOf request fresh) = .raised (.other className) ∧
        middleware.dispatch request fresh elapsed app =
          ⟨requestIdOf request fresh, [.forwarded request.chunks], .error (.other className)⟩)) := by
  cases declared : middleware.declaresTooLarge request with
  | true => exact .inl ⟨rfl, by simp only [RequestSecurityMiddleware.dispatch, declared, if_true]⟩
  | false =>
    refine .inr ⟨rfl, ?_⟩
    cases ended : app request (requestIdOf request fresh) with
    | responded response =>
      exact .inl ⟨response, by simp, by simp [RequestSecurityMiddleware.dispatch, declared, ended]⟩
    | timedOut =>
      exact .inl ⟨timeoutResponse, by simp, by simp [RequestSecurityMiddleware.dispatch, declared, ended]⟩
    | raised exception =>
      cases exception with
      | timeoutError =>
        exact .inl ⟨timeoutResponse, by simp, by simp [RequestSecurityMiddleware.dispatch, declared, ended]⟩
      | other className =>
        exact .inr ⟨className, rfl, by simp [RequestSecurityMiddleware.dispatch, declared, ended]⟩

theorem delivered_complete (request : HttpRequest) (requestId : String) (elapsed : Rat) (response : HttpResponse) :
    (complete request requestId elapsed response).delivered = request.bodySize := by
  by_cases metered : metricRoute request.path ≠ "/metrics"
  · simp [complete, Dispatched.delivered, if_pos metered, MiddlewareEvent.delivered, HttpRequest.bodySize]
  · simp [complete, Dispatched.delivered, if_neg metered, MiddlewareEvent.delivered, HttpRequest.bodySize]

/-- Past the declared length nothing bounds the body that the application may receive. -/
theorem delivered_dispatch (undeclared : middleware.declaresTooLarge request = false) :
    (middleware.dispatch request fresh elapsed app).delivered = request.bodySize := by
  rcases dispatch_cases middleware request fresh elapsed app with
    ⟨declared, -⟩ | ⟨-, ⟨response, -, result⟩ | ⟨className, -, result⟩⟩
  · rw [undeclared] at declared
    cases declared
  · rw [result, delivered_complete]
  · rw [result]
    simp [Dispatched.delivered, MiddlewareEvent.delivered, HttpRequest.bodySize]

theorem dispatch_refused (declared : middleware.declaresTooLarge request = true) :
    (middleware.dispatch request fresh elapsed app).delivered = 0 ∧
      (middleware.dispatch request fresh elapsed app).Answered 413 := by
  have refused : middleware.dispatch request fresh elapsed app =
      ⟨requestIdOf request fresh, [], .ok (secure oversizedResponse (requestIdOf request fresh))⟩ := by
    simp only [RequestSecurityMiddleware.dispatch, declared, if_true]
  rw [refused]
  exact ⟨rfl, _, rfl, rfl⟩

theorem enveloped_of_secure {requestId : String} (allowed : isRequestId requestId = true) {dispatched : Dispatched}
    {response : HttpResponse} (same : dispatched.requestId = requestId)
    (returned : dispatched.result = .ok (secure response requestId)) : dispatched.Enveloped := by
  refine ⟨_, returned, secure_headers response requestId, ?_, ?_⟩
  · rw [same]
    exact secure_requestId response requestId
  · rwa [same]

end

/-- Every answer is enveloped, except that an exception of the application other than a timeout leaves
    `dispatch` without any. -/
theorem dispatch_enveloped_iff (middleware : RequestSecurityMiddleware) (request : HttpRequest) (fresh : Uuid)
    (elapsed : Rat) (app : WrappedApp) :
    (middleware.dispatch request fresh elapsed app).Enveloped ↔
      (middleware.declaresTooLarge request = true ∨
        ∀ className, app request (requestIdOf request fresh) ≠ .raised (.other className)) := by
  have allowed := isRequestId_requestIdOf request fresh
  rcases dispatch_cases middleware request fresh elapsed app with
    ⟨declared, result⟩ | ⟨undeclared, ⟨response, quiet, result⟩ | ⟨className, ended, result⟩⟩
  · rw [result]
    exact iff_of_true (enveloped_of_secure allowed rfl rfl) (.inl declared)
  · rw [result]
    exact iff_of_true (enveloped_of_secure allowed rfl rfl) (.inr quiet)
  · rw [result]
    refine iff_of_false ?_ ?_
    · rintro ⟨response, returned, -⟩
      cases returned
    · rintro (declared | quiet)
      · rw [undeclared] at declared
        cases declared
      · exact quiet className ended

/-- A demo query over the length that the retriever accepts. -/
def longDemoQuery : HttpRequest where
  method := "POST"
  path := "/api/v1/demo/rag"
  headers _ := none
  chunks := [List.replicate 520 (97 : UInt8)]
  latin := by simp

theorem longDemoQuery_unenveloped :
    ¬ (RequestSecurityMiddleware.dispatch ⟨1048576⟩ longDemoQuery firstUuid 0
      fun _ _ => .raised (.other "ValueError")).Enveloped := by
  rintro ⟨response, returned, -⟩
  cases returned

/-- The wrapped application receives no more than the limit, and a larger body is answered 413, exactly when
    the body fits or the request declares a length that is over the limit or cannot be read. -/
theorem dispatch_bounded_iff (middleware : RequestSecurityMiddleware) (request : HttpRequest) :
    (∀ fresh elapsed app,
      (middleware.dispatch request fresh elapsed app).delivered ≤ middleware.maxBodyBytes ∧
      (middleware.maxBodyBytes < request.bodySize →
        (middleware.dispatch request fresh elapsed app).Answered 413)) ↔
      (request.bodySize ≤ middleware.maxBodyBytes ∨ middleware.declaresTooLarge request = true) := by
  cases declared : middleware.declaresTooLarge request with
  | true =>
    refine iff_of_true (fun fresh elapsed app => ?_) (.inr rfl)
    obtain ⟨nothing, answered⟩ := dispatch_refused declared
    exact ⟨nothing ▸ Nat.zero_le _, fun _ => answered⟩
  | false =>
    constructor
    · intro bounded
      left
      have received := (bounded firstUuid 0 fun _ _ => .timedOut).1
      rwa [delivered_dispatch declared] at received
    · rintro (fits | refused)
      · intro fresh elapsed app
        rw [delivered_dispatch declared]
        exact ⟨fits, fun large => absurd fits (Nat.not_le.mpr large)⟩
      · cases refused

def chunkedRequest : HttpRequest where
  method := "POST"
  path := "/api/v1/workflows/route"
  headers _ := none
  chunks := [List.replicate 1024 (97 : UInt8), [97]]
  latin := by simp

theorem chunkedRequest_unbounded :
    ¬ ∀ fresh elapsed app,
      (RequestSecurityMiddleware.dispatch ⟨1024⟩ chunkedRequest fresh elapsed app).delivered ≤ 1024 ∧
      (1024 < chunkedRequest.bodySize →
        (RequestSecurityMiddleware.dispatch ⟨1024⟩ chunkedRequest fresh elapsed app).Answered 413) := by
  intro bounded
  have received := (bounded firstUuid 0 fun _ _ => .responded (jsonResponse 200 "ok")).1
  have undeclared : RequestSecurityMiddleware.declaresTooLarge ⟨1024⟩ chunkedRequest = false := by decide
  rw [delivered_dispatch undeclared] at received
  have size : chunkedRequest.bodySize = 1025 := by decide +kernel
  rw [size] at received
  exact absurd received (by decide)

end AgentPlatform.Gateway
