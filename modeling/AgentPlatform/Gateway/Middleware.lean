import AgentPlatform.Base.IntegerText
import AgentPlatform.Base.Rounding
import AgentPlatform.State.Identifiers

/-! # The request middleware

Correlation, body limit, timeout, metrics and security headers around the wrapped application. -/

namespace AgentPlatform.Gateway

open Python State

/-- Header fields by lower-case name. -/
abbrev Headers := String → Option String

/-- A request as its headers and the chunks of its body; header text is Latin-1. -/
structure HttpRequest where
  method : String
  /-- `request.url.path`, on the assumption that reading it does not raise. -/
  path : String
  headers : Headers
  chunks : List (List UInt8)
  latin : ∀ name value, headers name = some value → ∀ c ∈ value.toList, c.toNat < 256

inductive ResponseBody where
  /-- The JSON object with the one field `detail`. -/
  | detail (message : String)
  | content (bytes : List UInt8)
deriving DecidableEq

structure HttpResponse where
  status : Nat
  headers : Headers
  body : ResponseBody

/-- An exception by the name of its class. -/
inductive AppException where
  | timeoutError
  | other (className : String)
deriving DecidableEq, Repr

/-- How `call_next` ends under the timeout. -/
inductive AppOutcome where
  | responded (response : HttpResponse)
  | timedOut
  | raised (exception : AppException)

/-- The wrapped application, given the request and `request.state.request_id`. -/
abbrev WrappedApp := HttpRequest → String → AppOutcome

inductive MiddlewareEvent where
  /-- `call_next`: the application may receive these chunks. -/
  | forwarded (chunks : List (List UInt8))
  /-- `HTTP_REQUESTS`. -/
  | counted (method route status : String)
  /-- `HTTP_DURATION`. -/
  | observed (method route : String) (seconds : Rat)
  | logged (requestId method path : String) (status : Nat) (durationMs : Rat)
deriving DecidableEq

/-- `request.state.request_id`, what was done on the way, and what `dispatch` returns or raises. -/
structure Dispatched where
  requestId : String
  events : List MiddlewareEvent
  result : Except AppException HttpResponse

structure RequestSecurityMiddleware where
  maxBodyBytes : Nat

def isRequestIdChar (c : Char) : Bool :=
  ('A'.toNat ≤ c.toNat && c.toNat ≤ 'Z'.toNat) || ('a'.toNat ≤ c.toNat && c.toNat ≤ 'z'.toNat) ||
    ('0'.toNat ≤ c.toNat && c.toNat ≤ '9'.toNat) || c = '.' || c = '_' || c = '-'

/-- `_REQUEST_ID_PATTERN.fullmatch`. -/
def isRequestId (text : String) : Bool :=
  1 ≤ text.length && text.length ≤ 128 && text.toList.all isRequestIdChar

def knownMetricRoutes : List String :=
  ["/health/live", "/health/ready", "/metrics", "/api/v1/platform/info", "/api/v1/workflows/route",
    "/api/v1/workflows/investigate", "/api/v1/skills"]

def metricRoute (path : String) : String := if path ∈ knownMetricRoutes then path else "unmatched"

def Headers.set (headers : Headers) (name value : String) : Headers := Function.update headers name (some value)

def secure (response : HttpResponse) (requestId : String) : HttpResponse :=
  { response with
    headers := (((((((response.headers.set "x-request-id" requestId).set
      "x-content-type-options" "nosniff").set
      "x-frame-options" "DENY").set
      "referrer-policy" "no-referrer").set
      "permissions-policy" "camera=(), microphone=(), geolocation=()").set
      "cache-control" "no-store").set
      "content-security-policy" "default-src 'none'; frame-ancestors 'none'") }

def jsonResponse (status : Nat) (message : String) : HttpResponse :=
  ⟨status, Headers.set (fun _ => none) "content-type" "application/json", .detail message⟩

def oversizedResponse : HttpResponse := jsonResponse 413 "Request body exceeds the configured limit"

def timeoutResponse : HttpResponse := jsonResponse 504 "Request processing timed out"

def requestIdOf (request : HttpRequest) (fresh : Uuid) : String :=
  let header := (request.headers "x-request-id").getD ""
  if isRequestId header then header else fresh.text

/-- The metrics, the log record and the headers of an answer. -/
def complete (request : HttpRequest) (requestId : String) (elapsed : Rat) (response : HttpResponse) : Dispatched :=
  let durationMs := roundTo 2 (elapsed * 1000)
  let route := metricRoute request.path
  let metrics := if route ≠ "/metrics" then
      [.counted request.method route (toString response.status),
        .observed request.method route (durationMs / 1000)]
    else []
  { requestId := requestId
    events := .forwarded request.chunks :: metrics ++
      [.logged requestId request.method request.path response.status durationMs]
    result := .ok (secure response requestId) }

namespace RequestSecurityMiddleware

variable (middleware : RequestSecurityMiddleware)

def bodyTooLarge (contentLength : String) : Bool :=
  match int contentLength with
  | some length => (middleware.maxBodyBytes : Int) < length
  | none => true

/-- The request declares a body over the limit, or no length that can be read. -/
def declaresTooLarge (request : HttpRequest) : Bool :=
  let contentLength := (request.headers "content-length").getD ""
  contentLength ≠ "" && middleware.bodyTooLarge contentLength

def dispatch (request : HttpRequest) (fresh : Uuid) (elapsed : Rat) (app : WrappedApp) : Dispatched :=
  let requestId := requestIdOf request fresh
  if middleware.declaresTooLarge request then ⟨requestId, [], .ok (secure oversizedResponse requestId)⟩
  else
    match app request requestId with
    | .responded response => complete request requestId elapsed response
    | .timedOut | .raised .timeoutError => complete request requestId elapsed timeoutResponse
    | .raised (.other className) => ⟨requestId, [.forwarded request.chunks], .error (.other className)⟩

end RequestSecurityMiddleware

end AgentPlatform.Gateway
