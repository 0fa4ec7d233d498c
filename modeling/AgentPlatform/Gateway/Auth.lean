import AgentPlatform.Base.Fallible
import AgentPlatform.Gateway.JwtIdentity

/-! # Authentication at the gateway edge -/

namespace AgentPlatform.Gateway

open Python Tenancy

inductive AppEnv where
  | localhost
  | test
  | development
  | staging
  | production
deriving DecidableEq, Repr

structure Settings where
  appEnv : AppEnv
  jwtJwksUri : Option String
  jwtIssuer : Option String
  jwtAudience : Option String
  jwtTenantClaim : String

/-- The settings under which the `X-Local-*` headers are the identity. -/
def Settings.localIdentity (settings : Settings) : Prop :=
  settings.appEnv = .localhost ∨ settings.appEnv = .test

instance (settings : Settings) : Decidable settings.localIdentity :=
  inferInstanceAs (Decidable (_ ∨ _))

def present (value : Option String) : Bool := value.getD "" ≠ ""

def jwtConfigured (settings : Settings) : Bool :=
  present settings.jwtJwksUri && present settings.jwtIssuer && present settings.jwtAudience

structure Application where
  settings : Settings
  tenantRegistry : TenantRegistry
  verify : (jwksUri issuer audience token : String) → Except String Claims

def Application.jwtIdentityResolver (app : Application) : EntraIdentityResolver where
  jwksUri := app.settings.jwtJwksUri.getD ""
  issuer := app.settings.jwtIssuer.getD ""
  audience := app.settings.jwtAudience.getD ""
  registry := app.tenantRegistry
  tenantClaim := app.settings.jwtTenantClaim
  verify := app.verify

/-- The headers that the dependencies read. -/
structure Request where
  authorization : Option String
  user : Option String
  roles : String
  tenant : Option String

/-- `request.state`. -/
structure RequestState where
  jwtIdentity : Option JwtIdentity

inductive Detail where
  | text (message : String)
  | identity (error : JwtIdentityError)
  | tenant (error : UnknownTenant)
deriving DecidableEq, Repr

inductive AuthError where
  | http (status : Nat) (detail : Detail) (authenticate : Option String)
  | unknownTenant (error : UnknownTenant)
  /-- `AttributeError` on `request.state.jwt_identity`. -/
  | noIdentity
deriving DecidableEq, Repr

def AuthError.unauthorized (detail : Detail) (scheme : String) : AuthError := .http 401 detail (some scheme)

def AuthError.notConfigured : AuthError :=
  .http 503 (.text "Production identity provider is not configured") none

def bearerPrefix : String := "Bearer "

/-- The token of an `Authorization` header with the `Bearer` scheme. -/
def bearerToken (authorization : Option String) : Option String :=
  let header := (authorization.getD "").toList
  if bearerPrefix.toList <+: header then some (strip (String.ofList (header.drop bearerPrefix.length)))
  else none

def resolveJwtBearer (app : Application) (authorization : Option String) :
    Except AuthError RequestState :=
  match bearerToken authorization with
  | none => .error (.unauthorized (.text "A Bearer token is required") "Bearer")
  | some token =>
    match app.jwtIdentityResolver.resolve token with
    | .error error => .error (.unauthorized (.identity error) "Bearer")
    | .ok identity => .ok ⟨some identity⟩

def RequestState.identity (state : RequestState) : Except AuthError JwtIdentity :=
  match state.jwtIdentity with
  | none => .error .noIdentity
  | some identity => .ok identity

def getPrincipal (app : Application) (request : Request) (state : RequestState) :
    Except AuthError (Principal × RequestState) := do
  if app.settings.localIdentity then
    let user := strip (request.user.getD "")
    if user = "" then
      throw (.unauthorized (.text "Local identity header is required") "Local")
    let roles := (request.roles.toList.splitOn ',').map fun role => strip (String.ofList role)
    return (⟨user, (roles.filter (· ≠ "")).toFinset⟩, state)
  if !jwtConfigured app.settings then throw .notConfigured
  let state ← resolveJwtBearer app request.authorization
  return ((← state.identity).principal, state)

def getTenantContext (app : Application) (request : Request) (state : RequestState) :
    Except AuthError TenantContext := do
  if app.settings.localIdentity then
    let tenant := strip (request.tenant.getD "")
    if tenant = "" then
      throw (.http 400 (.text "X-Local-Tenant header is required") none)
    match app.tenantRegistry.get tenant with
    | .error error => throw (.http 400 (.tenant error) none)
    | .ok bundle => return ⟨tenant, bundle⟩
  if !jwtConfigured app.settings then throw .notConfigured
  let identity ← state.identity
  let bundle ← (app.tenantRegistry.get identity.tenant).mapError AuthError.unknownTenant
  return ⟨identity.tenant, bundle⟩

def requireRoles (required : Finset String) (principal : Principal) : Except AuthError Principal :=
  if required ⊆ principal.roles then .ok principal
  else .error (.http 403 (.text "Caller does not have the required role") none)

/-- Both dependencies of a tenant route, over one request state. -/
def authenticate (app : Application) (request : Request) :
    Except AuthError (Principal × TenantContext) := do
  let (principal, state) ← getPrincipal app request ⟨none⟩
  return (principal, ← getTenantContext app request state)

/-- `AgentInvoker` and `TenantScoped`. -/
def authenticateInvoker (app : Application) (request : Request) :
    Except AuthError (Principal × TenantContext) := do
  let (principal, state) ← getPrincipal app request ⟨none⟩
  let invoker ← requireRoles {"agent.invoke"} principal
  return (invoker, ← getTenantContext app request state)

theorem getTenantContext_ok {app : Application} {request : Request} {state : RequestState}
    {context : TenantContext} (resolved : getTenantContext app request state = .ok context) :
    app.tenantRegistry.get context.tenant = .ok context.bundle := by
  by_cases locally : app.settings.localIdentity
  · simp only [getTenantContext, if_pos locally] at resolved
    split at resolved
    · cases resolved
    · split at resolved
      · cases resolved
      · rename_i found
        cases resolved
        exact found
  · simp only [getTenantContext, if_neg locally] at resolved
    split at resolved
    · cases resolved
    · obtain ⟨identity, -, resolved⟩ := Except.bind_eq_ok resolved
      obtain ⟨bundle, found, resolved⟩ := Except.bind_eq_ok resolved
      cases resolved
      cases sought : app.tenantRegistry.get identity.tenant with
      | error error => rw [sought] at found; cases found
      | ok bundle' =>
        rw [sought] at found
        cases found
        rfl

theorem requireRoles_ok {required : Finset String} {principal invoker : Principal}
    (allowed : requireRoles required principal = .ok invoker) : invoker = principal ∧ required ⊆ principal.roles := by
  simp only [requireRoles] at allowed
  split at allowed
  · rename_i included
    cases allowed
    exact ⟨rfl, included⟩
  · cases allowed

theorem authenticateInvoker_ok {app : Application} {request : Request} {principal : Principal}
    {context : TenantContext} (admitted : authenticateInvoker app request = .ok (principal, context)) :
    ∃ state, getPrincipal app request ⟨none⟩ = .ok (principal, state) ∧ "agent.invoke" ∈ principal.roles ∧
      getTenantContext app request state = .ok context := by
  obtain ⟨⟨found, state⟩, authenticated, admitted⟩ := Except.bind_eq_ok admitted
  obtain ⟨invoker, allowed, admitted⟩ := Except.bind_eq_ok admitted
  obtain ⟨context', resolved, admitted⟩ := Except.bind_eq_ok admitted
  cases admitted
  obtain ⟨rfl, included⟩ := requireRoles_ok allowed
  exact ⟨state, authenticated, included (Finset.mem_singleton_self _), resolved⟩

end AgentPlatform.Gateway
