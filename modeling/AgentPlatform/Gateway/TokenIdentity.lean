import AgentPlatform.Gateway.Auth

/-! # Identity and tenant come from the token alone -/

namespace AgentPlatform.Gateway

open Python Tenancy

/-- A role that a claim carries: the claim itself or an entry of the claimed list. -/
def Claimed (claim : Option Json) (role : String) : Prop :=
  role ≠ "" ∧ (claim = some (.str role) ∨ ∃ items, claim = some (.list items) ∧ .str role ∈ items)

theorem Json.text_eq_some {value : Json} {text : String} : value.text = some text ↔ value = .str text := by
  cases value <;> simp [Json.text]

/-- Claim lists that differ in order, in repetitions and in entries that are no role. -/
inductive Rearranged : List Json → List Json → Prop where
  | reorder {first second : List Json} : first.Perm second → Rearranged first second
  | duplicate {items : List Json} {item : Json} : item ∈ items → Rearranged items (item :: items)
  | blank {items : List Json} {item : Json} :
      (∀ text, item = .str text → text = "") → Rearranged items (item :: items)
  | trans {first second third : List Json} :
      Rearranged first second → Rearranged second third → Rearranged first third

theorem Rearranged.mem_iff {first second : List Json} (rearranged : Rearranged first second)
    {role : String} (usable : role ≠ "") : .str role ∈ first ↔ .str role ∈ second := by
  induction rearranged with
  | reorder perm => exact perm.mem_iff
  | duplicate member =>
    rw [List.mem_cons]
    constructor
    · exact .inr
    · rintro (rfl | listed)
      · exact member
      · exact listed
  | blank unusable =>
    rw [List.mem_cons]
    constructor
    · exact .inr
    · rintro (same | listed)
      · exact absurd (unusable role same.symm) usable
      · exact listed
  | trans _ _ early late => exact early.trans late

namespace EntraIdentityResolver

theorem mem_extractRoleList {claim : Option Json} {role : String} :
    role ∈ extractRoleList claim ↔ Claimed claim role := by
  simp only [extractRoleList, List.mem_toFinset, List.mem_filter, List.mem_filterMap, Json.text_eq_some,
    exists_eq_right, decide_eq_true_iff, Claimed]
  rw [and_comm]
  refine and_congr_right fun _ => ?_
  cases claim with
  | none => simp
  | some value => cases value <;> simp [eq_comm]

theorem extractRoleList_rearranged {first second : List Json} (rearranged : Rearranged first second) :
    extractRoleList (some (.list first)) = extractRoleList (some (.list second)) := by
  ext role
  rw [mem_extractRoleList, mem_extractRoleList]
  refine and_congr_right fun usable => ?_
  simp [rearranged.mem_iff usable]

theorem sort_eq_singleton {names : Finset String} {name : String} :
    sorted names.val = [name] ↔ names = {name} := by
  constructor
  · intro single
    rw [← Finset.val_inj, ← coe_sorted names.val, single]
    rfl
  · rintro rfl
    exact Finset.sort_singleton _ name

theorem identify_ok {resolver : EntraIdentityResolver} {claims : Claims} {identity : JwtIdentity}
    (granted : resolver.identify claims = .ok identity) :
    extractRoleList (claims resolver.tenantClaim) ∩ resolver.registry.names = {identity.tenant} ∧
      identity.principal.roles =
        extractRoleList (claims resolver.tenantClaim) \ {identity.tenant} ∧
      subject claims = .ok identity.principal.subject := by
  simp only [identify] at granted
  split at granted
  · rename_i tenantName ordered
    have only := sort_eq_singleton.mp ordered
    cases named : subject claims with
    | error error => rw [named] at granted; cases granted
    | ok name =>
      rw [named] at granted
      cases granted
      exact ⟨only, by rw [only], rfl⟩
  · cases granted

/-- The same value, or lists that both have entries: neither is a subject, and both are truthy. -/
def Alike (first second : Option Json) : Prop :=
  first = second ∨ ∃ item items other others,
    first = some (.list (item :: items)) ∧ second = some (.list (other :: others))

theorem Alike.orElse {first second first' second' : Option Json} (head : Alike first first')
    (tail : Alike second second') : Alike (orElse first second) (orElse first' second') := by
  rcases head with rfl | ⟨item, items, other, others, rfl, rfl⟩
  · cases first with
    | none => exact tail
    | some value =>
      simp only [EntraIdentityResolver.orElse]
      split
      · exact .inl rfl
      · exact tail
  · exact .inr ⟨item, items, other, others, rfl, rfl⟩

theorem subject_congr {first second : Claims} (alike : ∀ name, Alike (first name) (second name)) :
    subject first = subject second := by
  have chosen := ((alike "preferred_username").orElse (alike "oid")).orElse (alike "sub")
  rcases chosen with same | ⟨item, items, other, others, firstList, secondList⟩
  · simp only [subject, same]
  · simp only [subject, firstList, secondList]

/-- Rearranging the claimed list changes nothing, even where the subject is read from the same claim. -/
theorem identify_rearranged (resolver : EntraIdentityResolver) {first second : Claims}
    {items others : List Json} (rearranged : Rearranged items others)
    (firstClaim : first resolver.tenantClaim = some (.list items))
    (secondClaim : second resolver.tenantClaim = some (.list others))
    (elsewhere : ∀ name, name ≠ resolver.tenantClaim → first name = second name) :
    resolver.identify first = resolver.identify second := by
  have sameRoles := extractRoleList_rearranged rearranged
  simp only [identify, firstClaim, secondClaim, sameRoles]
  split
  · rename_i tenantName ordered
    have member : tenantName ∈ extractRoleList (some (.list others)) := by
      have single := sort_eq_singleton.mp ordered
      exact (Finset.mem_inter.mp (single ▸ Finset.mem_singleton_self tenantName)).1
    have listed {roles : List Json} (held : tenantName ∈ extractRoleList (some (.list roles))) :
        ∃ role rest, roles = role :: rest := by
      cases roles with
      | nil => exact absurd held (by simp [extractRoleList])
      | cons role rest => exact ⟨role, rest, rfl⟩
    obtain ⟨item, rest, rfl⟩ := listed (sameRoles ▸ member)
    obtain ⟨other, rest', rfl⟩ := listed member
    have sameSubject : subject first = subject second := by
      apply subject_congr
      intro name
      by_cases claim : name = resolver.tenantClaim
      · subst claim
        exact .inr ⟨item, rest, other, rest', firstClaim, secondClaim⟩
      · exact .inl (elsewhere name claim)
    rw [sameSubject]
  · rfl

end EntraIdentityResolver

/-- Deployments take no identity from the local headers and have a token issuer. -/
structure Deployed (settings : Settings) : Prop where
  environment : settings.appEnv ≠ .localhost ∧ settings.appEnv ≠ .test
  configured : jwtConfigured settings = true

theorem authenticate_deployed {app : Application} (deployed : Deployed app.settings) (request : Request) :
    authenticate app request = do
      let state ← resolveJwtBearer app request.authorization
      let identity ← state.identity
      let bundle ← (app.tenantRegistry.get identity.tenant).mapError AuthError.unknownTenant
      return (identity.principal, ⟨identity.tenant, bundle⟩) := by
  have remote : ¬ app.settings.localIdentity := by
    rintro (same | same)
    · exact deployed.environment.1 same
    · exact deployed.environment.2 same
  simp only [authenticate, getPrincipal, getTenantContext, if_neg remote, deployed.configured]
  cases resolveJwtBearer app request.authorization with
  | error error => rfl
  | ok state =>
    cases held : state.identity with
    | error error => simp [bind, Except.bind, held]
    | ok identity =>
      simp only [bind, Except.bind, pure, Except.pure, held, Bool.not_true, Bool.false_eq_true, if_false]
      cases (app.tenantRegistry.get identity.tenant).mapError AuthError.unknownTenant <;> rfl

/-- The claims that the verified token of a request carries. -/
def Verified (app : Application) (request : Request) (claims : Claims) : Prop :=
  ∃ token, bearerToken request.authorization = some token ∧
    app.verify app.jwtIdentityResolver.jwksUri app.jwtIdentityResolver.issuer
      app.jwtIdentityResolver.audience token = .ok claims

theorem resolve_verified {app : Application} {token : String} {claims : Claims}
    (decoded : app.verify app.jwtIdentityResolver.jwksUri app.jwtIdentityResolver.issuer
      app.jwtIdentityResolver.audience token = .ok claims) :
    app.jwtIdentityResolver.resolve token = app.jwtIdentityResolver.identify claims := by
  rw [EntraIdentityResolver.resolve]
  change (do let claims ← (app.verify _ _ _ token).mapError _; _) = _
  rw [decoded]
  rfl

theorem resolve_ok {app : Application} {token : String} {identity : JwtIdentity}
    (resolved : app.jwtIdentityResolver.resolve token = .ok identity) :
    ∃ claims, app.verify app.jwtIdentityResolver.jwksUri app.jwtIdentityResolver.issuer
        app.jwtIdentityResolver.audience token = .ok claims ∧
      app.jwtIdentityResolver.identify claims = .ok identity := by
  cases decoded : app.verify app.jwtIdentityResolver.jwksUri app.jwtIdentityResolver.issuer
      app.jwtIdentityResolver.audience token with
  | ok claims => exact ⟨claims, rfl, resolve_verified decoded ▸ resolved⟩
  | error reason =>
    rw [EntraIdentityResolver.resolve] at resolved
    change (do let claims ← (app.verify _ _ _ token).mapError _; _) = _ at resolved
    rw [decoded] at resolved
    cases resolved

theorem resolveJwtBearer_ok {app : Application} {request : Request} {state : RequestState}
    (resolved : resolveJwtBearer app request.authorization = .ok state) :
    ∃ claims identity, Verified app request claims ∧ state = ⟨some identity⟩ ∧
      app.jwtIdentityResolver.identify claims = .ok identity := by
  simp only [resolveJwtBearer] at resolved
  split at resolved
  · cases resolved
  · rename_i token carried
    split at resolved
    · cases resolved
    · rename_i identity granted
      obtain ⟨claims, decoded, identified⟩ := resolve_ok granted
      exact ⟨claims, identity, ⟨token, carried, decoded⟩, (Except.ok.inj resolved).symm, identified⟩

theorem resolveJwtBearer_congr {app : Application} {first second : Request}
    {firstClaims secondClaims : Claims} (firstVerified : Verified app first firstClaims)
    (secondVerified : Verified app second secondClaims)
    (same : app.jwtIdentityResolver.identify firstClaims = app.jwtIdentityResolver.identify secondClaims) :
    resolveJwtBearer app first.authorization = resolveJwtBearer app second.authorization := by
  obtain ⟨token, carried, decoded⟩ := firstVerified
  obtain ⟨token', carried', decoded'⟩ := secondVerified
  simp only [resolveJwtBearer, carried, carried', resolve_verified decoded, resolve_verified decoded', same]

theorem authenticate_ok {app : Application} (deployed : Deployed app.settings) {request : Request}
    {principal : Principal} {context : TenantContext}
    (granted : authenticate app request = .ok (principal, context)) :
    ∃ claims identity, Verified app request claims ∧
      app.jwtIdentityResolver.identify claims = .ok identity ∧ principal = identity.principal ∧
      context.tenant = identity.tenant ∧ app.tenantRegistry.get identity.tenant = .ok context.bundle := by
  rw [authenticate_deployed deployed] at granted
  cases resolved : resolveJwtBearer app request.authorization with
  | error error => rw [resolved] at granted; cases granted
  | ok state =>
    obtain ⟨claims, identity, verified, rfl, identified⟩ := resolveJwtBearer_ok resolved
    simp only [resolved, RequestState.identity, bind, Except.bind, pure, Except.pure] at granted
    cases found : app.tenantRegistry.get identity.tenant with
    | error error => rw [found] at granted; cases granted
    | ok bundle =>
      rw [found] at granted
      obtain ⟨rfl, rfl⟩ := Prod.mk.inj (Except.ok.inj granted)
      exact ⟨claims, identity, verified, identified, rfl, rfl, found⟩

/-- In a deployment the outcome depends on the `Authorization` header alone, the tenant is the only
    registered name among the claimed roles, and the form of the claimed list does not matter. -/
theorem authenticate_token_only (app : Application) (deployed : Deployed app.settings) :
    (∀ first second : Request, first.authorization = second.authorization →
      authenticate app first = authenticate app second) ∧
    (∀ (request : Request) (principal : Principal) (context : TenantContext),
      authenticate app request = .ok (principal, context) →
      ∃ claims, Verified app request claims ∧
        (∀ name ∈ app.tenantRegistry.names,
          Claimed (claims app.settings.jwtTenantClaim) name ↔ name = context.tenant) ∧
        context.tenant ∈ app.tenantRegistry.names ∧
        app.tenantRegistry.get context.tenant = .ok context.bundle ∧
        (∀ role, role ∈ principal.roles ↔
          Claimed (claims app.settings.jwtTenantClaim) role ∧ role ≠ context.tenant) ∧
        ∀ role ∈ principal.roles, role ∉ app.tenantRegistry.names) ∧
    ∀ (first second : Request) (firstClaims secondClaims : Claims) (items others : List Json),
      Verified app first firstClaims → Verified app second secondClaims →
      firstClaims app.settings.jwtTenantClaim = some (.list items) →
      secondClaims app.settings.jwtTenantClaim = some (.list others) →
      (∀ name, name ≠ app.settings.jwtTenantClaim → firstClaims name = secondClaims name) →
      Rearranged items others → authenticate app first = authenticate app second := by
  refine ⟨fun first second same => ?_, fun request principal context granted => ?_,
    fun first second firstClaims secondClaims items others firstVerified secondVerified firstClaim
      secondClaim elsewhere rearranged => ?_⟩
  · rw [authenticate_deployed deployed, authenticate_deployed deployed, same]
  · obtain ⟨claims, identity, verified, identified, rfl, tenant, found⟩ := authenticate_ok deployed granted
    obtain ⟨only, roles, _⟩ := EntraIdentityResolver.identify_ok identified
    rw [← tenant] at only roles found
    have held (name : String) : Claimed (claims app.settings.jwtTenantClaim) name ∧
        name ∈ app.tenantRegistry.names ↔ name = context.tenant := by
      rw [← EntraIdentityResolver.mem_extractRoleList, ← Finset.mem_singleton, ← only]
      exact Finset.mem_inter.symm
    have role_iff (role : String) : role ∈ identity.principal.roles ↔
        Claimed (claims app.settings.jwtTenantClaim) role ∧ role ≠ context.tenant := by
      rw [roles, Finset.mem_sdiff, Finset.mem_singleton, EntraIdentityResolver.mem_extractRoleList]
      rfl
    refine ⟨claims, verified, fun name known => ?_, ((held _).mpr rfl).2, found, role_iff, ?_⟩
    · rw [← held name]
      exact (and_iff_left known).symm
    · intro role member known
      obtain ⟨claimed, other⟩ := (role_iff role).mp member
      exact other ((held role).mp ⟨claimed, known⟩)
  · have same := app.jwtIdentityResolver.identify_rearranged rearranged firstClaim secondClaim elsewhere
    rw [authenticate_deployed deployed, authenticate_deployed deployed,
      resolveJwtBearer_congr firstVerified secondVerified same]

def reviewTenants : TenantRegistry where
  bundles := [⟨"kyc-review", {"customer"}⟩, ⟨"payment-disputes", {"transactions", "customer"}⟩]
  distinct := by decide
  nonempty := by simp

def reviewClaims (roles : List Json) : Claims := fun name =>
  if name = "sub" then some (.str "analyst") else if name = "roles" then some (.list roles) else none

/-- A deployment that knows two tokens of one caller. -/
def reviewApplication : Application where
  settings := ⟨.development, some "jwks", some "issuer", some "audience", "roles"⟩
  tenantRegistry := reviewTenants
  verify := fun _ _ _ token =>
    if token = "first" then .ok (reviewClaims [.str "platform.viewer", .str "kyc-review"])
    else if token = "second" then
      .ok (reviewClaims [.null, .str "platform.viewer", .str "kyc-review"])
    else .error "Signature verification failed"

theorem authenticate_token_only_spoofed :
    authenticate reviewApplication ⟨some "Bearer first", none, "", none⟩ =
        authenticate reviewApplication ⟨some "Bearer first", some "root", "admin", some "payment-disputes"⟩ ∧
      authenticate reviewApplication ⟨some "Bearer first", none, "", none⟩ =
        authenticate reviewApplication ⟨some "Bearer second", none, "", none⟩ := by
  have facts := authenticate_token_only reviewApplication ⟨by decide, by decide⟩
  refine ⟨facts.1 _ _ rfl, facts.2.2 _ _ _ _ _ _ ⟨"first", by decide, rfl⟩ ⟨"second", by decide, rfl⟩ rfl rfl
    ?_ (.blank (by simp))⟩
  intro name other
  have apart : name ≠ "roles" := other
  simp only [reviewClaims, if_neg apart]

end AgentPlatform.Gateway
