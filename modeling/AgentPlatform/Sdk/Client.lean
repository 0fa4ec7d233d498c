import AgentPlatform.Base.Ranking
import AgentPlatform.Base.Separated
import AgentPlatform.Gateway.Auth

/-! # The client of the gateway

Its identity headers, and the roles that the gateway reads from them. -/

namespace AgentPlatform.Sdk

open Gateway Python

/-- The default headers of the client. -/
structure AgentPlatformClient where
  localUser : String
  localRoles : String
  localTenant : String
deriving DecidableEq, Repr

/-- `AgentPlatformClient.__init__`. -/
def AgentPlatformClient.make (user : String) (roles : Finset String) (tenant : String) : AgentPlatformClient where
  localUser := user
  localRoles := ",".intercalate (sorted roles.val)
  localTenant := tenant

/-- The request of the client as the gateway reads it, where `deliver` is what becomes of a header value on
    the way, or `none` if it is refused. -/
def AgentPlatformClient.request (deliver : String → Option String) (client : AgentPlatformClient) :
    Option Request := do
  let user ← deliver client.localUser
  let roles ← deliver client.localRoles
  let tenant ← deliver client.localTenant
  return ⟨none, some user, roles, some tenant⟩

/-- The optional white space around a header value. -/
def isPadding (c : Char) : Bool := c = ' ' || c = '\t'

/-- A header value arrives as it was sent, but for the white space around it. -/
def Faithful (deliver : String → Option String) : Prop :=
  ∀ sent received, deliver sent = some received → ∃ before after,
    sent.toList = before ++ received.toList ++ after ∧ before.all isPadding = true ∧ after.all isPadding = true

/-- A role that is not blank, has no comma and no white space around it. -/
structure IsRoleName (role : String) : Prop where
  nonempty : role ≠ ""
  whole : ',' ∉ role.toList
  trimmed : strip role = role

/-- The roles of a header. -/
def headerRoles (roles : String) : Finset String :=
  ((fields ',' isSpace roles.toList).map String.ofList).toFinset

section

variable {role : String} {roles : Finset String}

theorem isRoleName_iff : IsRoleName role ↔ IsField ',' isSpace role.toList := by
  constructor
  · rintro ⟨nonempty, whole, trimmed⟩
    refine ⟨by simpa using nonempty, whole, ?_⟩
    rwa [strip, ← String.toList_inj, String.toList_ofList] at trimmed
  · rintro ⟨nonempty, whole, trimmed⟩
    refine ⟨by simpa using nonempty, whole, ?_⟩
    rw [strip, trimmed, String.ofList_toList]

theorem mem_headerRoles {header : String} : role ∈ headerRoles header ↔ role.toList ∈ fields ',' isSpace header.toList := by
  rw [headerRoles, List.mem_toFinset, List.mem_map]
  constructor
  · rintro ⟨field, member, rfl⟩
    rwa [String.toList_ofList]
  · intro member
    exact ⟨role.toList, member, String.ofList_toList⟩

theorem toList_localRoles (user tenant : String) :
    (AgentPlatformClient.make user roles tenant).localRoles.toList =
      [','].intercalate ((sorted roles.val).map String.toList) := by
  rw [AgentPlatformClient.make, String.toList_intercalate]
  rfl

theorem headerRoles_eq_iff (user tenant : String) :
    headerRoles (AgentPlatformClient.make user roles tenant).localRoles = roles ↔ ∀ role ∈ roles, IsRoleName role := by
  have sent (role : String) : role ∈ roles ↔ role.toList ∈ (sorted roles.val).map String.toList := by
    rw [List.mem_map_of_injective fun _ _ => String.toList_inj.mp, mem_sorted, Finset.mem_val]
  constructor
  · intro same role member
    rw [isRoleName_iff]
    rw [← same, mem_headerRoles] at member
    exact isField_of_mem_fields member
  · intro names
    ext role
    rw [mem_headerRoles, toList_localRoles, sent, fields_intercalate]
    intro part member
    obtain ⟨role, listed, rfl⟩ := List.mem_map.mp member
    exact isRoleName_iff.mp (names role (Finset.mem_val.mp (mem_sorted.mp listed)))

theorem headerRoles_delivered {deliver : String → Option String} (faithful : Faithful deliver) {sent received : String}
    (delivered : deliver sent = some received) : headerRoles received = headerRoles sent := by
  obtain ⟨before, after, shape, leading, trailing⟩ := faithful sent received delivered
  have skipped {padding : List Char} (blank : padding.all isPadding = true) : ∀ c ∈ padding, isSpace c = true := by
    intro c member
    have pad := List.all_eq_true.mp blank c member
    simp only [isPadding, Bool.or_eq_true, decide_eq_true_eq] at pad
    rcases pad with rfl | rfl <;> decide
  rw [headerRoles, headerRoles, shape, fields_padded (by decide) (skipped leading) (skipped trailing)]

theorem AgentPlatformClient.request_roles {deliver : String → Option String} {client : AgentPlatformClient}
    {request : Request} (delivered : client.request deliver = some request) :
    deliver client.localRoles = some request.roles := by
  obtain ⟨user, -, delivered⟩ := Option.bind_eq_some_iff.mp delivered
  obtain ⟨roles, arrived, delivered⟩ := Option.bind_eq_some_iff.mp delivered
  obtain ⟨tenant, -, made⟩ := Option.bind_eq_some_iff.mp delivered
  rw [arrived, ← Option.some.inj made]

theorem headerRoles_eq (header : String) :
    headerRoles header =
      (((header.toList.splitOn ',').map fun role => strip (String.ofList role)).filter (· ≠ "")).toFinset := by
  ext role
  rw [mem_headerRoles, fields, List.mem_toFinset, List.mem_filter, List.mem_filter, List.mem_map, List.mem_map,
    decide_eq_true_eq, decide_eq_true_eq, Ne, Ne, String.toList_eq_nil_iff]
  refine and_congr_left fun _ => exists_congr fun piece => and_congr_right fun _ => ?_
  rw [strip, ← String.toList_inj, String.toList_ofList, String.toList_ofList]

theorem getPrincipal_local {app : Application} (locally : app.settings.localIdentity) (request : Request)
    (state : RequestState) :
    getPrincipal app request state =
      if strip (request.user.getD "") = "" then
        .error (.unauthorized (.text "Local identity header is required") "Local")
      else .ok (⟨strip (request.user.getD ""), headerRoles request.roles⟩, state) := by
  simp only [getPrincipal, if_pos locally, headerRoles_eq]
  split
  · rfl
  · rfl

/-- The gateway grants the roles of the client, and no other, exactly when each of them is a role name. -/
theorem AgentPlatformClient.granted_iff {deliver : String → Option String} (faithful : Faithful deliver)
    {app : Application} (locally : app.settings.localIdentity) {user tenant : String} {request : Request}
    (delivered : (AgentPlatformClient.make user roles tenant).request deliver = some request)
    {state after : RequestState} {principal : Principal}
    (authenticated : getPrincipal app request state = .ok (principal, after)) :
    principal.roles = roles ↔ ∀ role ∈ roles, IsRoleName role := by
  rw [getPrincipal_local locally] at authenticated
  split at authenticated
  · cases authenticated
  · obtain ⟨rfl, rfl⟩ := Prod.mk.inj (Except.ok.inj authenticated)
    rw [headerRoles_delivered faithful (AgentPlatformClient.request_roles delivered), headerRoles_eq_iff]

end

/-! ## A role with a comma -/

def localApp : Application where
  settings := ⟨.localhost, none, none, none, "roles"⟩
  tenantRegistry := ⟨[⟨"kyc-review", {"customer"}⟩], List.nodup_singleton _, List.cons_ne_nil _ _⟩
  verify _ _ _ _ := .error "no provider"

def analystRequest (role : String) : Request := ⟨none, some "analyst", role, some "kyc-review"⟩

theorem request_analyst (role : String) :
    (AgentPlatformClient.make "analyst" {role} "kyc-review").request some = some (analystRequest role) := by
  have single : sorted ({role} : Finset String).val = [role] := Multiset.sort_singleton ..
  rw [AgentPlatformClient.make, single]
  rfl

theorem faithful_some : Faithful some := by
  intro sent received delivered
  obtain rfl := Option.some.inj delivered
  exact ⟨[], [], (List.append_nil _).symm, rfl, rfl⟩

def analyst (header : String) : Principal := ⟨"analyst", headerRoles header⟩

theorem getPrincipal_analyst (header : String) :
    getPrincipal localApp (analystRequest header) ⟨none⟩ = .ok (analyst header, ⟨none⟩) := by
  have subject : strip "analyst" = "analyst" := by decide
  rw [getPrincipal_local (.inl rfl), analystRequest, Option.getD_some, subject]
  rfl

theorem viewer_isRoleName : IsRoleName "viewer" := ⟨by decide, by decide, by decide⟩

theorem AgentPlatformClient.granted_viewer : ∃ request principal after,
    (AgentPlatformClient.make "analyst" {"viewer"} "kyc-review").request some = some request ∧
      getPrincipal localApp request ⟨none⟩ = .ok (principal, after) ∧ principal.roles = {"viewer"} := by
  refine ⟨analystRequest "viewer", analyst "viewer", ⟨none⟩, request_analyst _, getPrincipal_analyst _, ?_⟩
  refine (AgentPlatformClient.granted_iff faithful_some (.inl rfl) (request_analyst "viewer")
    (getPrincipal_analyst "viewer")).mpr fun role member => ?_
  rw [Finset.mem_singleton.mp member]
  exact viewer_isRoleName

/-- One role of the client is two at the gateway, one of them an administrator's. -/
theorem AgentPlatformClient.granted_widened : ∃ request principal after,
    (AgentPlatformClient.make "analyst" {"viewer,admin"} "kyc-review").request some = some request ∧
      getPrincipal localApp request ⟨none⟩ = .ok (principal, after) ∧
      principal.roles ≠ {"viewer,admin"} ∧ "admin" ∈ principal.roles :=
  ⟨analystRequest "viewer,admin", analyst "viewer,admin", ⟨none⟩, request_analyst _, getPrincipal_analyst _,
    by decide, by decide⟩

end AgentPlatform.Sdk
