import AgentPlatform.Base.Ranking
import AgentPlatform.Base.Text
import AgentPlatform.Tenancy.Registry
import Mathlib.Data.Finset.Sort
import Mathlib.Data.Rat.Defs
import Mathlib.Data.String.Basic

/-! # Identity from a verified token -/

namespace AgentPlatform.Gateway

open Python Tenancy

structure Principal where
  subject : String
  roles : Finset String
deriving DecidableEq

/-- The value of a token claim. -/
inductive Json where
  | null
  | bool (value : Bool)
  | number (value : Rat)
  | nonFinite
  | str (text : String)
  | list (items : List Json)
  | object (fields : List (String × Json))

/-- `bool(value)`. -/
def Json.truthy : Json → Bool
  | .null => false
  | .bool value => value
  | .number value => value ≠ 0
  | .nonFinite => true
  | .str text => text ≠ ""
  | .list items => !items.isEmpty
  | .object fields => !fields.isEmpty

def Json.text : Json → Option String
  | .str text => some text
  | _ => none

abbrev Claims : Type := String → Option Json

structure JwtIdentity where
  principal : Principal
  tenant : String
deriving DecidableEq

inductive JwtIdentityError where
  /-- `PyJWTError`, with its text. -/
  | invalidToken (reason : String)
  | tenantMatches (claim : String) (found : List String)
  | noSubject
deriving DecidableEq, Repr

structure EntraIdentityResolver where
  jwksUri : String
  issuer : String
  audience : String
  registry : TenantRegistry
  tenantClaim : String
  /-- Fetching the signing key and decoding the token under it. -/
  verify : (jwksUri issuer audience token : String) → Except String Claims

namespace EntraIdentityResolver

def extractRoleList (value : Option Json) : Finset String :=
  let candidates := match value with
    | some (.str text) => [Json.str text]
    | some (.list items) => items
    | _ => []
  ((candidates.filterMap Json.text).filter (· ≠ "")).toFinset

/-- `first or second`, where a missing claim is `None`. -/
def orElse (first second : Option Json) : Option Json :=
  match first with
  | some value => if value.truthy then some value else second
  | none => second

def subject (claims : Claims) : Except JwtIdentityError String :=
  match orElse (orElse (claims "preferred_username") (claims "oid")) (claims "sub") with
  | some (.str text) => if text = "" then .error .noSubject else .ok text
  | _ => .error .noSubject

/-- What follows the verification of the token. -/
def identify (resolver : EntraIdentityResolver) (claims : Claims) :
    Except JwtIdentityError JwtIdentity := do
  let claimedRoles := extractRoleList (claims resolver.tenantClaim)
  let tenantMatches := claimedRoles ∩ resolver.registry.names
  match sorted tenantMatches.val with
  | [tenantName] =>
    let platformRoles := claimedRoles \ tenantMatches
    return ⟨⟨← subject claims, platformRoles⟩, tenantName⟩
  | found => throw (.tenantMatches resolver.tenantClaim found)

def resolve (resolver : EntraIdentityResolver) (bearerToken : String) :
    Except JwtIdentityError JwtIdentity := do
  let claims ← (resolver.verify resolver.jwksUri resolver.issuer resolver.audience bearerToken).mapError
    JwtIdentityError.invalidToken
  resolver.identify claims

end EntraIdentityResolver

end AgentPlatform.Gateway
