import Mathlib.Data.Finset.Image

/-! # Tenant bundles -/

namespace AgentPlatform.Tenancy

structure TenantBundle where
  name : String
  entitlements : Finset String
deriving DecidableEq

/-- A lookup from names to bundles; construction rejects duplicates and an empty registry. -/
structure TenantRegistry where
  bundles : List TenantBundle
  distinct : (bundles.map TenantBundle.name).Nodup
  nonempty : bundles ≠ []

structure UnknownTenant where
  name : String
deriving DecidableEq, Repr

namespace TenantRegistry

def get (registry : TenantRegistry) (name : String) : Except UnknownTenant TenantBundle :=
  match registry.bundles.find? (·.name = name) with
  | none => .error ⟨name⟩
  | some bundle => .ok bundle

def names (registry : TenantRegistry) : Finset String :=
  (registry.bundles.map TenantBundle.name).toFinset

theorem mem_names {registry : TenantRegistry} {name : String} :
    name ∈ registry.names ↔ ∃ bundle ∈ registry.bundles, bundle.name = name := by
  rw [names, List.mem_toFinset, List.mem_map]

theorem mem_names_of_get {registry : TenantRegistry} {name : String} {bundle : TenantBundle}
    (found : registry.get name = .ok bundle) : name ∈ registry.names := by
  rw [get] at found
  split at found
  · cases found
  · rename_i bundle' search
    exact mem_names.mpr ⟨bundle', List.mem_of_find?_eq_some search, by simpa using List.find?_some search⟩

end TenantRegistry

structure TenantContext where
  tenant : String
  bundle : TenantBundle
deriving DecidableEq

end AgentPlatform.Tenancy
