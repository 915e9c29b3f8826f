import BlocksGenesis.Asyncio.LoadSharing
import BlocksGenesis.Auth.ProviderStore
import BlocksGenesis.Tenants.TenantService

/-! Callers of the two services that share a load, any of whom may be cancelled. -/

namespace BlocksGenesis.Tenants
open Python Asyncio.SharedLoad BlocksGenesis.Auth

/-- What else changes the tenant cache: a notification, or a tenant found by its domain. -/
inductive CacheChange where
  | message (message : TenantCacheUpdateMessage)
  | foundByDomain (copy : Copy)

def changeCache (rt : Runtime) (cache : Cache) : CacheChange → Cache
  | .message message =>
    match normalizeCacheUpdate rt message with
    | some update => applyUpdateMessage rt cache update
    | none => cache
  | .foundByDomain copy => storeTenant cache (some copy)

/-- `get_tenant` around its shared load. A load that fails, or whose document does not parse, gives
no tenant, and then nothing is stored. -/
def sharedGetTenant (rt : Runtime) : Policy String (Option Tenant) Cache CacheChange where
  refuse tenantId := if tenantId.isEmpty then some none else none
  hit cache _ tenantId := (cache.lookup (some tenantId)).map (fun copy => ⟨some copy.tenant, copy.readAt⟩)
  store cache _ _ loaded := storeTenant cache (loaded.value.map (fun tenant => ⟨tenant, some loaded.readAt⟩))
  update := changeCache rt

/-- Of a tenant there is one load at a time, of its providers too, and nobody raises but who is
cancelled, or joins or awaits what a cancelled caller awaited. -/
theorem one_impatient_caller (rt : Runtime) :
    SafelyShared (sharedGetTenant rt) ∧ SafelyShared ProviderStore.getActive :=
  ⟨safely_shared _, safely_shared _⟩

theorem impatient_caller_fails_others :
    ¬ NobodyDisturbed (sharedGetTenant asciiRuntime) (fun _ _ => True) ∧
      ¬ NobodyDisturbed ProviderStore.getActive (fun _ _ => True) := by
  constructor
  · intro h
    have hundisturbed := h [] (impatience "acme") _ (Machine.Run.of_exec (fun _ _ _ => trivial) rfl) 1 _ rfl rfl
    cases hundisturbed
  · intro h
    have hundisturbed := h [] (impatience "acme") _ (Machine.Run.of_exec (fun _ _ _ => trivial) rfl) 1 _ rfl rfl
    cases hundisturbed

end BlocksGenesis.Tenants
