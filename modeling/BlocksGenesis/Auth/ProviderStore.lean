import BlocksGenesis.Asyncio.LoadFreshness
import BlocksGenesis.Auth.Provider

/-! The store of a tenant's active providers. A step of the clock that the callers read is a
microsecond. -/

namespace BlocksGenesis.Auth.ProviderStore
open Python Asyncio.SharedLoad

abbrev Providers := List ThirdPartyJwtProvider

/-- Each tenant's providers, and the monotonic time at which they were stored. -/
abbrev Cache := Dict String (Loaded Providers × Int)

def cacheLifetimeSeconds : Int := 60

inductive Change where
  | invalidate (tenantId : String)

def invalidate (cache : Cache) (tenantId : String) : Cache :=
  if blank tenantId then cache else cache.pop tenantId

def cachedProviders (cache : Cache) (now : Int) (tenantId : String) : Option (Cached Providers) :=
  match cache.lookup tenantId with
  | some (loaded, storedAt) =>
    if now - storedAt ≤ cacheLifetimeSeconds * 1000000 then some ⟨loaded.value, some loaded.readAt⟩ else none
  | none => none

/-- `get_active` around its shared load. A read that fails gives an empty list. -/
def getActive : Policy String Providers Cache Change where
  refuse tenantId := if blank tenantId then some [] else none
  hit := cachedProviders
  store cache now tenantId loaded := cache.set tenantId (loaded, now)
  update cache
    | .invalidate tenantId => invalidate cache tenantId

@[simp] theorem getActive_hit : getActive.hit = cachedProviders := rfl

@[simp] theorem getActive_store (cache : Cache) (now : Int) (tenantId : String) (loaded : Loaded Providers) :
    getActive.store cache now tenantId loaded = cache.set tenantId (loaded, now) := rfl

@[simp] theorem getActive_update (cache : Cache) (tenantId : String) :
    getActive.update cache (.invalidate tenantId) = invalidate cache tenantId := by
  simp only [getActive]

abbrev State := Asyncio.SharedLoad.State String Providers Cache Change
abbrev Event := Asyncio.SharedLoad.Event String Providers Change

/-! ## Reads after an invalidation -/

/-- The tenants whose entry is dropped. -/
def drops : Change → String → Prop
  | .invalidate tenantId, key => blank tenantId = false ∧ key = tenantId

theorem cachedProviders_some {cache : Cache} {now : Int} {tenantId : String} {cached : Cached Providers}
    (h : cachedProviders cache now tenantId = some cached) :
    ∃ loaded storedAt, cache.lookup tenantId = some (loaded, storedAt) ∧ cached.readAt = some loaded.readAt := by
  unfold cachedProviders at h
  split at h
  · rename_i loaded storedAt hl
    split at h
    · cases h
      exact ⟨loaded, storedAt, hl, rfl⟩
    · cases h
  · cases h

theorem cachedProviders_congr {cache other : Cache} {now : Int} {tenantId : String}
    (h : cache.lookup tenantId = other.lookup tenantId) :
    cachedProviders cache now tenantId = cachedProviders other now tenantId := by
  unfold cachedProviders
  rw [h]

theorem cachedProviders_set {cache : Cache} {now later : Int} {key tenantId : String} {loaded : Loaded Providers}
    {cached : Cached Providers}
    (h : cachedProviders (cache.set key (loaded, now)) later tenantId = some cached) :
    tenantId = key ∧ cached.readAt = some loaded.readAt ∨ cachedProviders cache later tenantId = some cached := by
  by_cases hk : tenantId = key
  · subst hk
    obtain ⟨found, storedAt, hl, hr⟩ := cachedProviders_some h
    rw [Dict.lookup_set_self] at hl
    cases hl
    exact .inl ⟨rfl, hr⟩
  · exact .inr ((cachedProviders_congr (Dict.lookup_set_of_ne hk)).symm.trans h)

theorem cachedProviders_invalidate {cache : Cache} {now : Int} {key tenantId : String} {cached : Cached Providers}
    (h : cachedProviders (invalidate cache key) now tenantId = some cached) :
    ¬ drops (.invalidate key) tenantId ∧ cachedProviders cache now tenantId = some cached := by
  unfold invalidate at h
  split at h
  · rename_i hblank
    refine ⟨?_, h⟩
    intro hboth
    obtain ⟨hnot, _⟩ := hboth
    rw [hblank] at hnot
    cases hnot
  · obtain ⟨loaded, storedAt, hl, _⟩ := cachedProviders_some h
    obtain ⟨hne, _⟩ := Dict.lookup_pop hl
    refine ⟨fun hd => hne hd.2, ?_⟩
    exact (cachedProviders_congr (Dict.lookup_pop_of_ne hne)).symm.trans h

theorem getActive_dropping : Dropping getActive drops where
  store h := by
    rw [getActive_store, getActive_hit] at h
    rw [getActive_hit]
    exact cachedProviders_set h
  update {_ u _ _ _} h := by
    obtain ⟨tenantId⟩ := u
    rw [getActive_update, getActive_hit] at h
    rw [getActive_hit]
    exact cachedProviders_invalidate h

/-- A call that began after an invalidation of its tenant is answered with what was read after it. A
blank id names no tenant and has no providers. -/
def NoStaleProviders (s : State) : Prop :=
  ∀ tenantId n (i : Nat) call answer, (.invalidate tenantId, n) ∈ s.updates → s.calls[i]? = some call →
    call.key = tenantId → n < call.startedAt → call.progress = .returned answer →
    blank tenantId = true ∧ answer = .refused [] ∨ ∃ readAt, answer.readAt = some readAt ∧ n < readAt

/-- In every run where a tenant is invalidated only while no read of its providers is on its way,
what is served after an invalidation was read after it. -/
theorem invalidate_then_fresh {cache : Cache} {events : List Event} {s : State}
    (h : Machine.Run (step getActive) (Quiet drops) { cache } events s) : NoStaleProviders s := by
  intro tenantId n i call answer hn hi hk hlt hp
  subst hk
  cases hblank : blank call.key with
  | true =>
    have hrefused : getActive.refuse call.key = some [] := by
      simp only [getActive, hblank, if_true]
    rw [refusing h i call [] hi hrefused] at hp
    cases hp
    exact .inl ⟨rfl, rfl⟩
  | false =>
    rcases (fresh getActive_dropping h).answers _ n i call answer hn hi ⟨hblank, rfl⟩ hlt hp with
      ⟨value, _, hrefused⟩ | hread
    · simp [getActive, hblank] at hrefused
    · exact .inr hread

/-- Nothing is on its way when the tenant is invalidated, and the call after it reads. -/
theorem invalidate_then_fresh_acme :
    ∃ s, Machine.Run (step getActive) (Quiet drops) { cache := [] }
      [.update (.invalidate "acme"), .get "acme" 0, .enterLock 0, .begin 0, .answer 0 [], .settle 0,
        .resume 0, .finish 0 0] s ∧ NoStaleProviders s := by
  have hrun : ∃ s, Machine.Run (step getActive) (Quiet drops) { cache := [] }
      [.update (.invalidate "acme"), .get "acme" 0, .enterLock 0, .begin 0, .answer 0 [], .settle 0,
        .resume 0, .finish 0 0] s := by
    refine ⟨_, .cons ?_ rfl (.cons trivial rfl (.cons trivial rfl (.cons trivial rfl (.cons trivial rfl
      (.cons trivial rfl (.cons trivial rfl (.cons trivial rfl .nil)))))))⟩
    intro key _ readAt h
    cases h with
    | load hl => cases hl
    | awaited hi => cases hi
    | closing hi => cases hi
  obtain ⟨s, hrun⟩ := hrun
  exact ⟨s, hrun, invalidate_then_fresh hrun⟩

/-- The tenant is invalidated while a load of its providers is out, and the next call joins that load. -/
theorem revoked_provider_served :
    ¬ ∀ (events : List Event) (s : State),
      Machine.Run (step getActive) (fun _ _ => True) { cache := [] } events s → NoStaleProviders s := by
  intro h
  have hrun : Machine.Run (step getActive) (fun _ _ => True) { cache := [] }
      [.get "acme" 0, .enterLock 0, .begin 0, .answer 0 [{ tenantId := "acme", isActive := true }],
        .update (.invalidate "acme"), .get "acme" 0, .enterLock 1, .settle 0, .resume 1, .finish 1 0] _ :=
    Machine.Run.of_exec (fun _ _ _ => trivial) rfl
  rcases h _ _ hrun "acme" 4 1 _ _ List.mem_cons_self rfl rfl (by decide) rfl with
    ⟨_, hrefused⟩ | ⟨readAt, hread, hlt⟩
  · cases hrefused
  · cases hread
    exact absurd hlt (by decide)

end BlocksGenesis.Auth.ProviderStore
