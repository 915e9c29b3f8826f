import Mathlib.Data.Bool.AllAny
import BlocksGenesis.Python.Lower
import BlocksGenesis.Tenants.Freshness

/-! Each cached tenant stands under its own id, and an update changes the entry it names and no other. -/

namespace BlocksGenesis.Tenants
open Python BlocksGenesis.Auth Machine

/-- The entry an update names: the id a removal resolves to, the id of the tenant an upsert carries. -/
def namedEntry (rt : Runtime) (update : TenantCacheUpdateMessage) : Option String :=
  if updateAction rt update == "remove" then resolveTenantId update
  else if updateAction rt update == "upsert" then update.tenant.bind (given ·.tenantId)
  else none

/-- What a publisher sends: the update as it normalizes it, in JSON, or nothing. -/
def updateTenantVersion (rt : Runtime) (dump : TenantCacheUpdateMessage → String) (update : TenantCacheUpdateMessage) :
    Option String :=
  (normalizeCacheUpdate rt update).map dump

section Updates
variable {rt : Runtime} {update normalized : TenantCacheUpdateMessage} {id : String} {cache : Cache}

theorem resolveTenantId_not_blank (h : resolveTenantId update = some id) : blank id = false := by
  have hfilter : ∀ {o : Option String}, o.filter (fun id => !blank id) = some id → blank id = false := by
    intro o ho
    have hnot := (Option.filter_eq_some_iff.mp ho).2
    simpa using hnot
  unfold resolveTenantId at h
  split at h
  · rename_i found hfound
    cases h
    exact hfilter hfound
  · exact hfilter h

theorem namedEntry_ne_empty (h : namedEntry rt update = some id) : id ≠ "" := by
  unfold namedEntry at h
  split at h
  · exact ne_empty_of_not_blank (resolveTenantId_not_blank h)
  · split at h
    · obtain ⟨tenant, _, hid⟩ := Option.bind_eq_some_iff.mp h
      exact given_ne_empty hid
    · cases h

/-- An update is normalized if it names an entry, and names it in its own field then. -/
theorem normalizeCacheUpdate_eq (rt : Runtime) (update : TenantCacheUpdateMessage) :
    normalizeCacheUpdate rt update = (namedEntry rt update).map (fun id =>
      { update with action := updateAction rt update, tenantId := some id }) := by
  unfold normalizeCacheUpdate namedEntry
  split
  · rename_i hremove
    rw [beq_iff_eq.mp hremove]
  · split
    · rename_i hupsert
      rw [beq_iff_eq.mp hupsert]
    · rfl

theorem normalizeCacheUpdate_some (h : normalizeCacheUpdate rt update = some normalized) :
    ∃ id, namedEntry rt update = some id ∧
      normalized = { update with action := updateAction rt update, tenantId := some id } := by
  rw [normalizeCacheUpdate_eq] at h
  obtain ⟨id, hnamed, hnormalized⟩ := Option.map_eq_some_iff.mp h
  exact ⟨id, hnamed, hnormalized.symm⟩

theorem namedEntry_action (h : namedEntry rt update = some id) :
    updateAction rt update = "remove" ∨ updateAction rt update = "upsert" := by
  unfold namedEntry at h
  split at h
  · rename_i hremove
    exact .inl (beq_iff_eq.mp hremove)
  · split at h
    · rename_i hupsert
      exact .inr (beq_iff_eq.mp hupsert)
    · cases h

theorem updateAction_normalized (hl : Lowers rt.lower) (h : normalizeCacheUpdate rt update = some normalized) :
    updateAction rt normalized = updateAction rt update := by
  obtain ⟨id, hnamed, rfl⟩ := normalizeCacheUpdate_some h
  have hkept : ∀ action ∈ ["remove", "upsert"], rt.lower (strip action) = action := by
    intro action haction
    have hstrip : ∀ action ∈ ["remove", "upsert"], strip action = action := by decide
    have hplain : ∀ action ∈ ["remove", "upsert"],
        ∀ c ∈ action.toList, c.toNat < 65 ∨ 90 < c.toNat ∧ c.toNat < 128 := by
      simp only [List.forall_mem_cons]
      exact ⟨List.all_iff_forall_prop.mp (by decide), List.all_iff_forall_prop.mp (by decide), nofun⟩
    rw [hstrip action haction]
    exact hl.plain (hplain action haction)
  change rt.lower (strip (updateAction rt update)) = updateAction rt update
  apply hkept
  rcases namedEntry_action hnamed with hremove | hupsert
  · rw [hremove]
    exact List.mem_cons_self
  · rw [hupsert]
    exact List.mem_cons_of_mem _ List.mem_cons_self

/-- The normalized update names the same entry. -/
theorem namedEntry_normalized (hl : Lowers rt.lower) (h : normalizeCacheUpdate rt update = some normalized) :
    namedEntry rt normalized = namedEntry rt update := by
  have haction := updateAction_normalized hl h
  obtain ⟨id, hnamed, rfl⟩ := normalizeCacheUpdate_some h
  rw [hnamed]
  unfold namedEntry at hnamed ⊢
  rw [haction]
  split at hnamed
  · rename_i hremove
    rw [if_pos hremove, resolveTenantId, Option.filter_some, resolveTenantId_not_blank hnamed]
    rfl
  · rename_i hremove
    rw [if_neg hremove]
    exact hnamed

theorem updateTarget_normalized (hl : Lowers rt.lower) (h : normalizeCacheUpdate rt update = some normalized) :
    updateTarget rt normalized = namedEntry rt update := by
  have haction := updateAction_normalized hl h
  obtain ⟨id, hnamed, rfl⟩ := normalizeCacheUpdate_some h
  have hne := namedEntry_ne_empty hnamed
  unfold updateTarget
  rw [haction]
  split
  · rw [hnamed, given, if_neg (fun hempty => hne (String.isEmpty_iff.mp hempty))]
  · rename_i hremove
    unfold namedEntry
    rw [if_neg hremove, if_pos]
    apply beq_iff_eq.mpr
    exact (namedEntry_action hnamed).resolve_left (fun he => hremove (beq_iff_eq.mpr he))

/-- There is nothing left to normalize in a normalized update. -/
theorem normalizeCacheUpdate_normalized (hl : Lowers rt.lower) (h : normalizeCacheUpdate rt update = some normalized) :
    normalizeCacheUpdate rt normalized = some normalized := by
  have haction := updateAction_normalized hl h
  have hentry := namedEntry_normalized hl h
  obtain ⟨id, hnamed, rfl⟩ := normalizeCacheUpdate_some h
  rw [normalizeCacheUpdate_eq, hentry, hnamed, haction]
  rfl

/-- All entries but the one that is named are as they were. -/
theorem applyUpdateMessage_frame (h : updateTarget rt update = some id) :
    (applyUpdateMessage rt cache update).pop (some id) = cache.pop (some id) := by
  unfold updateTarget at h
  unfold applyUpdateMessage
  split at h
  · rename_i hremove
    rw [if_pos hremove, h]
    exact Dict.pop_pop
  · rename_i hremove
    obtain ⟨tenant, htenant, hid⟩ := Option.bind_eq_some_iff.mp h
    rw [if_neg hremove, htenant]
    dsimp only
    rw [hid]
    dsimp only
    split
    · exact Dict.pop_pop
    · exact Dict.pop_set

end Updates

/-! ## Every run -/

/-- Each cached tenant stands under its own id. -/
structure Keyed (s : State) : Prop where
  attended : Attended s
  cache : ∀ entry ∈ s.cache, entry.1 = entry.2.tenant.tenantId

theorem keyed_step {rt : Runtime} {s s' : State} {e : Event} (hs : Keyed s) (h : step rt s e = some s') :
    Keyed s' := by
  obtain ⟨next, ha, rfl⟩ := Option.map_eq_some_iff.mp h
  rcases act_cases hs.attended ha with hm | ⟨message, update, _, _, rfl⟩
  · refine ⟨hm.attended, fun entry hentry => ?_⟩
    rcases hm.cache entry hentry with hold | ⟨hk, _⟩
    · exact hs.cache entry hold
    · exact hk
  · refine ⟨hs.attended, fun entry hentry => ?_⟩
    rcases mem_applyUpdateMessage hentry with ⟨hold, _⟩ | ⟨hk, _⟩
    · exact hs.cache entry hold
    · exact hk

/-- In every state a run reaches the cached tenants stand under their own ids, an update leaves all entries alone
but the one it names, and one that names none leaves everything alone; and what a publisher normalizes and sends
does what the update does where it is handled at once. -/
theorem cache_stays_in_frame {rt : Runtime} {database : List TenantDocument} {events : List Event} {s : State}
    (hl : Lowers rt.lower) (h : Run (step rt) (fun _ _ => True) { database } events s) :
    (∀ entry ∈ s.cache, entry.1 = entry.2.tenant.tenantId) ∧
    handleUpdate rt s none = s ∧
    (∀ update, match namedEntry rt update with
      | none => handleUpdate rt s (some update) = s
      | some id => (handleUpdate rt s (some update)).cache.pop (some id) = s.cache.pop (some id)) ∧
    (∀ update, (normalizeCacheUpdate rt update).bind (normalizeCacheUpdate rt) = normalizeCacheUpdate rt update) ∧
    ∀ update dump parse, (∀ sent, normalizeCacheUpdate rt update = some sent → parse (dump sent) = some sent) →
      handleUpdate rt s ((updateTenantVersion rt dump update).bind parse) = handleUpdate rt s (some update) := by
  have hkeyed : Keyed s := by
    have hinitial : Attended ({ database } : State) := fun _ _ hm => nomatch hm
    exact h.invariant ⟨hinitial, List.forall_mem_nil _⟩ (fun hs _ htaken => keyed_step hs htaken)
  refine ⟨hkeyed.cache, rfl, fun update => ?_, fun update => ?_, fun update dump parse hjson => ?_⟩
  · cases hnamed : namedEntry rt update with
    | none =>
      have hnone : normalizeCacheUpdate rt update = none := by
        rw [normalizeCacheUpdate_eq, hnamed]
        rfl
      dsimp only
      rw [handleUpdate, Option.bind_some, hnone]
    | some id =>
      dsimp only
      cases hnormalized : normalizeCacheUpdate rt update with
      | none =>
        rw [normalizeCacheUpdate_eq, hnamed] at hnormalized
        cases hnormalized
      | some normalized =>
        rw [handleUpdate, Option.bind_some, hnormalized]
        exact applyUpdateMessage_frame ((updateTarget_normalized hl hnormalized).trans hnamed)
  · cases hnormalized : normalizeCacheUpdate rt update with
    | none => rfl
    | some normalized => exact normalizeCacheUpdate_normalized hl hnormalized
  · unfold handleUpdate updateTenantVersion
    rw [Option.bind_some]
    cases hnormalized : normalizeCacheUpdate rt update with
    | none => rfl
    | some normalized =>
      rw [Option.map_some, Option.bind_some, hjson normalized hnormalized, Option.bind_some,
        normalizeCacheUpdate_normalized hl hnormalized]

def removalJson : String := "\x7b\"Tenant\":null,\"TenantId\":\"acme\",\"Action\":\"remove\"\x7d"

/-- A tenant is loaded and cached, and a removal in capitals is sent. -/
theorem cache_stays_in_frame_acme :
    ∃ s, Run (step asciiRuntime) (fun _ _ => True) { database := [⟨"1", acme, true⟩] }
        [.getTenant "acme", .enterLoadLock 0, .answerLoad 0 false, .finishLoad 0, .resumeGetTenant 0,
          .finishGetTenant 0] s ∧
      s.cache = [(some "acme", ⟨acme, some 2⟩)] ∧ (∀ entry ∈ s.cache, entry.1 = entry.2.tenant.tenantId) ∧
      handleUpdate asciiRuntime s ((updateTenantVersion asciiRuntime (fun _ => removalJson)
          { tenantId := some "acme", action := " REMOVE" }).bind
          (fun text => if text = removalJson then some removal else none)) =
        handleUpdate asciiRuntime s (some { tenantId := some "acme", action := " REMOVE" }) := by
  have hloaded : ∃ s, Run (step asciiRuntime) (fun _ _ => True) { database := [⟨"1", acme, true⟩] }
      [.getTenant "acme", .enterLoadLock 0, .answerLoad 0 false, .finishLoad 0, .resumeGetTenant 0,
        .finishGetTenant 0] s ∧ s.cache = [(some "acme", ⟨acme, some 2⟩)] :=
    ⟨_, Run.of_exec (fun _ _ _ => trivial) rfl, rfl⟩
  obtain ⟨s, hrun, hcache⟩ := hloaded
  obtain ⟨hkeyed, _, _, _, hsent⟩ := cache_stays_in_frame asciiRuntime_lowers hrun
  refine ⟨s, hrun, hcache, hkeyed, hsent _ _ _ (fun sent hnormalized => ?_)⟩
  have hremoval : normalizeCacheUpdate asciiRuntime { tenantId := some "acme", action := " REMOVE" } = some removal :=
    rfl
  rw [hremoval] at hnormalized
  rw [if_pos rfl, hnormalized]

end BlocksGenesis.Tenants
