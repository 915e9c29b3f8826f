import BlocksGenesis.Machine.Slots
import BlocksGenesis.Tenants.TenantService

/-! The cache holds no copy older than the last notification about its tenant, as long as no
notification meets a call that is yet to store a copy of that tenant. -/

namespace BlocksGenesis.Tenants
open Python BlocksGenesis.Auth Machine

/-- The copy was read from the database before the last notification about its tenant. -/
def Stale (s : State) (copy : Copy) : Prop :=
  ∃ tenantId read notified, copy.tenant.tenantId = some tenantId ∧ copy.readAt = some read ∧
    s.notified tenantId = some notified ∧ read < notified

theorem stale_congr {s s' : State} {copy : Copy} (h : s'.notified = s.notified) :
    Stale s' copy ↔ Stale s copy := by
  unfold Stale
  rw [h]

/-- A suspended call that is yet to store the copy. -/
def ToStore (tasks : List Load) (copy : Copy) : Caller → Prop
  | .awaiting _ task => tasks[task]? = some (.read (some copy)) ∨ tasks[task]? = some (.done (some copy))
  | .closing _ _ result => result = some copy
  | .queried result => result = some copy
  | _ => False

def InFlight (s : State) (copy : Copy) : Prop := ∃ caller ∈ s.callers, ToStore s.tasks copy caller

/-- The condition on a step: a notification meets no call that is yet to store a copy of its tenant. -/
def Quiet (rt : Runtime) (s : State) : Event → Prop
  | .handleUpdate message => ∀ update tenantId copy, message.bind (normalizeCacheUpdate rt) = some update →
      updateTarget rt update = some tenantId → InFlight s copy → copy.tenant.tenantId ≠ some tenantId
  | _ => True

/-! ## Loads in progress -/

/-- A call that has yet to take the load out of those in progress. -/
def Attends (tasks : List Load) (tenantId : String) (task : Nat) : Caller → Prop
  | .awaiting id i => id = tenantId ∧ i = task
  | .closing id i result => id = tenantId ∧ i = task ∧ tasks[task]? = some (.done result)
  | _ => False

/-- Every load in progress has a call that attends to it. -/
def Attended (s : State) : Prop :=
  ∀ tenantId task, s.inProgress.lookup tenantId = some task →
    ∃ caller ∈ s.callers, Attends s.tasks tenantId task caller

/-- A call that joins a load takes over no copy that was not in flight. -/
theorem joined_inFlight {s : State} {tenantId : String} {task : Nat} {copy : Copy} (hs : Attended s)
    (hl : s.inProgress.lookup tenantId = some task) (hc : ToStore s.tasks copy (.awaiting tenantId task)) :
    InFlight s copy := by
  obtain ⟨caller, hm, ha⟩ := hs tenantId task hl
  refine ⟨caller, hm, ?_⟩
  cases caller with
  | awaiting id i =>
    obtain ⟨_, rfl⟩ := ha
    exact hc
  | closing id i result =>
    obtain ⟨_, _, hdone⟩ := ha
    rcases hc with hc | hc
    · rw [hdone] at hc
      cases hc
    · rw [hdone] at hc
      cases hc
      rfl
  | locking | querying | queried | returned => exact ha.elim

/-! ## Steps other than a notification -/

/-- What such a step does: it puts in flight only copies it reads, and caches only copies in
flight, each under its own id. -/
structure Moved (s s' : State) : Prop where
  clock : s'.clock = s.clock
  notified : s'.notified = s.notified
  inFlight : ∀ copy, InFlight s' copy → InFlight s copy ∨ copy.readAt = some s.clock
  cache : ∀ entry ∈ s'.cache, entry ∈ s.cache ∨
    entry.1 = entry.2.tenant.tenantId ∧ InFlight s entry.2
  attended : Attended s'

theorem mem_set_of_ne {α : Type} {l : List α} {i : Nat} {old new x : α} (hold : l[i]? = some old)
    (hx : x ∈ l) (hne : x ≠ old) : x ∈ l.set i new := by
  obtain ⟨j, hj⟩ := List.mem_iff_getElem?.mp hx
  have hij : i ≠ j := by
    rintro rfl
    rw [hold] at hj
    exact hne (Option.some.inj hj).symm
  apply List.mem_iff_getElem?.mpr
  exact ⟨j, by rw [List.getElem?_set_ne hij, hj]⟩

/-- A step that only starts a call which stores nothing. -/
theorem started_moved {s : State} {caller : Caller} (hs : Attended s)
    (hstore : ∀ copy, ¬ ToStore s.tasks copy caller) :
    Moved s { s with callers := s.callers ++ [caller] } where
  clock := rfl
  notified := rfl
  inFlight copy h := by
    obtain ⟨other, hm, hc⟩ := h
    rcases List.mem_append.mp hm with hm | hm
    · exact .inl ⟨other, hm, hc⟩
    · rw [List.mem_singleton.mp hm] at hc
      exact absurd hc (hstore copy)
  cache entry hm := .inl hm
  attended tenantId task hl := by
    obtain ⟨other, hm, ha⟩ := hs tenantId task hl
    exact ⟨other, List.mem_append_left _ hm, ha⟩

/-- A step that moves one call on, and with it perhaps stores its copy and ends a load. -/
theorem caller_moved {s : State} {i : Nat} {old new : Caller} {cache : Cache} {inProgress : Dict String Nat}
    (hs : Attended s) (hold : s.callers[i]? = some old)
    (hstore : ∀ copy, ToStore s.tasks copy new → InFlight s copy ∨ copy.readAt = some s.clock)
    (hcache : ∀ entry ∈ cache, entry ∈ s.cache ∨ entry.1 = entry.2.tenant.tenantId ∧ InFlight s entry.2)
    (hprogress : ∀ tenantId task, inProgress.lookup tenantId = some task →
      s.inProgress.lookup tenantId = some task ∧
        (Attends s.tasks tenantId task old → Attends s.tasks tenantId task new)) :
    Moved s { s with callers := s.callers.set i new, cache, inProgress } where
  clock := rfl
  notified := rfl
  inFlight copy h := by
    obtain ⟨caller, hm, hc⟩ := h
    rcases List.mem_or_eq_of_mem_set hm with hm | rfl
    · exact .inl ⟨caller, hm, hc⟩
    · exact hstore copy hc
  cache := hcache
  attended tenantId task hl := by
    obtain ⟨hlookup, hnew⟩ := hprogress tenantId task hl
    obtain ⟨caller, hm, ha⟩ := hs tenantId task hlookup
    by_cases he : caller = old
    · rw [he] at ha
      obtain ⟨hi, _⟩ := List.getElem?_eq_some_iff.mp hold
      exact ⟨new, List.mem_set hi new, hnew ha⟩
    · exact ⟨caller, mem_set_of_ne hold hm he, ha⟩

theorem task_moved {s : State} {i : Nat} {old new : Load} (hs : Attended s) (hold : s.tasks[i]? = some old)
    (hrun : ∀ result, old ≠ .done result)
    (hread : ∀ copy, new = .read (some copy) ∨ new = .done (some copy) →
      old = .read (some copy) ∨ copy.readAt = some s.clock) :
    Moved s { s with tasks := s.tasks.set i new } where
  clock := rfl
  notified := rfl
  inFlight copy h := by
    obtain ⟨caller, hm, hc⟩ := h
    cases caller with
    | awaiting tenantId task =>
      by_cases hi : i = task
      · subst hi
        obtain ⟨hlt, _⟩ := List.getElem?_eq_some_iff.mp hold
        have hnew : new = .read (some copy) ∨ new = .done (some copy) := by
          simpa [ToStore, List.getElem?_set_self hlt] using hc
        rcases hread copy hnew with hr | hr
        · exact .inl ⟨_, hm, .inl (by rw [hold, hr])⟩
        · exact .inr hr
      · refine .inl ⟨_, hm, ?_⟩
        simpa only [ToStore, List.getElem?_set_ne hi] using hc
    | closing | queried => exact .inl ⟨_, hm, hc⟩
    | locking | querying | returned => exact hc.elim
  cache entry hm := .inl hm
  attended tenantId task hl := by
    obtain ⟨caller, hm, ha⟩ := hs tenantId task hl
    refine ⟨caller, hm, ?_⟩
    cases caller with
    | closing id j result =>
      obtain ⟨hid, hj, hdone⟩ := ha
      have hi : i ≠ task := by
        rintro rfl
        rw [hold] at hdone
        exact hrun result (Option.some.inj hdone)
      exact ⟨hid, hj, by rw [List.getElem?_set_ne hi, hdone]⟩
    | awaiting => exact ha
    | locking | querying | queried | returned => exact ha.elim

theorem getTenant_moved {s : State} (hs : Attended s) (tenantId : String) : Moved s (getTenant s tenantId) := by
  apply started_moved hs
  intro copy h
  split at h
  · exact h
  · split at h <;> exact h

theorem getTenantByDomain_moved {rt : Runtime} {s : State} (hs : Attended s) (domain : String) :
    Moved s (getTenantByDomain rt s domain) := by
  apply started_moved hs
  intro copy h
  split at h
  · exact h
  · split at h <;> exact h

/-- A new load is behind all others, and nothing is read by it yet. -/
theorem startLoad_moved {s : State} {i : Nat} {tenantId : String} (hs : Attended s)
    (hold : s.callers[i]? = some (.locking tenantId)) :
    Moved s { s with
      callers := s.callers.set i (.awaiting tenantId s.tasks.length)
      tasks := s.tasks ++ [.reading tenantId]
      inProgress := s.inProgress.set tenantId s.tasks.length } where
  clock := rfl
  notified := rfl
  inFlight copy h := by
    have hread : ∀ {task : Nat} {load : Load}, load ≠ .reading tenantId →
        (s.tasks ++ [Load.reading tenantId])[task]? = some load → s.tasks[task]? = some load := by
      intro task load hne hl
      rcases Machine.slot_of_append hl with ⟨_, hnew⟩ | ⟨_, hold⟩
      · exact absurd hnew hne
      · exact hold
    obtain ⟨caller, hm, hc⟩ := h
    have hstore : ToStore s.tasks copy caller := by
      cases caller with
      | awaiting =>
        rcases hc with hc | hc
        · exact .inl (hread nofun hc)
        · exact .inr (hread nofun hc)
      | closing | queried => exact hc
      | locking | querying | returned => exact hc.elim
    rcases List.mem_or_eq_of_mem_set hm with hm | rfl
    · exact .inl ⟨caller, hm, hstore⟩
    · exact absurd hstore (by simp [ToStore])
  cache entry hm := .inl hm
  attended id task hl := by
    obtain ⟨hi, _⟩ := List.getElem?_eq_some_iff.mp hold
    rcases Dict.lookup_of_set hl with ⟨rfl, rfl⟩ | ⟨_, hheld⟩
    · exact ⟨_, List.mem_set hi _, rfl, rfl⟩
    · obtain ⟨caller, hm, ha⟩ := hs id task hheld
      have hne : caller ≠ .locking tenantId := by
        rintro rfl
        exact ha
      refine ⟨caller, mem_set_of_ne hold hm hne, ?_⟩
      cases caller with
      | closing id j result =>
        obtain ⟨he, hj, hdone⟩ := ha
        exact ⟨he, hj, Machine.slot_append_left hdone⟩
      | awaiting => exact ha
      | locking | querying | queried | returned => exact ha.elim

theorem enterLoadLock_moved {s s' : State} {i : Nat} (hs : Attended s) (h : enterLoadLock s i = some s') :
    Moved s s' := by
  unfold enterLoadLock at h
  split at h
  · rename_i tenantId hold
    split at h
    · rename_i task hl
      cases h
      apply caller_moved hs hold
      · intro copy hc
        exact .inl (joined_inFlight hs hl hc)
      · exact fun entry hm => .inl hm
      · exact fun id task hl => ⟨hl, False.elim⟩
    · cases h
      exact startLoad_moved hs hold
  · cases h

theorem findOne_readAt {s : State} {isMatch : TenantDocument → Bool} {copy : Copy}
    (h : findOne s isMatch = some copy) : copy.readAt = some s.clock := by
  obtain ⟨document, _, hparse⟩ := Option.bind_eq_some_iff.mp h
  split at hparse
  · cases hparse
    rfl
  · cases hparse

/-- The answer of the database, unless it is an error, is what is stored there now. -/
theorem answer_readAt {s : State} {fails : Bool} {isMatch : TenantDocument → Bool} {copy : Copy}
    (h : (if fails then none else findOne s isMatch) = some copy) : copy.readAt = some s.clock := by
  cases fails with
  | true => cases h
  | false => exact findOne_readAt h

theorem answerLoad_moved {s s' : State} {i : Nat} {fails : Bool} (hs : Attended s)
    (h : answerLoad s i fails = some s') : Moved s s' := by
  unfold answerLoad at h
  split at h
  · rename_i tenantId hold
    cases h
    apply task_moved hs hold
    · intro result hdone
      cases hdone
    · intro copy hnew
      rcases hnew with hnew | hnew
      · exact .inr (answer_readAt (Load.read.inj hnew))
      · cases hnew
  · cases h

theorem finishLoad_moved {s s' : State} {i : Nat} (hs : Attended s) (h : finishLoad s i = some s') :
    Moved s s' := by
  unfold finishLoad at h
  split at h
  · rename_i result hold
    cases h
    apply task_moved hs hold
    · intro result hdone
      cases hdone
    · intro copy hnew
      rcases hnew with hnew | hnew
      · cases hnew
      · exact .inl (congrArg Load.read (Load.done.inj hnew))
  · cases h

theorem resumeGetTenant_moved {s s' : State} {i : Nat} (hs : Attended s)
    (h : resumeGetTenant s i = some s') : Moved s s' := by
  unfold resumeGetTenant at h
  split at h
  · rename_i tenantId task hold
    split at h
    · rename_i result hdone
      cases h
      apply caller_moved hs hold
      · intro copy hc
        have hr : result = some copy := hc
        exact .inl ⟨_, List.mem_of_getElem? hold, .inr (by rw [hdone, hr])⟩
      · exact fun entry hm => .inl hm
      · intro id j hl
        refine ⟨hl, ?_⟩
        rintro ⟨he, rfl⟩
        exact ⟨he, rfl, hdone⟩
    · cases h
  · cases h

/-- A call stores its own copy, under the copy's own id. -/
theorem mem_storeTenant {s : State} {i : Nat} {caller : Caller} {result : Option Copy}
    (hold : s.callers[i]? = some caller)
    (hresult : ∀ copy, result = some copy → ToStore s.tasks copy caller) :
    ∀ entry ∈ storeTenant s.cache result, entry ∈ s.cache ∨
      entry.1 = entry.2.tenant.tenantId ∧ InFlight s entry.2 := by
  intro entry h
  cases result with
  | none => exact .inl h
  | some copy =>
    rcases Dict.mem_set h with rfl | ⟨hm, _⟩
    · exact .inr ⟨rfl, caller, List.mem_of_getElem? hold, hresult copy rfl⟩
    · exact .inl hm

theorem finishGetTenant_moved {s s' : State} {i : Nat} (hs : Attended s)
    (h : finishGetTenant s i = some s') : Moved s s' := by
  unfold finishGetTenant at h
  split at h
  · rename_i tenantId task result hold
    cases h
    apply caller_moved hs hold
    · exact fun copy hc => hc.elim
    · exact mem_storeTenant hold (fun _ hr => hr)
    · intro id j hl
      -- the call attends to no load but the one it takes out, if that is still in progress
      split at hl
      · obtain ⟨hne, hl⟩ := Dict.lookup_pop hl
        exact ⟨hl, fun ha => absurd ha.1.symm hne⟩
      · rename_i hother
        refine ⟨hl, ?_⟩
        rintro ⟨rfl, rfl, _⟩
        exact absurd hl hother
  · cases h

theorem answerByDomain_moved {s s' : State} {i : Nat} {fails : Bool} (hs : Attended s)
    (h : answerByDomain s i fails = some s') : Moved s s' := by
  unfold answerByDomain at h
  split at h
  · rename_i normalized hold
    cases h
    apply caller_moved hs hold
    · exact fun copy hc => .inr (answer_readAt hc)
    · exact fun entry hm => .inl hm
    · exact fun id task hl => ⟨hl, False.elim⟩
  · cases h

theorem finishByDomain_moved {s s' : State} {i : Nat} (hs : Attended s)
    (h : finishByDomain s i = some s') : Moved s s' := by
  unfold finishByDomain at h
  split at h
  · rename_i result hold
    cases h
    apply caller_moved hs hold
    · exact fun copy hc => hc.elim
    · exact mem_storeTenant hold (fun _ hr => hr)
    · exact fun id task hl => ⟨hl, False.elim⟩
  · cases h

/-! ## Notifications -/

/-- The entry was there before, and the update is about another tenant. -/
def Untargeted (cache : Cache) (target : Option String) (entry : Option String × Copy) : Prop :=
  entry ∈ cache ∧ ∀ tenantId, target = some tenantId → entry.1 ≠ some tenantId

theorem untargeted_none {cache : Cache} {entry : Option String × Copy} (h : entry ∈ cache) :
    Untargeted cache none entry :=
  ⟨h, fun _ ht => nomatch ht⟩

theorem untargeted_pop {cache : Cache} {id : String} {entry : Option String × Copy}
    (h : entry ∈ cache.pop (some id)) : Untargeted cache (some id) entry := by
  obtain ⟨hm, hne⟩ := Dict.mem_pop.mp h
  refine ⟨hm, ?_⟩
  rintro tenantId ⟨⟩
  exact hne

theorem untargeted_set {cache : Cache} {id : String} {copy : Copy} {entry : Option String × Copy}
    (h : entry ∈ cache.set (some id) copy) : entry = (some id, copy) ∨ Untargeted cache (some id) entry := by
  rcases Dict.mem_set h with hnew | ⟨hm, hne⟩
  · exact .inl hnew
  · refine .inr ⟨hm, ?_⟩
    rintro tenantId ⟨⟩
    exact hne

/-- What an update leaves in the cache: other tenants' entries, and the tenant it carries. -/
theorem mem_applyUpdateMessage {rt : Runtime} {cache : Cache} {update : TenantCacheUpdateMessage}
    {entry : Option String × Copy} (h : entry ∈ applyUpdateMessage rt cache update) :
    Untargeted cache (updateTarget rt update) entry ∨
      entry.1 = entry.2.tenant.tenantId ∧ entry.2.readAt = none := by
  unfold applyUpdateMessage at h
  unfold updateTarget
  split at h
  · rename_i hremove
    rw [if_pos hremove]
    split at h
    · rename_i id hid
      rw [hid]
      exact .inl (untargeted_pop h)
    · rename_i hid
      rw [hid]
      exact .inl (untargeted_none h)
  · rename_i hremove
    rw [if_neg hremove]
    split at h
    · rename_i hnone
      rw [hnone]
      exact .inl (untargeted_none h)
    · rename_i tenant htenant
      rw [htenant, Option.bind_some]
      split at h
      · rename_i hid
        rw [hid]
        exact .inl (untargeted_none h)
      · rename_i id hid
        rw [hid]
        split at h
        · exact .inl (untargeted_pop h)
        · rcases untargeted_set h with rfl | hother
          · exact .inr ⟨(given_some hid).symm, rfl⟩
          · exact .inl hother

def applied (rt : Runtime) (s : State) (update : TenantCacheUpdateMessage) : State :=
  { s with
    cache := applyUpdateMessage rt s.cache update
    notified := fun t => if updateTarget rt update = some t then some s.clock else s.notified t }

theorem moved_refl {s : State} (hs : Attended s) : Moved s s :=
  ⟨rfl, rfl, fun _ hc => .inl hc, fun _ hm => .inl hm, hs⟩

/-! ## One step -/

/-- Each step moves the service on, or applies an update. -/
theorem act_cases {rt : Runtime} {s s' : State} {e : Event} (hs : Attended s) (h : act rt s e = some s') :
    Moved s s' ∨ ∃ message update, e = .handleUpdate message ∧
      message.bind (normalizeCacheUpdate rt) = some update ∧ s' = applied rt s update := by
  cases e with
  | write database =>
    cases h
    exact .inl ⟨rfl, rfl, fun _ hc => .inl hc, fun _ hm => .inl hm, hs⟩
  | getTenant tenantId =>
    cases h
    exact .inl (getTenant_moved hs tenantId)
  | enterLoadLock caller => exact .inl (enterLoadLock_moved hs h)
  | answerLoad task fails => exact .inl (answerLoad_moved hs h)
  | finishLoad task => exact .inl (finishLoad_moved hs h)
  | resumeGetTenant caller => exact .inl (resumeGetTenant_moved hs h)
  | finishGetTenant caller => exact .inl (finishGetTenant_moved hs h)
  | getTenantByDomain domain =>
    cases h
    exact .inl (getTenantByDomain_moved hs domain)
  | answerByDomain caller fails => exact .inl (answerByDomain_moved hs h)
  | finishByDomain caller => exact .inl (finishByDomain_moved hs h)
  | handleUpdate message =>
    have hh : handleUpdate rt s message = s' := Option.some.inj h
    unfold handleUpdate at hh
    split at hh
    · rw [← hh]
      exact .inl (moved_refl hs)
    · rename_i update hu
      exact .inr ⟨message, update, rfl, hu, hh.symm⟩

/-- What every run keeps: loads are attended to, and notifications and reads lie in the past. -/
structure Kept (s : State) : Prop where
  attended : Attended s
  notified : ∀ tenantId n, s.notified tenantId = some n → n < s.clock
  read : ∀ copy, InFlight s copy → ∃ r, copy.readAt = some r ∧ r < s.clock

theorem kept_step {rt : Runtime} {s s' : State} {e : Event} (hs : Kept s) (h : step rt s e = some s') :
    Kept s' := by
  obtain ⟨next, ha, rfl⟩ := Option.map_eq_some_iff.mp h
  rcases act_cases hs.attended ha with hm | ⟨message, update, _, _, rfl⟩
  · refine ⟨hm.attended, ?_, ?_⟩
    · intro tenantId n hn
      have hlt := hs.notified tenantId n (hm.notified ▸ hn)
      exact Nat.lt_succ_of_lt hlt
    · intro copy hc
      rcases hm.inFlight copy hc with hold | hnew
      · obtain ⟨r, hr, hlt⟩ := hs.read copy hold
        exact ⟨r, hr, Nat.lt_succ_of_lt hlt⟩
      · exact ⟨s.clock, hnew, Nat.lt_succ_self _⟩
  · refine ⟨hs.attended, ?_, ?_⟩
    · intro tenantId n hn
      change (if updateTarget rt update = some tenantId then some s.clock else s.notified tenantId) = some n at hn
      split at hn
      · cases hn
        exact Nat.lt_succ_self _
      · exact Nat.lt_succ_of_lt (hs.notified tenantId n hn)
    · intro copy hc
      obtain ⟨r, hr, hlt⟩ := hs.read copy hc
      exact ⟨r, hr, Nat.lt_succ_of_lt hlt⟩

/-- Nothing cached, and nothing that is yet to be stored, is older than its last notification. -/
structure Fresh (s : State) : Prop extends Kept s where
  inFlight : ∀ copy, InFlight s copy → ¬ Stale s copy
  cache : ∀ entry ∈ s.cache, entry.1 = entry.2.tenant.tenantId ∧ ¬ Stale s entry.2

theorem Kept.just_read {s : State} {copy : Copy} (hs : Kept s) (h : copy.readAt = some s.clock) :
    ¬ Stale s copy := by
  intro hsome
  obtain ⟨tenantId, r, n, _, hr, hn, hlt⟩ := hsome
  rw [h] at hr
  cases hr
  have hpast := hs.notified tenantId n hn
  omega

/-- A notification makes stale only copies of its own tenant. -/
theorem applied_stale {rt : Runtime} {s : State} {update : TenantCacheUpdateMessage} {copy : Copy}
    (h : Stale (applied rt s update) copy) :
    Stale s copy ∨ ∃ tenantId, updateTarget rt update = some tenantId ∧
      copy.tenant.tenantId = some tenantId := by
  obtain ⟨tenantId, r, n, ht, hr, hn, hlt⟩ := h
  by_cases htarget : updateTarget rt update = some tenantId
  · exact .inr ⟨tenantId, htarget, ht⟩
  · change (if updateTarget rt update = some tenantId then some s.clock else s.notified tenantId) = some n at hn
    rw [if_neg htarget] at hn
    exact .inl ⟨tenantId, r, n, ht, hr, hn, hlt⟩

theorem fresh_step {rt : Runtime} {s s' : State} {e : Event} (hs : Fresh s) (hquiet : Quiet rt s e)
    (h : step rt s e = some s') : Fresh s' := by
  refine ⟨kept_step hs.toKept h, ?_, ?_⟩
  all_goals
    obtain ⟨next, ha, rfl⟩ := Option.map_eq_some_iff.mp h
  · intro copy hc hstale
    rcases act_cases hs.attended ha with hm | ⟨message, update, rfl, hu, rfl⟩
    · have hbefore := (stale_congr hm.notified).mp hstale
      rcases hm.inFlight copy hc with hold | hnew
      · exact hs.inFlight copy hold hbefore
      · exact hs.just_read hnew hbefore
    · rcases applied_stale hstale with hbefore | ⟨tenantId, htarget, ht⟩
      · exact hs.inFlight copy hc hbefore
      · exact hquiet update tenantId copy hu htarget hc ht
  · intro entry hmem
    rcases act_cases hs.attended ha with hm | ⟨message, update, rfl, hu, rfl⟩
    · rcases hm.cache entry hmem with hold | ⟨hk, hc⟩
      · obtain ⟨hk, hfresh⟩ := hs.cache entry hold
        exact ⟨hk, fun hstale => hfresh ((stale_congr hm.notified).mp hstale)⟩
      · exact ⟨hk, fun hstale => hs.inFlight _ hc ((stale_congr hm.notified).mp hstale)⟩
    · rcases mem_applyUpdateMessage hmem with ⟨hold, hother⟩ | ⟨hk, hnone⟩
      · obtain ⟨hk, hfresh⟩ := hs.cache entry hold
        refine ⟨hk, ?_⟩
        intro hstale
        rcases applied_stale hstale with hbefore | ⟨tenantId, htarget, ht⟩
        · exact hfresh hbefore
        · exact hother tenantId htarget (hk.trans ht)
      · refine ⟨hk, ?_⟩
        intro hboth
        obtain ⟨_, r, _, _, hr, _⟩ := hboth
        rw [hnone] at hr
        cases hr

/-! ## Runs -/

theorem fresh_initial (database : List TenantDocument) : Fresh { database } where
  attended _ _ h := by cases h
  notified _ _ h := by cases h
  read _ h := by
    obtain ⟨_, hm, _⟩ := h
    cases hm
  inFlight _ h := by
    obtain ⟨_, hm, _⟩ := h
    cases hm
  cache _ h := by cases h

/-- In a run whose notifications are all quiet the cache is never older than the last of them. -/
theorem cache_never_stale {rt : Runtime} {database : List TenantDocument} {events : List Event} {s : State}
    (h : Run (step rt) (Quiet rt) { database } events s) :
    (∀ entry ∈ s.cache, ¬ Stale s entry.2) ∧
      ∀ tenantId copy, cachedTenant s tenantId = some copy →
        copy.tenant.tenantId = some tenantId ∧ ¬ Stale s copy := by
  have hs : Fresh s := h.invariant (fresh_initial database) fresh_step
  refine ⟨fun entry hm => (hs.cache entry hm).2, ?_⟩
  intro tenantId copy hl
  obtain ⟨hk, hfresh⟩ := hs.cache _ (Dict.mem_of_lookup hl)
  exact ⟨hk.symm, hfresh⟩

def acme : Tenant := { tenantId := some "acme" }

def removal : TenantCacheUpdateMessage := { tenantId := some "acme", action := "remove" }

theorem cache_never_stale_acme :
    ∃ s, Run (step asciiRuntime) (Quiet asciiRuntime) { database := [⟨"1", acme, true⟩] }
        [.handleUpdate (some removal), .getTenant "acme", .enterLoadLock 0, .answerLoad 0 false,
          .finishLoad 0, .resumeGetTenant 0, .finishGetTenant 0] s ∧
      cachedTenant s "acme" = some ⟨acme, some 3⟩ ∧ ¬ Stale s ⟨acme, some 3⟩ := by
  have hquiet : Quiet asciiRuntime { database := [⟨"1", acme, true⟩] } (.handleUpdate (some removal)) := by
    intro _ _ _ _ _ ⟨_, hm, _⟩
    cases hm
  have hserved : ∃ s, Run (step asciiRuntime) (Quiet asciiRuntime) { database := [⟨"1", acme, true⟩] }
      [.handleUpdate (some removal), .getTenant "acme", .enterLoadLock 0, .answerLoad 0 false,
        .finishLoad 0, .resumeGetTenant 0, .finishGetTenant 0] s ∧
      cachedTenant s "acme" = some ⟨acme, some 3⟩ := by
    exact ⟨_, .cons hquiet rfl (.of_exec (by simp [Quiet]) rfl), rfl⟩
  obtain ⟨s, hrun, hl⟩ := hserved
  exact ⟨s, hrun, hl, ((cache_never_stale hrun).2 "acme" _ hl).2⟩

/-! ## Notifications that are not quiet -/

section Late
variable {rt : Runtime} {s : State} {tenantId : String} {copy : Copy}

/-- From here the service can go on to serve the stale copy. -/
def ServesLate (rt : Runtime) (s : State) (tenantId : String) (copy : Copy) : Prop :=
  ∃ events s', Run (step rt) (fun _ _ => True) s events s' ∧ cachedTenant s' tenantId = some copy ∧
    Stale s' copy

theorem ServesLate.of_step {s' : State} {e : Event} (h : step rt s e = some s')
    (hlate : ServesLate rt s' tenantId copy) : ServesLate rt s tenantId copy := by
  obtain ⟨events, last, hrun, hl, hstale⟩ := hlate
  exact ⟨e :: events, last, .cons trivial h hrun, hl, hstale⟩

theorem ServesLate.of_store {e : Event} (ht : copy.tenant.tenantId = some tenantId) (hstale : Stale s copy)
    (h : ∃ s', step rt s e = some s' ∧ s'.notified = s.notified ∧
      s'.cache = storeTenant s.cache (some copy)) : ServesLate rt s tenantId copy := by
  obtain ⟨s', hstep, hn, hcache⟩ := h
  refine .of_step hstep ⟨[], s', .nil, ?_, (stale_congr hn).mpr hstale⟩
  unfold cachedTenant
  rw [hcache, storeTenant, ht]
  exact Dict.lookup_set_self

theorem closing_late {i task : Nat} {id : String} (ht : copy.tenant.tenantId = some tenantId)
    (hstale : Stale s copy) (hi : s.callers[i]? = some (.closing id task (some copy))) :
    ServesLate rt s tenantId copy := by
  apply ServesLate.of_store (e := .finishGetTenant i) ht hstale
  simp [step, act, finishGetTenant, hi]

theorem queried_late {i : Nat} (ht : copy.tenant.tenantId = some tenantId) (hstale : Stale s copy)
    (hi : s.callers[i]? = some (.queried (some copy))) : ServesLate rt s tenantId copy := by
  apply ServesLate.of_store (e := .finishByDomain i) ht hstale
  simp [step, act, finishByDomain, hi]

theorem done_late {i task : Nat} {id : String} (ht : copy.tenant.tenantId = some tenantId)
    (hstale : Stale s copy) (hi : s.callers[i]? = some (.awaiting id task))
    (hdone : s.tasks[task]? = some (.done (some copy))) : ServesLate rt s tenantId copy := by
  obtain ⟨hlt, _⟩ := List.getElem?_eq_some_iff.mp hi
  have hstep : ∃ s', step rt s (.resumeGetTenant i) = some s' ∧ s'.notified = s.notified ∧
      s'.callers[i]? = some (.closing id task (some copy)) := by
    simp [step, act, resumeGetTenant, hi, hdone, List.getElem?_set_self hlt]
  obtain ⟨s', h, hn, hclosing⟩ := hstep
  exact .of_step h (closing_late ht ((stale_congr hn).mpr hstale) hclosing)

theorem read_late {i task : Nat} {id : String} (ht : copy.tenant.tenantId = some tenantId)
    (hstale : Stale s copy) (hi : s.callers[i]? = some (.awaiting id task))
    (hread : s.tasks[task]? = some (.read (some copy))) : ServesLate rt s tenantId copy := by
  obtain ⟨hlt, _⟩ := List.getElem?_eq_some_iff.mp hread
  have hstep : ∃ s', step rt s (.finishLoad task) = some s' ∧ s'.notified = s.notified ∧
      s'.callers = s.callers ∧ s'.tasks[task]? = some (.done (some copy)) := by
    simp [step, act, finishLoad, hread, List.getElem?_set_self hlt]
  obtain ⟨s', h, hn, hcallers, hdone⟩ := hstep
  exact .of_step h (done_late ht ((stale_congr hn).mpr hstale) (hcallers ▸ hi) hdone)

theorem inFlight_late (ht : copy.tenant.tenantId = some tenantId) (hstale : Stale s copy)
    (h : InFlight s copy) : ServesLate rt s tenantId copy := by
  obtain ⟨caller, hm, hc⟩ := h
  obtain ⟨i, hi⟩ := List.mem_iff_getElem?.mp hm
  cases caller with
  | awaiting id task =>
    rcases hc with hread | hdone
    · exact read_late ht hstale hi hread
    · exact done_late ht hstale hi hdone
  | closing id task result =>
    cases hc
    exact closing_late ht hstale hi
  | queried result =>
    cases hc
    exact queried_late ht hstale hi
  | locking | querying | returned => exact hc.elim

/-- The condition cannot be weaker: after any notification that is not quiet, the service can
go on to serve a copy older than it. -/
theorem not_quiet_late {database : List TenantDocument} {events : List Event} {e : Event}
    (h : Run (step rt) (fun _ _ => True) { database } events s) (hloud : ¬ Quiet rt s e) :
    ∃ tenantId copy, ServesLate rt s tenantId copy := by
  have hs : Kept s := h.invariant (fresh_initial database).toKept (fun hs _ hstep => kept_step hs hstep)
  cases e with
  | handleUpdate message =>
    simp only [Quiet, not_forall, not_not] at hloud
    obtain ⟨update, tenantId, copy, hu, htarget, hc, ht⟩ := hloud
    obtain ⟨r, hr, hlt⟩ := hs.read copy hc
    have hstep : step rt s (.handleUpdate message) =
        some { applied rt s update with clock := s.clock + 1 } := by
      simp [step, act, handleUpdate, hu, applied]
    refine ⟨tenantId, copy, .of_step hstep (inFlight_late ht ?_ hc)⟩
    exact ⟨tenantId, r, s.clock, ht, hr, if_pos htarget, hlt⟩
  | _ => exact absurd trivial hloud

end Late

/-! ## A tenant that is removed while it is loaded -/

/-- Removed from the database and then from the cache, acme is served from the cache again: a
load had read it before. -/
theorem removed_tenant_returns :
    ∃ s, Run (step asciiRuntime) (fun _ _ => True) { database := [⟨"1", acme, true⟩] }
        [.getTenant "acme", .enterLoadLock 0, .answerLoad 0 false, .write [],
          .handleUpdate (some removal), .finishLoad 0, .resumeGetTenant 0, .finishGetTenant 0] s ∧
      s.database = [] ∧ s.notified "acme" = some 4 ∧ cachedTenant s "acme" = some ⟨acme, some 2⟩ ∧
      Stale s ⟨acme, some 2⟩ := by
  refine ⟨_, .of_exec (fun _ _ _ => trivial) rfl, rfl, rfl, rfl, ?_⟩
  exact ⟨"acme", 2, 4, rfl, rfl, rfl, by omega⟩

end BlocksGenesis.Tenants
