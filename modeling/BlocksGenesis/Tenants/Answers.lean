import BlocksGenesis.Tenants.CacheFrame
import BlocksGenesis.Tenants.DomainLookup

/-! What a call is answered belongs to what it asked for, whichever loads it shares and whatever is cached meanwhile. -/

namespace BlocksGenesis.Tenants
open Python Machine BlocksGenesis.Auth

/-- What a call asks for. -/
inductive Ask where
  | key (tenantId : String)
  | domain (domain : String)

def asked : Event → Option Ask
  | .getTenant tenantId => some (.key tenantId)
  | .getTenantByDomain domain => some (.domain domain)
  | _ => none

/-- Where tenants come from: the documents that are ever in the collection, and the tenants that notifications
carry. -/
structure Sources where
  stored : TenantDocument → Prop
  told : Tenant → Prop

def Sources.Known (sources : Sources) (tenant : Tenant) : Prop :=
  (∃ document, sources.stored document ∧ document.parses = true ∧ document.tenant = tenant) ∨ sources.told tenant

/-- The tenant has the key as its `TenantId`, or was read from the document of that `_id`; or it has the domain. -/
def Sources.Answers (rt : Runtime) (sources : Sources) : Ask → Tenant → Prop
  | .key tenantId, tenant => sources.Known tenant ∧ (tenant.tenantId = some tenantId ∨
      ∃ document, sources.stored document ∧ document.id = tenantId ∧ document.tenant = tenant)
  | .domain domain, tenant =>
    sources.Known tenant ∧ hasDomain rt (normalizeTenantDomain rt domain) tenant = true

/-- Only what comes from there is written or told. -/
def Supplies (sources : Sources) (_ : State) : Event → Prop
  | .write database => ∀ document ∈ database, sources.stored document
  | .handleUpdate message => ∀ update tenant, message = some update → update.tenant = some tenant → sources.told tenant
  | _ => True

/-! ## The invariant -/

section Invariant
variable {rt : Runtime} {sources : Sources}

def Sources.AllAnswer (rt : Runtime) (sources : Sources) (ask : Ask) (result : Option Copy) : Prop :=
  ∀ copy, result = some copy → sources.Answers rt ask copy.tenant

def LoadFor (rt : Runtime) (sources : Sources) (tenantId : String) : Load → Prop
  | .reading id => id = tenantId
  | .read result | .done result => sources.AllAnswer rt (.key tenantId) result

/-- The calls that ask for something, with the loads they await. -/
inductive CallFor (rt : Runtime) (sources : Sources) (loads : Nat → String) (started : Nat) : Ask → Caller → Prop where
  | locking {id : String} : CallFor rt sources loads started (.key id) (.locking id)
  | awaiting {id : String} {task : Nat} : loads task = id → task < started →
      CallFor rt sources loads started (.key id) (.awaiting id task)
  | closing {id : String} {task : Nat} {result : Option Copy} : sources.AllAnswer rt (.key id) result →
      CallFor rt sources loads started (.key id) (.closing id task result)
  | querying {domain : String} :
      CallFor rt sources loads started (.domain domain) (.querying (normalizeTenantDomain rt domain))
  | queried {domain : String} {result : Option Copy} : sources.AllAnswer rt (.domain domain) result →
      CallFor rt sources loads started (.domain domain) (.queried result)
  | returned {ask : Ask} {result : Option Copy} : sources.AllAnswer rt ask result →
      CallFor rt sources loads started ask (.returned result)

/-- Each load and each call is about one key or domain from its start on, and all that is cached is known and stands
under its own id. -/
structure Answering (rt : Runtime) (sources : Sources) (loads : Nat → String) (asks : Nat → Ask) (s : State) : Prop where
  database : ∀ document ∈ s.database, sources.stored document
  cache : ∀ entry ∈ s.cache, entry.1 = entry.2.tenant.tenantId ∧ sources.Known entry.2.tenant
  progress : ∀ id task, s.inProgress.lookup id = some task → loads task = id ∧ task < s.tasks.length
  tasks : ∀ (task : Nat) load, s.tasks[task]? = some load → LoadFor rt sources (loads task) load
  callers : ∀ (i : Nat) caller, s.callers[i]? = some caller → CallFor rt sources loads s.tasks.length (asks i) caller

theorem allAnswer_none {ask : Ask} : sources.AllAnswer rt ask none := fun _ h => nomatch h

theorem Sources.Answers.known {ask : Ask} {tenant : Tenant} (h : sources.Answers rt ask tenant) :
    sources.Known tenant := by
  cases ask with
  | key => exact h.1
  | domain => exact h.1

theorem CallFor.grow {loads loads' : Nat → String} {started started' : Nat} {ask : Ask} {caller : Caller}
    (h : CallFor rt sources loads started ask caller) (hle : started ≤ started')
    (hsame : ∀ task < started, loads' task = loads task) : CallFor rt sources loads' started' ask caller := by
  cases h with
  | locking => exact .locking
  | awaiting hid hlt => exact .awaiting ((hsame _ hlt).trans hid) (by omega)
  | closing hresult => exact .closing hresult
  | querying => exact .querying
  | queried hresult => exact .queried hresult
  | returned hresult => exact .returned hresult

theorem CallFor.locked {loads : Nat → String} {started : Nat} {ask : Ask} {id : String}
    (h : CallFor rt sources loads started ask (.locking id)) : ask = .key id := by
  cases h
  rfl

theorem CallFor.awaited {loads : Nat → String} {started : Nat} {ask : Ask} {id : String} {task : Nat}
    (h : CallFor rt sources loads started ask (.awaiting id task)) : ask = .key id ∧ loads task = id := by
  cases h with
  | awaiting hid => exact ⟨rfl, hid⟩

theorem CallFor.closed {loads : Nat → String} {started : Nat} {ask : Ask} {id : String} {task : Nat}
    {result : Option Copy} (h : CallFor rt sources loads started ask (.closing id task result)) :
    sources.AllAnswer rt ask result := by
  cases h with
  | closing hresult => exact hresult

theorem CallFor.queries {loads : Nat → String} {started : Nat} {ask : Ask} {normalized : String}
    (h : CallFor rt sources loads started ask (.querying normalized)) :
    ∃ domain, ask = .domain domain ∧ normalized = normalizeTenantDomain rt domain := by
  cases h with
  | querying => exact ⟨_, rfl, rfl⟩

theorem CallFor.answered {loads : Nat → String} {started : Nat} {ask : Ask} {result : Option Copy}
    (h : CallFor rt sources loads started ask (.queried result)) : sources.AllAnswer rt ask result := by
  cases h with
  | queried hresult => exact hresult

theorem CallFor.result {loads : Nat → String} {started : Nat} {ask : Ask} {result : Option Copy}
    (h : CallFor rt sources loads started ask (.returned result)) : sources.AllAnswer rt ask result := by
  cases h with
  | returned hresult => exact hresult

/-- A document the database finds for a key. -/
theorem findOne_answers {s : State} {tenantId : String} {fails : Bool}
    (hdatabase : ∀ document ∈ s.database, sources.stored document) :
    sources.AllAnswer rt (.key tenantId) (if fails then none else
      findOne s (fun document => document.id == tenantId || document.tenant.tenantId == some tenantId)) := by
  intro copy hcopy
  split at hcopy
  · cases hcopy
  · obtain ⟨document, hfound, hparsed⟩ := Option.bind_eq_some_iff.mp hcopy
    have hstored := hdatabase document (List.mem_of_find?_eq_some hfound)
    have hmatch := List.find?_some hfound
    split at hparsed
    · rename_i hparses
      cases hparsed
      refine ⟨.inl ⟨document, hstored, hparses, rfl⟩, ?_⟩
      rcases Bool.or_eq_true_iff.mp hmatch with hid | htenant
      · exact .inr ⟨document, hstored, beq_iff_eq.mp hid, rfl⟩
      · exact .inl (beq_iff_eq.mp htenant)
    · cases hparsed

/-- One it finds for a domain, in one of the two spellings it is asked for. -/
theorem findOne_domain {s : State} {domain : String} {fails : Bool} (hl : Lowers rt.lower)
    (hdatabase : ∀ document ∈ s.database, sources.stored document) :
    sources.AllAnswer rt (.domain domain) (if fails then none else
      findOne s (inSpellings (normalizeTenantDomain rt domain))) := by
  intro copy hcopy
  split at hcopy
  · cases hcopy
  · obtain ⟨document, hfound, hparsed⟩ := Option.bind_eq_some_iff.mp hcopy
    have hstored := hdatabase document (List.mem_of_find?_eq_some hfound)
    have hspelled := inSpellings_iff.mp (List.find?_some hfound)
    split at hparsed
    · rename_i hparses
      cases hparsed
      exact ⟨.inl ⟨document, hstored, hparses, rfl⟩, hspelled.hasDomain hl⟩
    · cases hparsed

theorem storeTenant_known {cache : Cache} {result : Option Copy} {ask : Ask}
    (hcache : ∀ entry ∈ cache, entry.1 = entry.2.tenant.tenantId ∧ sources.Known entry.2.tenant)
    (hresult : sources.AllAnswer rt ask result) :
    ∀ entry ∈ storeTenant cache result, entry.1 = entry.2.tenant.tenantId ∧ sources.Known entry.2.tenant := by
  intro entry hentry
  cases result with
  | none => exact hcache entry hentry
  | some copy =>
    rcases Dict.mem_set hentry with rfl | ⟨hold, _⟩
    · exact ⟨rfl, (hresult copy rfl).known⟩
    · exact hcache entry hold

/-- The tenant of an update is told. -/
theorem applied_known {cache : Cache} {update : TenantCacheUpdateMessage}
    (hcache : ∀ entry ∈ cache, entry.1 = entry.2.tenant.tenantId ∧ sources.Known entry.2.tenant)
    (htold : ∀ tenant, update.tenant = some tenant → sources.told tenant) :
    ∀ entry ∈ applyUpdateMessage rt cache update,
      entry.1 = entry.2.tenant.tenantId ∧ sources.Known entry.2.tenant := by
  intro entry hentry
  unfold applyUpdateMessage at hentry
  split at hentry
  · split at hentry
    · exact hcache entry (Dict.mem_pop.mp hentry).1
    · exact hcache entry hentry
  · split at hentry
    · exact hcache entry hentry
    · rename_i tenant htenant
      split at hentry
      · exact hcache entry hentry
      · rename_i id hid
        split at hentry
        · exact hcache entry (Dict.mem_pop.mp hentry).1
        · rcases Dict.mem_set hentry with rfl | ⟨hold, _⟩
          · exact ⟨(given_some hid).symm, .inr (htold tenant htenant)⟩
          · exact hcache entry hold

/-! ## What a step keeps of it -/

variable {loads : Nat → String} {asks : Nat → Ask} {s s' : State}

/-- What the next caller will have asked for. -/
def asksAfter (asks : Nat → Ask) (s : State) (e : Event) : Nat → Ask :=
  match asked e with
  | some ask => Function.update asks s.callers.length ask
  | none => asks

/-- A new call, which may have its answer already. -/
theorem answering_call {caller : Caller} {ask : Ask} (h : Answering rt sources loads asks s)
    (hcaller : CallFor rt sources loads s.tasks.length ask caller) :
    Answering rt sources loads (Function.update asks s.callers.length ask)
      { s with callers := s.callers ++ [caller] } := by
  refine ⟨h.database, h.cache, h.progress, h.tasks, fun i found hi => ?_⟩
  rcases slot_of_append hi with ⟨rfl, rfl⟩ | ⟨hlt, hold⟩
  · rw [Function.update_self]
    exact hcaller
  · rw [Function.update_of_ne (by omega)]
    exact h.callers i found hold

/-- A call that goes on, and stores what it may have. -/
theorem answering_caller {i : Nat} {old caller : Caller} {cache : Cache} {inProgress : Dict String Nat}
    (h : Answering rt sources loads asks s) (hold : s.callers[i]? = some old)
    (hcaller : CallFor rt sources loads s.tasks.length (asks i) caller)
    (hcache : ∀ entry ∈ cache, entry.1 = entry.2.tenant.tenantId ∧ sources.Known entry.2.tenant)
    (hprogress : ∀ id task, inProgress.lookup id = some task → s.inProgress.lookup id = some task) :
    Answering rt sources loads asks { s with callers := s.callers.set i caller, cache, inProgress } := by
  refine ⟨h.database, hcache, fun id task hl => h.progress id task (hprogress id task hl), h.tasks, ?_⟩
  intro j found hj
  rcases slot_of_set hj with ⟨rfl, rfl⟩ | ⟨_, hother⟩
  · exact hcaller
  · exact h.callers j found hother

theorem answering_task {task : Nat} {old load : Load} (h : Answering rt sources loads asks s)
    (hold : s.tasks[task]? = some old) (hload : LoadFor rt sources (loads task) load) :
    Answering rt sources loads asks { s with tasks := s.tasks.set task load } := by
  refine ⟨h.database, h.cache, ?_, ?_, ?_⟩
  · intro id other hl
    rw [List.length_set]
    exact h.progress id other hl
  · intro other found ho
    rcases slot_of_set ho with ⟨rfl, rfl⟩ | ⟨_, hother⟩
    · exact hload
    · exact h.tasks other found hother
  · intro i caller hi
    rw [List.length_set]
    exact h.callers i caller hi

/-- A load that is started is about the key of the call that starts it. -/
theorem answering_load {i : Nat} {id : String} (h : Answering rt sources loads asks s)
    (hold : s.callers[i]? = some (.locking id)) (hask : asks i = .key id) :
    Answering rt sources (Function.update loads s.tasks.length id) asks { s with
      callers := s.callers.set i (.awaiting id s.tasks.length)
      tasks := s.tasks ++ [.reading id]
      inProgress := s.inProgress.set id s.tasks.length } := by
  have hsame : ∀ task < s.tasks.length, Function.update loads s.tasks.length id task = loads task :=
    fun task hlt => Function.update_of_ne (by omega) _ _
  refine ⟨h.database, h.cache, ?_, ?_, ?_⟩
  · intro other task hl
    rw [List.length_append, List.length_singleton]
    rcases Dict.lookup_of_set hl with ⟨rfl, rfl⟩ | ⟨_, hheld⟩
    · exact ⟨Function.update_self _ _ _, Nat.lt_succ_self _⟩
    · obtain ⟨hload, hlt⟩ := h.progress other task hheld
      exact ⟨(hsame task hlt).trans hload, Nat.lt_succ_of_lt hlt⟩
  · intro task found ht
    rcases slot_of_append ht with ⟨rfl, rfl⟩ | ⟨hlt, hheld⟩
    · change id = Function.update loads s.tasks.length id s.tasks.length
      rw [Function.update_self]
    · rw [hsame task hlt]
      exact h.tasks task found hheld
  · intro j caller hj
    rw [List.length_append, List.length_singleton]
    rcases slot_of_set hj with ⟨rfl, rfl⟩ | ⟨_, hother⟩
    · rw [hask]
      exact .awaiting (Function.update_self _ _ _) (Nat.lt_succ_self _)
    · exact (h.callers j caller hother).grow (Nat.le_succ _) hsame

/-- A step about a call of its own, with what it asks for. -/
theorem act_answering {e : Event} (hl : Lowers rt.lower) (h : Answering rt sources loads asks s)
    (hsupplies : Supplies sources s e) (hact : act rt s e = some s') :
    ∃ loads', Answering rt sources loads' (asksAfter asks s e) s' := by
  cases e with
  | write database =>
    cases hact
    exact ⟨loads, hsupplies, h.cache, h.progress, h.tasks, h.callers⟩
  | getTenant id =>
    cases hact
    refine ⟨loads, answering_call h ?_⟩
    split
    · exact .returned allAnswer_none
    · split
      · rename_i copy hcached
        refine .returned (fun found hfound => ?_)
        cases hfound
        obtain ⟨hkey, hknown⟩ := h.cache _ (Dict.mem_of_lookup hcached)
        exact ⟨hknown, .inl hkey.symm⟩
      · exact .locking
  | enterLoadLock i =>
    simp only [act, enterLoadLock] at hact
    split at hact
    · rename_i id hold
      have hask := (h.callers i _ hold).locked
      split at hact
      · rename_i task hload
        cases hact
        obtain ⟨hid, hlt⟩ := h.progress id task hload
        refine ⟨loads, answering_caller h hold ?_ h.cache (fun _ _ hl => hl)⟩
        change CallFor rt sources loads s.tasks.length (asks i) _
        rw [hask]
        exact .awaiting hid hlt
      · cases hact
        exact ⟨_, answering_load h hold hask⟩
    · cases hact
  | answerLoad task fails =>
    simp only [act, answerLoad] at hact
    split at hact
    · rename_i id hold
      cases hact
      refine ⟨loads, answering_task h hold ?_⟩
      have hid : id = loads task := h.tasks task _ hold
      rw [← hid]
      exact findOne_answers h.database
    · cases hact
  | finishLoad task =>
    simp only [act, finishLoad] at hact
    split at hact
    · rename_i result hold
      cases hact
      have hresult : sources.AllAnswer rt (.key (loads task)) result := h.tasks task _ hold
      exact ⟨loads, answering_task h hold hresult⟩
    · cases hact
  | resumeGetTenant i =>
    simp only [act, resumeGetTenant] at hact
    split at hact
    · rename_i id task hold
      split at hact
      · rename_i result hdone
        cases hact
        refine ⟨loads, answering_caller h hold ?_ h.cache (fun _ _ hl => hl)⟩
        obtain ⟨hask, hid⟩ := (h.callers i _ hold).awaited
        have hresult : sources.AllAnswer rt (.key (loads task)) result := h.tasks task _ hdone
        change CallFor rt sources loads s.tasks.length (asks i) _
        rw [hask]
        rw [hid] at hresult
        exact .closing hresult
      · cases hact
    · cases hact
  | finishGetTenant i =>
    simp only [act, finishGetTenant] at hact
    split at hact
    · rename_i id task result hold
      cases hact
      have hresult := (h.callers i _ hold).closed
      refine ⟨loads, answering_caller h hold (.returned hresult) (storeTenant_known h.cache hresult) ?_⟩
      intro other load hl
      split at hl
      · exact (Dict.lookup_pop hl).2
      · exact hl
    · cases hact
  | getTenantByDomain domain =>
    cases hact
    refine ⟨loads, answering_call h ?_⟩
    split
    · exact .returned allAnswer_none
    · split
      · rename_i entry hcached
        refine .returned (fun found hfound => ?_)
        cases hfound
        have hdomain := List.find?_some hcached
        exact ⟨(h.cache entry (List.mem_of_find?_eq_some hcached)).2, hdomain⟩
      · exact .querying
  | answerByDomain i fails =>
    simp only [act, answerByDomain] at hact
    split at hact
    · rename_i normalized hold
      cases hact
      refine ⟨loads, answering_caller h hold ?_ h.cache (fun _ _ hl => hl)⟩
      obtain ⟨domain, hask, rfl⟩ := (h.callers i _ hold).queries
      change CallFor rt sources loads s.tasks.length (asks i) _
      rw [hask]
      exact .queried (findOne_domain hl h.database)
    · cases hact
  | finishByDomain i =>
    simp only [act, finishByDomain] at hact
    split at hact
    · rename_i result hold
      cases hact
      have hresult := (h.callers i _ hold).answered
      exact ⟨loads, answering_caller h hold (.returned hresult) (storeTenant_known h.cache hresult) (fun _ _ hl => hl)⟩
    · cases hact
  | handleUpdate message =>
    cases hact
    refine ⟨loads, ?_⟩
    unfold handleUpdate
    split
    · exact h
    · rename_i update hupdate
      refine ⟨h.database, fun entry hentry => ?_, h.progress, h.tasks, h.callers⟩
      obtain ⟨sent, hsent, hnormalized⟩ := Option.bind_eq_some_iff.mp hupdate
      have htold : ∀ tenant, update.tenant = some tenant → sources.told tenant := by
        intro tenant htenant
        obtain ⟨_, _, rfl⟩ := normalizeCacheUpdate_some hnormalized
        exact hsupplies sent tenant hsent htenant
      exact applied_known h.cache htold entry hentry

theorem step_answering {e : Event} (hl : Lowers rt.lower) (h : Answering rt sources loads asks s)
    (hsupplies : Supplies sources s e) (hstep : step rt s e = some s') :
    ∃ loads', Answering rt sources loads' (asksAfter asks s e) s' := by
  obtain ⟨next, hact, rfl⟩ := Option.map_eq_some_iff.mp hstep
  obtain ⟨loads', hnext⟩ := act_answering hl h hsupplies hact
  exact ⟨loads', hnext.database, hnext.cache, hnext.progress, hnext.tasks, hnext.callers⟩

/-- The calls after a step: one that asks for something is new, and one that has not returned goes on. -/
inductive CallersStep (s : State) (e : Event) : List Caller → Prop where
  | same : asked e = none → CallersStep s e s.callers
  | new (caller : Caller) : (asked e).isSome = true → CallersStep s e (s.callers ++ [caller])
  | goesOn {i : Nat} {old : Caller} (caller : Caller) : asked e = none → s.callers[i]? = some old →
      (∀ result, old ≠ .returned result) → CallersStep s e (s.callers.set i caller)

theorem callersStep {e : Event} (h : step rt s e = some s') : CallersStep s e s'.callers := by
  obtain ⟨next, hact, rfl⟩ := Option.map_eq_some_iff.mp h
  cases e with
  | write database =>
    cases hact
    exact .same rfl
  | handleUpdate message =>
    cases hact
    unfold handleUpdate
    split
    · exact .same rfl
    · exact .same rfl
  | getTenant tenantId =>
    cases hact
    exact .new _ rfl
  | getTenantByDomain domain =>
    cases hact
    exact .new _ rfl
  | enterLoadLock i =>
    simp only [act, enterLoadLock] at hact
    split at hact
    · rename_i hold
      split at hact
      · cases hact
        exact .goesOn _ rfl hold (by simp)
      · cases hact
        exact .goesOn _ rfl hold (by simp)
    · cases hact
  | answerLoad task fails =>
    simp only [act, answerLoad] at hact
    split at hact
    · cases hact
      exact .same rfl
    · cases hact
  | finishLoad task =>
    simp only [act, finishLoad] at hact
    split at hact
    · cases hact
      exact .same rfl
    · cases hact
  | resumeGetTenant i =>
    simp only [act, resumeGetTenant] at hact
    split at hact
    · rename_i hold
      split at hact
      · cases hact
        exact .goesOn _ rfl hold (by simp)
      · cases hact
    · cases hact
  | finishGetTenant i =>
    simp only [act, finishGetTenant] at hact
    split at hact
    · rename_i hold
      cases hact
      exact .goesOn _ rfl hold (by simp)
    · cases hact
  | answerByDomain i fails =>
    simp only [act, answerByDomain] at hact
    split at hact
    · rename_i hold
      cases hact
      exact .goesOn _ rfl hold (by simp)
    · cases hact
  | finishByDomain i =>
    simp only [act, finishByDomain] at hact
    split at hact
    · rename_i hold
      cases hact
      exact .goesOn _ rfl hold (by simp)
    · cases hact

/-- No call is lost, and only one that asks for something is new. -/
theorem step_callers {e : Event} (h : step rt s e = some s') : s'.callers.length =
    s.callers.length + if (asked e).isSome then 1 else 0 := by
  have hcallers := callersStep h
  generalize s'.callers = callers at hcallers
  cases hcallers with
  | same hasked =>
    rw [hasked]
    rfl
  | new caller hasked =>
    rw [hasked]
    exact List.length_append
  | goesOn caller hasked _ _ =>
    rw [hasked]
    exact List.length_set

/-- A call that has returned has returned for good. -/
theorem step_returned {e : Event} {i : Nat} {result : Option Copy} (h : step rt s e = some s')
    (hi : s.callers[i]? = some (.returned result)) : s'.callers[i]? = some (.returned result) := by
  have hcallers := callersStep h
  generalize s'.callers = callers at hcallers
  cases hcallers with
  | same _ => exact hi
  | new caller _ => exact slot_append_left hi
  | @goesOn j old caller _ hold hreturned =>
    have hne : j ≠ i := by
      rintro rfl
      cases hold.symm.trans hi
      exact hreturned result rfl
    rw [List.getElem?_set_ne hne]
    exact hi

theorem asksAfter_old {e : Event} {i : Nat} (hi : i < s.callers.length) : asksAfter asks s e i = asks i := by
  unfold asksAfter
  cases asked e with
  | none => rfl
  | some ask => exact Function.update_of_ne (by omega) _ _

theorem answering_start {database : List TenantDocument} (h : ∀ document ∈ database, sources.stored document) :
    Answering rt sources loads asks { database } where
  database := h
  cache _ hm := nomatch hm
  progress _ _ hl := nomatch hl
  tasks _ _ ht := nomatch ht
  callers _ _ hi := nomatch hi

/-! ## Every run -/

/-- In every run, whatever else is loaded, cached, told and looked up in between: a call that asks for a key or for a
domain is answered a tenant of that key or domain, or none. -/
theorem calls_answered {database : List TenantDocument} {before after : List Event} {e : Event} {ask : Ask}
    {called last : State} {copy : Copy} (hl : Lowers rt.lower)
    (hdatabase : ∀ document ∈ database, sources.stored document)
    (hbefore : Run (step rt) (Supplies sources) { database } before s) (hask : asked e = some ask)
    (hcall : step rt s e = some called) (hafter : Run (step rt) (Supplies sources) called after last)
    (hreturned : last.callers[s.callers.length]? = some (.returned (some copy))) :
    sources.Answers rt ask copy.tenant := by
  obtain ⟨loads, asks, hs⟩ : ∃ loads asks, Answering rt sources loads asks s := by
    refine @Run.invariant State Event _ _ _ _ _ (fun s => ∃ loads asks, Answering rt sources loads asks s) hbefore
      ⟨fun _ => "", fun _ => .key "", answering_start hdatabase⟩ ?_
    intro s e s' ⟨loads, asks, hs⟩ hallowed htaken
    obtain ⟨loads', hs'⟩ := step_answering hl hs hallowed htaken
    exact ⟨loads', _, hs'⟩
  have hsupplies : Supplies sources s e := by
    cases e with
    | write | handleUpdate => cases hask
    | _ => trivial
  obtain ⟨loads', hcalled⟩ := step_answering hl hs hsupplies hcall
  have hlength := step_callers hcall
  rw [hask, Option.isSome_some, if_pos rfl] at hlength
  have hfirst : asksAfter asks s e s.callers.length = ask := by
    rw [asksAfter, hask]
    exact Function.update_self _ _ _
  obtain ⟨loads, asks, hlast, hsame, _⟩ : ∃ loads asks, Answering rt sources loads asks last ∧
      asks s.callers.length = ask ∧ s.callers.length < last.callers.length := by
    refine @Run.invariant State Event _ _ _ _ _ (fun last => ∃ loads asks, Answering rt sources loads asks last ∧
      asks s.callers.length = ask ∧ s.callers.length < last.callers.length) hafter
      ⟨loads', _, hcalled, hfirst, by omega⟩ ?_
    intro s₁ e₁ s₂ ⟨loads, asks, hs₁, hsame, hlt⟩ hallowed htaken
    obtain ⟨loads', hs₂⟩ := step_answering hl hs₁ hallowed htaken
    have hkept := step_callers htaken
    exact ⟨loads', _, hs₂, (asksAfter_old hlt).trans hsame, by omega⟩
  have hresult := (hlast.callers _ _ hreturned).result
  rw [hsame] at hresult
  exact hresult copy rfl

end Invariant

/-- The collection has one document, and nothing is told. -/
def onlyAcme : Sources where
  stored document := document = ⟨"65f0c2", acme, true⟩
  told _ := False

/-- A call for the `_id` of a document gets the tenant in it, by the load of another call for that `_id`. -/
theorem calls_answered_acme :
    ∃ s called last, Run (step asciiRuntime) (Supplies onlyAcme) { database := [⟨"65f0c2", acme, true⟩] }
        [.getTenant "65f0c2", .enterLoadLock 0] s ∧
      step asciiRuntime s (.getTenant "65f0c2") = some called ∧
      Run (step asciiRuntime) (Supplies onlyAcme) called
        [.enterLoadLock 1, .answerLoad 0 false, .finishLoad 0, .resumeGetTenant 1, .finishGetTenant 1] last ∧
      last.callers[1]? = some (.returned (some ⟨acme, some 4⟩)) ∧
      onlyAcme.Answers asciiRuntime (.key "65f0c2") acme := by
  have hdatabase : ∀ document ∈ [⟨"65f0c2", acme, true⟩], onlyAcme.stored document :=
    fun document hm => List.mem_singleton.mp hm
  have hran : ∃ s called last, Run (step asciiRuntime) (Supplies onlyAcme) { database := [⟨"65f0c2", acme, true⟩] }
        [.getTenant "65f0c2", .enterLoadLock 0] s ∧
      step asciiRuntime s (.getTenant "65f0c2") = some called ∧
      Run (step asciiRuntime) (Supplies onlyAcme) called
        [.enterLoadLock 1, .answerLoad 0 false, .finishLoad 0, .resumeGetTenant 1, .finishGetTenant 1] last ∧
      last.callers[1]? = some (.returned (some ⟨acme, some 4⟩)) ∧ s.callers.length = 1 := by
    refine ⟨_, _, _, Run.of_exec ?_ rfl, rfl, Run.of_exec ?_ rfl, rfl, rfl⟩
    · simp [Supplies]
    · simp [Supplies]
  obtain ⟨s, called, last, hbefore, hcall, hafter, hreturned, hlength⟩ := hran
  refine ⟨s, called, last, hbefore, hcall, hafter, hreturned, ?_⟩
  rw [← hlength] at hreturned
  exact calls_answered asciiRuntime_lowers hdatabase hbefore rfl hcall hafter hreturned

end BlocksGenesis.Tenants
