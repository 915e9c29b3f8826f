import BlocksGenesis.Delegation.TokenProvider
import Mathlib.Data.List.Nodup
import Mathlib.Data.List.Perm.Subperm

/-! What a sweep of the token provider leaves in its two maps. -/

namespace BlocksGenesis.Delegation.TokenProvider
open Python BlocksGenesis.Auth Asyncio State
open Jwt (Micros)

/-! ## The loop over the stale keys -/

section Loop
variable {s : State} {id : String}

theorem sweepKey_locks (s : State) (key id : String) : (s.sweepKey key).locks.lookup id =
    if id = key then (s.locks.lookup id).filter (fun lock => (s.lockObjects lock).locked)
    else s.locks.lookup id := by
  unfold sweepKey
  dsimp only
  cases hlock : s.locks.lookup key with
  | none =>
    dsimp only
    split
    · rename_i hid
      rw [hid, hlock]
      rfl
    · rfl
  | some lock =>
    dsimp only
    cases hlocked : (s.lockObjects lock).locked with
    | true =>
      rw [if_pos rfl]
      split
      · rename_i hid
        rw [hid, hlock, Option.filter_some, hlocked]
        rfl
      · rfl
    | false =>
      rw [if_neg (by simp)]
      split
      · rename_i hid
        rw [hid, hlock, Dict.lookup_pop_self, Option.filter_some, hlocked]
        rfl
      · rename_i hid
        exact Dict.lookup_pop_of_ne hid

theorem sweepKeys_lockObjects (keys : List String) (s : State) :
    (keys.foldl sweepKey s).lockObjects = s.lockObjects :=
  (sweepKeys_pruned keys s).lockObjects

/-- Of the stale keys, those whose lock is held keep it. -/
theorem lookup_locks_sweepKeys (keys : List String) (s : State) : (keys.foldl sweepKey s).locks.lookup id =
    if id ∈ keys then (s.locks.lookup id).filter (fun lock => (s.lockObjects lock).locked)
    else s.locks.lookup id := by
  induction keys generalizing s with
  | nil => rfl
  | cons key keys ih =>
    have hobjects : (s.sweepKey key).lockObjects = s.lockObjects := rfl
    rw [List.foldl_cons, ih, hobjects, sweepKey_locks]
    by_cases hid : id = key
    · have hmem : id ∈ key :: keys := by
        rw [hid]
        exact List.mem_cons_self
      rw [if_pos hid, if_pos hmem]
      split
      · rw [Option.filter_filter]
        simp only [Bool.and_self]
      · rfl
    · rw [if_neg hid]
      simp only [List.mem_cons, hid, false_or]

theorem mem_tokens_sweepKeys {entry : String × CachedToken} (keys : List String) (s : State) :
    entry ∈ (keys.foldl sweepKey s).tokens ↔ entry ∈ s.tokens ∧ entry.1 ∉ keys := by
  induction keys generalizing s with
  | nil => simp
  | cons key keys ih =>
    rw [List.foldl_cons, ih]
    change (entry ∈ s.tokens.pop key ∧ _) ↔ _
    rw [Dict.mem_pop, List.mem_cons, not_or, and_assoc]

theorem lookup_tokens_sweepKeys (keys : List String) (s : State) (hid : id ∉ keys) :
    (keys.foldl sweepKey s).tokens.lookup id = s.tokens.lookup id := by
  induction keys generalizing s with
  | nil => rfl
  | cons key keys ih =>
    rw [List.mem_cons, not_or] at hid
    rw [List.foldl_cons, ih _ hid.2]
    exact Dict.lookup_pop_of_ne hid.1

theorem mem_staleKeys {now : Micros} :
    id ∈ s.staleKeys now ↔ ∃ token, (id, token) ∈ s.tokens ∧ token.isUsable now = false := by
  simp [staleKeys]

end Loop

/-! ## What is left -/

/-- Whatever is cached may be served, and a grant has a lock only with a token or while it is held. -/
structure Swept (s : State) (now : Micros) : Prop where
  tokens : ∀ entry ∈ s.tokens, entry.2.isUsable now = true
  locks : ∀ id lock, s.locks.lookup id = some lock →
    (∃ token, s.usableToken id now = some token) ∨ (s.lockObjects lock).locked = true

/-- Every lock of the map that nobody holds is that of a grant with a cached token, usable or not. -/
def LocksHaveTokens (s : State) : Prop :=
  ∀ id lock, s.locks.lookup id = some lock → (s.lockObjects lock).locked = false →
    ∃ token, s.tokens.lookup id = some token

theorem sweepExpired_tokens (s : State) (now : Micros) :
    ∀ entry ∈ (s.sweepExpired now).tokens, entry.2.isUsable now = true := by
  intro entry hm
  obtain ⟨hold, hkey⟩ := (mem_tokens_sweepKeys _ s).mp hm
  cases husable : entry.2.isUsable now with
  | true => rfl
  | false => exact absurd (mem_staleKeys.mpr ⟨entry.2, hold, husable⟩) hkey

theorem swept_iff (s : State) (now : Micros) : Swept (s.sweepExpired now) now ↔ LocksHaveTokens s := by
  have hobjects : (s.sweepExpired now).lockObjects = s.lockObjects := sweepKeys_lockObjects _ s
  have hlocks : ∀ id, (s.sweepExpired now).locks.lookup id = _ := fun id => lookup_locks_sweepKeys _ s
  constructor
  · intro h id lock hlock hfree
    by_cases hstale : id ∈ s.staleKeys now
    · obtain ⟨token, hm, _⟩ := mem_staleKeys.mp hstale
      cases hl : s.tokens.lookup id with
      | some token => exact ⟨token, rfl⟩
      | none => exact absurd rfl (bne_iff_ne.mp (List.lookup_eq_none_iff.mp hl _ hm))
    · have hkept : (s.sweepExpired now).locks.lookup id = some lock := by
        rw [hlocks, if_neg hstale, hlock]
      rcases h.locks id lock hkept with ⟨token, htoken⟩ | hlocked
      · exact ⟨token, (sweepKeys_pruned _ s).tokens id token (usableToken_some htoken).1⟩
      · rw [hobjects, hfree] at hlocked
        cases hlocked
  · intro h
    refine ⟨sweepExpired_tokens s now, ?_⟩
    intro id lock hlock
    rw [hlocks] at hlock
    rw [hobjects]
    cases hlocked : (s.lockObjects lock).locked with
    | true => exact .inr rfl
    | false =>
      left
      split at hlock
      · -- A stale key keeps its lock only while that is held.
        have hheld := (Option.filter_eq_some_iff.mp hlock).2
        rw [hlocked] at hheld
        cases hheld
      · rename_i hfresh
        obtain ⟨token, htoken⟩ := h id lock hlock hlocked
        refine ⟨token, Option.filter_eq_some_iff.mpr ⟨?_, ?_⟩⟩
        · exact (lookup_tokens_sweepKeys _ s hfresh).trans htoken
        · cases husable : token.isUsable now with
          | true => rfl
          | false => exact absurd (mem_staleKeys.mpr ⟨token, Dict.mem_of_lookup htoken, husable⟩) hfresh

/-! ## How many keys the maps have -/

/-- A dictionary has each key once. -/
def KeyedOnce (s : State) : Prop := (s.locks.map Prod.fst).Nodup

section Keys
variable {out : Outside} {s s' : State} {now : Micros}

theorem sweepKeys_keyedOnce (keys : List String) (h : KeyedOnce s) : KeyedOnce (keys.foldl sweepKey s) := by
  induction keys generalizing s with
  | nil => exact h
  | cons key keys ih =>
    apply ih
    unfold KeyedOnce sweepKey
    dsimp only
    split
    · split
      · exact h
      · exact Dict.nodup_pop h key
    · exact h

theorem countCall_keyedOnce (h : KeyedOnce s) (now : Micros) : KeyedOnce (s.countCall now) := by
  unfold State.countCall
  dsimp only
  split
  · exact sweepKeys_keyedOnce (s := { s with callCount := s.callCount + 1 }) _ h
  · exact h

theorem recheck_locks (s : State) (i : Nat) (caller : Caller) (lock : Nat) (now : Micros) :
    (s.recheck i caller lock now).locks = s.locks := by
  unfold State.recheck
  split <;> rfl

theorem askForLock_keyedOnce (h : KeyedOnce s) (caller : Caller) (recheckAt : Micros) :
    KeyedOnce (askForLock s caller recheckAt) := by
  have hlock : KeyedOnce (s.lockFor caller.delegationId).2 := by
    unfold State.lockFor
    split
    · exact h
    · exact Dict.nodup_set h _ _
  unfold askForLock
  dsimp only
  split
  · unfold KeyedOnce
    rw [recheck_locks]
    exact hlock
  · exact hlock

theorem act_keyedOnce {e : Event} (h : KeyedOnce s) (hact : act out s e = some s') : KeyedOnce s' := by
  cases e with
  | getToken flow sweepAt checkAt recheckAt =>
    cases hact
    unfold getToken
    dsimp only
    split
    · exact h
    · have hcounted := countCall_keyedOnce h sweepAt
      split
      · exact hcounted
      · exact askForLock_keyedOnce hcounted _ _
  | enterLock i recheckAt =>
    simp only [act, enterLock] at hact
    split at hact
    · obtain ⟨held, _, rfl⟩ := Option.map_eq_some_iff.mp hact
      unfold KeyedOnce
      rw [recheck_locks]
      exact h
    · cases hact
  | answerTenant i =>
    simp only [act, answerTenant] at hact
    repeat' first | split at hact | cases hact
    all_goals exact h
  | answerEndpoint i endpoint nonce ts =>
    simp only [act, answerEndpoint] at hact
    repeat' first | split at hact | cases hact
    all_goals exact h
  | answerExchange i response readAt =>
    simp only [act, answerExchange] at hact
    repeat' first | split at hact | cases hact
    all_goals exact h
  | invalidate delegationGrantId =>
    cases hact
    unfold invalidate
    split
    · exact h
    · exact Dict.nodup_pop h _

theorem step_keyedOnce {e : Event} (h : KeyedOnce s) (hstep : step out s e = some s') : KeyedOnce s' := by
  unfold step at hstep
  split at hstep
  · obtain ⟨next, hact, rfl⟩ := Option.map_eq_some_iff.mp hstep
    have hnext : KeyedOnce next := act_keyedOnce h hact
    exact hnext
  · cases hstep

/-- The locks that somebody holds. -/
def heldLocks (s : State) : List (String × Nat) := s.locks.filter (fun entry => (s.lockObjects entry.2).locked)

/-- After a sweep that leaves live state only, there are no more locks than tokens and held locks. -/
theorem Swept.locks_length (h : Swept s now) (hkeys : KeyedOnce s) :
    s.locks.length ≤ s.tokens.length + (heldLocks s).length := by
  have hfree : s.locks.length = (heldLocks s).length +
      (s.locks.filter (fun entry => !(s.lockObjects entry.2).locked)).length :=
    List.length_eq_length_filter_add _
  -- The keys of the locks nobody holds are keys of tokens, each of them once.
  have hsub : ((s.locks.filter (fun entry => !(s.lockObjects entry.2).locked)).map Prod.fst).Subperm
      (s.tokens.map Prod.fst) := by
    apply List.Nodup.subperm (hkeys.sublist (List.filter_sublist.map Prod.fst))
    intro id hid
    obtain ⟨⟨key, lock⟩, hm, rfl⟩ := List.mem_map.mp hid
    obtain ⟨hentry, hunheld⟩ := List.mem_filter.mp hm
    rcases h.locks key lock (Dict.lookup_of_mem hkeys hentry) with ⟨token, htoken⟩ | hlocked
    · exact List.mem_map.mpr ⟨_, Dict.mem_of_lookup (usableToken_some htoken).1, rfl⟩
    · rw [hlocked] at hunheld
      cases hunheld
  have hle := hsub.length_le
  rw [List.length_map, List.length_map] at hle
  omega

end Keys

/-- A sweep leaves live state only exactly when every lock it finds free in the map is that of a grant
with a cached token: it looks at the tokens, and never at a lock without one. Then no more locks are
left than tokens and held locks. -/
theorem sweep_leaves_live_state_iff {out : Outside} {time : Micros} {events : List Event} {s : State}
    (h : Machine.Run (step out) (fun _ _ => True) { time } events s) (now : Micros) :
    (Swept (s.sweepExpired now) now ↔ LocksHaveTokens s) ∧
      (LocksHaveTokens s → (s.sweepExpired now).locks.length ≤
        (s.sweepExpired now).tokens.length + (heldLocks (s.sweepExpired now)).length) := by
  have hkeys : KeyedOnce s := h.invariant List.nodup_nil (fun hs _ hstep => step_keyedOnce hs hstep)
  refine ⟨swept_iff s now, fun hlocks => ?_⟩
  exact ((swept_iff s now).mpr hlocks).locks_length (sweepKeys_keyedOnce _ hkeys)

def orderCalled : List Event :=
  [.getToken (orderFlow "acme") 0 0 0, .answerTenant 0]

/-- The exchange gets its token: a sweep an hour later takes it and its lock. -/
theorem sweep_after_a_token :
    ∃ s, Machine.Run (step orderOutside) (fun _ _ => True) { time := 0 }
      (orderCalled ++ [.answerEndpoint 0 (.ok "https://id") "n1" 0, .answerExchange 0 (.ok (200, hourBody)) 0]) s ∧
      Swept (s.sweepExpired (seconds 3600)) (seconds 3600) ∧ (s.sweepExpired (seconds 3600)).locks = [] := by
  have hrun : ∃ s, Machine.Run (step orderOutside) (fun _ _ => True) { time := 0 }
      (orderCalled ++ [.answerEndpoint 0 (.ok "https://id") "n1" 0, .answerExchange 0 (.ok (200, hourBody)) 0]) s ∧
      s.locks = [(orderGrant, 0)] ∧ s.tokens.map Prod.fst = [orderGrant] ∧
      (s.sweepExpired (seconds 3600)).locks = [] := by
    refine ⟨_, Machine.Run.of_exec (fun _ _ _ => trivial) rfl, rfl, rfl, ?_⟩
    decide +kernel
  obtain ⟨s, hrun, hlocks, htokens, hswept⟩ := hrun
  refine ⟨s, hrun, (sweep_leaves_live_state_iff hrun _).1.mpr ?_, hswept⟩
  intro id lock hlock _
  have hm := Dict.mem_of_lookup hlock
  rw [hlocks] at hm
  cases List.mem_singleton.mp hm
  cases hl : s.tokens.lookup orderGrant with
  | some token => exact ⟨token, rfl⟩
  | none =>
    have hkey : orderGrant ∈ s.tokens.map Prod.fst := by
      rw [htokens]
      exact List.mem_singleton_self _
    obtain ⟨entry, hentry, he⟩ := List.mem_map.mp hkey
    exact absurd he.symm (bne_iff_ne.mp (List.lookup_eq_none_iff.mp hl entry hentry))

/-- The exchange fails at its endpoint: the lock stays through every sweep. -/
theorem lock_without_a_token_stays :
    ∃ s, Machine.Run (step orderOutside) (fun _ _ => True) { time := 0 }
      (orderCalled ++ [.answerEndpoint 0 (.error (.other "ClientError")) "n1" 0]) s ∧
      (s.sweepExpired 0).locks = [(orderGrant, 0)] ∧ (s.sweepExpired 0).tokens = [] ∧
      ((s.sweepExpired 0).lockObjects 0).locked = false ∧ ¬ Swept (s.sweepExpired 0) 0 := by
  have hrun : ∃ s, Machine.Run (step orderOutside) (fun _ _ => True) { time := 0 }
      (orderCalled ++ [.answerEndpoint 0 (.error (.other "ClientError")) "n1" 0]) s ∧
      (s.sweepExpired 0).locks = [(orderGrant, 0)] ∧ (s.sweepExpired 0).tokens = [] ∧
      ((s.sweepExpired 0).lockObjects 0).locked = false :=
    ⟨_, Machine.Run.of_exec (fun _ _ _ => trivial) rfl, rfl, rfl, rfl⟩
  obtain ⟨s, hrun, hlocks, htokens, hfree⟩ := hrun
  refine ⟨s, hrun, hlocks, htokens, hfree, fun h => ?_⟩
  have hlock : (s.sweepExpired 0).locks.lookup orderGrant = some 0 := by
    rw [hlocks]
    exact List.lookup_cons_self
  rcases h.locks orderGrant 0 hlock with ⟨token, htoken⟩ | hlocked
  · have hl := (usableToken_some htoken).1
    rw [htokens] at hl
    cases hl
  · rw [hfree] at hlocked
    cases hlocked

end BlocksGenesis.Delegation.TokenProvider
