import BlocksGenesis.Delegation.Traced
import Mathlib.Data.List.Forall2

/-! Two runs of the traced store and factory that differ in the grant ids: but for the keys of the Redis
spans they write the same. -/

namespace BlocksGenesis.Traced
open Python Telemetry BlocksGenesis.Auth BlocksGenesis.Delegation

/-- The entry without the key of a Redis command. -/
def maskKey : Telemetry.Entry → Telemetry.Entry
  | .property key value => .property key (if key = "key" then .null else value)
  | entry => entry

/-- Which id of one run stands for which of the other, one for one. -/
structure Pairing where
  rel : String → String → Prop
  wellFormed : ∀ {id id'}, rel id id' → isWellFormed id = isWellFormed id'
  isEmpty : ∀ {id id'}, rel id id' → id.isEmpty = id'.isEmpty
  unique : ∀ {id id' other other'}, rel id id' → rel other other' → (id = other ↔ id' = other')

/-- Both ids are absent, or they stand for one another. -/
inductive Pairing.Both (pairing : Pairing) : Option String → Option String → Prop where
  | none : pairing.Both none none
  | some {id id'} : pairing.rel id id' → pairing.Both (some id) (some id')

/-- Two states that are one but for the ids. -/
structure Paired (pairing : Pairing) (s s' : State) : Prop where
  created : List.Forall₂ pairing.rel s.created s'.created
  redis : ∀ id id', pairing.rel id id' → s.redis.lookup (grantKey id) = s'.redis.lookup (grantKey id')

/-- Two flows that are one but for the id of the grant they hold. -/
structure SameFlow (pairing : Pairing) (flow flow' : Flow) : Prop where
  context : flow.ambient.context = flow'.ambient.context
  authClaims : flow.ambient.authClaims = flow'.ambient.authClaims
  span : flow.span = flow'.span
  grant : pairing.Both flow.ambient.grant flow'.ambient.grant

section
variable {pairing : Pairing} {w : World} {flow flow' : Flow} {s s' : State}

theorem Pairing.Both.filter {grant grant' : Option String} (h : pairing.Both grant grant') :
    pairing.Both (grant.filter isWellFormed) (grant'.filter isWellFormed) := by
  cases h with
  | none => exact .none
  | @some id id' hrel =>
    simp only [Option.filter, ← pairing.wellFormed hrel]
    split
    · exact .some hrel
    · exact .none

theorem Pairing.Both.given {grant grant' : Option String} (h : pairing.Both grant grant') :
    pairing.Both (given grant) (given grant') := by
  cases h with
  | none => exact .none
  | @some id id' hrel =>
    simp only [BlocksGenesis.Auth.given, ← pairing.isEmpty hrel]
    split
    · exact .none
    · exact .some hrel

theorem Pairing.Both.split {grant grant' : Option String} (h : pairing.Both grant grant') :
    grant = .none ∧ grant' = .none ∨ ∃ id id', grant = .some id ∧ grant' = .some id' ∧ pairing.rel id id' := by
  cases h with
  | none => exact .inl ⟨rfl, rfl⟩
  | some hrel => exact .inr ⟨_, _, rfl, rfl, hrel⟩

theorem grantKey_injective {id id' : String} (h : grantKey id = grantKey id') : id = id' := by
  have htext := congrArg String.toList h
  simp only [grantKey, String.toList_append, List.append_cancel_left_eq] at htext
  exact String.toList_injective htext

theorem Paired.pop (h : Paired pairing s s') {id id' : String} (hrel : pairing.rel id id') :
    Paired pairing { s with redis := s.redis.pop (grantKey id) }
      { s' with redis := s'.redis.pop (grantKey id') } where
  created := h.created
  redis other other' ho := by
    by_cases hid : other = id
    · have hid' := (pairing.unique ho hrel).mp hid
      subst hid hid'
      rw [Dict.lookup_pop_self, Dict.lookup_pop_self]
    · have hid' := fun heq => hid ((pairing.unique ho hrel).mpr heq)
      rw [Dict.lookup_pop_of_ne (fun heq => hid (grantKey_injective heq)),
        Dict.lookup_pop_of_ne (fun heq => hid' (grantKey_injective heq))]
      exact h.redis other other' ho

theorem Paired.set (h : Paired pairing s s') {id id' : String} (hrel : pairing.rel id id') (value : String) :
    Paired pairing { s with redis := s.redis.set (grantKey id) value }
      { s' with redis := s'.redis.set (grantKey id') value } where
  created := h.created
  redis other other' ho := by
    by_cases hid : other = id
    · have hid' := (pairing.unique ho hrel).mp hid
      subst hid hid'
      rw [Dict.lookup_set_self, Dict.lookup_set_self]
    · have hid' := fun heq => hid ((pairing.unique ho hrel).mpr heq)
      rw [Dict.lookup_set_of_ne (fun heq => hid (grantKey_injective heq)),
        Dict.lookup_set_of_ne (fun heq => hid' (grantKey_injective heq))]
      exact h.redis other other' ho

/-- Two programs that do the same in paired states, but for the keys they show. -/
abbrev SameBut (pairing : Pairing) {α : Type} (V : α → α → Prop) (m m' : Program State α) : Prop :=
  Alike maskKey (Paired pairing) V m m'

theorem alike_log (level : Level) (text : String) :
    SameBut pairing Eq (Program.log level text) (Program.log level text) :=
  alike_write rfl

theorem alike_activity {α : Type} {V : α → α → Prop} {name : String} {properties : Attributes}
    {body body' : Flow → Program State α} (hspan : flow.span = flow'.span)
    (hbody : ∀ span, SameBut pairing V (body { flow with span }) (body' { flow' with span })) :
    SameBut pairing V (activity w name flow properties body) (activity w name flow' properties body') := by
  unfold activity
  apply Alike.span
  rw [hspan]
  exact (alike_write rfl).next (fun _ => hbody _)

/-! ## The cache client -/

theorem maskKey_activityProperties (hcontext : flow.ambient.context = flow'.ambient.context)
    (key key' operation : String) (inherited : Attributes) :
    ((inherited ++ activityProperties flow key operation).map
        (fun entry => Telemetry.Entry.property entry.1 entry.2)).map maskKey =
      ((inherited ++ activityProperties flow' key' operation).map
        (fun entry => Telemetry.Entry.property entry.1 entry.2)).map maskKey := by
  simp [activityProperties, tenantProperty, maskKey, hcontext]

theorem alike_redisCommand {α : Type} {V : α → α → Prop} {key key' operation : String} {error : Option Exc}
    {before : Attributes} {command command' : Dict String String → α × Dict String String}
    {after : α → Attributes} (hflow : SameFlow pairing flow flow')
    (hcommand : ∀ s s', Paired pairing s s' → V (command s.redis).1 (command' s'.redis).1 ∧
      Paired pairing { s with redis := (command s.redis).2 } { s' with redis := (command' s'.redis).2 })
    (hafter : ∀ a a', V a a' → after a = after a') :
    SameBut pairing V (redisCommand w flow key operation error before command after)
      (redisCommand w flow' key' operation error before command' after) := by
  unfold redisCommand activity
  apply Alike.span
  rw [hflow.span]
  refine (alike_write (maskKey_activityProperties hflow.context key key' operation _)).next (fun _ => ?_)
  refine (alike_write rfl).next (fun _ => ?_)
  cases error with
  | some e => exact (alike_write rfl).next (fun _ => (alike_write rfl).next (fun _ => alike_raise e))
  | none =>
    refine (alike_update hcommand).bind (fun a a' ha => ?_)
    rw [hafter a a' ha]
    exact (alike_write rfl).next (fun _ => alike_pure ha)

section Grants
variable {id id' : String}

theorem alike_addStringValue (hflow : SameFlow pairing flow flow') (hrel : pairing.rel id id') (value : String)
    (lifetime : Int) (error : Option Exc) :
    SameBut pairing Eq (addStringValue w flow (grantKey id) value lifetime error)
      (addStringValue w flow' (grantKey id') value lifetime error) :=
  alike_redisCommand hflow (fun _ _ hs => ⟨rfl, hs.set hrel value⟩) (fun _ _ _ => rfl)

theorem alike_getStringValue (hflow : SameFlow pairing flow flow') (hrel : pairing.rel id id')
    (error : Option Exc) :
    SameBut pairing Eq (getStringValue w flow (grantKey id) error)
      (getStringValue w flow' (grantKey id') error) := by
  apply alike_redisCommand hflow
  · exact fun s s' hs => ⟨hs.redis id id' hrel, hs⟩
  · rintro a _ rfl
    rfl

theorem alike_removeKey (hflow : SameFlow pairing flow flow') (hrel : pairing.rel id id') (error : Option Exc) :
    SameBut pairing Eq (removeKey w flow (grantKey id) error) (removeKey w flow' (grantKey id') error) := by
  refine Alike.next ?_ (fun _ => alike_pure rfl)
  apply alike_redisCommand hflow
  · exact fun s s' hs => ⟨congrArg Option.isSome (hs.redis id id' hrel), hs.pop hrel⟩
  · rintro a _ rfl
    rfl

end Grants

/-! ## The store and the factory -/

section Factory
variable {grant grant' : Option String} {random random' : GrantToken} {ttlSeconds : Option Int} {outage : Outage}

theorem alike_deleteGrant (hflow : SameFlow pairing flow flow') (hgrant : pairing.Both grant grant')
    (error : Option Exc) :
    SameBut pairing Eq (deleteGrant w flow grant error) (deleteGrant w flow' grant' error) := by
  unfold deleteGrant
  rcases hgrant.filter.split with ⟨hnone, hnone'⟩ | ⟨id, id', hsome, hsome', hrel⟩
  · rw [hnone, hnone']
    exact alike_pure rfl
  · rw [hsome, hsome']
    exact (alike_removeKey hflow hrel error).handle (fun e => alike_log _ _)

theorem alike_getGrant (hflow : SameFlow pairing flow flow') (hgrant : pairing.Both grant grant')
    (error : Option Exc) :
    SameBut pairing Eq (getGrant w flow grant error) (getGrant w flow' grant' error) := by
  unfold getGrant
  rcases hgrant.filter.split with ⟨hnone, hnone'⟩ | ⟨id, id', hsome, hsome', hrel⟩
  · rw [hnone, hnone']
    exact alike_pure rfl
  · rw [hsome, hsome']
    refine (alike_getStringValue hflow hrel error).next (fun raw => ?_)
    split
    · exact alike_pure rfl
    · split
      · exact alike_pure rfl
      · exact (alike_log _ _).next (fun _ => alike_pure rfl)

/-- Of the written ids, one stands for the other. -/
theorem alike_writeGrant (hflow : SameFlow pairing flow flow')
    (hrel : pairing.rel (newGrantId random) (newGrantId random')) (record : DelegationGrantRecord)
    (error : Option Exc) :
    SameBut pairing pairing.rel (writeGrant w flow random record ttlSeconds error)
      (writeGrant w flow' random' record ttlSeconds error) := by
  unfold writeGrant
  refine (alike_addStringValue hflow hrel _ _ error).next (fun _ => ?_)
  refine (alike_log _ _).next (fun _ => ?_)
  refine alike_update (fun s s' hs => ⟨hrel, ?_, hs.redis⟩)
  exact List.rel_append hs.created (.cons hrel .nil)

theorem alike_createGrant (hflow : SameFlow pairing flow flow')
    (hrel : pairing.rel (newGrantId random) (newGrantId random')) (context : Option BlocksContext)
    (tokenVersion securityStamp : String) (error : Option Exc) :
    SameBut pairing pairing.rel (createGrant w flow random context tokenVersion securityStamp ttlSeconds error)
      (createGrant w flow' random' context tokenVersion securityStamp ttlSeconds error) := by
  unfold createGrant
  split
  · exact alike_writeGrant hflow hrel _ error
  · exact alike_raise _

theorem alike_createGrantForClient (hflow : SameFlow pairing flow flow')
    (hrel : pairing.rel (newGrantId random) (newGrantId random')) (tenantId clientId organizationId : String)
    (error : Option Exc) :
    SameBut pairing pairing.rel
      (createGrantForClient w flow random tenantId clientId organizationId ttlSeconds error)
      (createGrantForClient w flow' random' tenantId clientId organizationId ttlSeconds error) := by
  unfold createGrantForClient
  split
  · exact alike_raise _
  · exact alike_writeGrant hflow hrel _ error

theorem alike_readHeldGrant (hflow : SameFlow pairing flow flow') (tenantId : String) :
    SameBut pairing Eq (readHeldGrant w flow tenantId outage) (readHeldGrant w flow' tenantId outage) := by
  unfold readHeldGrant
  rcases hflow.grant.given.split with ⟨hnone, hnone'⟩ | ⟨id, id', hsome, hsome', hrel⟩
  · rw [hnone, hnone']
    exact alike_pure rfl
  · rw [hsome, hsome']
    refine (alike_getGrant hflow (.some hrel) outage.read).next (fun found => ?_)
    cases found with
    | none => exact alike_pure rfl
    | some record =>
      dsimp only
      split
      · exact (alike_log _ _).next (fun _ => alike_pure rfl)
      · exact alike_pure rfl

theorem alike_readFromHeldGrant (hflow : SameFlow pairing flow flow') (context : BlocksContext) :
    SameBut pairing Eq (readFromHeldGrant w flow context outage) (readFromHeldGrant w flow' context outage) := by
  refine (alike_readHeldGrant hflow context.tenantId).next (fun found => ?_)
  cases found with
  | none => exact alike_pure rfl
  | some record =>
    dsimp only
    split
    · exact alike_pure rfl
    · split
      · exact (alike_log _ _).next (fun _ => alike_pure rfl)
      · exact alike_pure rfl

theorem alike_sendMaterial (hflow : SameFlow pairing flow flow') (context : BlocksContext) :
    SameBut pairing Eq (sendMaterial w flow context outage) (sendMaterial w flow' context outage) := by
  unfold sendMaterial
  rw [hflow.authClaims]
  dsimp only
  split
  · exact alike_readFromHeldGrant hflow context
  · exact alike_pure rfl

theorem alike_sendClient (hflow : SameFlow pairing flow flow') (context : BlocksContext) :
    SameBut pairing Eq (sendClient w flow context outage) (sendClient w flow' context outage) := by
  have hclaims : claimsClientId flow.ambient = claimsClientId flow'.ambient := by
    unfold claimsClientId
    rw [hflow.authClaims]
  unfold sendClient
  rw [hclaims]
  dsimp only
  split
  · exact alike_pure rfl
  · refine (alike_readHeldGrant hflow context.tenantId).next (fun found => ?_)
    split
    · exact (alike_log _ _).next (fun _ => alike_pure rfl)
    · split
      · exact (alike_log _ _).next (fun _ => alike_pure rfl)
      · exact alike_pure rfl

theorem alike_grantOrNone {create create' : Program State String}
    (h : SameBut pairing pairing.rel create create') :
    SameBut pairing pairing.Both (grantOrNone w create) (grantOrNone w create') := by
  refine Alike.handle ?_ (fun e => (alike_log _ _).next (fun _ => alike_pure .none))
  exact Alike.bind h (fun _ _ hrel => alike_pure (.some hrel))

theorem alike_createForSend (hflow : SameFlow pairing flow flow')
    (hrel : pairing.rel (newGrantId random) (newGrantId random')) :
    SameBut pairing pairing.Both (createForSend w flow random ttlSeconds outage)
      (createForSend w flow' random' ttlSeconds outage) := by
  have hsilent : ∀ text, SameBut pairing pairing.Both
      (Program.log .debug text >>= fun _ => pure none) (Program.log .debug text >>= fun _ => pure none) :=
    fun text => (alike_log _ _).next (fun _ => alike_pure .none)
  unfold createForSend
  rw [hflow.context]
  split
  · exact hsilent _
  · rename_i context _
    split
    · refine (alike_sendMaterial hflow context).next (fun material => ?_)
      split
      · exact alike_grantOrNone (alike_createGrant hflow hrel _ _ _ outage.write)
      · exact hsilent _
    · split
      · refine (alike_sendClient hflow context).next (fun client => ?_)
        cases client with
        | none => exact alike_pure .none
        | some client => exact alike_grantOrNone (alike_createGrantForClient hflow hrel _ _ _ outage.write)
      · exact hsilent _

end Factory

end

end BlocksGenesis.Traced
