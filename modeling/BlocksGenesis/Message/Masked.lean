import BlocksGenesis.Delegation.Renaming
import BlocksGenesis.Message.Traced

/-! Two runs that differ in the grant ids write the same but for the keys of the Redis spans: no log line,
no name of a span and no other property depends on an id. -/

namespace BlocksGenesis.Traced
open Python Telemetry BlocksGenesis.Auth BlocksGenesis.Delegation BlocksGenesis.Message

variable {pairing : Pairing} {w : World} {flow flow' : Flow}

/-! ## Sending -/

section Sending
variable {random random' : GrantToken} {message : Outgoing} {outage : Outage}

theorem alike_logError (level : Level) (text : String) (e : Exc) :
    SameBut pairing Eq (logError w level text e) (logError w level text e) :=
  alike_log _ _

theorem alike_publishToAzureBus :
    SameBut pairing Eq (publishToAzureBus w message) (publishToAzureBus w message) := by
  unfold publishToAzureBus
  refine (alike_ofExcept _).handle (fun e => ?_)
  refine (alike_logError _ _ e).next (fun _ => ?_)
  refine Alike.next ?_ (fun _ => alike_ofExcept _)
  exact (alike_ofExcept _).handle (fun e => alike_logError _ _ e)

theorem SameFlow.inside (h : SameFlow pairing flow flow') (span : Attributes) :
    SameFlow pairing { flow with span } { flow' with span } :=
  ⟨h.context, h.authClaims, rfl, h.grant⟩

theorem alike_sendToAzureBus (hflow : SameFlow pairing flow flow')
    (hrel : pairing.rel (newGrantId random) (newGrantId random')) :
    SameBut pairing Eq (sendToAzureBus w flow random message outage)
      (sendToAzureBus w flow' random' message outage) := by
  unfold sendToAzureBus
  rw [hflow.context]
  split
  · exact alike_activity hflow.span (fun _ => alike_raise _)
  · refine alike_activity hflow.span (fun span => ?_)
    refine (alike_ofExcept _).next (fun _ => ?_)
    refine (alike_createForSend (hflow.inside span) hrel).bind (fun _ _ _ => ?_)
    refine Alike.handle ?_ (fun e => (alike_log _ _).next (fun _ => alike_raise e))
    exact alike_publishToAzureBus.next (fun _ => alike_log _ _)

theorem alike_sendToRabbit (hflow : SameFlow pairing flow flow')
    (hrel : pairing.rel (newGrantId random) (newGrantId random')) :
    SameBut pairing Eq (sendToRabbit w flow random message outage)
      (sendToRabbit w flow' random' message outage) := by
  unfold sendToRabbit
  refine (alike_ofExcept _).next (fun _ => ?_)
  refine alike_activity hflow.span (fun span => ?_)
  refine (alike_ofExcept _).next (fun _ => ?_)
  refine (alike_createForSend (hflow.inside span) hrel).bind (fun _ _ _ => ?_)
  refine Alike.handle ?_ (fun e => (alike_log _ _).next (fun _ => alike_raise e))
  exact (alike_ofExcept _).next (fun _ => alike_log _ _)

end Sending

/-! ## Handling -/

section Handling
variable {ambient ambient' : Ambient} {grant grant' : Option String} {processing : Processing}

/-- Two flows' contents that are one but for the grant. -/
def SameAmbient (pairing : Pairing) (ambient ambient' : Ambient) : Prop :=
  SameFlow pairing { ambient } { ambient := ambient' }

theorem SameAmbient.within (h : SameAmbient pairing ambient ambient') (span : Attributes) :
    SameFlow pairing { ambient, span } { ambient := ambient', span } :=
  SameFlow.inside h span

theorem SameAmbient.hold (h : SameAmbient pairing ambient ambient') (hgrant : pairing.Both grant grant') :
    SameAmbient pairing (holdGrant grant ambient) (holdGrant grant' ambient') :=
  ⟨h.context, h.authClaims, rfl, hgrant.filter⟩

theorem alike_restoreContext (h : SameAmbient pairing ambient ambient') (raw : Json)
    {unread : Exc → Program State Unit} (hunread : ∀ e, SameBut pairing Eq (unread e) (unread e)) :
    SameBut pairing (SameAmbient pairing) (restoreContext w raw ambient unread)
      (restoreContext w raw ambient' unread) := by
  unfold restoreContext
  split
  · exact alike_pure h
  · split
    · exact alike_pure ⟨rfl, h.authClaims, rfl, h.grant⟩
    · exact (hunread _).next (fun _ => alike_pure h)

theorem alike_releaseGrant (hflow : SameFlow pairing flow flow') (hgrant : pairing.Both grant grant')
    (error : Option Exc) :
    SameBut pairing Eq (releaseGrant w flow grant error) (releaseGrant w flow' grant' error) :=
  alike_deleteGrant hflow hgrant.given error

theorem alike_azureBaggage (baggage : Json) :
    SameBut pairing Eq (azureBaggage w baggage) (azureBaggage w baggage) := by
  unfold azureBaggage
  split
  · split
    · exact (alike_write rfl).next (fun _ => alike_pure rfl)
    · exact alike_raise _
    · exact (alike_log _ _).next (fun _ => alike_pure rfl)
    · exact alike_raise _
  · exact alike_raise _

theorem alike_abandonMessage (text : String) :
    SameBut pairing Eq (abandonMessage w processing text) (abandonMessage w processing text) :=
  (alike_ofExcept _).handle (fun _ => alike_log _ _)

theorem alike_processAzureMessage (h : SameAmbient pairing ambient ambient') (hgrant : pairing.Both grant grant')
    (message : Received) :
    SameBut pairing Eq (processAzureMessage w ambient message processing grant)
      (processAzureMessage w ambient' message processing grant') := by
  unfold processAzureMessage
  refine (alike_write rfl).next (fun _ => ?_)
  refine (alike_azureBaggage _).next (fun baggage => ?_)
  refine (alike_ofExcept _).next (fun body => ?_)
  refine (alike_ofExcept _).next (fun event => ?_)
  refine (alike_ofExcept _).next (fun _ => ?_)
  refine (alike_log _ _).next (fun _ => ?_)
  refine (alike_write rfl).next (fun _ => ?_)
  refine (alike_write rfl).next (fun _ => ?_)
  refine (alike_ofExcept _).next (fun _ => ?_)
  refine (alike_log _ _).next (fun _ => ?_)
  exact alike_releaseGrant (h.within _) hgrant _

theorem alike_handleAzureMessage (hflow : SameFlow pairing flow flow') (hgrant : pairing.Both grant grant')
    (message : Received) :
    SameBut pairing Eq (handleAzureMessage w flow message processing grant)
      (handleAzureMessage w flow' message processing grant') := by
  unfold handleAzureMessage
  refine Alike.handle ?_ (fun e => (alike_log _ _).next (fun _ => alike_abandonMessage _))
  refine (alike_log _ _).next (fun _ => ?_)
  have hambient : SameAmbient pairing flow.ambient flow'.ambient := hflow.inside []
  refine (alike_restoreContext hambient _ (fun e => alike_log _ _)).bind (fun restored restored' hrestored => ?_)
  refine (alike_ofExcept _).next (fun _ => ?_)
  refine Alike.handle ?_ (fun e => (alike_log _ _).next (fun _ => ?_))
  · exact (alike_processAzureMessage (hrestored.hold hgrant) hgrant message).span _ _
  · exact (alike_abandonMessage _).next (fun _ => alike_raise e)

theorem alike_rabbitBaggage (baggage : String) :
    SameBut pairing Eq (rabbitBaggage w baggage) (rabbitBaggage w baggage) := by
  unfold rabbitBaggage
  split
  · exact (alike_write rfl).next (fun _ => alike_pure rfl)
  · exact alike_raise _
  · exact (alike_log _ _).next (fun _ => alike_pure rfl)
  · exact (alike_log _ _).next (fun _ => alike_pure rfl)
  · exact alike_raise _

theorem alike_processRabbitEvent (body : String) :
    SameBut pairing Eq (processRabbitEvent w processing body) (processRabbitEvent w processing body) := by
  unfold processRabbitEvent
  refine Alike.handle ?_ (fun e => ?_)
  · refine (alike_ofExcept _).next (fun event => ?_)
    refine (alike_ofExcept _).next (fun _ => ?_)
    refine (alike_write rfl).next (fun _ => ?_)
    exact (alike_log _ _).next (fun _ => alike_pure rfl)
  · refine (alike_logError _ _ e).next (fun _ => ?_)
    refine (alike_write rfl).next (fun _ => ?_)
    exact (alike_write rfl).next (fun _ => alike_pure rfl)

theorem alike_processRabbitSpan (h : SameAmbient pairing ambient ambient') (hgrant : pairing.Both grant grant')
    (message : RabbitMessage) (queueName tenantId securityContext baggage : String) :
    SameBut pairing Eq
      (processRabbitSpan w ambient message queueName tenantId securityContext baggage processing grant)
      (processRabbitSpan w ambient' message queueName tenantId securityContext baggage processing grant') := by
  unfold processRabbitSpan
  refine (alike_write rfl).next (fun _ => ?_)
  refine (alike_rabbitBaggage _).next (fun entries => ?_)
  refine (alike_ofExcept _).next (fun body => ?_)
  refine (alike_write rfl).next (fun _ => ?_)
  refine (alike_log _ _).next (fun _ => ?_)
  refine (alike_processRabbitEvent _).next (fun processed => ?_)
  refine (alike_ofExcept _).next (fun _ => ?_)
  split
  · exact alike_releaseGrant (h.within _) hgrant _
  · exact alike_pure rfl

theorem alike_handleRabbitMessage (hflow : SameFlow pairing flow flow') (hgrant : pairing.Both grant grant')
    (message : RabbitMessage) (queueName : String) :
    SameBut pairing Eq (handleRabbitMessage w flow message queueName processing grant)
      (handleRabbitMessage w flow' message queueName processing grant') := by
  unfold handleRabbitMessage
  refine Alike.handle ?_ (fun e => alike_logError _ _ e)
  refine (alike_ofExcept _).next (fun _ => ?_)
  refine (alike_ofExcept _).next (fun _ => ?_)
  refine (alike_ofExcept _).next (fun tenantId => ?_)
  refine (alike_ofExcept _).next (fun securityContext => ?_)
  refine (alike_ofExcept _).next (fun baggage => ?_)
  have hambient : SameAmbient pairing flow.ambient flow'.ambient := hflow.inside []
  refine (alike_restoreContext hambient _ (fun e => alike_logError _ _ e)).bind (fun restored restored' hrestored => ?_)
  exact (alike_processRabbitSpan (hrestored.hold hgrant) hgrant message _ _ _ _).span _ _

end Handling

/-! ## Runs -/

section Runs
variable {s s' : State} {ids : Nat → GrantToken} {operations : List Operation} {σ : Equiv.Perm GrantToken}

def GrantRef.rename (σ : Equiv.Perm GrantToken) : GrantRef → GrantRef
  | .created n => .created n
  | .text delegationId => .text (renameId σ delegationId)

def Place.rename (σ : Equiv.Perm GrantToken) (place : Place) : Place :=
  { place with held := place.held.map (GrantRef.rename σ) }

/-- The operation with the ids that stand for its own. -/
def Operation.rename (σ : Equiv.Perm GrantToken) : Operation → Operation
  | .create place context tokenVersion securityStamp ttlSeconds error =>
    .create (place.rename σ) context tokenVersion securityStamp ttlSeconds error
  | .createForClient place tenantId clientId organizationId ttlSeconds error =>
    .createForClient (place.rename σ) tenantId clientId organizationId ttlSeconds error
  | .get place grant error => .get (place.rename σ) (grant.rename σ) error
  | .delete place grant error => .delete (place.rename σ) (grant.rename σ) error
  | .sendToAzureBus place message outage => .sendToAzureBus (place.rename σ) message outage
  | .sendToRabbit place message outage => .sendToRabbit (place.rename σ) message outage
  | .handleAzure place message processing grant =>
    .handleAzure (place.rename σ) message processing (grant.map (GrantRef.rename σ))
  | .handleRabbit place message queueName processing grant =>
    .handleRabbit (place.rename σ) message queueName processing (grant.map (GrantRef.rename σ))
  | .expire grant => .expire (grant.rename σ)

theorem GrantRef.resolve_both (h : Paired (exchange σ) s s') (grant : GrantRef) :
    (exchange σ).Both (grant.resolve s) ((grant.rename σ).resolve s') := by
  cases grant with
  | text id => exact .some rfl
  | created n =>
    obtain ⟨hlength, hget⟩ := List.forall₂_iff_get.mp h.created
    change (exchange σ).Both s.created[n]? s'.created[n]?
    by_cases hn : n < s.created.length
    · have hn' : n < s'.created.length := hlength ▸ hn
      rw [List.getElem?_eq_getElem hn, List.getElem?_eq_getElem hn']
      exact .some (hget n hn hn')
    · rw [List.getElem?_eq_none (Nat.le_of_not_lt hn), List.getElem?_eq_none (hlength ▸ Nat.le_of_not_lt hn)]
      exact .none

theorem resolve_both (h : Paired (exchange σ) s s') (grant : Option GrantRef) :
    (exchange σ).Both (grant.bind (GrantRef.resolve s))
      ((grant.map (GrantRef.rename σ)).bind (GrantRef.resolve s')) := by
  cases grant with
  | none => exact .none
  | some grant => exact grant.resolve_both h

theorem Place.sameFlow (h : Paired (exchange σ) s s') (place : Place) :
    SameFlow (exchange σ) (place.flow s) ((place.rename σ).flow s') :=
  ⟨rfl, rfl, rfl, (resolve_both h place.held).filter⟩

/-- The step of a run: an operation, and the one with the ids that stand for its own. -/
theorem alike_perform {operation : Operation} {random : GrantToken} :
    SameBut (exchange σ) Eq (perform w operation random) (perform w (operation.rename σ) (σ random)) := by
  intro s s' hs
  have hrel : (exchange σ).rel (newGrantId random) (newGrantId (σ random)) := (renameId_newGrantId random).symm
  have hflow : ∀ place : Place, SameFlow (exchange σ) (place.flow s) ((place.rename σ).flow s') :=
    fun place => place.sameFlow hs
  cases operation with
  | create place context tokenVersion securityStamp ttlSeconds error =>
    apply (alike_createGrant (hflow place) hrel context tokenVersion securityStamp error).bind _ s s' hs
    exact fun _ _ _ => alike_pure rfl
  | createForClient place tenantId clientId organizationId ttlSeconds error =>
    apply (alike_createGrantForClient (hflow place) hrel tenantId clientId organizationId error).bind _ s s' hs
    exact fun _ _ _ => alike_pure rfl
  | get place grant error =>
    apply (alike_getGrant (hflow place) (grant.resolve_both hs) error).next _ s s' hs
    exact fun _ => alike_pure rfl
  | delete place grant error => exact alike_deleteGrant (hflow place) (grant.resolve_both hs) error s s' hs
  | sendToAzureBus place message outage => exact alike_sendToAzureBus (hflow place) hrel s s' hs
  | sendToRabbit place message outage => exact alike_sendToRabbit (hflow place) hrel s s' hs
  | handleAzure place message processing grant =>
    exact alike_handleAzureMessage (hflow place) (resolve_both hs grant) message s s' hs
  | handleRabbit place message queueName processing grant =>
    exact alike_handleRabbitMessage (hflow place) (resolve_both hs grant) message queueName s s' hs
  | expire grant =>
    refine ⟨.ok rfl, ?_, rfl⟩
    rcases (grant.resolve_both hs).split with ⟨hnone, hnone'⟩ | ⟨id, id', hsome, hsome', hpair⟩
    · simp only [perform, Operation.rename, Program.update, hnone, hnone']
      exact hs
    · simp only [perform, Operation.rename, Program.update, hsome, hsome']
      exact hs.pop hpair

theorem alike_telemetry (hs : Paired (exchange σ) s s') :
    (telemetry w ids operations s).map maskKey =
      (telemetry w (σ ∘ ids) (operations.map (Operation.rename σ)) s').map maskKey := by
  induction operations generalizing s s' ids with
  | nil => rfl
  | cons operation operations ih =>
    obtain ⟨_, hnext, hentries⟩ := @alike_perform w σ operation (ids 0) s s' hs
    simp only [telemetry, List.map_cons, List.map_append]
    rw [hentries, ih hnext]
    rfl

/-- Of two runs that differ in the grant ids alone, the telemetry is the same but for the keys of the Redis
spans. -/
theorem only_keys_differ (w : World) (σ : Equiv.Perm GrantToken) (ids : Nat → GrantToken)
    (operations : List Operation) (s : State) :
    (telemetry w ids operations s).map maskKey =
      (telemetry w (σ ∘ ids) (operations.map (Operation.rename σ)) (s.rename σ)).map maskKey :=
  alike_telemetry (paired_rename σ s)

end Runs

end BlocksGenesis.Traced
