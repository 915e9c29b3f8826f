import BlocksGenesis.Delegation.Renaming

/-! The grant that the store or the factory first asks Redis about: its key is the first that is written to a
span, and nothing is read, written or drawn without one. -/

namespace BlocksGenesis.Traced
open Python Telemetry BlocksGenesis.Auth BlocksGenesis.Delegation

/-- The grant of a Redis command: the one that is drawn for it, or one that there is. -/
inductive Asked where
  | drawn
  | given (delegationId : String)

def Asked.id (random : GrantToken) : Asked → String
  | .drawn => newGrantId random
  | .given delegationId => delegationId

/-- Only a well-formed id gets as far as Redis. -/
def Asked.stored (delegationId : Option String) : Option Asked := (delegationId.filter isWellFormed).map .given

/-- A grant for a user needs a tenant and a user. -/
def namesUser (context : BlocksContext) : Bool := !(context.tenantId.isEmpty || context.userId.isEmpty)

/-- What a send for a user asks of Redis first: the grant it holds when the claims have no version material,
else the new one when they have both values. -/
def askedForUser (rt : Runtime) (ambient : Ambient) : Option Asked :=
  let material := versionMaterial rt ambient.authClaims
  if (given material.1).isNone && (given material.2).isNone then Asked.stored ambient.grant
  else if (given material.1).isSome && (given material.2).isSome then some .drawn
  else none

/-- What a send for a client asks of Redis first: the new grant when the claims name the client, else the one
it holds. -/
def askedForClient (rt : Runtime) (ambient : Ambient) : Option Asked :=
  let clientId := claimsClientId ambient
  if clientId.truthy then if (clientId.toStr rt).isEmpty then none else some .drawn
  else Asked.stored ambient.grant

def askedForSend (rt : Runtime) (ambient : Ambient) : Option Asked :=
  match ambient.context.filter (fun context => context.isAuthenticated && !context.tenantId.isEmpty) with
  | none => none
  | some context =>
    if !context.userId.isEmpty then askedForUser rt ambient
    else if !context.clientId.isEmpty then askedForClient rt ambient
    else none

/-- The key of a Redis command, as its span has it. -/
def keyOf : Telemetry.Entry → Option Json
  | .property key value => if key = "key" then some value else none
  | _ => none

def keyJson (delegationId : String) : Json := .str (grantKey delegationId)

theorem keyJson_inj {id id' : String} : keyJson id = keyJson id' ↔ id = id' := by
  constructor
  · intro h
    exact grantKey_injective (Json.str.inj h)
  · exact congrArg _

section Asking
variable {w : World} {flow : Flow} {s : State} {random : GrantToken} {ttlSeconds : Option Int} {outage : Outage}

/-- What a program asks Redis about first. -/
abbrev Asks {α : Type} (random : GrantToken) (m : Program State α) (s : State) (asked : Option Asked) : Prop :=
  Writes keyOf m s (asked.map (fun asked => keyJson (asked.id random)))

theorem quiet_log (level : Level) (text : String) :
    Quiet keyOf (Program.log level text : Program State Unit) s (.ok ()) :=
  quiet_write (by simp [keyOf])

theorem quiet_setProperties {properties : Attributes} (h : ∀ entry ∈ properties, entry.1 ≠ "key") :
    Quiet keyOf (Program.setProperties properties : Program State Unit) s (.ok ()) := by
  apply quiet_write
  intro written hmem
  obtain ⟨entry, hentry, rfl⟩ := List.mem_map.mp hmem
  exact if_neg (h entry hentry)

theorem asks_span {α : Type} {m : Program State α} {key : Option Json} (h : Writes keyOf m s key) (name : String) :
    Writes keyOf (Program.span w.str name m) s key :=
  h.span w.str name rfl rfl (fun _ => rfl) (fun _ _ => rfl)

theorem baggage_ne_key (name : String) : "baggage." ++ name ≠ "key" := by
  intro h
  have htext := congrArg String.toList h
  simp at htext

theorem baggage_keyless (entries : Attributes) (value : String × Json → Json) :
    ∀ entry ∈ entries.map (fun entry => ("baggage." ++ entry.1, value entry)), entry.1 ≠ "key" := by
  intro entry hmem
  obtain ⟨inner, -, rfl⟩ := List.mem_map.mp hmem
  exact baggage_ne_key inner.1

theorem activity_asks {α : Type} {name : String} {properties : Attributes} {body : Flow → Program State α}
    {key : Option Json} (hproperties : ∀ entry ∈ properties, entry.1 ≠ "key")
    (h : ∀ span, Writes keyOf (body { flow with span }) s key) :
    Writes keyOf (activity w name flow properties body) s key := by
  unfold activity
  apply asks_span
  refine (quiet_setProperties ?_).goes (h _)
  intro entry hmem
  rcases List.mem_append.mp hmem with hmem | hmem
  · exact baggage_keyless _ Prod.snd entry hmem
  · exact hproperties entry hmem

theorem activity_congr {α : Type} {name : String} {properties : Attributes} {body body' : Flow → Program State α}
    (h : ∀ span, body { flow with span } s = body' { flow with span } s) :
    activity w name flow properties body s = activity w name flow properties body' s := by
  apply Program.span_congr
  exact Program.bind_congr (fun _ _ => h _)

theorem redisCommand_asks {α : Type} {key operation : String} {error : Option Exc} {before : Attributes}
    {command : Dict String String → α × Dict String String} {after : α → Attributes} :
    Writes keyOf (redisCommand w flow key operation error before command after) s (some (.str key)) := by
  unfold redisCommand activity
  apply asks_span
  refine Writes.shown ⟨?_, fun hnone => by cases hnone⟩ _
  have hinherited := (@quiet_setProperties s _ (baggage_keyless (rootAttributes flow.span) Prod.snd)).silent
  change (List.map _ (_ ++ _)).findSome? keyOf = _
  rw [List.map_append, List.findSome?_append]
  rw [show List.findSome? keyOf (List.map _ _) = none from hinherited]
  rfl

/-! ## The store -/

theorem writeGrant_asks (record : DelegationGrantRecord) (error : Option Exc) :
    Asks random (writeGrant w flow random record ttlSeconds error) s (some .drawn) :=
  redisCommand_asks.shown _

theorem createGrant_asks {context : Option BlocksContext} (tokenVersion securityStamp : String)
    (error : Option Exc) :
    Asks random (createGrant w flow random context tokenVersion securityStamp ttlSeconds error) s
      (if (context.filter namesUser).isSome then some .drawn else none) := by
  unfold createGrant
  cases hnamed : context.filter namesUser with
  | some named =>
    change context.filter (fun context => !(context.tenantId.isEmpty || context.userId.isEmpty)) = some named at hnamed
    rw [hnamed]
    exact writeGrant_asks _ error
  | none =>
    change context.filter (fun context => !(context.tenantId.isEmpty || context.userId.isEmpty)) = none at hnamed
    rw [hnamed]
    exact (quiet_raise _).writes

theorem createGrantForClient_asks (tenantId clientId organizationId : String) (error : Option Exc) :
    Asks random (createGrantForClient w flow random tenantId clientId organizationId ttlSeconds error) s
      (if tenantId.isEmpty || clientId.isEmpty then none else some .drawn) := by
  unfold createGrantForClient
  split
  · exact (quiet_raise _).writes
  · exact writeGrant_asks _ error

theorem deleteGrant_asks (grant : Option String) (error : Option Exc) :
    Asks random (deleteGrant w flow grant error) s (Asked.stored grant) := by
  unfold deleteGrant Asked.stored
  cases grant.filter isWellFormed with
  | none => exact (quiet_pure ()).writes
  | some id =>
    have hcommand : Asks random (removeKey w flow (grantKey id) error) s (some (.given id)) :=
      redisCommand_asks.shown _
    exact hcommand.handle (fun e => (quiet_log _ _).writes)

theorem getGrant_asks (grant : Option String) (error : Option Exc) :
    Asks random (getGrant w flow grant error) s (Asked.stored grant) := by
  unfold getGrant Asked.stored
  cases grant.filter isWellFormed with
  | none => exact (quiet_pure none).writes
  | some id =>
    have hcommand : Asks random (getStringValue w flow (grantKey id) error) s (some (.given id)) :=
      redisCommand_asks
    exact hcommand.shown _

theorem stored_given (grant : Option String) : Asked.stored (given grant) = Asked.stored grant := by
  unfold Asked.stored
  cases grant with
  | none => rfl
  | some id =>
    cases hempty : id.isEmpty with
    | false => simp only [given, hempty, Bool.false_eq_true, if_false]
    | true =>
      have hnot : isWellFormed id = false := by
        by_contra hwell
        have hfull := isEmpty_of_wellFormed (eq_true_of_ne_false hwell)
        rw [hempty] at hfull
        cases hfull
      simp only [given, hempty, if_true, Option.filter, hnot]
      rfl

/-! ## The factory -/

theorem readHeldGrant_asks (tenantId : String) :
    Asks random (readHeldGrant w flow tenantId outage) s (Asked.stored flow.ambient.grant) := by
  unfold readHeldGrant
  rw [← stored_given]
  cases given flow.ambient.grant with
  | none => exact (quiet_pure none).writes
  | some id =>
    refine (getGrant_asks _ _).bind (fun found => ?_)
    cases found with
    | none => exact (quiet_pure none).writes
    | some record =>
      dsimp only
      split
      · exact ((quiet_log _ _).next (quiet_pure none)).writes
      · exact (quiet_pure _).writes

theorem readFromHeldGrant_asks (context : BlocksContext) :
    Asks random (readFromHeldGrant w flow context outage) s (Asked.stored flow.ambient.grant) := by
  refine (readHeldGrant_asks context.tenantId).bind (fun found => ?_)
  cases found with
  | none => exact (quiet_pure _).writes
  | some record =>
    dsimp only
    split
    · exact (quiet_pure _).writes
    · split
      · exact ((quiet_log _ _).next (quiet_pure (none, none))).writes
      · exact (quiet_pure _).writes

theorem grantOrNone_asks {create : Program State String} {asked : Option Asked} (h : Asks random create s asked) :
    Asks random (grantOrNone w create) s asked := by
  have hmap : Asks random (some <$> create) s asked := h.bind (fun _ => (quiet_pure _).writes)
  exact hmap.handle (fun _ => ((quiet_log _ _).next (quiet_pure none)).writes)

theorem getGrant_unasked {grant : Option String} (h : Asked.stored grant = none) (error : Option Exc) :
    getGrant w flow grant error = pure none := by
  unfold getGrant
  rw [Option.map_eq_none_iff.mp h]

theorem readHeldGrant_unasked (h : Asked.stored flow.ambient.grant = none) (tenantId : String) :
    Quiet keyOf (readHeldGrant w flow tenantId outage) s (.ok none) := by
  rw [← stored_given] at h
  unfold readHeldGrant
  cases hheld : given flow.ambient.grant with
  | none => exact quiet_pure none
  | some id =>
    dsimp only
    rw [getGrant_unasked (hheld ▸ h)]
    exact (quiet_pure none).next (quiet_pure none)

theorem readFromHeldGrant_unasked (h : Asked.stored flow.ambient.grant = none) (context : BlocksContext) :
    Quiet keyOf (readFromHeldGrant w flow context outage) s (.ok (none, none)) :=
  (readHeldGrant_unasked h context.tenantId).next (quiet_pure (none, none))

theorem sendClient_unasked (htruthy : ¬ (claimsClientId flow.ambient).truthy = true)
    (h : Asked.stored flow.ambient.grant = none) (context : BlocksContext) :
    Quiet keyOf (sendClient w flow context outage) s (.ok none) := by
  unfold sendClient
  dsimp only
  rw [if_neg htruthy]
  refine (readHeldGrant_unasked h context.tenantId).next ?_
  exact (quiet_log _ _).next (quiet_pure none)

theorem createForUser_asks {context : BlocksContext} (hnamed : namesUser context = true) :
    Asks random (createForUser w flow random context ttlSeconds outage) s (askedForUser w.rt flow.ambient) := by
  unfold createForUser askedForUser sendMaterial
  dsimp only
  split
  · cases hheld : Asked.stored flow.ambient.grant with
    | some asked =>
      have hread := @readFromHeldGrant_asks w flow s random outage context
      rw [hheld] at hread
      exact hread.shown _
    | none =>
      refine (readFromHeldGrant_unasked hheld context).goes ?_
      exact ((quiet_log _ _).next (quiet_pure none)).writes
  · refine (quiet_pure _).goes ?_
    cases given (versionMaterial w.rt flow.ambient.authClaims).1 with
    | none => exact ((quiet_log _ _).next (quiet_pure none)).writes
    | some tokenVersion =>
      cases given (versionMaterial w.rt flow.ambient.authClaims).2 with
      | none => exact ((quiet_log _ _).next (quiet_pure none)).writes
      | some securityStamp =>
        have hcreate := @createGrant_asks w flow s random ttlSeconds (some context) tokenVersion securityStamp
          outage.write
        simp only [Option.filter, hnamed, if_true] at hcreate
        exact grantOrNone_asks hcreate

theorem createForClient_asks {context : BlocksContext} (htenant : context.tenantId.isEmpty = false) :
    Asks random (createForClient w flow random context ttlSeconds outage) s (askedForClient w.rt flow.ambient) := by
  unfold createForClient askedForClient
  dsimp only
  split
  · rename_i htruthy
    have hclient : sendClient w flow context outage =
        pure (some ((claimsClientId flow.ambient).toStr w.rt, context.organizationId)) := if_pos htruthy
    rw [hclient]
    refine (quiet_pure _).goes ?_
    have hcreate := @createGrantForClient_asks w flow s random ttlSeconds context.tenantId
      ((claimsClientId flow.ambient).toStr w.rt) context.organizationId outage.write
    rw [htenant, Bool.false_or] at hcreate
    exact grantOrNone_asks hcreate
  · rename_i htruthy
    cases hheld : Asked.stored flow.ambient.grant with
    | some asked =>
      have hread := @readHeldGrant_asks w flow s random outage context.tenantId
      rw [hheld] at hread
      unfold sendClient
      dsimp only
      rw [if_neg htruthy]
      exact (hread.shown _).shown _
    | none => exact (sendClient_unasked htruthy hheld context).goes (quiet_pure none).writes

theorem createForSend_asks :
    Asks random (createForSend w flow random ttlSeconds outage) s (askedForSend w.rt flow.ambient) := by
  unfold createForSend askedForSend
  cases hc : flow.ambient.context.filter (fun context => context.isAuthenticated && !context.tenantId.isEmpty) with
  | none => exact ((quiet_log _ _).next (quiet_pure none)).writes
  | some context =>
    have hcaller := (Option.filter_eq_some_iff.mp hc).2
    simp only [Bool.and_eq_true, Bool.not_eq_true'] at hcaller
    dsimp only
    split
    · rename_i huser
      refine createForUser_asks ?_
      simp only [Bool.not_eq_true'] at huser
      simp only [namesUser, hcaller.2, huser]
      rfl
    · split
      · exact createForClient_asks hcaller.2
      · exact ((quiet_log _ _).next (quiet_pure none)).writes

theorem stored_wellFormed {grant : Option String} {asked : Asked} (h : Asked.stored grant = some asked) :
    isWellFormed (asked.id random) = true := by
  obtain ⟨id, hid, rfl⟩ := Option.map_eq_some_iff.mp h
  exact (Option.filter_eq_some_iff.mp hid).2

theorem drawn_wellFormed {asked : Asked} (h : some Asked.drawn = some asked) :
    isWellFormed (asked.id random) = true := by
  cases h
  exact newGrantId_wellFormed random

theorem askedForSend_wellFormed {rt : Runtime} {ambient : Ambient} {asked : Asked}
    (h : askedForSend rt ambient = some asked) : isWellFormed (asked.id random) = true := by
  unfold askedForSend askedForUser askedForClient at h
  dsimp only at h
  repeat' split at h
  all_goals first
    | exact stored_wellFormed h
    | exact drawn_wellFormed h
    | cases h

/-! ## Drawing nothing -/

theorem createGrant_same {context : Option BlocksContext} {tokenVersion securityStamp : String} {error : Option Exc}
    (h : (context.filter namesUser).isSome = false) (random random' : GrantToken) :
    createGrant w flow random context tokenVersion securityStamp ttlSeconds error =
      createGrant w flow random' context tokenVersion securityStamp ttlSeconds error := by
  have hnone := Option.not_isSome_iff_eq_none.mp (ne_true_of_eq_false h)
  change context.filter (fun context => !(context.tenantId.isEmpty || context.userId.isEmpty)) = none at hnone
  unfold createGrant
  rw [hnone]

theorem createGrantForClient_same {tenantId clientId organizationId : String} {error : Option Exc}
    (h : (tenantId.isEmpty || clientId.isEmpty) = true) (random random' : GrantToken) :
    createGrantForClient w flow random tenantId clientId organizationId ttlSeconds error =
      createGrantForClient w flow random' tenantId clientId organizationId ttlSeconds error := by
  unfold createGrantForClient
  rw [if_pos h, if_pos h]

theorem createForUser_same {context : BlocksContext} (h : askedForUser w.rt flow.ambient = none)
    (random random' : GrantToken) : createForUser w flow random context ttlSeconds outage s =
      createForUser w flow random' context ttlSeconds outage s := by
  unfold askedForUser at h
  unfold createForUser sendMaterial
  dsimp only at h ⊢
  split
  · rename_i hmaterial
    rw [if_pos hmaterial] at h
    exact Reads.bind_congr (readFromHeldGrant_unasked h context).toReads (fun _ hread => by cases hread; rfl)
  · rename_i hmaterial
    rw [if_neg hmaterial] at h
    refine Reads.bind_congr (reads_pure _) (fun material hread => ?_)
    cases hread
    cases htv : given (versionMaterial w.rt flow.ambient.authClaims).1 with
    | none => rfl
    | some tokenVersion =>
      cases hss : given (versionMaterial w.rt flow.ambient.authClaims).2 with
      | none => rfl
      | some securityStamp =>
        rw [htv, hss] at h
        cases h

theorem createForClient_same {context : BlocksContext} (h : askedForClient w.rt flow.ambient = none)
    (random random' : GrantToken) : createForClient w flow random context ttlSeconds outage s =
      createForClient w flow random' context ttlSeconds outage s := by
  unfold askedForClient at h
  dsimp only at h
  unfold createForClient
  split at h
  · rename_i htruthy
    have hclient : sendClient w flow context outage =
        pure (some ((claimsClientId flow.ambient).toStr w.rt, context.organizationId)) := if_pos htruthy
    have hempty : ((claimsClientId flow.ambient).toStr w.rt).isEmpty = true := by
      by_contra hgiven
      rw [if_neg hgiven] at h
      cases h
    rw [hclient]
    refine Reads.bind_congr (reads_pure _) (fun client hread => ?_)
    cases hread
    dsimp only
    rw [createGrantForClient_same (by rw [hempty, Bool.or_true]) random random']
  · rename_i htruthy
    exact (sendClient_unasked htruthy h context).toReads.bind_congr (fun _ hread => by cases hread; rfl)

theorem createForSend_same (h : askedForSend w.rt flow.ambient = none) (random random' : GrantToken) :
    createForSend w flow random ttlSeconds outage s = createForSend w flow random' ttlSeconds outage s := by
  unfold askedForSend at h
  unfold createForSend
  cases hc : flow.ambient.context.filter (fun context => context.isAuthenticated && !context.tenantId.isEmpty) with
  | none => rfl
  | some context =>
    rw [hc] at h
    dsimp only at h ⊢
    split
    · rename_i huser
      rw [if_pos huser] at h
      exact createForUser_same h random random'
    · rename_i huser
      rw [if_neg huser] at h
      split
      · rename_i hclient
        rw [if_pos hclient] at h
        exact createForClient_same h random random'
      · rfl

end Asking

end BlocksGenesis.Traced
