import BlocksGenesis.Delegation.Traced

/-! The traced factory decides as the plain one: what it returns is the id the plain one attaches to the message. -/

namespace BlocksGenesis.Traced
open Python Telemetry BlocksGenesis.Auth BlocksGenesis.Delegation

/-- The database as the plain store sees it. A text that is empty counts as none. -/
def State.sendWorld (w : World) (s : State) (outage : Outage) (random : GrantToken) (ttlSeconds : Option Int) :
    SendWorld where
  redis := ⟨s.redis.map (fun entry =>
    (entry.1, ⟨if entry.2.isEmpty then .error .jsonDecode else w.rt.loads entry.2, 0⟩))⟩
  outage
  random
  ttlSeconds

section Reading
variable {w : World} {flow : Flow} {s : State} {outage : Outage} {random : GrantToken} {ttlSeconds : Option Int}

theorem sendWorld_get (key : String) :
    (s.sendWorld w outage random ttlSeconds).redis.get key = (s.redis.lookup key).map (fun raw =>
      ⟨if raw.isEmpty then .error .jsonDecode else w.rt.loads raw, 0⟩) := by
  change List.lookup key (s.redis.map _) = _
  induction s.redis with
  | nil => rfl
  | cons entry redis ih =>
    rw [List.map_cons, List.lookup_cons, List.lookup_cons, ih]
    cases key == entry.1 with
    | true => rfl
    | false => rfl

theorem getStringValue_reads (key : String) (error : Option Exc) :
    Reads (getStringValue w flow key error) s (match error with
      | some e => .error e
      | none => .ok (s.redis.lookup key)) := by
  unfold getStringValue redisCommand activity
  apply Reads.span
  apply (reads_write _).seq
  apply (reads_write _).seq
  cases error with
  | some e => exact (reads_write _).seq ((reads_write _).seq (reads_raise e))
  | none =>
    have hupdate : Reads (Program.update (fun s : State => (s.redis.lookup key, { s with redis := s.redis }))) s
        (.ok (s.redis.lookup key)) := ⟨rfl, rfl⟩
    exact hupdate.seq ((reads_write _).seq (reads_pure _))

theorem getGrant_reads (delegationId : String) :
    Reads (getGrant w flow (some delegationId) outage.read) s
      (Delegation.getGrant (s.sendWorld w outage random ttlSeconds) delegationId) := by
  unfold getGrant Delegation.getGrant
  cases hid : isWellFormed delegationId with
  | false =>
    simp only [Option.filter, hid, Bool.not_false, if_true]
    exact reads_pure none
  | true =>
    simp only [Option.filter, hid, Bool.not_true, if_true]
    have hread := @getStringValue_reads w flow s (grantKey delegationId) outage.read
    change Reads _ s (match outage.read with
      | some e => .error e
      | none => _)
    cases ho : outage.read with
    | some e =>
      rw [ho] at hread
      exact hread.fail _
    | none =>
      rw [ho] at hread
      refine hread.seq ?_
      rw [sendWorld_get]
      cases s.redis.lookup (grantKey delegationId) with
      | none => exact reads_pure none
      | some raw =>
        dsimp only [given, Option.map_some]
        cases hempty : raw.isEmpty with
        | true => exact reads_pure none
        | false =>
          simp only [Bool.false_eq_true, if_false]
          cases w.rt.loads raw >>= DelegationGrantRecord.ofWireJson with
          | ok record => exact reads_pure _
          | error e => exact (reads_write _).seq (reads_pure none)

theorem readHeldGrant_reads (tenantId : String) :
    Reads (readHeldGrant w flow tenantId outage) s
      (Delegation.readHeldGrant flow.ambient (s.sendWorld w outage random ttlSeconds) tenantId) := by
  unfold readHeldGrant Delegation.readHeldGrant
  cases given flow.ambient.grant with
  | none => exact reads_pure none
  | some heldGrantId =>
    refine (getGrant_reads heldGrantId).bind ?_
    intro found _
    cases found with
    | none => exact reads_pure none
    | some record =>
      dsimp only
      split
      · exact (reads_write _).seq (reads_pure none)
      · exact reads_pure _

theorem readFromHeldGrant_reads (context : BlocksContext) :
    Reads (readFromHeldGrant w flow context outage) s
      (Delegation.readFromHeldGrant flow.ambient (s.sendWorld w outage random ttlSeconds) context) := by
  refine (readHeldGrant_reads context.tenantId).bind ?_
  intro found _
  cases found with
  | none => exact reads_pure _
  | some record =>
    dsimp only
    split
    · exact reads_pure _
    · split
      · exact (reads_write _).seq (reads_pure _)
      · exact reads_pure _

theorem sendMaterial_reads (context : BlocksContext) :
    Reads (sendMaterial w flow context outage) s
      (Delegation.sendMaterial w.rt flow.ambient (s.sendWorld w outage random ttlSeconds) context) := by
  unfold sendMaterial Delegation.sendMaterial
  dsimp only
  split
  · exact readFromHeldGrant_reads context
  · exact reads_pure _

/-- The client of the held grant, if it is the one of the context. -/
def heldClient (context : BlocksContext) (found : Option DelegationGrantRecord) : Option (String × String) :=
  match found.filter DelegationGrantRecord.isClientGrant with
  | some held => if held.clientId != context.clientId then none else some (held.clientId, held.organizationId)
  | none => none

/-- The client that the plain factory would make a grant for. -/
def plainClient (rt : Runtime) (ambient : Ambient) (s : SendWorld) (context : BlocksContext) :
    Except Exc (Option (String × String)) :=
  let clientId := claimsClientId ambient
  if clientId.truthy then .ok (some (clientId.toStr rt, context.organizationId))
  else do
    return heldClient context (← Delegation.readHeldGrant ambient s context.tenantId)

theorem sendClient_reads (context : BlocksContext) :
    Reads (sendClient w flow context outage) s
      (plainClient w.rt flow.ambient (s.sendWorld w outage random ttlSeconds) context) := by
  unfold sendClient plainClient
  dsimp only
  split
  · exact reads_pure _
  · refine (readHeldGrant_reads context.tenantId).bind ?_
    intro found _
    unfold heldClient
    cases found.filter DelegationGrantRecord.isClientGrant with
    | none => exact (reads_write _).seq (reads_pure none)
    | some held =>
      dsimp only
      split
      · exact (reads_write _).seq (reads_pure none)
      · exact reads_pure _

/-! ## Deciding -/

/-- The id of the grant, or the error of its write. -/
theorem writeGrant_result (record : DelegationGrantRecord) :
    ((writeGrant w flow random record ttlSeconds outage.write) s).result =
      (Delegation.writeGrant (s.sendWorld w outage random ttlSeconds) record).map Prod.fst := by
  unfold Delegation.writeGrant State.sendWorld
  cases outage.write with
  | some e => rfl
  | none => rfl

theorem grantOrNone_result {create : Program State String} {plain : Except Exc (String × Redis)}
    (h : (create s).result = plain.map Prod.fst) (redis : Redis) :
    ((grantOrNone w create) s).result = .ok (Delegation.grantOrNone redis plain).1 := by
  have hmap : (some <$> create) = create >>= fun id => pure (some id) := rfl
  unfold grantOrNone
  rw [hmap]
  cases plain with
  | error e =>
    have hbind := Program.bind_of_error (f := fun id => (pure (some id) : Program State (Option String))) h
    rw [Program.handle_of_error (by rw [hbind])]
    rfl
  | ok written =>
    have hbind := Program.bind_of_ok (f := fun id => (pure (some id) : Program State (Option String))) h
    rw [Program.handle_of_ok (a := some written.1) (by rw [hbind]; rfl), hbind]
    rfl

theorem createGrant_result (context : BlocksContext) (tokenVersion securityStamp : String) :
    ((createGrant w flow random (some context) tokenVersion securityStamp ttlSeconds outage.write) s).result =
      (Delegation.createGrant (s.sendWorld w outage random ttlSeconds) context tokenVersion securityStamp).map
        Prod.fst := by
  unfold createGrant Delegation.createGrant
  cases hnamed : context.tenantId.isEmpty || context.userId.isEmpty with
  | true =>
    simp only [Option.filter, hnamed, Bool.not_true, Bool.false_eq_true, if_false, if_true]
    rfl
  | false =>
    simp only [Option.filter, hnamed, Bool.not_false, Bool.false_eq_true, if_false, if_true]
    exact writeGrant_result _

theorem createGrantForClient_result (tenantId clientId organizationId : String) :
    ((createGrantForClient w flow random tenantId clientId organizationId ttlSeconds outage.write) s).result =
      (Delegation.createGrantForClient (s.sendWorld w outage random ttlSeconds) tenantId clientId organizationId).map
        Prod.fst := by
  unfold createGrantForClient Delegation.createGrantForClient
  split
  · rfl
  · exact writeGrant_result _

theorem createForUser_result (context : BlocksContext) :
    ((createForUser w flow random context ttlSeconds outage) s).result =
      (Delegation.createForUser w.rt flow.ambient (s.sendWorld w outage random ttlSeconds) context).map Prod.fst := by
  have hread := @sendMaterial_reads w flow s outage random ttlSeconds context
  unfold createForUser Delegation.createForUser
  cases hm : Delegation.sendMaterial w.rt flow.ambient (s.sendWorld w outage random ttlSeconds) context with
  | error e =>
    rw [hm] at hread
    rw [Program.bind_of_error hread.result]
    rfl
  | ok material =>
    rw [hm] at hread
    rw [Program.bind_of_ok hread.result, hread.state]
    change _ = Except.ok (grantFor _ context material).1
    unfold grantFor
    cases given material.1 with
    | none => rfl
    | some tokenVersion =>
      cases given material.2 with
      | none => rfl
      | some securityStamp => exact grantOrNone_result (createGrant_result _ _ _) _

theorem createForClient_result (context : BlocksContext) :
    ((createForClient w flow random context ttlSeconds outage) s).result =
      (Delegation.createForClient w.rt flow.ambient (s.sendWorld w outage random ttlSeconds) context).map
        Prod.fst := by
  have hread := @sendClient_reads w flow s outage random ttlSeconds context
  unfold createForClient Delegation.createForClient
  unfold plainClient at hread
  dsimp only at hread ⊢
  split
  · rename_i htruthy
    rw [if_pos htruthy] at hread
    rw [Program.bind_of_ok hread.result, hread.state]
    exact grantOrNone_result (createGrantForClient_result _ _ _) _
  · rename_i htruthy
    rw [if_neg htruthy] at hread
    cases hheld : Delegation.readHeldGrant flow.ambient (s.sendWorld w outage random ttlSeconds) context.tenantId with
    | error e =>
      rw [hheld] at hread
      rw [Program.bind_of_error hread.result]
      rfl
    | ok found =>
      rw [hheld] at hread
      rw [Program.bind_of_ok hread.result, hread.state]
      cases found with
      | none => rfl
      | some held =>
        unfold heldClient
        cases hclient : held.isClientGrant with
        | false =>
          simp only [Option.filter, hclient, Bool.false_eq_true, if_false]
          change _ = Except.map Prod.fst (if !held.isClientGrant then _ else _)
          rw [hclient]
          rfl
        | true =>
          simp only [Option.filter, hclient, if_true]
          change _ = Except.map Prod.fst (if !held.isClientGrant then _ else if held.clientId != context.clientId then _
            else _)
          rw [hclient]
          cases hsame : held.clientId != context.clientId with
          | true =>
            simp only [if_true]
            rfl
          | false =>
            simp only [Bool.false_eq_true, if_false]
            exact grantOrNone_result (createGrantForClient_result _ _ _) _

/-- The traced factory attaches the grant that the plain one attaches, and raises where it raises. -/
theorem createForSend_result :
    ((createForSend w flow random ttlSeconds outage) s).result =
      (Delegation.createForSend w.rt flow.ambient (s.sendWorld w outage random ttlSeconds)).map Prod.fst := by
  unfold createForSend Delegation.createForSend
  cases flow.ambient.context with
  | none => rfl
  | some context =>
    cases hcaller : context.isAuthenticated && !context.tenantId.isEmpty with
    | false =>
      have hnot : (!context.isAuthenticated || context.tenantId.isEmpty) = true := by
        cases hauth : context.isAuthenticated with
        | false => rfl
        | true =>
          rw [hauth] at hcaller
          simpa using hcaller
      simp only [Option.filter, hcaller, hnot, if_true]
      rfl
    | true =>
      have hnot : (!context.isAuthenticated || context.tenantId.isEmpty) = false := by
        simp only [Bool.and_eq_true, Bool.not_eq_true'] at hcaller
        rw [hcaller.1, hcaller.2]
        rfl
      simp only [Option.filter, hcaller, hnot, Bool.false_eq_true, if_false, if_true]
      split
      · exact createForUser_result context
      · split
        · exact createForClient_result context
        · rfl

end Reading

end BlocksGenesis.Traced
