import BlocksGenesis.Delegation.Masked
import Mathlib.Logic.Equiv.Basic

/-! Another choice of the grant ids: each token stands for another, one for one, wherever its id is given, held,
stored or drawn. -/

namespace BlocksGenesis.Delegation
open Python

/-- The token of an id, if it is well-formed. -/
def tokenOf (delegationId : String) : Option GrantToken :=
  if h : isWellFormed delegationId = true then
    some {
      hex := (dropChars 3 delegationId).toList
      length := by
        simp only [isWellFormed, Bool.and_eq_true, beq_iff_eq] at h
        exact h.1.2
      lower := by
        simp only [isWellFormed, Bool.and_eq_true, List.all_eq_true] at h
        exact h.2 }
  else none

theorem tokenOf_newGrantId (token : GrantToken) : tokenOf (newGrantId token) = some token := by
  have hbody : (dropChars 3 (newGrantId token)).toList = token.hex := by
    simp [dropChars, newGrantId, grantIdPrefix]
  unfold tokenOf
  split
  · apply congrArg some
    apply GrantToken.ext
    dsimp only
    exact hbody
  · rename_i hnot
    exact absurd (newGrantId_wellFormed token) hnot

theorem tokenOf_eq_some {delegationId : String} {token : GrantToken} (h : tokenOf delegationId = some token) :
    delegationId = newGrantId token := by
  unfold tokenOf at h
  split at h
  · rename_i hwell
    cases h
    simp only [isWellFormed, startsWith, Bool.and_eq_true, List.isPrefixOf_iff_prefix] at hwell
    obtain ⟨rest, hrest⟩ := hwell.1.1
    apply String.toList_injective
    have hthree : grantIdPrefix.toList.length = 3 := rfl
    simp only [newGrantId, String.toList_ofList, dropChars, ← hrest]
    rw [← hthree, List.drop_left]
  · cases h

theorem tokenOf_eq_none {delegationId : String} (h : tokenOf delegationId = none) :
    isWellFormed delegationId = false := by
  unfold tokenOf at h
  split at h
  · cases h
  · rename_i hnot
    exact eq_false_of_ne_true hnot

/-- The well-formed id that stands for this one. What is no id of a grant stays. -/
def renameId (σ : Equiv.Perm GrantToken) (delegationId : String) : String :=
  match tokenOf delegationId with
  | some token => newGrantId (σ token)
  | none => delegationId

section
variable {σ : Equiv.Perm GrantToken} {id id' : String}

@[simp] theorem renameId_newGrantId (token : GrantToken) : renameId σ (newGrantId token) = newGrantId (σ token) := by
  unfold renameId
  rw [tokenOf_newGrantId]

theorem renameId_of_malformed (h : tokenOf id = none) : renameId σ id = id := by
  unfold renameId
  rw [h]

@[simp] theorem isWellFormed_renameId : isWellFormed (renameId σ id) = isWellFormed id := by
  cases h : tokenOf id with
  | none => rw [renameId_of_malformed h]
  | some token =>
    rw [tokenOf_eq_some h, renameId_newGrantId, newGrantId_wellFormed, newGrantId_wellFormed]

@[simp] theorem renameId_symm (id : String) : renameId σ.symm (renameId σ id) = id := by
  cases h : tokenOf id with
  | none => rw [renameId_of_malformed h, renameId_of_malformed h]
  | some token => rw [tokenOf_eq_some h, renameId_newGrantId, renameId_newGrantId, Equiv.symm_apply_apply]

theorem renameId_inj : renameId σ id = renameId σ id' ↔ id = id' := by
  constructor
  · intro h
    have hback := congrArg (renameId σ.symm) h
    rwa [renameId_symm, renameId_symm] at hback
  · exact congrArg _

theorem newGrantId_injective {token token' : GrantToken} (h : newGrantId token = newGrantId token') :
    token = token' := by
  have hread := tokenOf_newGrantId token
  rw [h, tokenOf_newGrantId] at hread
  exact (Option.some.inj hread).symm

theorem isEmpty_of_wellFormed (h : isWellFormed id = true) : id.isEmpty = false := by
  have hne : id ≠ "" := by
    rintro rfl
    exact absurd h (by decide)
  simpa using hne

@[simp] theorem isEmpty_renameId : (renameId σ id).isEmpty = id.isEmpty := by
  cases h : tokenOf id with
  | none => rw [renameId_of_malformed h]
  | some token =>
    have hwell : isWellFormed id = true := tokenOf_eq_some h ▸ newGrantId_wellFormed token
    have hwell' : isWellFormed (renameId σ id) = true := isWellFormed_renameId.trans hwell
    rw [isEmpty_of_wellFormed hwell, isEmpty_of_wellFormed hwell']

/-- No id but this one stands for itself under every choice. -/
theorem exists_renameId_ne (h : isWellFormed id = true) : ∃ σ, renameId σ id ≠ id := by
  cases ht : tokenOf id with
  | none => exact absurd (tokenOf_eq_none ht) (ne_false_of_eq_true h)
  | some token =>
    have hother : ∃ other, other ≠ token := by
      by_cases hzero : token = grantToken '0' (by decide)
      · refine ⟨grantToken '1' (by decide), ?_⟩
        rw [hzero]
        decide
      · exact ⟨_, Ne.symm hzero⟩
    obtain ⟨other, hne⟩ := hother
    refine ⟨Equiv.swap token other, ?_⟩
    rw [tokenOf_eq_some ht, renameId_newGrantId, Equiv.swap_apply_left]
    exact fun heq => hne (newGrantId_injective heq)

/-! ## The database -/

/-- The key of the grant that stands for the one of this key. -/
def renameKey (σ : Equiv.Perm GrantToken) (key : String) : String :=
  let id := dropChars 11 key
  if grantKey id = key then grantKey (renameId σ id) else key

theorem dropChars_grantKey (id : String) : dropChars 11 (grantKey id) = id := by
  simp [dropChars, grantKey]

@[simp] theorem renameKey_grantKey : renameKey σ (grantKey id) = grantKey (renameId σ id) := by
  unfold renameKey
  rw [dropChars_grantKey, if_pos rfl]

theorem renameKey_symm (key : String) : renameKey σ.symm (renameKey σ key) = key := by
  by_cases h : grantKey (dropChars 11 key) = key
  · rw [← h, renameKey_grantKey, renameKey_grantKey, renameId_symm]
  · have hsame : ∀ σ, renameKey σ key = key := fun σ => if_neg h
    rw [hsame, hsame]

theorem renameKey_inj {key key' : String} : renameKey σ key = renameKey σ key' ↔ key = key' := by
  constructor
  · intro h
    have hback := congrArg (renameKey σ.symm) h
    rwa [renameKey_symm, renameKey_symm] at hback
  · exact congrArg _

end

end BlocksGenesis.Delegation

namespace BlocksGenesis.Traced
open Python BlocksGenesis.Delegation

def State.rename (σ : Equiv.Perm GrantToken) (s : State) : State where
  redis := s.redis.map (fun entry => (renameKey σ entry.1, entry.2))
  created := s.created.map (renameId σ)

theorem lookup_rename (σ : Equiv.Perm GrantToken) (redis : Dict String String) (key : String) :
    List.lookup (renameKey σ key) (redis.map (fun entry => (renameKey σ entry.1, entry.2))) = redis.lookup key := by
  induction redis with
  | nil => rfl
  | cons entry redis ih =>
    have hkey : (renameKey σ key == renameKey σ entry.1) = (key == entry.1) := by
      rw [Bool.eq_iff_iff, beq_iff_eq, beq_iff_eq]
      exact renameKey_inj
    rw [List.map_cons, List.lookup_cons, hkey, ih, List.lookup_cons]

/-- Each id and the one that stands for it. -/
def exchange (σ : Equiv.Perm GrantToken) : Pairing where
  rel id id' := id' = renameId σ id
  wellFormed := by
    rintro id _ rfl
    exact isWellFormed_renameId.symm
  isEmpty := by
    rintro id _ rfl
    exact isEmpty_renameId.symm
  unique := by
    rintro id _ other _ rfl rfl
    exact renameId_inj.symm

theorem paired_rename (σ : Equiv.Perm GrantToken) (s : State) : Paired (exchange σ) s (s.rename σ) where
  created := by
    refine List.forall₂_map_right_iff.mpr (List.forall₂_same.mpr ?_)
    exact fun _ _ => rfl
  redis := by
    rintro id _ rfl
    rw [← renameKey_grantKey]
    exact (lookup_rename σ s.redis (grantKey id)).symm

end BlocksGenesis.Traced
