import BlocksGenesis.Delegation.TokenProvider
import BlocksGenesis.Message.AzureWorker

/-! What the signature of an exchange stands for. -/

namespace BlocksGenesis.Delegation.Signature
open Python BlocksGenesis.Auth BlocksGenesis.Message TokenProvider

/-! ## Decimal texts -/

theorem natText_injective {m n : Nat} (h : Nat.repr m = Nat.repr n) : m = n := by
  have hdigits := congrArg String.toList h
  rw [Nat.toList_repr, Nat.toList_repr] at hdigits
  rw [← @Nat.ofDigitChars_ten_toDigits m, hdigits, Nat.ofDigitChars_ten_toDigits]

theorem natText_isDigit {n : Nat} {c : Char} (hc : c ∈ (Nat.repr n).toList) : c.isDigit = true := by
  rw [Nat.toList_repr] at hc
  exact Nat.isDigit_of_mem_toDigits (by omega) (by omega) hc

/-- A decimal text is digits, after a sign if any. -/
theorem intText_chars {ts : Int} {c : Char} (hc : c ∈ (toString ts).toList) : c = '-' ∨ c.isDigit = true := by
  rw [Int.toString_eq_repr, Int.repr_eq_if] at hc
  split at hc
  · exact .inr (natText_isDigit hc)
  · rw [String.toList_append] at hc
    rcases List.mem_append.mp hc with hc | hc
    · exact .inl (List.mem_singleton.mp hc)
    · exact .inr (natText_isDigit hc)

theorem signed_ne_natText (m n : Nat) : "-" ++ Nat.repr m ≠ Nat.repr n := by
  intro h
  have hm : '-' ∈ (Nat.repr n).toList := by simp [← h]
  exact absurd (natText_isDigit hm) (by simp [Char.isDigit])

theorem intText_injective {ts ts' : Int} (h : toString ts = toString ts') : ts = ts' := by
  rw [Int.toString_eq_repr, Int.toString_eq_repr, Int.repr_eq_if, Int.repr_eq_if] at h
  split at h <;> split at h
  · have := natText_injective h
    omega
  · exact absurd h.symm (signed_ne_natText _ _)
  · exact absurd h (signed_ne_natText _ _)
  · have hdigits := congrArg String.toList h
    rw [String.toList_append, String.toList_append] at hdigits
    have := natText_injective (String.toList_inj.mp (List.append_cancel_left hdigits))
    omega

/-! ## The parts of an input -/

/-- What is signed for an exchange. The tenant id is any text, a pipe in it included. -/
@[ext] structure Parts where
  tenantId : String
  delegationId : String
  nonce : String
  ts : Int
  wellFormed : isWellFormed delegationId = true
  lower : ∀ c ∈ nonce.toList, isLowerHex c = true

def Parts.input (parts : Parts) : String :=
  buildSignatureInput parts.tenantId parts.delegationId parts.nonce parts.ts

theorem pipe_not_hex {c : Char} (h : isLowerHex c = true) : c ≠ '|' := by
  rintro rfl
  simp [isLowerHex] at h

theorem pipe_not_in_grant {id : String} (h : isWellFormed id = true) : '|' ∉ id.toList := by
  unfold isWellFormed at h
  simp only [Bool.and_eq_true, beq_iff_eq, List.all_eq_true] at h
  obtain ⟨⟨hstart, _⟩, hbody⟩ := h
  obtain ⟨body, hid⟩ := List.isPrefixOf_iff_prefix.mp hstart
  have hdrop : (dropChars 3 id).toList = body := by
    rw [dropChars, String.toList_ofList, ← hid]
    rfl
  rw [← hid]
  intro hm
  rcases List.mem_append.mp hm with hm | hm
  · simp [grantIdPrefix] at hm
  · exact pipe_not_hex (hbody '|' (hdrop ▸ hm)) rfl

theorem pipe_not_in_time (ts : Int) : '|' ∉ (toString ts).toList := by
  intro hm
  rcases intText_chars hm with h | h
  · simp at h
  · simp [Char.isDigit] at h

theorem input_toList (parts : Parts) : parts.input.toList =
    ((parts.tenantId.toList ++ '|' :: parts.delegationId.toList) ++ '|' :: parts.nonce.toList) ++
      '|' :: (toString parts.ts).toList := by
  simp [Parts.input, buildSignatureInput]

/-- Read from the right-hand end, an input gives back its parts. -/
theorem input_injective : Function.Injective Parts.input := by
  intro parts parts' h
  have hchars := congrArg String.toList h
  rw [input_toList, input_toList] at hchars
  obtain ⟨hchars, hts⟩ := append_sep_inj (pipe_not_in_time _) (pipe_not_in_time _) hchars
  obtain ⟨hchars, hnonce⟩ := append_sep_inj (fun hm => pipe_not_hex (parts.lower _ hm) rfl)
    (fun hm => pipe_not_hex (parts'.lower _ hm) rfl) hchars
  obtain ⟨htenant, hgrant⟩ := append_sep_inj (pipe_not_in_grant parts.wellFormed)
    (pipe_not_in_grant parts'.wellFormed) hchars
  exact Parts.ext (String.toList_inj.mp htenant) (String.toList_inj.mp hgrant) (String.toList_inj.mp hnonce)
    (intText_injective (String.toList_inj.mp hts))

def pipedNonce : String := "0123456789abcdef"

theorem pipedNonce_lower : ∀ c ∈ pipedNonce.toList, isLowerHex c = true := List.all_eq_true.mp rfl

/-- An exchange of a tenant with a pipe in its id. -/
def pipedParts : Parts where
  tenantId := "acme|eu"
  delegationId := newGrantId (grantToken 'd' (by decide))
  nonce := pipedNonce
  ts := 1735689600
  wellFormed := newGrantId_wellFormed _
  lower := pipedNonce_lower

/-- The pipe of the tenant id is no border of two parts: another tenant's exchange has another input. -/
example (parts : Parts) (h : parts.tenantId = "acme") : parts.input ≠ pipedParts.input := by
  intro he
  rw [input_injective he] at h
  exact absurd h (by decide)

/-- The signature of an exchange is over the input of its parts. -/
theorem exchange_signs (out : Outside) (endpoint salt : String) (now : Jwt.Micros) (parts : Parts)
    (h : parts.ts = now.tdiv 1000000) :
    (exchangeRequest out endpoint parts.tenantId parts.delegationId parts.nonce now salt).form.lookup "sig" =
      some (out.compute parts.input salt) := by
  unfold Parts.input
  rw [h]
  rfl

/-! ## Where the ids come from -/

/-- A call on `DelegatedTokenContext` that changes what it holds. -/
inductive HolderCall where
  | set (delegationGrantId : Json)
  | clear

/-- A `set` that raises changes nothing. -/
def HolderCall.run (ambient : Ambient) : HolderCall → Ambient
  | .set v =>
    match setDelegatedToken v ambient with
    | .ok entered => entered
    | .error _ => ambient
  | .clear => { ambient with grant := none }

def HoldsWellFormed (ambient : Ambient) : Prop := ∀ id, ambient.grant = some id → isWellFormed id = true

theorem setDelegatedToken_holds {v : Json} {ambient entered : Ambient}
    (h : setDelegatedToken v ambient = .ok entered) : HoldsWellFormed entered := by
  intro id hid
  rw [setDelegatedToken_ok h] at hid
  unfold ownGrant at hid
  split at hid
  · dsimp only at hid
    split at hid
    · rename_i hformed
      rw [← Option.some.inj hid]
      exact hformed
    · cases hid
  · cases hid

theorem HolderCall.run_holds {ambient : Ambient} (call : HolderCall) (h : HoldsWellFormed ambient) :
    HoldsWellFormed (call.run ambient) := by
  cases call with
  | set v =>
    cases hset : setDelegatedToken v ambient with
    | ok entered =>
      simp only [HolderCall.run, hset]
      exact setDelegatedToken_holds hset
    | error e =>
      simp only [HolderCall.run, hset]
      exact h
  | clear => exact nofun

theorem calls_hold {ambient : Ambient} (calls : List HolderCall) (h : HoldsWellFormed ambient) :
    HoldsWellFormed (calls.foldl HolderCall.run ambient) := by
  induction calls generalizing ambient with
  | nil => exact h
  | cons call calls ih => exact ih (call.run_holds h)

/-- Equal inputs have equal parts, and every id that is drawn or held has the shape this rests on. -/
theorem signature_unambiguous :
    Function.Injective Parts.input ∧ (∀ random, isWellFormed (newGrantId random) = true) ∧
      ∀ calls : List HolderCall, HoldsWellFormed (calls.foldl HolderCall.run {}) := by
  refine ⟨input_injective, newGrantId_wellFormed, fun calls => ?_⟩
  apply calls_hold
  exact nofun

end BlocksGenesis.Delegation.Signature
