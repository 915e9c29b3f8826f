import BlocksGenesis.Python.Value

/-! PyJWT, as a party the code relies on: what it is asked, and what its documentation
promises of the answers. -/

namespace Jwt
open Python

/-- The options of `jwt.decode` that are not about the signature, which is always verified. -/
structure Options where
  verifyExp : Bool := true
  verifyNbf : Bool := true
  verifyIat : Bool := true
  verifyIss : Bool := true
  verifyAud : Bool := true
  required : List String := []
deriving DecidableEq, Repr

structure Call (Key : Type) where
  key : Key
  algorithms : List String
  issuer : Option String
  audience : Option (List String)
  options : Options
  leeway : Int
deriving DecidableEq, Repr

/-- Clock readings, in microseconds. -/
abbrev Micros := Int

def seconds (n : Int) : Micros := n * 1000000

/-- The `aud` claim names one of the audiences asked for: it is a string or a list of them. -/
def audienceMeets (audiences : List String) : Json → Bool
  | .str s => audiences.contains s
  | .arr items => items.any (Json.inStrings audiences)
  | _ => false

/-- The library: what a token says when nothing is verified, and the verified decode. -/
structure Library (Key : Type) where
  /-- `jwt.decode(token, options={"verify_signature": False})`. -/
  read : String → Option Fields
  alg : String → Option String
  verifies : Key → String → Bool
  date : Json → Option Int
  decode : Call Key → Micros → String → Except Exc Fields

/-- What PyJWT documents of `decode`, as far as the code relies on it. -/
structure Documented {Key : Type} (lib : Library Key) : Prop where
  /-- Verified or not, the claims are the token's payload. -/
  payload {call now token claims} : lib.decode call now token = .ok claims → lib.read token = some claims
  algorithm {call now token claims} : lib.decode call now token = .ok claims →
    ∃ alg ∈ call.algorithms, lib.alg token = some alg
  signature {call now token claims} : lib.decode call now token = .ok claims →
    lib.verifies call.key token = true
  issuer {call now token claims name} : lib.decode call now token = .ok claims →
    call.options.verifyIss = true → call.issuer = some name → claims.get "iss" = .str name
  audience {call now token claims names} : lib.decode call now token = .ok claims →
    call.options.verifyAud = true → call.audience = some names →
    audienceMeets names (claims.get "aud") = true
  /-- A claim that is there is checked against the clock. -/
  expiry {call now token claims value} : lib.decode call now token = .ok claims →
    call.options.verifyExp = true → claims.lookup "exp" = some value →
    ∃ e, lib.date value = some e ∧ now < seconds (e + call.leeway)
  dateInt {n} : lib.date (.int n) = some n
  dateFloat {x} : lib.date (.float x) = x.whole
  required {call now token claims name} : lib.decode call now token = .ok claims →
    name ∈ call.options.required → claims.get name ≠ .null
  /-- A claim that is missing and not required is not checked at all: what is left of the
  clock checks refuses tokens from the future, so time alone never ends such a token. -/
  unexpiring {call now later token claims} : lib.decode call now token = .ok claims →
    claims.lookup "exp" = none → now ≤ later → lib.decode call later token = .ok claims

/-! ## A library that keeps these promises -/

structure Minted (Key : Type) where
  token : String
  alg : String
  key : Key
  claims : Fields

def notBefore (checked : Bool) (claims : Fields) (name : String) (leeway : Int) (now : Micros) : Bool :=
  !checked || match claims.lookup name with
    | none => true
    | some v => v.whole.any (fun n => seconds (n - leeway) ≤ now)

def notExpired (checked : Bool) (claims : Fields) (leeway : Int) (now : Micros) : Bool :=
  !checked || match claims.lookup "exp" with
    | none => true
    | some v => v.whole.any (fun n => now < seconds (n + leeway))

def issuerOk (checked : Bool) (claims : Fields) : Option String → Bool
  | none => true
  | some name => !checked || match claims.get "iss" with
    | .str s => s == name
    | _ => false

def audienceOk (checked : Bool) (claims : Fields) : Option (List String) → Bool
  | none => true
  | some names => !checked || audienceMeets names (claims.get "aud")

def hasRequired (claims : Fields) (names : List String) : Bool :=
  names.all (fun name => match claims.get name with
    | .null => false
    | _ => true)

/-- Every check of `decode` on a payload, the clock's apart from the others'. -/
def accepts {Key : Type} (call : Call Key) (now : Micros) (claims : Fields) : Bool :=
  hasRequired claims call.options.required &&
    notBefore call.options.verifyIat claims "iat" call.leeway now &&
    notBefore call.options.verifyNbf claims "nbf" call.leeway now &&
    issuerOk call.options.verifyIss claims call.issuer &&
    audienceOk call.options.verifyAud claims call.audience

section Minted
variable {Key : Type} [DecidableEq Key]

def decodeMinted (minted : List (Minted Key)) (call : Call Key) (now : Micros) (token : String) :
    Except Exc Fields :=
  match minted.find? (fun m => m.token == token) with
  | none => .error (.invalidToken "DecodeError")
  | some m =>
    if !(call.algorithms.contains m.alg && m.key = call.key) then
      .error (.invalidToken "InvalidSignatureError")
    else if !notExpired call.options.verifyExp m.claims call.leeway now then .error .expiredSignature
    else if accepts call now m.claims then .ok m.claims
    else .error (.invalidToken "InvalidTokenError")

def ofMinted (minted : List (Minted Key)) : Library Key where
  read token := (minted.find? (fun m => m.token == token)).map Minted.claims
  alg token := (minted.find? (fun m => m.token == token)).map Minted.alg
  verifies key token := (minted.find? (fun m => m.token == token)).any (fun m => m.key = key)
  date := Json.whole
  decode := decodeMinted minted

theorem decodeMinted_ok {minted : List (Minted Key)} {call : Call Key} {now : Micros}
    {token : String} {claims : Fields} :
    decodeMinted minted call now token = .ok claims ↔
      ∃ m, minted.find? (fun m => m.token == token) = some m ∧ m.claims = claims ∧
        m.alg ∈ call.algorithms ∧ m.key = call.key ∧
        notExpired call.options.verifyExp claims call.leeway now = true ∧
        accepts call now claims = true := by
  unfold decodeMinted
  cases hm : minted.find? (fun m => m.token == token) with
  | none => simp
  | some m =>
    constructor
    · intro h
      dsimp only at h
      split at h
      · simp at h
      · rename_i hsig
        split at h
        · simp at h
        · rename_i hexp
          split at h
          · rename_i hacc
            cases h
            simp only [Bool.not_eq_true', Bool.not_eq_false, Bool.and_eq_true,
              List.contains_iff_mem, decide_eq_true_eq] at hsig hexp
            exact ⟨m, rfl, rfl, hsig.1, hsig.2, hexp, hacc⟩
          · simp at h
    · rintro ⟨m', hm', rfl, halg, hkey, hexp, hacc⟩
      cases hm'
      simp [halg, hkey, hexp, hacc]

theorem notBefore_later {checked : Bool} {claims : Fields} {name : String} {leeway : Int}
    {now later : Int} (h : notBefore checked claims name leeway now = true) (hle : now ≤ later) :
    notBefore checked claims name leeway later = true := by
  cases checked with
  | false => rfl
  | true =>
    cases hv : claims.lookup name with
    | none => simp [notBefore, hv]
    | some v =>
      simp only [notBefore, hv, Bool.not_true, Bool.false_or, Option.any_eq_true,
        decide_eq_true_eq] at h ⊢
      obtain ⟨n, hn, hb⟩ := h
      exact ⟨n, hn, Int.le_trans hb hle⟩

theorem ofMinted_documented (minted : List (Minted Key)) : Documented (ofMinted minted) where
  payload h := by
    obtain ⟨m, hm, rfl, _⟩ := decodeMinted_ok.mp h
    simp [ofMinted, hm]
  algorithm h := by
    obtain ⟨m, hm, _, halg, _⟩ := decodeMinted_ok.mp h
    exact ⟨m.alg, halg, by simp [ofMinted, hm]⟩
  signature h := by
    obtain ⟨m, hm, _, _, hkey, _⟩ := decodeMinted_ok.mp h
    simp [ofMinted, hm, hkey]
  issuer {call now token claims name} h hc hi := by
    obtain ⟨_, _, _, _, _, _, hacc⟩ := decodeMinted_ok.mp h
    simp only [accepts, Bool.and_eq_true] at hacc
    have hiss := hacc.1.2
    rw [hi] at hiss
    simp only [issuerOk, hc, Bool.not_true, Bool.false_or] at hiss
    split at hiss
    · rename_i s hs
      rw [hs, beq_iff_eq.mp hiss]
    · simp at hiss
  audience {call now token claims names} h hc ha := by
    obtain ⟨_, _, _, _, _, _, hacc⟩ := decodeMinted_ok.mp h
    simp only [accepts, Bool.and_eq_true] at hacc
    simpa [audienceOk, hc, ha] using hacc.2
  expiry {call now token claims value} h hc hv := by
    obtain ⟨_, _, _, _, _, hexp, _⟩ := decodeMinted_ok.mp h
    simp only [notExpired, hc, hv, Bool.not_true, Bool.false_or, Option.any_eq_true,
      decide_eq_true_eq] at hexp
    exact hexp
  dateInt := rfl
  dateFloat := rfl
  required {call now token claims name} h hn := by
    obtain ⟨_, _, _, _, _, _, hacc⟩ := decodeMinted_ok.mp h
    simp only [accepts, Bool.and_eq_true, hasRequired, List.all_eq_true] at hacc
    have := hacc.1.1.1.1 name hn
    intro hnull
    simp [hnull] at this
  unexpiring {call now later token claims} h hexp hl := by
    obtain ⟨m, hm, hc, halg, hkey, _, hacc⟩ := decodeMinted_ok.mp h
    refine decodeMinted_ok.mpr ⟨m, hm, hc, halg, hkey, ?_, ?_⟩
    · simp [notExpired, hexp]
    · simp only [accepts, Bool.and_eq_true] at hacc ⊢
      exact ⟨⟨⟨⟨hacc.1.1.1.1, notBefore_later hacc.1.1.1.2 hl⟩, notBefore_later hacc.1.1.2 hl⟩,
        hacc.1.2⟩, hacc.2⟩

end Minted

end Jwt
