import BlocksGenesis.Auth.Transport

/-! A context that is sent on, hop after hop, by workers that restore it from what they received. -/

namespace BlocksGenesis.Auth
open Python BlocksContext

/-- What a worker sends on whose context was restored from this payload. -/
def resend (rt : Runtime) (payload : Fields) : Except Exc Fields := do
  match ← fromTransport rt (.obj payload) with
  | some context => return createSanitizedForTransport context
  | none => return []

def hops (rt : Runtime) : Nat → Fields → Except Exc Fields
  | 0, payload => .ok payload
  | n + 1, payload => resend rt payload >>= hops rt n

/-! ## Masking again -/

theorem not_mem_getD_split (sep : Char) (s : String) (n : Nat) : sep ∉ ((split sep s).getD n "").toList := by
  rw [List.getD_eq_getElem?_getD]
  cases h : (split sep s)[n]? with
  | none => simp
  | some piece =>
    obtain ⟨chars, hm, rfl⟩ := List.mem_map.mp (List.mem_of_getElem? h)
    rw [Option.getD_some, String.toList_ofList]
    exact splitChars_pieces hm

theorem maskedEmail_of_domain {domain : String} (h : '@' ∉ domain.toList) :
    maskedEmail ("***@" ++ domain) = "***@" ++ domain := by
  have hchars : ("***@" ++ domain).toList = '*' :: '*' :: '*' :: '@' :: domain.toList := by simp
  have hsplit : splitChars '@' ("***@" ++ domain).toList = [['*', '*', '*'], domain.toList] := by
    rw [hchars]
    simp only [splitChars, splitChars_of_not_mem h]
    rfl
  have hin : isIn "@" ("***@" ++ domain) = true := by
    unfold isIn
    rw [hchars]
    rfl
  unfold maskedEmail split
  rw [if_pos hin, hsplit]
  simp

/-- An email that is masked already is kept. -/
theorem maskedEmail_twice (email : String) : maskedEmail (maskedEmail email) = maskedEmail email := by
  by_cases hin : isIn "@" email = true
  · have hmasked : maskedEmail email = "***@" ++ (split '@' email).getD 1 "" := if_pos hin
    rw [hmasked]
    exact maskedEmail_of_domain (not_mem_getD_split '@' email 1)
  · have hmasked : maskedEmail email = "***" := if_neg hin
    rw [hmasked]
    decide

/-- No number, the mask itself, or one that has four characters to keep. -/
def KeepsItsMask (phone : String) : Prop := phone = "" ∨ phone = "***" ∨ 4 ≤ phone.length

theorem maskedPhone_chars {phone : String} (hempty : phone ≠ "") (hmask : phone ≠ "***") :
    (maskedPhone phone).toList = '*' :: '*' :: '*' :: phone.toList.rtake 4 := by
  unfold maskedPhone
  rw [if_neg (by simp [hempty, hmask])]
  simp

theorem length_rtake (n : Nat) (l : List Char) : (l.rtake n).length = min n l.length := by
  rw [List.rtake, List.length_drop]
  omega

theorem rtake_mask {last : List Char} (h : last.length = 4) : ('*' :: '*' :: '*' :: last).rtake 4 = last := by
  simp [List.rtake, h]

theorem maskedPhone_twice_iff (phone : String) :
    maskedPhone (maskedPhone phone) = maskedPhone phone ↔ KeepsItsMask phone := by
  by_cases hempty : phone = ""
  · subst hempty
    exact ⟨fun _ => .inl rfl, fun _ => by decide⟩
  by_cases hmask : phone = "***"
  · subst hmask
    exact ⟨fun _ => .inr (.inl rfl), fun _ => by decide⟩
  have hchars := maskedPhone_chars hempty hmask
  have hlast : (phone.toList.rtake 4).length = min 4 phone.length := by
    rw [length_rtake, String.length_toList]
  have hlength : phone.length ≠ 0 := by
    intro h
    exact hempty (String.length_eq_zero_iff.mp h)
  have hmasked : (maskedPhone phone).length = 3 + min 4 phone.length := by
    rw [← String.length_toList, hchars]
    simp only [List.length_cons, hlast]
    omega
  have hmasked_ne : maskedPhone phone ≠ "" ∧ maskedPhone phone ≠ "***" := by
    constructor
    · intro h
      rw [h] at hmasked
      simp at hmasked
      omega
    · intro h
      rw [h] at hmasked
      have hthree : "***".length = 3 := by decide
      omega
  have hagain := maskedPhone_chars hmasked_ne.1 hmasked_ne.2
  constructor
  · intro h
    -- what is masked a second time is seven characters long
    have hseven : (maskedPhone (maskedPhone phone)).length = 7 := by
      rw [← String.length_toList, hagain, hchars]
      simp only [List.length_cons, length_rtake, hlast]
      omega
    rw [h, hmasked] at hseven
    exact .inr (.inr (by omega))
  · rintro (h | h | h)
    · exact absurd h hempty
    · exact absurd h hmask
    · apply String.toList_injective
      rw [hagain, hchars, rtake_mask (by rw [hlast]; omega)]

/-! ## Hop after hop -/

section Hops
variable {rt : Runtime} {context : BlocksContext}

theorem resend_sanitized (hdate : ∀ date, context.expireOn = some date → rt.readDateTime (.str date.iso) = .ok date) :
    resend rt (createSanitizedForTransport context) = .ok (createSanitizedForTransport context.sanitized) := by
  unfold resend
  have hpayload : createSanitizedForTransport context ≠ [] := List.cons_ne_nil _ _
  rw [fromTransport_of_values hpayload (transportValues_sanitized context) hdate]
  rfl

/-- What is sanitized twice differs in the masks only. -/
theorem sanitized_again_iff (context : BlocksContext) :
    createSanitizedForTransport context.sanitized = createSanitizedForTransport context ↔
      KeepsItsMask context.phoneNumber := by
  rw [← maskedPhone_twice_iff]
  constructor
  · intro h
    have hphone := congrArg (fun payload => List.lookup "PhoneNumber" payload) h
    exact Json.str.inj (Option.some.inj hphone)
  · intro h
    cases ho : context.originalTenantId.isEmpty with
    | true => simp [createSanitizedForTransport, BlocksContext.sanitized, h, maskedEmail_twice, ho]
    | false => simp [createSanitizedForTransport, BlocksContext.sanitized, h, maskedEmail_twice, ho]

/-- However many workers hand it on, a payload stays as it was sent just when its phone number is not so
short that the mask is cut again. -/
theorem sanitizing_stable_iff (rt : Runtime) (context : BlocksContext)
    (hdate : ∀ date, context.expireOn = some date → rt.readDateTime (.str date.iso) = .ok date) :
    (∀ n, hops rt n (createSanitizedForTransport context) = .ok (createSanitizedForTransport context)) ↔
      KeepsItsMask context.phoneNumber := by
  rw [← sanitized_again_iff]
  have hresend := resend_sanitized hdate
  constructor
  · intro h
    have hone := h 1
    rw [hops, hresend] at hone
    exact Except.ok.inj hone
  · intro hsame n
    rw [hsame] at hresend
    induction n with
    | zero => rfl
    | succ n ih =>
      rw [hops, hresend]
      exact ih

theorem sanitizing_stable_ada :
    (∀ n, hops asciiRuntime n (createSanitizedForTransport travellingAda) =
      .ok (createSanitizedForTransport travellingAda)) ↔ KeepsItsMask travellingAda.phoneNumber := by
  refine sanitizing_stable_iff asciiRuntime travellingAda ?_
  intro date hdate
  cases hdate
  rfl

/-- A number of two characters goes out behind three stars and comes back from the first hop behind five. -/
theorem short_phone_masked_again : ¬ ∀ (rt : Runtime) (context : BlocksContext),
    (∀ date, context.expireOn = some date → rt.readDateTime (.str date.iso) = .ok date) →
    ∀ n, hops rt n (createSanitizedForTransport context) = .ok (createSanitizedForTransport context) := by
  intro h
  have hone := h asciiRuntime { tenantId := "acme", userId := "ada", phoneNumber := "42" } nofun 1
  have hphone := congrArg (fun payload => List.lookup "PhoneNumber" payload) (Except.ok.inj hone)
  exact absurd (Json.str.inj (Option.some.inj hphone)) (by decide)

end Hops

end BlocksGenesis.Auth
