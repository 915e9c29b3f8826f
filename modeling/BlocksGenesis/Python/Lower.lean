import BlocksGenesis.Python.Value

/-! Lower case, and how it goes with stripping. -/

namespace Python

/-! ## Stripped texts -/

section Strip
variable {p : Char → Bool} {cs : List Char} {c : Char}

theorem dropWhile_head (hlen : 0 < (cs.dropWhile p).length) : ¬ p ((cs.dropWhile p)[0]) = true :=
  List.dropWhile_eq_self_iff.mp (List.dropWhile_idempotent p cs) hlen

theorem stripChars_last (h : (stripChars p cs).getLast? = some c) : p c = false := by
  have hne : stripChars p cs ≠ [] := by
    intro hnil
    rw [hnil] at h
    cases h
  rw [List.getLast?_eq_some_getLast hne] at h
  rw [← Option.some.inj h]
  exact eq_false_of_ne_true (List.rdropWhile_last_not p _ hne)

theorem stripChars_of_ends (hhead : ∀ c, cs.head? = some c → p c = false)
    (hlast : ∀ c, cs.getLast? = some c → p c = false) : stripChars p cs = cs := by
  have hstart : cs.dropWhile p = cs := by
    cases cs with
    | nil => rfl
    | cons c cs => rw [List.dropWhile_cons, hhead c rfl, if_neg Bool.false_ne_true]
  rw [stripChars, hstart, List.rdropWhile_eq_self_iff]
  intro hne
  rw [hlast _ (List.getLast?_eq_some_getLast hne)]
  exact Bool.false_ne_true

/-- There is nothing more to strip of a stripped text. -/
theorem stripChars_stripChars (p : Char → Bool) (cs : List Char) :
    stripChars p (stripChars p cs) = stripChars p cs := by
  refine stripChars_of_ends (fun c hc => ?_) (fun c hc => stripChars_last hc)
  have hprefix : stripChars p cs <+: cs.dropWhile p := List.rdropWhile_prefix p _
  have hlen : 0 < (stripChars p cs).length := by
    cases hs : stripChars p cs with
    | nil =>
      rw [hs] at hc
      cases hc
    | cons d ds => simp
  rw [List.head?_eq_getElem?, List.getElem?_eq_getElem hlen] at hc
  rw [← Option.some.inj hc, hprefix.getElem hlen]
  exact eq_false_of_ne_true (dropWhile_head (Nat.lt_of_lt_of_le hlen hprefix.length_le))

theorem strip_strip (s : String) : strip (strip s) = strip s := by
  rw [strip, strip, String.toList_ofList, stripChars_stripChars]

theorem stripChars_map {f : Char → Char} (h : ∀ c, p (f c) = p c) :
    stripChars p (cs.map f) = (stripChars p cs).map f := by
  have hp : p ∘ f = p := funext h
  simp only [stripChars, List.rdropWhile, List.dropWhile_map, hp, ← List.map_reverse]

end Strip

/-! ## Lower case -/

/-- What is relied on of `str.lower`: it leaves alone what it gave, a text as far as its parts are left alone, and
ASCII without capitals; and no white space has a case, so it does not matter when a text is stripped. -/
structure Lowers (lower : String → String) : Prop where
  idempotent s : lower (lower s) = lower s
  append {a b} : lower (a ++ b) = a ++ b ↔ lower a = a ∧ lower b = b
  plain {s} : (∀ c ∈ s.toList, c.toNat < 65 ∨ 90 < c.toNat ∧ c.toNat < 128) → lower s = s
  strip s : strip (lower s) = lower (strip s)

theorem toLower_toNat (c : Char) :
    c.toLower.toNat = if 65 ≤ c.toNat ∧ c.toNat ≤ 90 then c.toNat + 32 else c.toNat := by
  unfold Char.toLower
  simp only [UInt32.le_iff_toNat_le, ge_iff_le, Char.toNat_val]
  split
  · rename_i h
    have hcapital : 65 ≤ c.toNat ∧ c.toNat ≤ 90 := h
    have hshift : ('a'.val - 'A'.val).toNat = 32 := by decide
    rw [if_pos hcapital, ← Char.toNat_val, UInt32.toNat_add, Char.toNat_val, hshift]
    exact Nat.mod_eq_of_lt (by omega)
  · rename_i h
    exact (if_neg h).symm

theorem toLower_eq_self_iff {c : Char} : c.toLower = c ↔ ¬ (65 ≤ c.toNat ∧ c.toNat ≤ 90) := by
  rw [← Char.toNat_inj, toLower_toNat]
  split
  · simp_all
  · simp_all

theorem isSpace_toLower (c : Char) : isSpace c.toLower = isSpace c := by
  unfold isSpace
  rw [toLower_toNat]
  split
  · rename_i h
    have hcode : ∀ n : Nat, 65 ≤ n → n < 123 →
        ((9 ≤ n && n ≤ 13) || (28 ≤ n && n ≤ 32) || n == 0x85 || n == 0xa0 || n == 0x1680 ||
          (0x2000 ≤ n && n ≤ 0x200a) || n == 0x2028 || n == 0x2029 || n == 0x202f ||
          n == 0x205f || n == 0x3000) = false := by
      intro n hlow hhigh
      simp
      omega
    exact (hcode _ (by omega) (by omega)).trans (hcode _ h.1 (by omega)).symm
  · rfl

theorem map_toLower_eq_self_iff {cs : List Char} : cs.map Char.toLower = cs ↔ ∀ c ∈ cs, c.toLower = c := by
  induction cs with
  | nil => simp
  | cons c cs ih => simp [ih]

theorem asciiLower_eq (s : String) : asciiRuntime.lower s = String.ofList (s.toList.map Char.toLower) := rfl

theorem asciiLower_eq_self_iff {s : String} : asciiRuntime.lower s = s ↔ ∀ c ∈ s.toList, c.toLower = c := by
  rw [← map_toLower_eq_self_iff]
  constructor
  · intro h
    have hchars := congrArg String.toList h
    rwa [asciiLower_eq, String.toList_ofList] at hchars
  · intro h
    rw [asciiLower_eq, h, String.ofList_toList]

theorem asciiRuntime_lowers : Lowers asciiRuntime.lower where
  idempotent s := by
    apply asciiLower_eq_self_iff.mpr
    intro c hc
    rw [asciiLower_eq, String.toList_ofList] at hc
    obtain ⟨d, _, rfl⟩ := List.mem_map.mp hc
    rw [toLower_eq_self_iff, toLower_toNat]
    split <;> omega
  append {a b} := by
    simp only [asciiLower_eq_self_iff, String.toList_append, List.forall_mem_append]
  plain {s} h := by
    apply asciiLower_eq_self_iff.mpr
    intro c hc
    rw [toLower_eq_self_iff]
    have hplain := h c hc
    omega
  strip s := by
    rw [asciiLower_eq, asciiLower_eq, Python.strip, Python.strip, String.toList_ofList, String.toList_ofList,
      stripChars_map isSpace_toLower]

/-- What is relied on besides: no sign of ASCII is the lower case of anything else, and white space before a text
changes nothing in how it is lowered. -/
structure LowersSigns (lower : String → String) : Prop extends Lowers lower where
  signs {s c} : c.toNat < 128 → c.isAlpha = false → (c ∈ (lower s).toList ↔ c ∈ s.toList)
  afterSpace {space s} : (∀ c ∈ space.toList, isSpace c = true) → lower (space ++ s) = space ++ lower s

theorem isAlpha_iff_toNat {c : Char} :
    c.isAlpha = true ↔ 65 ≤ c.toNat ∧ c.toNat ≤ 90 ∨ 97 ≤ c.toNat ∧ c.toNat ≤ 122 := by
  change (decide ('A'.val ≤ c.val ∧ c.val ≤ 'Z'.val) || ('a'.val ≤ c.val && c.val ≤ 'z'.val)) = true ↔ _
  rw [Bool.or_eq_true, Bool.and_eq_true, decide_eq_true_iff, decide_eq_true_iff, decide_eq_true_iff]
  rfl

theorem toLower_eq_sign_iff {c d : Char} (hsign : c.isAlpha = false) : d.toLower = c ↔ d = c := by
  have hcapital : ¬ (65 ≤ c.toNat ∧ c.toNat ≤ 90) ∧ ¬ (97 ≤ c.toNat ∧ c.toNat ≤ 122) := by
    rw [← not_or, ← isAlpha_iff_toNat, hsign]
    exact Bool.false_ne_true
  constructor
  · intro h
    have hcode := congrArg Char.toNat h
    rw [toLower_toNat] at hcode
    apply Char.toNat_inj.mp
    split at hcode <;> omega
  · rintro rfl
    exact toLower_eq_self_iff.mpr hcapital.1

theorem asciiRuntime_lowersSigns : LowersSigns asciiRuntime.lower where
  toLowers := asciiRuntime_lowers
  signs {s c} _ hsign := by
    rw [asciiLower_eq, String.toList_ofList, List.mem_map]
    constructor
    · intro h
      obtain ⟨d, hd, hc⟩ := h
      rw [← (toLower_eq_sign_iff hsign).mp hc]
      exact hd
    · intro hc
      exact ⟨c, hc, (toLower_eq_sign_iff hsign).mpr rfl⟩
  afterSpace {space s} hspace := by
    have hkept : asciiRuntime.lower space = space := by
      apply asciiLower_eq_self_iff.mpr
      intro c hc
      rw [toLower_eq_self_iff]
      intro hcapital
      have hs := hspace c hc
      simp [isSpace] at hs
      omega
    rw [asciiLower_eq, String.toList_append, List.map_append, String.ofList_append, ← asciiLower_eq, hkept,
      ← asciiLower_eq]

end Python
