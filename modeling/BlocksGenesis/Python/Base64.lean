import Mathlib.Data.Bool.AllAny
import BlocksGenesis.Python.Utf8

/-! `base64.b64encode`, and `base64.b64decode` with `validate=True`: four characters for three octets,
the last four padded. Padding that stands after four complete ones is passed over. -/

namespace Python.Base64

def alphabet : List Char := "ABCDEFGHIJKLMNOPQRSTUVWXYZabcdefghijklmnopqrstuvwxyz0123456789+/".toList

def digit (n : Nat) : Char := alphabet.getD n 'A'

def value (c : Char) : Option Nat := alphabet.idxOf? c

def encodeChars : Octets → List Char
  | [] => []
  | [a] => [digit (a.toNat / 4), digit (a.toNat % 4 * 16), '=', '=']
  | [a, b] => [digit (a.toNat / 4), digit (a.toNat % 4 * 16 + b.toNat / 16), digit (b.toNat % 16 * 4), '=']
  | a :: b :: c :: rest =>
    digit (a.toNat / 4) :: digit (a.toNat % 4 * 16 + b.toNat / 16) :: digit (b.toNat % 16 * 4 + c.toNat / 64) ::
      digit (c.toNat % 64) :: encodeChars rest

def octet (n : Nat) : UInt8 := UInt8.ofNat n

def quad (c d e f : Char) : Option Octets := do
  let i ← value c
  let j ← value d
  let k ← value e
  let l ← value f
  return [octet (i * 4 + j / 16), octet (j % 16 * 16 + k / 4), octet (k % 4 * 64 + l)]

/-- The last four characters, where padding may stand. Bits that are left over are not looked at. -/
def lastQuad (c d e f : Char) : Option Octets :=
  if f == '=' then do
    let i ← value c
    let j ← value d
    if e == '=' then
      return [octet (i * 4 + j / 16)]
    let k ← value e
    return [octet (i * 4 + j / 16), octet (j % 16 * 16 + k / 4)]
  else quad c d e f

def isPadding (cs : List Char) : Bool := cs.all (fun c => c == '=')

/-- None where `binascii.Error` is raised. -/
def decodeChars : List Char → Option Octets
  | [] => some []
  | [c, d, e, f] => lastQuad c d e f
  | c :: d :: e :: f :: g :: rest => do
    let first ← quad c d e f
    if isPadding (g :: rest) then
      return first
    return first ++ (← decodeChars (g :: rest))
  | _ => none

example : decodeChars "ABCD==".toList = some [0x00, 0x10, 0x83] := by decide

example : decodeChars "====".toList = none := by decide

/-! ## Round trip -/

theorem value_digit {n : Nat} (h : n < 64) : value (digit n) = some n := by
  have hall : ∀ i : Fin 64, value (digit i.val) = some i.val := by decide +kernel
  exact hall ⟨n, h⟩

theorem digit_ne_pad {n : Nat} (h : n < 64) : digit n ≠ '=' := by
  intro he
  have hvalue := value_digit h
  rw [he] at hvalue
  cases hvalue

theorem octet_eq {n : Nat} {a : UInt8} (h : n = a.toNat) : octet n = a := by
  rw [octet, h, UInt8.ofNat_toNat]

theorem octet_lt (a : UInt8) : a.toNat < 256 := UInt8.toNat_lt_size a

theorem quad_digits (a b c : UInt8) :
    quad (digit (a.toNat / 4)) (digit (a.toNat % 4 * 16 + b.toNat / 16)) (digit (b.toNat % 16 * 4 + c.toNat / 64))
      (digit (c.toNat % 64)) = some [a, b, c] := by
  have ha := octet_lt a
  have hb := octet_lt b
  have hc := octet_lt c
  unfold quad
  rw [value_digit (by omega), value_digit (by omega), value_digit (by omega), value_digit (by omega)]
  dsimp only [Option.bind_eq_bind, Option.bind_some, pure]
  rw [octet_eq (a := a) (by omega), octet_eq (a := b) (by omega), octet_eq (a := c) (by omega)]

theorem lastQuad_digits (a b c : UInt8) :
    lastQuad (digit (a.toNat / 4)) (digit (a.toNat % 4 * 16 + b.toNat / 16)) (digit (b.toNat % 16 * 4 + c.toNat / 64))
      (digit (c.toNat % 64)) = some [a, b, c] := by
  have hpad := digit_ne_pad (Nat.mod_lt c.toNat (by omega : 64 > 0))
  rw [lastQuad, if_neg (by simpa using hpad), quad_digits]

theorem lastQuad_one (a : UInt8) :
    lastQuad (digit (a.toNat / 4)) (digit (a.toNat % 4 * 16)) '=' '=' = some [a] := by
  have ha := octet_lt a
  unfold lastQuad
  rw [value_digit (by omega), value_digit (by omega)]
  dsimp only [Option.bind_eq_bind, Option.bind_some, pure]
  rw [octet_eq (a := a) (by omega)]
  rfl

theorem lastQuad_two (a b : UInt8) :
    lastQuad (digit (a.toNat / 4)) (digit (a.toNat % 4 * 16 + b.toNat / 16)) (digit (b.toNat % 16 * 4)) '=' =
      some [a, b] := by
  have ha := octet_lt a
  have hb := octet_lt b
  have hpad : (digit (b.toNat % 16 * 4) == '=') = false := beq_false_of_ne (digit_ne_pad (by omega))
  unfold lastQuad
  rw [value_digit (by omega), value_digit (by omega), value_digit (by omega)]
  dsimp only [Option.bind_eq_bind, Option.bind_some, pure]
  rw [octet_eq (a := a) (by omega), octet_eq (a := b) (by omega), hpad]
  rfl

theorem encodeChars_eq_nil {data : Octets} (h : encodeChars data = []) : data = [] := by
  unfold encodeChars at h
  split at h
  · rfl
  · cases h
  · cases h
  · cases h

theorem encodeChars_not_padding {data : Octets} (h : data ≠ []) : isPadding (encodeChars data) = false := by
  have hpad : ∀ a : UInt8, (digit (a.toNat / 4) == '=') = false := by
    intro a
    have ha := octet_lt a
    exact beq_false_of_ne (digit_ne_pad (by omega))
  unfold encodeChars
  split
  · exact absurd rfl h
  all_goals
    unfold isPadding
    rw [List.all_cons, hpad, Bool.false_and]

theorem decodeChars_encodeChars (data : Octets) : decodeChars (encodeChars data) = some data := by
  induction data using encodeChars.induct with
  | case1 => rfl
  | case2 a => exact lastQuad_one a
  | case3 a b => exact lastQuad_two a b
  | case4 a b c rest ih =>
    rw [encodeChars]
    cases hrest : encodeChars rest with
    | nil =>
      rw [encodeChars_eq_nil hrest]
      exact lastQuad_digits a b c
    | cons g more =>
      have hmore : rest ≠ [] := by
        rintro rfl
        cases hrest
      rw [decodeChars, quad_digits, ← hrest, encodeChars_not_padding hmore, ih]
      rfl

/-! ## The characters of an encoded text -/

theorem mem_of_value {c : Char} {n : Nat} (h : value c = some n) : c ∈ alphabet := by
  apply Classical.byContradiction
  intro hc
  rw [value, List.idxOf?_eq_none_iff.mpr hc] at h
  cases h

theorem alphabet_not_space {c : Char} (h : c ∈ alphabet) : isSpace c = false := by
  have hall : ∀ c ∈ alphabet, 32 < c.toNat ∧ c.toNat < 128 := List.all_iff_forall_prop.mp (by decide +kernel)
  have hbounds := hall c h
  simp [isSpace]
  omega

theorem quad_head {c d e f : Char} {data : Octets} (h : quad c d e f = some data) : c ∈ alphabet := by
  obtain ⟨i, hi, _⟩ := Option.bind_eq_some_iff.mp h
  exact mem_of_value hi

theorem decodeChars_head {c : Char} {cs : List Char} {data : Octets} (h : decodeChars (c :: cs) = some data) :
    c ∈ alphabet := by
  unfold decodeChars at h
  split at h
  · rename_i heq
    cases heq
  · rename_i heq
    cases heq
    unfold lastQuad at h
    split at h
    · obtain ⟨i, hi, _⟩ := Option.bind_eq_some_iff.mp h
      exact mem_of_value hi
    · exact quad_head h
  · rename_i heq
    cases heq
    obtain ⟨first, hfirst, _⟩ := Option.bind_eq_some_iff.mp h
    exact quad_head hfirst
  · cases h

end Python.Base64
