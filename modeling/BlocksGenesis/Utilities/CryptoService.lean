import BlocksGenesis.Crypto.Aead
import BlocksGenesis.Python.Base64

/-! The envelope a provider's secrets are stored in, written by one runtime and read by the other. -/

namespace BlocksGenesis.Utilities.CryptoService
open Python Crypto

def envelopeV1 : UInt8 := 1

/-- AES-256-GCM and SHA-256. -/
structure Library where
  aead : Aead
  sha256 : Bytes → Key

def b64encode (data : Bytes) : Text := (Base64.encodeChars data).map .char

def b64decode (s : Text) : Option Bytes := s.chars.bind Base64.decodeChars

/-- A value that is there: neither `None` nor blank. -/
def stated (value : Option Text) : Option Text := value.filter (fun s => !s.blank)

def encoded (s : Text) : Except Exc Bytes :=
  match s.encode with
  | some data => .ok data
  | none => .error (.other "UnicodeEncodeError")

/-- Derived rather than used raw, so any length of salt yields a valid key. -/
def deriveKey (lib : Library) (keyMaterial : Text) : Except Exc Key := lib.sha256 <$> encoded keyMaterial

/-- `encrypt` with the nonce that `os.urandom` gives. -/
def encrypt (lib : Library) (nonce : Nonce) (plainText keyMaterial : Option Text) : Except Exc Text :=
  match plainText with
  | none => .error (.valueError "plain_text cannot be None")
  | some plain =>
    match stated keyMaterial with
    | none => .error (.valueError "key_material cannot be empty")
    | some material => do
      let key ← deriveKey lib material
      let sealed := lib.aead.encrypt key nonce (← encoded plain)
      return b64encode (envelopeV1 :: nonce.val ++ sealed)

/-- The nonce and the box of an envelope, after its length and its version are checked. -/
def envelopeParts (raw : Bytes) : Option (Nonce × Bytes) :=
  if h : raw.length < 1 + nonceBytes + tagBytes then none
  else if raw.head? != some envelopeV1 then none
  else
    have hlen : ((raw.drop 1).take nonceBytes).length = nonceBytes := by
      rw [List.length_take, List.length_drop]
      unfold tagBytes at h
      omega
    some (⟨(raw.drop 1).take nonceBytes, hlen⟩, raw.drop (1 + nonceBytes))

def openBox (lib : Library) (keyMaterial : Text) (nonce : Nonce) (box : Bytes) : Except Exc Bytes := do
  let key ← deriveKey lib keyMaterial
  match lib.aead.decrypt key nonce box with
  | some plain => return plain
  | none => throw (.other "InvalidTag")

/-- The text of an opened box. -/
def readPlain (plain : Bytes) : Except Exc (Option Text) :=
  match decodeUtf8 plain with
  | some s => .ok (some (.ofString s))
  | none => .error (.other "UnicodeDecodeError")

/-- Reverse `encrypt`. All but the last step is inside a `try` or checked before. -/
def decrypt (lib : Library) (envelope keyMaterial : Option Text) : Except Exc (Option Text) :=
  match stated envelope, stated keyMaterial with
  | some envelope, some material =>
    match (b64decode envelope).bind envelopeParts with
    | none => .ok none
    | some (nonce, box) =>
      match openBox lib material nonce box with
      | .error _ => .ok none
      | .ok plain => readPlain plain
  | _, _ => .ok none

/-! ## Envelopes -/

section Envelopes
variable {lib : Library} {nonce : Nonce} {envelope material : Text} {raw box message : Bytes} {key : Key}

theorem b64decode_b64encode (data : Bytes) : b64decode (b64encode data) = some data := by
  have hchars : (b64encode data).chars = some (Base64.encodeChars data) := by
    have h := Text.chars_ofString (String.ofList (Base64.encodeChars data))
    rwa [Text.ofString, String.toList_ofList] at h
  rw [b64decode, hchars, Option.bind_some, Base64.decodeChars_encodeChars]

theorem envelopeParts_iff : envelopeParts raw = some (nonce, box) ↔
    raw = envelopeV1 :: nonce.val ++ box ∧ tagBytes ≤ box.length := by
  have hnonce := nonce.property
  constructor
  · intro h
    unfold envelopeParts at h
    split at h
    · cases h
    · rename_i hlen
      split at h
      · cases h
      · rename_i hversion
        cases Option.some.inj h
        cases raw with
        | nil => simp at hversion
        | cons version rest =>
          simp only [List.head?_cons, bne_iff_ne, ne_eq, Option.some.injEq, not_not] at hversion
          subst hversion
          simp only [List.drop_succ_cons, List.drop_zero, List.cons_append, Nat.add_comm 1, List.take_append_drop,
            true_and, List.length_drop, List.length_cons, nonceBytes, tagBytes] at hlen ⊢
          omega
  · intro h
    obtain ⟨rfl, htag⟩ := h
    have hlen : ¬ (envelopeV1 :: nonce.val ++ box).length < 1 + nonceBytes + tagBytes := by
      rw [List.cons_append, List.length_cons, List.length_append, hnonce]
      omega
    unfold envelopeParts
    rw [dif_neg hlen, if_neg (by simp)]
    apply congrArg some
    apply Prod.ext
    · apply Subtype.ext
      change (nonce.val ++ box).take nonceBytes = nonce.val
      exact List.take_left' hnonce
    · change (envelopeV1 :: nonce.val ++ box).drop (1 + nonceBytes) = box
      rw [Nat.add_comm]
      exact List.drop_left' (congrArg (· + 1) hnonce)

/-- The envelope is a box of the message under the key material. -/
def Seals (lib : Library) (material envelope : Text) (message : Bytes) : Prop :=
  ∃ key nonce, deriveKey lib material = .ok key ∧
    b64decode envelope = some (envelopeV1 :: nonce.val ++ lib.aead.encrypt key nonce message)

theorem openBox_ok_iff : openBox lib material nonce box = .ok message ↔
    ∃ key, deriveKey lib material = .ok key ∧ lib.aead.decrypt key nonce box = some message := by
  unfold openBox
  rw [bind_ok_iff]
  constructor
  · intro h
    obtain ⟨key, hkey, h⟩ := h
    split at h
    · rename_i plain hplain
      cases pure_ok_iff.mp h
      exact ⟨key, hkey, hplain⟩
    · cases h
  · intro h
    obtain ⟨key, hkey, hopen⟩ := h
    refine ⟨key, hkey, ?_⟩
    rw [hopen]
    rfl

/-- White space is in no envelope, so one that is blank is empty. -/
theorem not_blank_of_decode {first : UInt8} {rest : Bytes} (h : b64decode envelope = some (first :: rest)) :
    envelope.blank = false := by
  obtain ⟨cs, hcs, hdecode⟩ := Option.bind_eq_some_iff.mp h
  cases cs with
  | nil => cases hdecode
  | cons c cs =>
    have hspace := Base64.alphabet_not_space (Base64.decodeChars_head hdecode)
    rw [Text.eq_of_chars hcs, Text.ofString, String.toList_ofList, List.map_cons, Text.blank, List.all_cons]
    simp only [hspace, Bool.false_and]

theorem stated_some {s : Text} (h : s.blank = false) : stated (some s) = some s := by
  unfold stated
  rw [Option.filter_some_pos (by simp [h])]

/-- What is sealed is opened, and read if it is a text. -/
theorem decrypt_sealed (hlaw : lib.aead.Lawful) (hblank : material.blank = false)
    (h : Seals lib material envelope message) : decrypt lib (some envelope) (some material) = readPlain message := by
  obtain ⟨key, nonce, hkey, hraw⟩ := h
  have hparts : (b64decode envelope).bind envelopeParts = some (nonce, lib.aead.encrypt key nonce message) := by
    rw [hraw, Option.bind_some, envelopeParts_iff]
    refine ⟨rfl, ?_⟩
    rw [hlaw.tagged]
    omega
  have hopen : openBox lib material nonce (lib.aead.encrypt key nonce message) = .ok message :=
    openBox_ok_iff.mpr ⟨key, hkey, hlaw.decrypt_encrypt key nonce message⟩
  unfold decrypt
  rw [stated_some (not_blank_of_decode hraw), stated_some hblank]
  simp only [hparts, hopen]

/-- Whatever else is given, there is nothing. -/
theorem decrypt_cases (hlaw : lib.aead.Lawful) (envelope material : Text) :
    decrypt lib (some envelope) (some material) = .ok none ∨
      ∃ message, material.blank = false ∧ Seals lib material envelope message := by
  unfold decrypt
  split
  · rename_i found foundMaterial henvelope hmaterial
    obtain ⟨he, _⟩ := Option.filter_eq_some_iff.mp henvelope
    obtain ⟨hm, hblank⟩ := Option.filter_eq_some_iff.mp hmaterial
    cases Option.some.inj he
    cases Option.some.inj hm
    split
    · exact .inl rfl
    · rename_i nonce box hparts
      split
      · exact .inl rfl
      · rename_i plain hopen
        obtain ⟨raw, hraw, hparts⟩ := Option.bind_eq_some_iff.mp hparts
        obtain ⟨rfl, _⟩ := envelopeParts_iff.mp hparts
        obtain ⟨key, hkey, hplain⟩ := openBox_ok_iff.mp hopen
        refine .inr ⟨plain, by simpa using hblank, key, nonce, hkey, ?_⟩
        rw [hraw, hlaw.of_decrypt hplain]
  · exact .inl rfl

/-- A sealed text can be read back when its key material can be encoded. -/
theorem encrypt_seals (nonce : Nonce) (plain : String) (hblank : material.blank = false)
    (hkey : deriveKey lib material = .ok key) :
    ∃ envelope, encrypt lib nonce (some (.ofString plain)) (some material) = .ok envelope ∧
      Seals lib material envelope (encodeUtf8 plain) := by
  have hplain : encoded (.ofString plain) = .ok (encodeUtf8 plain) := by
    unfold encoded Text.encode
    rw [Text.chars_ofString, Option.map_some, String.ofList_toList]
  refine ⟨b64encode (envelopeV1 :: nonce.val ++ lib.aead.encrypt key nonce (encodeUtf8 plain)), ?_, key, nonce, hkey,
    b64decode_b64encode _⟩
  unfold encrypt
  rw [stated_some hblank]
  dsimp only
  rw [hkey, hplain]
  rfl

theorem deriveKey_ok_iff : (∃ key, deriveKey lib material = .ok key) ↔ material.encode ≠ none := by
  unfold deriveKey encoded
  cases material.encode with
  | none => simp [Functor.map, Except.map]
  | some data => simp [Functor.map, Except.map]

theorem readPlain_ok_iff : (∃ result, readPlain message = .ok result) ↔ decodeUtf8 message ≠ none := by
  unfold readPlain
  cases decodeUtf8 message with
  | none => simp
  | some s => simp

end Envelopes

/-! ## What the sealed box promises -/

/-- The sealed box opens to what was put in. -/
def RoundTrips (lib : Library) (nonce : Nonce) (plain : String) (material : Text) : Prop :=
  ∃ envelope, encrypt lib nonce (some (.ofString plain)) (some material) = .ok envelope ∧
    decrypt lib (some envelope) (some material) = .ok (some (.ofString plain))

/-- Opening does not raise, and gives a string only for a version byte, a nonce and a box that opens. -/
structure Opens (lib : Library) (material envelope : Text) : Prop where
  returns : ∃ result, decrypt lib (some envelope) (some material) = .ok result
  sealed : ∀ s, decrypt lib (some envelope) (some material) = .ok (some s) →
    ∃ key nonce box message text, deriveKey lib material = .ok key ∧
      b64decode envelope = some (envelopeV1 :: nonce.val ++ box) ∧ lib.aead.decrypt key nonce box = some message ∧
      decodeUtf8 message = some text ∧ s = .ofString text

/-- The envelope is a box, under that key material, of octets that are no text. -/
def SealsOctets (lib : Library) (material envelope : Text) : Prop :=
  material.blank = false ∧ ∃ message, Seals lib material envelope message ∧ decodeUtf8 message = none

section Promise
variable {lib : Library} {material envelope : Text}

theorem roundTrips_iff (hlaw : lib.aead.Lawful) (nonce : Nonce) (plain : String) (hblank : material.blank = false) :
    RoundTrips lib nonce plain material ↔ material.encode ≠ none := by
  rw [← @deriveKey_ok_iff lib]
  constructor
  · intro h
    obtain ⟨envelope, henvelope, _⟩ := h
    unfold encrypt at henvelope
    rw [stated_some hblank] at henvelope
    obtain ⟨key, hkey, _⟩ := bind_ok_iff.mp henvelope
    exact ⟨key, hkey⟩
  · intro h
    obtain ⟨key, hkey⟩ := h
    obtain ⟨envelope, henvelope, hseals⟩ := encrypt_seals nonce plain hblank hkey
    refine ⟨envelope, henvelope, ?_⟩
    rw [decrypt_sealed hlaw hblank hseals, readPlain, decodeUtf8_encodeUtf8]

theorem opened_sealed (hlaw : lib.aead.Lawful) {s : Text}
    (h : decrypt lib (some envelope) (some material) = .ok (some s)) :
    ∃ key nonce box message text, deriveKey lib material = .ok key ∧
      b64decode envelope = some (envelopeV1 :: nonce.val ++ box) ∧ lib.aead.decrypt key nonce box = some message ∧
      decodeUtf8 message = some text ∧ s = .ofString text := by
  rcases decrypt_cases hlaw envelope material with hnone | ⟨message, hblank, hseals⟩
  · rw [hnone] at h
    cases h
  · rw [decrypt_sealed hlaw hblank hseals, readPlain] at h
    obtain ⟨key, nonce, hkey, hraw⟩ := hseals
    split at h
    · rename_i text htext
      cases h
      exact ⟨key, nonce, _, message, text, hkey, hraw, hlaw.decrypt_encrypt key nonce message, htext, rfl⟩
    · cases h

theorem opens_iff (hlaw : lib.aead.Lawful) : Opens lib material envelope ↔ ¬ SealsOctets lib material envelope := by
  constructor
  · intro h hoctets
    obtain ⟨hblank, message, hseals, hnone⟩ := hoctets
    have hreturns := h.returns
    rw [decrypt_sealed hlaw hblank hseals] at hreturns
    exact readPlain_ok_iff.mp hreturns hnone
  · intro h
    refine ⟨?_, fun s hs => opened_sealed hlaw hs⟩
    rcases decrypt_cases hlaw envelope material with hnone | ⟨message, hblank, hseals⟩
    · exact ⟨none, hnone⟩
    · rw [decrypt_sealed hlaw hblank hseals]
      exact readPlain_ok_iff.mpr (fun hnone => h ⟨hblank, message, hseals, hnone⟩)

/-- The box round trips for key material that can be encoded, and opening is quiet unless another
runtime sealed octets that are no text. -/
theorem sealed_box_iff (lib : Library) (hlaw : lib.aead.Lawful) :
    (∀ nonce plain material, material.blank = false →
        (RoundTrips lib nonce plain material ↔ material.encode ≠ none)) ∧
      ∀ material envelope, Opens lib material envelope ↔ ¬ SealsOctets lib material envelope :=
  ⟨fun nonce plain _ hblank => roundTrips_iff hlaw nonce plain hblank, fun _ _ => opens_iff hlaw⟩

end Promise

/-! ## Boxes of another runtime -/

def salt : Text := .ofString "8f14e45fceea167a5a36dedd4bea2543"

/-- The SHA-256 digest of the salt. -/
def saltKey : Key :=
  ⟨[64, 61, 212, 92, 94, 73, 83, 47, 100, 142, 117, 109, 145, 120, 183, 52,
    103, 167, 65, 68, 74, 50, 29, 46, 7, 85, 235, 222, 25, 172, 133, 35], rfl⟩

def countingNonce : Nonce := ⟨[0, 1, 2, 3, 4, 5, 6, 7, 8, 9, 10, 11], rfl⟩

/-- The first block of the key stream under that key and that nonce. -/
def saltStream (key : Key) (nonce : Nonce) (i : Nat) : UInt8 :=
  if key = saltKey ∧ nonce = countingNonce then
    [216, 159, 1, 45, 59, 248, 102, 135, 131, 72, 155, 111, 221, 6, 37, 34].getD i 0
  else 0

def zeroTag : Tag := ⟨List.replicate 16 0, rfl⟩

/-- The tags over the texts of two boxes, of `abc` and of the octet 0xff. -/
def saltTags : List (Bytes × Tag) :=
  [([185, 253, 98], ⟨[153, 196, 238, 224, 141, 101, 204, 35, 142, 113, 84, 108, 115, 42, 27, 139], rfl⟩),
    ([39], ⟨[105, 179, 43, 16, 39, 85, 242, 172, 92, 192, 227, 56, 83, 37, 246, 151], rfl⟩)]

def saltTag (key : Key) (nonce : Nonce) (text : Bytes) : Tag :=
  if key = saltKey ∧ nonce = countingNonce then (saltTags.lookup text).getD zeroTag else zeroTag

def zeroKey : Key := ⟨List.replicate 32 0, rfl⟩

def saltLibrary : Library where
  aead := .ofStream saltStream saltTag
  sha256 data := if some data = salt.encode then saltKey else zeroKey

/-- The octet 0xff, sealed under the salt. -/
def octetEnvelope : Text := .ofString "AQABAgMEBQYHCAkKCydpsysQJ1XyrFzA4zhTJfaX"

theorem octetEnvelope_seals : Seals saltLibrary salt octetEnvelope [0xff] := by
  refine ⟨saltKey, countingNonce, ?_, ?_⟩
  · decide
  · decide

theorem saltLibrary_lawful : saltLibrary.aead.Lawful := Aead.ofStream_lawful saltStream saltTag

theorem sealed_box_iff_salt :
    (RoundTrips saltLibrary countingNonce "abc" salt ↔ salt.encode ≠ none) ∧
      (Opens saltLibrary salt octetEnvelope ↔ ¬ SealsOctets saltLibrary salt octetEnvelope) := by
  obtain ⟨hround, hopens⟩ := sealed_box_iff saltLibrary saltLibrary_lawful
  exact ⟨hround countingNonce "abc" salt (by decide), hopens salt octetEnvelope⟩

/-- Opening the box of an octet that is no text raises. -/
theorem octet_box_raises :
    saltLibrary.aead.Lawful ∧ ¬ Opens saltLibrary salt octetEnvelope ∧
      decrypt saltLibrary (some octetEnvelope) (some salt) = .error (.other "UnicodeDecodeError") := by
  have hraises : decrypt saltLibrary (some octetEnvelope) (some salt) = .error (.other "UnicodeDecodeError") :=
    decrypt_sealed saltLibrary_lawful (by decide) octetEnvelope_seals
  refine ⟨saltLibrary_lawful, fun h => ?_, hraises⟩
  obtain ⟨result, hresult⟩ := h.returns
  rw [hraises] at hresult
  cases hresult

end BlocksGenesis.Utilities.CryptoService
