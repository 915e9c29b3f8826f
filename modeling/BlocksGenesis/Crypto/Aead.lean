import Mathlib.Data.List.Basic

/-! Authenticated encryption, by what it seals and what it opens. -/

namespace Crypto

abbrev Bytes := List UInt8

def keyBytes : Nat := 32

def nonceBytes : Nat := 12

def tagBytes : Nat := 16

/-- A key of AES-256, as a digest gives one. -/
abbrev Key := { key : Bytes // key.length = keyBytes }

abbrev Nonce := { nonce : Bytes // nonce.length = nonceBytes }

abbrev Tag := { tag : Bytes // tag.length = tagBytes }

/-- A cipher: the box of a message, and the message of a box if it opens. -/
structure Aead where
  encrypt : Key → Nonce → Bytes → Bytes
  decrypt : Key → Nonce → Bytes → Option Bytes

/-- What was sealed opens to what it was, and nothing else opens. A box ends in its tag. -/
structure Aead.Lawful (aead : Aead) : Prop where
  decrypt_encrypt key nonce message : aead.decrypt key nonce (aead.encrypt key nonce message) = some message
  of_decrypt {key nonce box message} : aead.decrypt key nonce box = some message → box = aead.encrypt key nonce message
  tagged key nonce message : (aead.encrypt key nonce message).length = message.length + tagBytes

/-! ## A stream and a tag -/

section Stream
variable (stream : Key → Nonce → Nat → UInt8) (tag : Key → Nonce → Bytes → Tag)

def mask (key : Key) (nonce : Nonce) (data : Bytes) : Bytes := data.mapIdx (fun i b => b ^^^ stream key nonce i)

/-- Counter mode: the message under a key stream, and a tag over what that gives. -/
def Aead.ofStream : Aead where
  encrypt key nonce message := mask stream key nonce message ++ (tag key nonce (mask stream key nonce message)).val
  decrypt key nonce box :=
    let text := box.take (box.length - tagBytes)
    if box = text ++ (tag key nonce text).val then some (mask stream key nonce text) else none

theorem mask_mask (key : Key) (nonce : Nonce) (data : Bytes) :
    mask stream key nonce (mask stream key nonce data) = data := by
  unfold mask
  rw [List.mapIdx_mapIdx]
  apply List.ext_getElem?
  intro i
  have htwice : (fun b => b ^^^ stream key nonce i) ∘ (fun b => b ^^^ stream key nonce i) = id := by
    funext b
    rw [Function.comp_apply, UInt8.xor_assoc, UInt8.xor_self, UInt8.xor_zero, id_eq]
  rw [List.getElem?_mapIdx, htwice, Option.map_id_fun, id_eq]

theorem Aead.ofStream_lawful : (Aead.ofStream stream tag).Lawful where
  decrypt_encrypt key nonce message := by
    have htake : ∀ text : Bytes, (text ++ (tag key nonce text).val).take
        ((text ++ (tag key nonce text).val).length - tagBytes) = text := by
      intro text
      rw [List.length_append, (tag key nonce text).property, Nat.add_sub_cancel, List.take_left]
    dsimp only [Aead.ofStream]
    rw [htake, if_pos rfl, mask_mask]
  of_decrypt {key nonce box message} h := by
    dsimp only [Aead.ofStream] at h ⊢
    split at h
    · rename_i hbox
      rw [← Option.some.inj h, mask_mask]
      exact hbox
    · cases h
  tagged key nonce message := by
    dsimp only [Aead.ofStream]
    rw [List.length_append, (tag key nonce _).property, mask, List.length_mapIdx]

end Stream

end Crypto
