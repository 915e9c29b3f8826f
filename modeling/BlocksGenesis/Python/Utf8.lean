import BlocksGenesis.Python.Value

/-! `str.encode` and `bytes.decode` for UTF-8. -/

namespace Python

abbrev Octets := List UInt8

def encodeUtf8 (s : String) : Octets := s.toUTF8.data.toList

/-- `data.decode("utf-8")`, none where it raises `UnicodeDecodeError`. -/
def decodeUtf8 (data : Octets) : Option String := String.fromUTF8? ⟨data.toArray⟩

@[simp] theorem decodeUtf8_encodeUtf8 (s : String) : decodeUtf8 (encodeUtf8 s) = some s := by
  unfold decodeUtf8 encodeUtf8
  rw [Array.toArray_toList]
  exact dif_pos s.isValidUTF8

example : decodeUtf8 [0xff] = none := rfl

/-! ## Any string -/

/-- A code point of a string: a character, or a surrogate by itself, which UTF-8 has no octets for. -/
inductive CodePoint where
  | char (c : Char)
  | surrogate (n : Fin 2048)
deriving DecidableEq

/-- A string with whatever code points it has. -/
abbrev Text := List CodePoint

namespace Text

def ofString (s : String) : Text := s.toList.map .char

/-- The characters of a string without surrogates. -/
def chars : Text → Option (List Char)
  | [] => some []
  | .char c :: rest => (chars rest).map (c :: ·)
  | .surrogate _ :: _ => none

/-- `s.encode("utf-8")`, none where it raises `UnicodeEncodeError`. -/
def encode (s : Text) : Option Octets := s.chars.map (fun cs => encodeUtf8 (String.ofList cs))

/-- `not s.strip()`. -/
def blank (s : Text) : Bool :=
  s.all (fun p => match p with
    | .char c => isSpace c
    | .surrogate _ => false)

@[simp] theorem chars_ofString (s : String) : (ofString s).chars = some s.toList := by
  unfold ofString
  induction s.toList with
  | nil => rfl
  | cons c cs ih => rw [List.map_cons, chars, ih, Option.map_some]

theorem eq_of_chars {s : Text} {cs : List Char} (h : s.chars = some cs) : s = ofString (String.ofList cs) := by
  unfold ofString
  rw [String.toList_ofList]
  induction s generalizing cs with
  | nil =>
    cases h
    rfl
  | cons p rest ih =>
    cases p with
    | surrogate n => cases h
    | char c =>
      obtain ⟨more, hmore, rfl⟩ := Option.map_eq_some_iff.mp h
      rw [List.map_cons, ← ih hmore]

end Text

end Python
