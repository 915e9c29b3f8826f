import BlocksGenesis.Python.Dict
import BlocksGenesis.Python.Url
import BlocksGenesis.Python.Utf8

/-! `urllib.parse.unquote` and `parse_qs`, and the part of a URL that is its query. -/

namespace Python.Url

/-! ## Decoding octets -/

def replacement : Char := Char.ofNat 0xfffd

/-- The octets that may go on a character, the bits of it so far and how many octets were taken. -/
def continueChar : List (Nat × Nat) → Nat → Nat → Octets → Char × Nat
  | [], code, taken, _ => (Char.ofNat code, taken)
  | _ :: _, _, taken, [] => (replacement, taken)
  | (low, high) :: ranges, code, taken, octet :: rest =>
    if low ≤ octet.toNat && octet.toNat ≤ high then
      continueChar ranges (code * 64 + (octet.toNat - 0x80)) (taken + 1) rest
    else (replacement, taken)

/-- The first character, and how many octets after its first one it takes. -/
def firstChar (octet : UInt8) (rest : Octets) : Char × Nat :=
  let n := octet.toNat
  let tail := (0x80, 0xbf)
  if n < 0x80 then (Char.ofNat n, 0)
  else if n < 0xc2 then (replacement, 0)
  else if n < 0xe0 then continueChar [tail] (n - 0xc0) 0 rest
  else if n = 0xe0 then continueChar [(0xa0, 0xbf), tail] 0 0 rest
  else if n = 0xed then continueChar [(0x80, 0x9f), tail] 0xd 0 rest
  else if n < 0xf0 then continueChar [tail, tail] (n - 0xe0) 0 rest
  else if n = 0xf0 then continueChar [(0x90, 0xbf), tail, tail] 0 0 rest
  else if n < 0xf4 then continueChar [tail, tail, tail] (n - 0xf0) 0 rest
  else if n = 0xf4 then continueChar [(0x80, 0x8f), tail, tail] 4 0 rest
  else (replacement, 0)

/-- The counter is what is left of the character before. -/
def decodeFrom : Nat → Octets → List Char
  | _, [] => []
  | n + 1, _ :: rest => decodeFrom n rest
  | 0, octet :: rest =>
    let (c, taken) := firstChar octet rest
    c :: decodeFrom taken rest

/-- `data.decode("utf-8", "replace")`. -/
def decodeReplacing (data : Octets) : List Char := decodeFrom 0 data

/-! ## Percent-decoding -/

def hexDigit (c : Char) : Option Nat :=
  if c.isDigit then some (c.toNat - 48)
  else if 'a' ≤ c && c ≤ 'f' then some (c.toNat - 87)
  else if 'A' ≤ c && c ≤ 'F' then some (c.toNat - 55)
  else none

/-- The octet that two digits stand for. -/
def octetOf (a b : Char) : Option UInt8 :=
  match hexDigit a, hexDigit b with
  | some high, some low => some (UInt8.ofNat (16 * high + low))
  | _, _ => none

/-- An octet to decode, or a character that is none of ASCII. -/
inductive Piece where
  | octet (octet : UInt8)
  | char (c : Char)
deriving DecidableEq, Repr

def pieceOf (c : Char) : Piece := if c.toNat < 128 then .octet (UInt8.ofNat c.toNat) else .char c

def pieces : List Char → List Piece
  | '%' :: a :: b :: rest =>
    match octetOf a b with
    | some octet => .octet octet :: pieces rest
    | none => pieceOf '%' :: pieces (a :: b :: rest)
  | c :: rest => pieceOf c :: pieces rest
  | [] => []

/-- Octets in a row are decoded together. -/
def joined : Octets → List Piece → List Char
  | pending, [] => decodeReplacing pending
  | pending, .octet octet :: rest => joined (pending ++ [octet]) rest
  | pending, .char c :: rest => decodeReplacing pending ++ c :: joined [] rest

def unquoteChars (cs : List Char) : List Char := joined [] (pieces cs)

/-- `unquote(string)`. -/
def unquote (s : String) : String := String.ofList (unquoteChars s.toList)

example : unquote "a%2Bb%C3%A9%+é%e9" = "a+bé%+é\ufffd" := by decide +kernel

/-! ## What decoding leaves alone -/

/-- Somewhere a `%` is followed by two hexadecimal digits. -/
def hasEscape : List Char → Bool
  | '%' :: a :: b :: rest => (octetOf a b).isSome || hasEscape (a :: b :: rest)
  | _ :: rest => hasEscape rest
  | [] => false

section Decoding
variable {cs : List Char} {data pending : Octets} {found : List Piece}

theorem length_decodeFrom (n : Nat) (data : Octets) : (decodeFrom n data).length ≤ data.length := by
  induction data generalizing n with
  | nil => cases n <;> exact Nat.le_refl 0
  | cons octet rest ih =>
    cases n with
    | zero => exact Nat.succ_le_succ (ih _)
    | succ n => exact Nat.le_succ_of_le (ih n)

theorem length_decodeReplacing (data : Octets) : (decodeReplacing data).length ≤ data.length :=
  length_decodeFrom 0 data

theorem decodeReplacing_ne_nil (h : data ≠ []) : decodeReplacing data ≠ [] := by
  cases data with
  | nil => exact absurd rfl h
  | cons octet rest => exact List.cons_ne_nil _ _

def asciiOctets (cs : List Char) : Octets := cs.map (fun c => UInt8.ofNat c.toNat)

theorem firstChar_ascii {c : Char} (h : c.toNat < 128) (rest : Octets) :
    firstChar (UInt8.ofNat c.toNat) rest = (c, 0) := by
  have hcode : (UInt8.ofNat c.toNat).toNat = c.toNat := by
    rw [UInt8.toNat_ofNat']
    omega
  simp [firstChar, hcode, h]

theorem decodeReplacing_ascii (h : ∀ c ∈ cs, c.toNat < 128) : decodeReplacing (asciiOctets cs) = cs := by
  induction cs with
  | nil => rfl
  | cons c cs ih =>
    have hrest := ih (fun d hd => h d (List.mem_cons_of_mem _ hd))
    change (let (d, taken) := firstChar (UInt8.ofNat c.toNat) (asciiOctets cs)
      d :: decodeFrom taken (asciiOctets cs)) = c :: cs
    rw [firstChar_ascii (h c List.mem_cons_self)]
    exact congrArg (c :: ·) hrest

theorem length_joined (pending : Octets) (found : List Piece) :
    (joined pending found).length ≤ pending.length + found.length := by
  induction found generalizing pending with
  | nil => exact length_decodeReplacing pending
  | cons piece rest ih =>
    cases piece with
    | octet octet =>
      have hrest := ih (pending ++ [octet])
      simp only [List.length_append, List.length_cons, List.length_nil] at hrest
      simp only [joined, List.length_cons]
      omega
    | char c =>
      have hrest := ih []
      have hdecoded := length_decodeReplacing pending
      simp only [List.length_nil] at hrest
      simp only [joined, List.length_append, List.length_cons]
      omega

theorem joined_ne_nil (h : pending ≠ [] ∨ found ≠ []) : joined pending found ≠ [] := by
  induction found generalizing pending with
  | nil => exact decodeReplacing_ne_nil (h.resolve_right (fun hne => hne rfl))
  | cons piece rest ih =>
    cases piece with
    | octet octet => exact ih (.inl (by simp))
    | char c => simp [joined]

/-- The octets of ASCII that are pending come first. -/
theorem joined_plain {start : List Char} (h : ∀ c ∈ start, c.toNat < 128) (cs : List Char) :
    joined (asciiOctets start) (cs.map pieceOf) = start ++ cs := by
  induction cs generalizing start with
  | nil =>
    rw [List.append_nil]
    exact decodeReplacing_ascii h
  | cons c cs ih =>
    by_cases hc : c.toNat < 128
    · have hall : ∀ d ∈ start ++ [c], d.toNat < 128 := by
        intro d hd
        rcases List.mem_append.mp hd with hstart | hlast
        · exact h d hstart
        · rw [List.mem_singleton.mp hlast]
          exact hc
      have hpending : asciiOctets start ++ [UInt8.ofNat c.toNat] = asciiOctets (start ++ [c]) := by
        simp [asciiOctets]
      simp only [List.map_cons, pieceOf, if_pos hc, joined, hpending]
      rw [ih hall, List.append_assoc]
      rfl
    · simp only [List.map_cons, pieceOf, if_neg hc, joined]
      rw [decodeReplacing_ascii h]
      congr 2
      have hnone : ∀ d ∈ ([] : List Char), d.toNat < 128 := fun _ hd => nomatch hd
      exact ih hnone

theorem pieces_plain (h : hasEscape cs = false) : pieces cs = cs.map pieceOf := by
  induction cs using pieces.induct with
  | case1 a b rest octet he ih => simp [hasEscape, he] at h
  | case2 a b rest he ih =>
    simp only [hasEscape, he, Option.isSome_none, Bool.false_or] at h
    rw [pieces, he, ih h]
    rfl
  | case3 c rest hnot ih =>
    rw [pieces, List.map_cons, ih]
    · rw [hasEscape] at h
      · exact h
      · exact hnot
    · exact hnot
  | case4 => rfl

theorem length_pieces (cs : List Char) : (pieces cs).length ≤ cs.length := by
  induction cs using pieces.induct with
  | case1 a b rest octet he ih =>
    rw [pieces, he]
    simp only [List.length_cons]
    omega
  | case2 a b rest he ih =>
    rw [pieces, he]
    simpa only [List.length_cons, Nat.add_le_add_iff_right] using ih
  | case3 c rest hnot ih =>
    rw [pieces]
    · simpa only [List.length_cons, Nat.add_le_add_iff_right] using ih
    · exact hnot
  | case4 => exact Nat.le_refl 0

theorem length_pieces_lt (h : hasEscape cs = true) : (pieces cs).length < cs.length := by
  induction cs using pieces.induct with
  | case1 a b rest octet he ih =>
    have hrest := length_pieces rest
    rw [pieces, he]
    simp only [List.length_cons]
    omega
  | case2 a b rest he ih =>
    simp only [hasEscape, he, Option.isSome_none, Bool.false_or] at h
    rw [pieces, he]
    exact Nat.succ_lt_succ (ih h)
  | case3 c rest hnot ih =>
    rw [hasEscape] at h
    · rw [pieces]
      · exact Nat.succ_lt_succ (ih h)
      · exact hnot
    · exact hnot
  | case4 => cases h

theorem length_unquoteChars (cs : List Char) : (unquoteChars cs).length ≤ cs.length := by
  have hjoined := length_joined [] (pieces cs)
  have hpieces := length_pieces cs
  simp only [List.length_nil, Nat.zero_add] at hjoined
  exact Nat.le_trans hjoined hpieces

theorem length_unquoteChars_lt (h : hasEscape cs = true) : (unquoteChars cs).length < cs.length := by
  have hjoined := length_joined [] (pieces cs)
  simp only [List.length_nil, Nat.zero_add] at hjoined
  exact Nat.lt_of_le_of_lt hjoined (length_pieces_lt h)

theorem unquoteChars_plain (h : hasEscape cs = false) : unquoteChars cs = cs := by
  have hnone : ∀ d ∈ ([] : List Char), d.toNat < 128 := fun _ hd => nomatch hd
  rw [unquoteChars, pieces_plain h]
  exact joined_plain hnone cs

theorem unquoteChars_ne_nil (h : cs ≠ []) : unquoteChars cs ≠ [] := by
  apply joined_ne_nil
  right
  cases cs with
  | nil => exact absurd rfl h
  | cons c cs =>
    unfold pieces
    split
    · split <;> exact List.cons_ne_nil _ _
    · exact List.cons_ne_nil _ _
    · rename_i he
      cases he

end Decoding

/-! ## Queries -/

/-- The path, and the query with the fragment cut off. -/
def pathAndQuery (rest : List Char) : List Char × List Char :=
  let target := if rest.take 2 = ['/', '/'] then (rest.drop 2).dropWhile (fun c => !isDelimiter c) else rest
  let target := target.takeWhile (· != '#')
  (target.takeWhile (· != '?'), (target.dropWhile (· != '?')).drop 1)

def plusToSpace (cs : List Char) : List Char := cs.map (fun c => if c = '+' then ' ' else c)

/-- `name=value`, where a field without a value is passed over. -/
def parseField (field : List Char) : Option (String × String) :=
  let value := (field.dropWhile (· != '=')).drop 1
  if value.isEmpty then none
  else some (String.ofList (unquoteChars (plusToSpace (field.takeWhile (· != '=')))),
    String.ofList (unquoteChars (plusToSpace value)))

/-- `parse_qs(query)`. -/
def parseQs (query : List Char) : Dict String (List String) :=
  ((splitChars '&' query).filterMap parseField).foldl
    (fun found field => found.set field.1 ((found.lookup field.1).getD [] ++ [field.2])) []

section Queries
variable {cs piece first : List Char} {more : List (List Char)} {sep : Char}

theorem length_plusToSpace (cs : List Char) : (plusToSpace cs).length = cs.length := List.length_map _

theorem plusToSpace_eq_self_iff : plusToSpace cs = cs ↔ '+' ∉ cs := by
  induction cs with
  | nil => simp [plusToSpace]
  | cons c cs ih =>
    by_cases hc : c = '+'
    · simp [plusToSpace, hc]
    · have hne : '+' ≠ c := fun he => hc he.symm
      simp only [plusToSpace] at ih
      simp [plusToSpace, hc, hne, ih]

theorem octetOf_plusToSpace (a b : Char) :
    octetOf (if a = '+' then ' ' else a) (if b = '+' then ' ' else b) = octetOf a b := by
  have hdigit : ∀ c : Char, hexDigit (if c = '+' then ' ' else c) = hexDigit c := by
    intro c
    split
    · rename_i hc
      subst hc
      decide
    · rfl
  unfold octetOf
  rw [hdigit, hdigit]

theorem hasEscape_plusToSpace (cs : List Char) : hasEscape (plusToSpace cs) = hasEscape cs := by
  induction cs using hasEscape.induct with
  | case1 a b rest ih =>
    simp only [plusToSpace, List.map_cons] at ih ⊢
    change (octetOf _ _).isSome.or _ = _
    rw [octetOf_plusToSpace, ih]
    rfl
  | case2 c rest hnot ih =>
    have hmapped : plusToSpace (c :: rest) = (if c = '+' then ' ' else c) :: plusToSpace rest := rfl
    rw [hmapped, hasEscape, hasEscape, ih]
    · exact hnot
    · intro a b tail hc hrest
      cases rest with
      | nil => cases hrest
      | cons d rest =>
        cases rest with
        | nil => cases hrest
        | cons e rest =>
          apply hnot d e rest _ rfl
          by_cases hplus : c = '+'
          · rw [if_pos hplus] at hc
            exact absurd hc (by decide)
          · rwa [if_neg hplus] at hc
  | case3 => rfl

theorem hasEscape_of_not_mem (h : '%' ∉ cs) : hasEscape cs = false := by
  induction cs using hasEscape.induct with
  | case1 a b rest ih => exact absurd List.mem_cons_self h
  | case2 c rest hnot ih =>
    rw [hasEscape]
    · exact ih (fun hm => h (List.mem_cons_of_mem _ hm))
    · exact hnot
  | case3 => rfl

/-- What is read of a value in a query that is decoded once more. -/
def readValue (cs : List Char) : List Char :=
  unquoteChars (unquoteChars (plusToSpace (cs.filter (fun c => !isUnsafe c))))

/-- It is read as it is written if nothing in it is removed, stands for a space or is an escape. -/
theorem readValue_eq_self_iff : readValue cs = cs ↔
    (∀ c ∈ cs, isUnsafe c = false) ∧ '+' ∉ cs ∧ hasEscape cs = false := by
  have hkept : (∀ c ∈ cs, isUnsafe c = false) ↔ cs.filter (fun c => !isUnsafe c) = cs := by
    rw [List.filter_eq_self]
    simp only [Bool.not_eq_true']
  constructor
  · intro h
    -- No step of the reading makes the text longer, so none may make it shorter.
    have hlength := congrArg List.length h
    have hsecond := length_unquoteChars (unquoteChars (plusToSpace (cs.filter (fun c => !isUnsafe c))))
    have hfirst := length_unquoteChars (plusToSpace (cs.filter (fun c => !isUnsafe c)))
    have hfilter := List.length_filter_le (fun c => !isUnsafe c) cs
    rw [length_plusToSpace] at hfirst
    unfold readValue at hlength
    have hall : cs.filter (fun c => !isUnsafe c) = cs := by
      apply List.filter_sublist.eq_of_length
      omega
    have hplain : hasEscape cs = false := by
      by_contra hescape
      rw [Bool.not_eq_false] at hescape
      have hshort : hasEscape (plusToSpace (cs.filter (fun c => !isUnsafe c))) = true := by
        rw [hall, hasEscape_plusToSpace, hescape]
      have hlt := length_unquoteChars_lt hshort
      rw [length_plusToSpace] at hlt
      omega
    refine ⟨hkept.mpr hall, ?_, hplain⟩
    apply plusToSpace_eq_self_iff.mp
    have hmapped : hasEscape (plusToSpace cs) = false := by rw [hasEscape_plusToSpace, hplain]
    rwa [readValue, hall, unquoteChars_plain hmapped, unquoteChars_plain hmapped] at h
  · rintro ⟨hsafe, hplus, hplain⟩
    rw [readValue, hkept.mp hsafe, plusToSpace_eq_self_iff.mpr hplus, unquoteChars_plain hplain,
      unquoteChars_plain hplain]

/-- The cuts of texts put one after the other with a separator before each. -/
theorem splitChars_flatMap (hfirst : sep ∉ first) (hmore : ∀ piece ∈ more, sep ∉ piece) :
    splitChars sep (first ++ more.flatMap (sep :: ·)) = first :: more := by
  induction more generalizing first with
  | nil => rw [List.flatMap_nil, List.append_nil, splitChars_of_not_mem hfirst]
  | cons next more ih =>
    have hrest := ih (hmore next List.mem_cons_self) (fun piece hp => hmore piece (List.mem_cons_of_mem _ hp))
    induction first with
    | nil =>
      change splitChars sep (sep :: (next ++ more.flatMap (sep :: ·))) = _
      rw [splitChars, if_pos (beq_self_eq_true sep), hrest]
    | cons c first ihfirst =>
      have hc : (c == sep) = false := beq_eq_false_iff_ne.mpr (fun he => hfirst (he ▸ List.mem_cons_self))
      change splitChars sep (c :: (first ++ (next :: more).flatMap (sep :: ·))) = _
      rw [splitChars, hc, ihfirst (fun hm => hfirst (List.mem_cons_of_mem _ hm))]
      rfl

theorem parseField_eq {name value : List Char} (hname : '=' ∉ name) : parseField (name ++ '=' :: value) =
    if value.isEmpty then none
    else some (String.ofList (unquoteChars (plusToSpace name)), String.ofList (unquoteChars (plusToSpace value))) := by
  have hall : ∀ c ∈ name, (c != '=') = true := by
    intro c hc
    exact bne_iff_ne.mpr (fun he => hname (he ▸ hc))
  have hstart : (name ++ '=' :: value).takeWhile (· != '=') = name := by
    rw [List.takeWhile_append_of_pos hall, List.takeWhile_cons]
    simp
  have hrest : (name ++ '=' :: value).dropWhile (· != '=') = '=' :: value := by
    rw [List.dropWhile_append_of_pos hall, List.dropWhile_cons]
    simp
  unfold parseField
  rw [hstart, hrest]
  rfl

end Queries

/-! ## The first value of a name -/

section Values
variable {fields : List (String × String)} {name : String} {found : Dict String (List String)}

def addField (found : Dict String (List String)) (field : String × String) : Dict String (List String) :=
  found.set field.1 ((found.lookup field.1).getD [] ++ [field.2])

/-- What the fields of a query leave: each name once, with a value at least. -/
structure Collected (found : Dict String (List String)) : Prop where
  keys : (found.map Prod.fst).Nodup
  values : ∀ name values, found.lookup name = some values → values ≠ []

theorem Collected.addField (h : Collected found) (field : String × String) : Collected (addField found field) where
  keys := Dict.nodup_set h.keys _ _
  values name values hvalues := by
    rcases Dict.lookup_of_set hvalues with ⟨_, rfl⟩ | ⟨_, hold⟩
    · simp
    · exact h.values name values hold

theorem collected_foldl (h : Collected found) (fields : List (String × String)) :
    Collected (fields.foldl addField found) := by
  induction fields generalizing found with
  | nil => exact h
  | cons field fields ih => exact ih (h.addField field)

/-- A field goes behind those of its name. -/
theorem first_addField (h : Collected found) (field : String × String) :
    ((addField found field).lookup name).map (fun values => values.headD "") =
      ((found.lookup name).map (fun values => values.headD "")).or
        (if name = field.1 then some field.2 else none) := by
  by_cases hname : name = field.1
  · subst hname
    rw [addField, Dict.lookup_set_self, if_pos rfl]
    cases hvalues : found.lookup field.1 with
    | none => rfl
    | some values =>
      obtain ⟨first, rest, rfl⟩ := List.exists_cons_of_ne_nil (h.values _ values hvalues)
      rfl
  · rw [addField, Dict.lookup_set_of_ne hname, if_neg hname, Option.or_none]

theorem first_foldl (h : Collected found) (fields : List (String × String)) :
    ((fields.foldl addField found).lookup name).map (fun values => values.headD "") =
      ((found.lookup name).map (fun values => values.headD "")).or (fields.lookup name) := by
  induction fields generalizing found with
  | nil => rw [List.foldl_nil, List.lookup_nil, Option.or_none]
  | cons field fields ih =>
    rw [List.foldl_cons, ih (h.addField field), first_addField h, Option.or_assoc, List.lookup_cons]
    by_cases hname : name = field.1
    · simp [hname]
    · rw [if_neg hname, Option.none_or, beq_eq_false_iff_ne.mpr hname]

theorem collected_nil : Collected [] where
  keys := List.nodup_nil
  values _ _ h := nomatch h

theorem collected_parseQs (query : List Char) : Collected (parseQs query) :=
  collected_foldl collected_nil _

theorem first_parseQs (query : List Char) (name : String) :
    ((parseQs query).lookup name).map (fun values => values.headD "") =
      ((splitChars '&' query).filterMap parseField).lookup name :=
  first_foldl collected_nil _

end Values

end Python.Url
