import Mathlib.Data.List.DropRight

namespace Python

/-- The characters `str.strip` and `str.isspace` treat as white space. -/
def isSpace (c : Char) : Bool :=
  let n := c.toNat
  (9 ≤ n && n ≤ 13) || (28 ≤ n && n ≤ 32) || n == 0x85 || n == 0xa0 || n == 0x1680 ||
    (0x2000 ≤ n && n ≤ 0x200a) || n == 0x2028 || n == 0x2029 || n == 0x202f ||
    n == 0x205f || n == 0x3000

def stripChars (p : Char → Bool) (cs : List Char) : List Char :=
  (cs.dropWhile p).rdropWhile p

def strip (s : String) : String := String.ofList (stripChars isSpace s.toList)

/-- `not s.strip()`, the test for a blank string. -/
def blank (s : String) : Bool := (strip s).isEmpty

def startsWith (s start : String) : Bool := start.toList.isPrefixOf s.toList

def dropChars (n : Nat) (s : String) : String := String.ofList (s.toList.drop n)

def isInChars (part : List Char) : List Char → Bool
  | [] => part.isEmpty
  | c :: cs => part.isPrefixOf (c :: cs) || isInChars part cs

/-- `part in s` for two strings. -/
def isIn (part s : String) : Bool := isInChars part.toList s.toList

/-- Cut before every separator, the pieces as lists of characters. -/
def splitChars (sep : Char) : List Char → List (List Char)
  | [] => [[]]
  | c :: cs =>
    if c == sep then [] :: splitChars sep cs
    else match splitChars sep cs with
      | [] => [[c]]
      | piece :: pieces => (c :: piece) :: pieces

/-- `s.split(sep)` for a one-character separator. -/
def split (sep : Char) (s : String) : List String :=
  (splitChars sep s.toList).map String.ofList

/-- `s.partition(sep)[0]`, the text before the first separator. -/
def before (sep : Char) (s : String) : String :=
  String.ofList (s.toList.takeWhile (· != sep))

/-- `s.partition(sep)[2]`, the text after the first separator, empty when there is none. -/
def after (sep : Char) (s : String) : String :=
  String.ofList ((s.toList.dropWhile (· != sep)).drop 1)

/-- Drop every occurrence of a piece from left to right; the counter is what is left of
the occurrence being dropped. -/
def removeChars (piece : List Char) : Nat → List Char → List Char
  | _, [] => []
  | n + 1, _ :: cs => removeChars piece n cs
  | 0, c :: cs =>
    if !piece.isEmpty && piece.isPrefixOf (c :: cs) then removeChars piece (piece.length - 1) cs
    else c :: removeChars piece 0 cs

/-- `s.replace(piece, "")`. -/
def remove (piece s : String) : String := String.ofList (removeChars piece.toList 0 s.toList)

/-- `s.replace(c, piece)` for a one-character `c`. -/
def replaceChar (c : Char) (piece s : String) : String :=
  String.ofList (s.toList.flatMap (fun d => if d == c then piece.toList else [d]))

def decimal (cs : List Char) : Option Nat :=
  if cs.isEmpty || !cs.all Char.isDigit then none else some (Nat.ofDigitChars 10 cs 0)

/-- `int` reads no numeral with more digits. -/
def maxStrDigits : Nat := 4300

/-- An underscore may stand between two digits. -/
def unsignedInt (cs : List Char) : Option Int :=
  let digits := cs.filter (· != '_')
  if (splitChars '_' cs).all (fun piece => (decimal piece).isSome) && digits.length ≤ maxStrDigits then
    (decimal digits).map Int.ofNat
  else none

/-- `int(s)` for digits of ASCII, with none for its `ValueError`. -/
def toInt (s : String) : Option Int :=
  match stripChars isSpace s.toList with
  | '-' :: cs => (unsignedInt cs).map Int.neg
  | '+' :: cs => unsignedInt cs
  | cs => unsignedInt cs

theorem splitChars_of_not_mem {sep : Char} {cs : List Char} (h : sep ∉ cs) : splitChars sep cs = [cs] := by
  induction cs with
  | nil => rfl
  | cons c cs ih =>
    have hc : (c == sep) = false := beq_false_of_ne (fun he => h (he ▸ List.mem_cons_self))
    rw [splitChars, hc, ih (fun hm => h (List.mem_cons_of_mem c hm))]
    rfl

/-- The separator is in no piece. -/
theorem splitChars_pieces {sep : Char} {cs piece : List Char} (h : piece ∈ splitChars sep cs) : sep ∉ piece := by
  induction cs generalizing piece with
  | nil =>
    cases List.mem_singleton.mp h
    exact List.not_mem_nil
  | cons c cs ih =>
    rw [splitChars] at h
    by_cases hc : c = sep
    · rw [if_pos (beq_iff_eq.mpr hc)] at h
      rcases List.mem_cons.mp h with rfl | hm
      · exact List.not_mem_nil
      · exact ih hm
    · have hne : ∀ {first : List Char}, sep ∉ first → sep ∉ c :: first := by
        intro first hfirst hm
        rcases List.mem_cons.mp hm with he | hm
        · exact hc he.symm
        · exact hfirst hm
      rw [if_neg (fun he => hc (beq_iff_eq.mp he))] at h
      split at h
      · cases List.mem_singleton.mp h
        exact hne List.not_mem_nil
      · rename_i first rest he
        rcases List.mem_cons.mp h with rfl | hm
        · exact hne (ih (he ▸ List.mem_cons_self))
        · exact ih (he ▸ List.mem_cons_of_mem first hm)

theorem splitChars_ne_nil (sep : Char) (cs : List Char) : splitChars sep cs ≠ [] := by
  cases cs with
  | nil => exact List.cons_ne_nil _ _
  | cons c cs =>
    unfold splitChars
    split
    · exact List.cons_ne_nil _ _
    · split <;> exact List.cons_ne_nil _ _

/-- Every separator cuts. -/
theorem splitChars_of_mem {sep : Char} {cs : List Char} (h : sep ∈ cs) :
    ∃ first next rest, splitChars sep cs = first :: next :: rest := by
  induction cs with
  | nil => cases h
  | cons c cs ih =>
    unfold splitChars
    by_cases hc : c = sep
    · rw [if_pos (beq_iff_eq.mpr hc)]
      obtain ⟨next, rest, he⟩ := List.exists_cons_of_ne_nil (splitChars_ne_nil sep cs)
      exact ⟨[], next, rest, by rw [he]⟩
    · rw [if_neg (fun he => hc (beq_iff_eq.mp he))]
      have hrest : sep ∈ cs := (List.mem_cons.mp h).resolve_left (fun he => hc he.symm)
      obtain ⟨first, next, rest, he⟩ := ih hrest
      exact ⟨c :: first, next, rest, by rw [he]⟩

theorem split_of_not_mem {sep : Char} {s : String} (h : sep ∉ s.toList) : split sep s = [s] := by
  rw [split, splitChars_of_not_mem h, List.map_singleton, String.ofList_toList]

theorem split_of_mem {sep : Char} {s : String} (h : sep ∈ s.toList) :
    ∃ first next rest, split sep s = first :: next :: rest := by
  obtain ⟨first, next, rest, he⟩ := splitChars_of_mem h
  exact ⟨_, _, _, by rw [split, he, List.map_cons, List.map_cons]⟩

theorem not_mem_of_mem_split {sep : Char} {s piece : String} (h : piece ∈ split sep s) : sep ∉ piece.toList := by
  obtain ⟨cs, hcs, rfl⟩ := List.mem_map.mp h
  rw [String.toList_ofList]
  exact splitChars_pieces hcs

/-- A text that is cut is none of its pieces. -/
theorem ne_of_split {sep : Char} {s first next : String} {rest : List String}
    (h : split sep s = first :: next :: rest) : first ≠ s := by
  rintro rfl
  have hpiece : first ∈ split sep first := h ▸ List.mem_cons_self
  rw [split_of_not_mem (not_mem_of_mem_split hpiece)] at h
  cases h

/-- Two texts cut at their last separator agree in both parts. -/
theorem append_sep_inj {sep : Char} {start last start' last' : List Char} (hlast : sep ∉ last)
    (hlast' : sep ∉ last') (h : start ++ sep :: last = start' ++ sep :: last') : start = start' ∧ last = last' := by
  have hcut : ∀ {gap first second : List Char}, sep ∉ first → sep :: first = gap ++ sep :: second → gap = [] := by
    intro gap first second hfirst he
    cases gap with
    | nil => rfl
    | cons c gap =>
      rw [List.cons_append] at he
      have hm : sep ∈ gap ++ sep :: second := List.mem_append_right _ List.mem_cons_self
      rw [← (List.cons.inj he).2] at hm
      exact absurd hm hfirst
  rcases List.append_eq_append_iff.mp h with ⟨gap, hs, he⟩ | ⟨gap, hs, he⟩
  · have hgap := hcut hlast he
    subst hgap
    rw [List.append_nil] at hs
    exact ⟨hs.symm, (List.cons.inj he).2⟩
  · have hgap := hcut hlast' he
    subst hgap
    rw [List.append_nil] at hs
    exact ⟨hs, (List.cons.inj he).2.symm⟩

@[simp] theorem blank_empty : blank "" = true := by decide

theorem ne_empty_of_not_blank {s : String} (h : blank s = false) : s ≠ "" := by
  rintro rfl
  simp at h

end Python
