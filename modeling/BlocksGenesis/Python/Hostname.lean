import Mathlib.Data.Bool.AllAny
import BlocksGenesis.Python.Padded
import BlocksGenesis.Python.Url

/-! What the host of a URL can hold, and what white space around the URL does to it. -/

namespace Python.Url

/-- What ends a netloc, ends its user information or is removed from every URL. -/
def partSigns : List Char := ['/', '?', '#', '@', '\t', '\r', '\n']

/-- A text that `urlsplit` takes for a host and a port, or refuses for its one bracket. -/
def Plain (cs : List Char) : Prop := (∀ c ∈ partSigns, c ∉ cs) ∧ ('[' ∉ cs ∨ ']' ∉ cs)

def netlocChars (url : String) : List Char := netlocOf (splitScheme (cleaned url.toList)).2

section Hosts
variable {lib : Library} {lower : String → String} {url host : String} {cs netloc : List Char} {parts : SplitResult}

theorem urlsplit_netloc (h : urlsplit lib url = .ok parts) : parts.netloc = netlocChars url := by
  unfold urlsplit at h
  dsimp only at h
  split at h
  · cases h
  · split at h
    · cases h
    · cases h
      rfl

theorem urlsplit_brackets (h : urlsplit lib url = .ok parts) : '[' ∈ parts.netloc ↔ ']' ∈ parts.netloc := by
  rw [urlsplit_netloc h]
  unfold urlsplit at h
  dsimp only at h
  split at h
  · cases h
  · rename_i hsame
    unfold netlocChars
    simpa using hsame

/-- Whether there is a host, and which, is for the netloc to say. -/
theorem hostname_ok_iff {found : Option String} : hostname lib url = .ok found ↔
    ∃ parts, urlsplit lib url = .ok parts ∧
      (if (hostChars parts.netloc).isEmpty then none else some (lowerHost lib.lower (hostChars parts.netloc))) =
        found := by
  rw [hostname, bind_ok_iff]
  simp only [pure_ok_iff]

theorem hostname_some (h : hostname lib url = .ok (some host)) :
    ∃ parts, urlsplit lib url = .ok parts ∧ host = lowerHost lib.lower (hostChars parts.netloc) := by
  obtain ⟨parts, hparts, hhost⟩ := hostname_ok_iff.mp h
  split at hhost
  · cases hhost
  · exact ⟨parts, hparts, (Option.some.inj hhost).symm⟩

/-! ## What a host holds -/

theorem mem_netlocOf {c : Char} (h : c ∈ netlocOf cs) : c ∈ cs ∧ isDelimiter c = false := by
  unfold netlocOf at h
  split at h
  · refine ⟨List.mem_of_mem_drop ((List.takeWhile_prefix _).subset h), ?_⟩
    simpa using List.mem_takeWhile_imp h
  · cases h

theorem mem_splitScheme {c : Char} (h : c ∈ (splitScheme cs).2) : c ∈ cs := by
  unfold splitScheme at h
  dsimp only at h
  split at h
  · exact List.mem_of_mem_drop h
  · exact h

theorem mem_cleaned {c : Char} (h : c ∈ cleaned cs) : isUnsafe c = false := by
  simpa using (List.mem_filter.mp h).2

theorem netlocChars_signs {c : Char} (h : c ∈ netlocChars url) : isDelimiter c = false ∧ isUnsafe c = false := by
  obtain ⟨hm, hdelimiter⟩ := mem_netlocOf h
  exact ⟨hdelimiter, mem_cleaned (mem_splitScheme hm)⟩

theorem not_mem_rtakeWhile {sign : Char} : sign ∉ cs.rtakeWhile (· != sign) := by
  intro hm
  have hne := List.mem_rtakeWhile_imp hm
  simp at hne

theorem not_mem_takeWhile {sign : Char} : sign ∉ cs.takeWhile (· != sign) := by
  intro hm
  have hne := List.mem_takeWhile_imp hm
  simp at hne

theorem mem_hostChars {c : Char} (h : c ∈ hostChars netloc) : c ∈ hostinfo netloc := by
  unfold hostChars at h
  dsimp only at h
  split at h
  · exact (List.dropWhile_suffix _).subset (List.mem_of_mem_drop ((List.takeWhile_prefix _).subset h))
  · exact (List.takeWhile_prefix _).subset h

theorem hostChars_bracket (netloc : List Char) : '[' ∉ hostChars netloc ∨ ']' ∉ hostChars netloc := by
  by_cases hopen : (hostinfo netloc).contains '['
  · right
    unfold hostChars
    dsimp only
    rw [if_pos hopen]
    exact not_mem_takeWhile
  · left
    intro hm
    exact hopen (List.contains_iff_mem.mpr (mem_hostChars hm))

theorem hostChars_plain (h : urlsplit lib url = .ok parts) : Plain (hostChars parts.netloc) := by
  refine ⟨fun c hsign hm => ?_, hostChars_bracket _⟩
  have hinfo := mem_hostChars hm
  have hnetloc : c ∈ netlocChars url := by
    rw [← urlsplit_netloc h]
    exact (List.rtakeWhile_suffix _ _).subset hinfo
  have hsigns := netlocChars_signs hnetloc
  simp only [partSigns, List.mem_cons, List.not_mem_nil, or_false] at hsign
  rcases hsign with rfl | rfl | rfl | rfl | rfl | rfl | rfl
  · cases hsigns.1
  · cases hsigns.1
  · cases hsigns.1
  · exact not_mem_rtakeWhile hinfo
  · cases hsigns.2
  · cases hsigns.2
  · cases hsigns.2

/-- A host is written with the same signs in lower case. -/
theorem mem_lowerHost {c : Char} (hl : LowersSigns lower) (hascii : c.toNat < 128) (hsign : c.isAlpha = false) :
    c ∈ (lowerHost lower cs).toList ↔ c ∈ cs := by
  have hparts : c ∈ cs ↔ c ∈ cs.takeWhile (· != '%') ∨ c ∈ cs.dropWhile (· != '%') := by
    rw [← List.mem_append, List.takeWhile_append_dropWhile]
  rw [lowerHost, String.toList_append, List.mem_append, hl.signs hascii hsign, String.toList_ofList,
    String.toList_ofList, hparts]

theorem lowerHost_nil (hl : LowersSigns lower) : lowerHost lower [] = "" := by
  rw [lowerHost, List.takeWhile_nil, List.dropWhile_nil, String.ofList_nil, hl.plain (by simp), String.append_empty]

theorem plain_of_signs {text : List Char} (h : Plain cs)
    (hsigns : ∀ {c : Char}, c.toNat < 128 → c.isAlpha = false → c ∈ text → c ∈ cs) : Plain text := by
  obtain ⟨hparts, hbracket⟩ := h
  have hascii : ∀ c ∈ partSigns, c.toNat < 128 ∧ c.isAlpha = false :=
    List.all_iff_forall_prop.mp (by decide)
  constructor
  · intro c hc hm
    exact hparts c hc (hsigns (hascii c hc).1 (hascii c hc).2 hm)
  · rcases hbracket with hopen | hclose
    · exact .inl (fun hm => hopen (hsigns (by decide) (by decide) hm))
    · exact .inr (fun hm => hclose (hsigns (by decide) (by decide) hm))

theorem hostname_plain (hl : LowersSigns lib.lower) (h : hostname lib url = .ok (some host)) : Plain host.toList := by
  obtain ⟨parts, hparts, rfl⟩ := hostname_some h
  exact plain_of_signs (hostChars_plain hparts) (fun hascii hsign hm => (mem_lowerHost hl hascii hsign).mp hm)

/-! ## The host of a text without a scheme -/

theorem splitScheme_of_head {c : Char} (hc : c.isAlpha = false) : splitScheme (c :: cs) = ([], c :: cs) := by
  have hnone : (((c :: cs).takeWhile (· != ':')).head?).any Char.isAlpha = false := by
    rw [List.takeWhile_cons]
    split
    · exact hc
    · rfl
  unfold splitScheme
  dsimp only
  rw [hnone, Bool.and_false, Bool.false_and, if_neg Bool.false_ne_true]

theorem netlocChars_slashes (text : String) : netlocChars ("//" ++ text) =
    (text.toList.filter (fun c => !isUnsafe c)).takeWhile (fun c => !isDelimiter c) := by
  have hcleaned : cleaned ("//" ++ text).toList = '/' :: '/' :: text.toList.filter (fun c => !isUnsafe c) := by
    rw [String.toList_append]
    rfl
  unfold netlocChars
  rw [hcleaned, splitScheme_of_head rfl]
  rfl

/-- The text is the netloc, and all before its port the host, unless it is refused. -/
theorem hostname_slashes {text : String} (h : Plain text.toList) : (∃ e, hostname lib ("//" ++ text) = .error e) ∨
    hostname lib ("//" ++ text) = .ok (if (text.toList.takeWhile (· != ':')).isEmpty then none
      else some (lowerHost lib.lower (text.toList.takeWhile (· != ':')))) := by
  obtain ⟨hsigns, hbracket⟩ := h
  have hfree : ∀ c ∈ text.toList, isUnsafe c = false ∧ isDelimiter c = false ∧ c ≠ '@' := by
    intro c hc
    have hne : ∀ sign ∈ partSigns, c ≠ sign := by
      rintro sign hsign rfl
      exact hsigns c hsign hc
    simp [partSigns] at hne
    simp [isUnsafe, isDelimiter, hne]
  cases hhost : hostname lib ("//" ++ text) with
  | error e => exact .inl ⟨e, rfl⟩
  | ok found =>
    obtain ⟨parts, hparts, hfound⟩ := hostname_ok_iff.mp hhost
    have hnetloc : parts.netloc = text.toList := by
      rw [urlsplit_netloc hparts, netlocChars_slashes, List.filter_eq_self.mpr, List.takeWhile_eq_self_iff.mpr]
      · intro c hc
        rw [(hfree c hc).2.1]
        rfl
      · intro c hc
        rw [(hfree c hc).1]
        rfl
    have hinfo : hostinfo text.toList = text.toList := by
      unfold hostinfo
      apply List.rtakeWhile_eq_self_iff.mpr
      intro c hc
      exact bne_iff_ne.mpr (hfree c hc).2.2
    have hopen : '[' ∉ text.toList := by
      have hboth := urlsplit_brackets hparts
      rw [hnetloc] at hboth
      rcases hbracket with hopen | hclose
      · exact hopen
      · exact fun hm => hclose (hboth.mp hm)
    have hchars : hostChars text.toList = text.toList.takeWhile (· != ':') := by
      unfold hostChars
      dsimp only
      rw [hinfo, if_neg (fun hm => hopen (List.contains_iff_mem.mp hm))]
    rw [hnetloc, hchars] at hfound
    right
    rw [hfound]

end Hosts

/-! ## White space around a URL -/

section Spaces
variable {lib : Library} {lower : String → String} {cs padded finish : List Char} {c : Char}

theorem isSpace_signs (h : isSpace c = true) : c.isAlpha = false ∧ isDelimiter c = false ∧
    ∀ sign ∈ [':', '@', '[', ']', '%'], c ≠ sign := by
  have hcode : c.toNat < 33 ∨ 127 < c.toNat := by
    simp [isSpace] at h
    omega
  have hne : ∀ sign : Char, 32 < sign.toNat → sign.toNat < 128 → c ≠ sign := by
    rintro sign hlow hhigh rfl
    omega
  refine ⟨?_, ?_, fun sign hsign => ?_⟩
  · apply eq_false_of_ne_true
    intro halpha
    have hcapital := isAlpha_iff_toNat.mp halpha
    omega
  · simp [isDelimiter, hne '/' (by decide) (by decide), hne '?' (by decide) (by decide),
      hne '#' (by decide) (by decide)]
  · have hsigns : ∀ sign ∈ [':', '@', '[', ']', '%'], 32 < sign.toNat ∧ sign.toNat < 128 :=
      List.all_iff_forall_prop.mp (by decide)
    exact hne sign (hsigns sign hsign).1 (hsigns sign hsign).2

theorem isSpace_bne {sign : Char} (hsign : sign ∈ [':', '@', '[', ']', '%']) (h : isSpace c = true) :
    (c != sign) = true :=
  bne_iff_ne.mpr ((isSpace_signs h).2.2 sign hsign)

theorem hostChars_padded (h : Padded cs padded) : Padded (hostChars cs) (hostChars padded) := by
  have hinfo : Padded (hostinfo cs) (hostinfo padded) := h.rtakeWhile (fun c => isSpace_bne (by simp))
  have hopen : (hostinfo padded).contains '[' = (hostinfo cs).contains '[' := by
    rw [Bool.eq_iff_iff, List.contains_iff_mem, List.contains_iff_mem, hinfo.mem_iff (by decide)]
  unfold hostChars
  dsimp only
  rw [hopen]
  split
  · exact (hinfo.afterSign (by decide)).takeWhile (fun c => isSpace_bne (by simp))
  · exact hinfo.takeWhile (fun c => isSpace_bne (by simp))

theorem netlocChars_slashes_padded {text url : String} (h : Padded text.toList url.toList) :
    Padded (netlocChars ("//" ++ text)) (netlocChars ("//" ++ url)) := by
  rw [netlocChars_slashes, netlocChars_slashes]
  apply (h.filter _).takeWhile
  intro c hc
  rw [(isSpace_signs hc).2.1]
  rfl

/-- A character the pattern does not take ends the part that is taken, and is in the rest. -/
theorem takeWhile_length_lt {p : Char → Bool} (hc : c ∈ cs) (hp : p c = false) :
    (cs.takeWhile p).length < cs.length := by
  apply Nat.lt_of_le_of_ne (List.takeWhile_prefix p).length_le
  intro hlen
  have hall := List.takeWhile_eq_self_iff.mp ((List.takeWhile_prefix p).eq_of_length hlen)
  rw [hall c hc] at hp
  cases hp

theorem mem_dropWhile {p : Char → Bool} (hc : c ∈ cs) (hp : p c = false) : c ∈ cs.dropWhile p := by
  rw [← List.takeWhile_append_dropWhile (p := p) (l := cs)] at hc
  rcases List.mem_append.mp hc with hm | hm
  · rw [List.mem_takeWhile_imp hm] at hp
    cases hp
  · exact hm

theorem splitScheme_append (h : ':' ∈ cs) :
    splitScheme (cs ++ finish) = ((splitScheme cs).1, (splitScheme cs).2 ++ finish) := by
  have hlt : (cs.takeWhile (· != ':')).length < cs.length := takeWhile_length_lt h rfl
  have hstart : (cs ++ finish).takeWhile (· != ':') = cs.takeWhile (· != ':') := by
    rw [List.takeWhile_append, if_neg (Nat.ne_of_lt hlt)]
  have hlt' : (cs.takeWhile (· != ':')).length < (cs ++ finish).length := by
    rw [List.length_append]
    exact Nat.lt_add_right _ hlt
  unfold splitScheme
  dsimp only
  rw [hstart, decide_eq_true hlt, decide_eq_true hlt', List.drop_append_of_le_length hlt]
  split
  · rfl
  · rfl

theorem netlocOf_append (hfinish : ∀ c ∈ finish, isSpace c = true) : Padded (netlocOf cs) (netlocOf (cs ++ finish)) := by
  have hslash : ∀ c ∈ finish, c ≠ '/' := by
    rintro c hc rfl
    exact absurd (hfinish _ hc) (by decide)
  have hnone : ∀ {rest : List Char}, rest.take 2 ≠ ['/', '/'] → (rest ++ finish).take 2 ≠ ['/', '/'] →
      Padded (netlocOf rest) (netlocOf (rest ++ finish)) := by
    intro rest hrest hpadded
    rw [netlocOf, netlocOf, if_neg hrest, if_neg hpadded]
    exact .refl _
  match cs with
  | [] =>
    apply hnone
    · simp
    · cases finish with
      | nil => simp
      | cons c finish =>
        intro h
        exact hslash c List.mem_cons_self (List.cons.inj h).1
  | [c] =>
    apply hnone
    · simp
    · cases finish with
      | nil => simp
      | cons d finish =>
        intro h
        exact hslash d List.mem_cons_self (List.cons.inj (List.cons.inj h).2).1
  | c :: d :: cs =>
    unfold netlocOf
    by_cases hslashes : [c, d] = ['/', '/']
    · have hpadded : Padded cs (cs ++ finish) := ⟨[], finish, nofun, hfinish, rfl⟩
      rw [List.cons_append, List.cons_append, List.take_succ_cons, List.take_succ_cons, List.take_succ_cons,
        List.take_succ_cons, List.take_zero, List.take_zero, if_pos hslashes, if_pos hslashes]
      apply hpadded.takeWhile
      intro c hc
      rw [(isSpace_signs hc).2.1]
      rfl
    · rw [List.cons_append, List.cons_append, List.take_succ_cons, List.take_succ_cons, List.take_succ_cons,
        List.take_succ_cons, List.take_zero, List.take_zero, if_neg hslashes, if_neg hslashes]
      exact .refl _

/-- White space in front of a URL leaves it without a netloc. -/
theorem netlocOf_of_space (h : isSpace c = true) : netlocOf (splitScheme (c :: cs)).2 = [] := by
  rw [splitScheme_of_head (isSpace_signs h).1, netlocOf, if_neg]
  intro hslashes
  have hslash : c = '/' := (List.cons.inj hslashes).1
  subst hslash
  cases h

/-- What of the white space is not stripped is no tab and no line break, and stays. -/
theorem not_isUnsafe_of_dropWhile {start rest : List Char} (h : start.dropWhile isC0OrSpace = c :: rest) :
    isUnsafe c = false := by
  have hhead := List.head?_dropWhile_not isC0OrSpace start
  rw [h] at hhead
  apply eq_false_of_ne_true
  intro hunsafe
  simp only [isUnsafe, Bool.or_eq_true, beq_iff_eq] at hunsafe
  rcases hunsafe with (rfl | rfl) | rfl
  · cases hhead
  · cases hhead
  · cases hhead

/-- White space that is not stripped from the left of a URL hides its scheme, and its netloc. -/
theorem netlocChars_padded {text url : String} (hcolon : ':' ∈ text.toList) (h : Padded text.toList url.toList) :
    netlocChars url = [] ∨ Padded (netlocChars text) (netlocChars url) := by
  obtain ⟨start, finish, hstart, hfinish, he⟩ := h
  unfold netlocChars cleaned
  rw [he, List.append_assoc, List.dropWhile_append]
  cases hdrop : start.dropWhile isC0OrSpace with
  | nil =>
    right
    have hrest : ':' ∈ text.toList.dropWhile isC0OrSpace := mem_dropWhile hcolon rfl
    have hm : ':' ∈ (text.toList.dropWhile isC0OrSpace).filter (fun c => !isUnsafe c) :=
      List.mem_filter.mpr ⟨hrest, rfl⟩
    have hkept : (text.toList.dropWhile isC0OrSpace).isEmpty = false := by
      rw [List.isEmpty_eq_false_iff]
      exact List.ne_nil_of_mem hrest
    rw [List.isEmpty_nil, if_pos rfl, List.dropWhile_append, hkept, if_neg Bool.false_ne_true, List.filter_append,
      splitScheme_append hm]
    apply netlocOf_append
    intro c hc
    exact hfinish c (List.mem_filter.mp hc).1
  | cons c rest =>
    left
    have hc : isSpace c = true := by
      apply hstart c
      apply (List.dropWhile_suffix isC0OrSpace).subset
      rw [hdrop]
      exact List.mem_cons_self
    rw [List.isEmpty_cons, if_neg Bool.false_ne_true, List.cons_append, List.filter_cons_of_pos]
    · exact netlocOf_of_space hc
    · rw [not_isUnsafe_of_dropWhile hdrop]
      rfl

/-- White space around a host can be stripped before or after the host is lowered. -/
theorem lowerHost_padded (hl : LowersSigns lower) (h : Padded cs padded) :
    strip (lowerHost lower padded) = strip (lowerHost lower cs) := by
  have hstrip : ∀ {x y : String}, Padded x.toList y.toList → strip y = strip x := by
    intro x y hxy
    rw [strip, strip, hxy.strip]
  by_cases hzone : '%' ∈ cs
  · obtain ⟨start, finish, hstart, hfinish, rfl⟩ := h
    have hend : ¬ (cs.takeWhile (· != '%')).length = cs.length := by
      intro hlen
      have hall := List.takeWhile_eq_self_iff.mp ((List.takeWhile_prefix _).eq_of_length hlen)
      exact absurd (hall '%' hzone) (by decide)
    have hkept : (cs.dropWhile (· != '%')).isEmpty = false := by
      apply eq_false_of_ne_true
      intro hempty
      exact absurd (List.dropWhile_eq_nil_iff.mp (List.isEmpty_iff.mp hempty) '%' hzone) (by decide)
    have hbefore : ∀ c ∈ start, (c != '%') = true := fun c hc => isSpace_bne (by simp) (hstart c hc)
    apply hstrip
    rw [lowerHost, lowerHost, List.append_assoc, List.takeWhile_append_of_pos hbefore,
      List.dropWhile_append_of_pos hbefore, List.takeWhile_append, List.dropWhile_append, if_neg hend, hkept,
      if_neg Bool.false_ne_true, String.ofList_append, hl.afterSpace (by simpa using hstart)]
    refine ⟨start, finish, hstart, hfinish, ?_⟩
    simp
  · have hwhole : ∀ {host : List Char}, '%' ∉ host → lowerHost lower host = lower (String.ofList host) := by
      intro host hno
      have hall : ∀ c ∈ host, (c != '%') = true := by
        intro c hc
        apply bne_iff_ne.mpr
        rintro rfl
        exact hno hc
      rw [lowerHost, List.takeWhile_eq_self_iff.mpr hall, List.dropWhile_eq_nil_iff.mpr hall, String.ofList_nil,
        String.append_empty]
    rw [hwhole hzone, hwhole (fun hm => hzone ((h.mem_iff (by decide)).mp hm)), hl.strip, hl.strip, hstrip]
    rw [String.toList_ofList, String.toList_ofList]
    exact h

end Spaces

end Python.Url
