import BlocksGenesis.Python.Lower

/-! White space around a text, and what it does to the parts that are cut out of it. -/

namespace Python

/-- A text and the same with white space around it. -/
def Padded (cs padded : List Char) : Prop :=
  ∃ start finish, (∀ c ∈ start, isSpace c = true) ∧ (∀ c ∈ finish, isSpace c = true) ∧ padded = start ++ cs ++ finish

section Parts
variable {cs padded part : List Char} {p : Char → Bool}

theorem Padded.refl (cs : List Char) : Padded cs cs :=
  ⟨[], [], nofun, nofun, (List.append_nil cs).symm⟩

/-- What is stripped from a text is put around it again. -/
theorem padded_strip (cs : List Char) : Padded (stripChars isSpace cs) cs := by
  refine ⟨cs.takeWhile isSpace, (cs.dropWhile isSpace).rtakeWhile isSpace, ?_, ?_, ?_⟩
  · intro c hc
    exact List.mem_takeWhile_imp hc
  · intro c hc
    exact List.mem_rtakeWhile_imp hc
  · rw [stripChars, List.append_assoc, List.rdropWhile_append_rtakeWhile, List.takeWhile_append_dropWhile]

theorem Padded.reverse (h : Padded cs padded) : Padded cs.reverse padded.reverse := by
  obtain ⟨start, finish, hstart, hfinish, rfl⟩ := h
  refine ⟨finish.reverse, start.reverse, ?_, ?_, by simp⟩
  · intro c hc
    exact hfinish c (List.mem_reverse.mp hc)
  · intro c hc
    exact hstart c (List.mem_reverse.mp hc)

theorem Padded.mem_iff {c : Char} (h : Padded cs padded) (hc : isSpace c = false) : c ∈ padded ↔ c ∈ cs := by
  obtain ⟨start, finish, hstart, hfinish, rfl⟩ := h
  have hnot : ∀ {space : List Char}, (∀ c ∈ space, isSpace c = true) → c ∉ space := by
    intro space hspace hm
    rw [hspace c hm] at hc
    cases hc
  rw [List.mem_append, List.mem_append]
  constructor
  · intro hm
    rcases hm with (hm | hm) | hm
    · exact absurd hm (hnot hstart)
    · exact hm
    · exact absurd hm (hnot hfinish)
  · intro hm
    exact .inl (.inr hm)

theorem Padded.filter (p : Char → Bool) (h : Padded cs padded) : Padded (cs.filter p) (padded.filter p) := by
  obtain ⟨start, finish, hstart, hfinish, rfl⟩ := h
  refine ⟨start.filter p, finish.filter p, ?_, ?_, by simp⟩
  · intro c hc
    exact hstart c (List.mem_filter.mp hc).1
  · intro c hc
    exact hfinish c (List.mem_filter.mp hc).1

/-- Where white space does not end the part that is taken. -/
theorem Padded.takeWhile (hp : ∀ c, isSpace c = true → p c = true) (h : Padded cs padded) :
    Padded (cs.takeWhile p) (padded.takeWhile p) := by
  obtain ⟨start, finish, hstart, hfinish, rfl⟩ := h
  have hfinished : finish.takeWhile p = finish := List.takeWhile_eq_self_iff.mpr (fun c hc => hp c (hfinish c hc))
  rw [List.append_assoc, List.takeWhile_append_of_pos (fun c hc => hp c (hstart c hc)), List.takeWhile_append]
  split
  · rename_i hall
    rw [hfinished, (List.takeWhile_prefix p).eq_of_length hall]
    exact ⟨start, finish, hstart, hfinish, (List.append_assoc _ _ _).symm⟩
  · exact ⟨start, [], hstart, nofun, (List.append_nil _).symm⟩

theorem Padded.rtakeWhile (hp : ∀ c, isSpace c = true → p c = true) (h : Padded cs padded) :
    Padded (cs.rtakeWhile p) (padded.rtakeWhile p) :=
  (h.reverse.takeWhile hp).reverse

/-- What follows the first sign. -/
theorem Padded.afterSign {sign : Char} (hsign : isSpace sign = false) (h : Padded cs padded) :
    Padded ((cs.dropWhile (· != sign)).drop 1) ((padded.dropWhile (· != sign)).drop 1) := by
  obtain ⟨start, finish, hstart, hfinish, rfl⟩ := h
  have hp : ∀ {space : List Char}, (∀ c ∈ space, isSpace c = true) → ∀ c ∈ space, (c != sign) = true := by
    intro space hspace c hc
    apply bne_iff_ne.mpr
    rintro rfl
    rw [hspace _ hc] at hsign
    cases hsign
  rw [List.append_assoc, List.dropWhile_append_of_pos (hp hstart), List.dropWhile_append]
  cases hdrop : cs.dropWhile (· != sign) with
  | nil =>
    rw [List.isEmpty_nil, if_pos rfl, List.dropWhile_eq_nil_iff.mpr (hp hfinish)]
    exact .refl _
  | cons c rest => exact ⟨[], finish, nofun, hfinish, rfl⟩

theorem Padded.strip (h : Padded cs padded) : stripChars isSpace padded = stripChars isSpace cs := by
  obtain ⟨start, finish, hstart, hfinish, rfl⟩ := h
  unfold stripChars
  rw [List.append_assoc, List.dropWhile_append_of_pos hstart, List.dropWhile_append]
  split
  · rename_i hnil
    rw [List.isEmpty_iff.mp hnil, List.dropWhile_eq_nil_iff.mpr hfinish]
  · rw [List.rdropWhile, List.reverse_append,
      List.dropWhile_append_of_pos (fun c hc => hfinish c (List.mem_reverse.mp hc)), ← List.rdropWhile]

theorem isInChars_iff : isInChars part cs = true ↔ part <:+: cs := by
  induction cs with
  | nil => rw [isInChars, List.isEmpty_iff, List.infix_nil]
  | cons c cs ih => rw [isInChars, Bool.or_eq_true, List.isPrefixOf_iff_prefix, ih, List.infix_cons_iff]

theorem isIn_false {s t : String} {c : Char} (hs : c ∈ s.toList) (ht : c ∉ t.toList) : isIn s t = false := by
  apply eq_false_of_ne_true
  intro h
  exact ht ((isInChars_iff.mp h).subset hs)

/-- A part that begins with no white space is not found any earlier. -/
theorem infix_append_space {start : List Char} (hhead : ∃ c, part.head? = some c ∧ isSpace c = false)
    (hstart : ∀ c ∈ start, isSpace c = true) : part <:+: start ++ cs ↔ part <:+: cs := by
  induction start with
  | nil => rfl
  | cons space start ih =>
    rw [List.cons_append, List.infix_cons_iff, ih (fun c hc => hstart c (List.mem_cons_of_mem _ hc))]
    apply or_iff_right
    intro hprefix
    obtain ⟨c, hc, hno⟩ := hhead
    obtain ⟨rest, he⟩ := hprefix
    cases part with
    | nil => cases hc
    | cons first part =>
      cases hc
      have hspace := hstart space List.mem_cons_self
      rw [← (List.cons.inj he).1, hno] at hspace
      cases hspace

/-- A part without white space is where it was. -/
theorem Padded.isInChars (hpart : part ≠ []) (hno : ∀ c ∈ part, isSpace c = false) (h : Padded cs padded) :
    isInChars part padded = isInChars part cs := by
  obtain ⟨start, finish, hstart, hfinish, rfl⟩ := h
  have hhead : ∃ c, part.head? = some c ∧ isSpace c = false :=
    ⟨part.head hpart, List.head?_eq_some_head hpart, hno _ (List.head_mem hpart)⟩
  have hlast : ∃ c, part.reverse.head? = some c ∧ isSpace c = false := by
    refine ⟨part.getLast hpart, ?_, hno _ (List.getLast_mem hpart)⟩
    rw [List.head?_reverse, List.getLast?_eq_some_getLast hpart]
  rw [Bool.eq_iff_iff, isInChars_iff, isInChars_iff, List.append_assoc, infix_append_space hhead hstart,
    ← List.reverse_infix, List.reverse_append,
    infix_append_space hlast (fun c hc => hfinish c (List.mem_reverse.mp hc)), List.reverse_infix]

end Parts

/-! ## What stays of a text that has none of a piece's signs -/

theorem removeChars_of_not_mem {piece cs : List Char} {c : Char} (hp : c ∈ piece) (hc : c ∉ cs) :
    removeChars piece 0 cs = cs := by
  induction cs with
  | nil => rfl
  | cons d cs ih =>
    have hprefix : piece.isPrefixOf (d :: cs) = false := by
      apply eq_false_of_ne_true
      intro h
      exact hc ((List.isPrefixOf_iff_prefix.mp h).subset hp)
    rw [removeChars, hprefix, Bool.and_false, if_neg Bool.false_ne_true,
      ih (fun hm => hc (List.mem_cons_of_mem d hm))]

theorem remove_of_not_mem {piece s : String} {c : Char} (hp : c ∈ piece.toList) (hc : c ∉ s.toList) :
    remove piece s = s := by
  rw [remove, removeChars_of_not_mem hp hc, String.ofList_toList]

theorem before_of_not_mem {sep : Char} {s : String} (h : sep ∉ s.toList) : before sep s = s := by
  rw [before, List.takeWhile_eq_self_iff.mpr, String.ofList_toList]
  intro c hc
  apply bne_iff_ne.mpr
  rintro rfl
  exact h hc

theorem not_mem_before (sep : Char) (s : String) : sep ∉ (before sep s).toList := by
  rw [before, String.toList_ofList]
  intro hm
  have hne := List.mem_takeWhile_imp hm
  simp at hne

theorem mem_of_mem_before {sep c : Char} {s : String} (h : c ∈ (before sep s).toList) : c ∈ s.toList := by
  rw [before, String.toList_ofList] at h
  exact (List.takeWhile_prefix _).subset h

theorem mem_strip_iff {c : Char} {s : String} (hc : isSpace c = false) : c ∈ (strip s).toList ↔ c ∈ s.toList := by
  rw [strip, String.toList_ofList]
  exact ((padded_strip s.toList).mem_iff hc).symm

theorem mem_of_mem_strip {c : Char} {s : String} (h : c ∈ (strip s).toList) : c ∈ s.toList := by
  rw [strip, String.toList_ofList] at h
  obtain ⟨start, finish, _, _, he⟩ := padded_strip s.toList
  rw [he]
  exact List.mem_append_left _ (List.mem_append_right _ h)

end Python
