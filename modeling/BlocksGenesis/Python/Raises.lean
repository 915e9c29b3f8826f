import BlocksGenesis.Python.Value

/-! What a computation raises, when it raises. -/

namespace Python
variable {α β : Type} {P Q : Exc → Prop} {x : Except Exc α} {f : α → Except Exc β}

def RaisesOnly (P : Exc → Prop) (x : Except Exc α) : Prop := ∀ e, x = .error e → P e

theorem raisesOnly_ok (a : α) : RaisesOnly P (.ok a : Except Exc α) := nofun

theorem raisesOnly_error {e : Exc} : RaisesOnly P (.error e : Except Exc α) ↔ P e :=
  ⟨fun h => h e rfl, fun h _ he => Except.error.inj he ▸ h⟩

/-- Of two steps both raise only so, the second for what the first one gave. -/
theorem raisesOnly_bind : RaisesOnly P (x >>= f) ↔ RaisesOnly P x ∧ ∀ a, x = .ok a → RaisesOnly P (f a) := by
  cases x with
  | error e =>
    constructor
    · intro h
      exact ⟨raisesOnly_error.mpr (h e rfl), nofun⟩
    · intro h
      exact raisesOnly_error.mpr (h.1 e rfl)
  | ok a =>
    constructor
    · intro h
      refine ⟨raisesOnly_ok a, fun b hb => ?_⟩
      cases hb
      exact h
    · intro h
      exact h.2 a rfl

theorem RaisesOnly.bind (hx : RaisesOnly P x) (hf : ∀ a, RaisesOnly P (f a)) : RaisesOnly P (x >>= f) :=
  raisesOnly_bind.mpr ⟨hx, fun a _ => hf a⟩

theorem RaisesOnly.mono (h : RaisesOnly P x) (hPQ : ∀ e, P e → Q e) : RaisesOnly Q x := fun e he => hPQ e (h e he)

/-- What only raises otherwise raises so only by not raising. -/
theorem RaisesOnly.iff_ok (h : RaisesOnly Q x) (hne : ∀ e, Q e → ¬ P e) : RaisesOnly P x ↔ ∃ a, x = .ok a := by
  cases x with
  | error e =>
    constructor
    · intro hx
      exact absurd (hx e rfl) (hne e (h e rfl))
    · exact nofun
  | ok a => exact ⟨fun _ => ⟨a, rfl⟩, fun _ => raisesOnly_ok a⟩

theorem returns_iff {g : α → β} : (∃ b, (do return g (← x)) = Except.ok b) ↔ ∃ a, x = .ok a := by
  cases x with
  | error e => exact ⟨nofun, nofun⟩
  | ok a => exact ⟨fun _ => ⟨a, rfl⟩, fun _ => ⟨g a, rfl⟩⟩

theorem mapped_iff {g : α → β} : (∃ b, g <$> x = Except.ok b) ↔ ∃ a, x = .ok a := by
  simp only [map_ok_iff]
  exact ⟨fun ⟨_, a, ha, _⟩ => ⟨a, ha⟩, fun ⟨a, ha⟩ => ⟨g a, a, ha, rfl⟩⟩

theorem RaisesOnly.map (h : RaisesOnly P x) (g : α → β) : RaisesOnly P (g <$> x) := by
  cases x with
  | error e => exact raisesOnly_error.mpr (raisesOnly_error.mp h)
  | ok a => exact raisesOnly_ok (g a)

/-! ## All of a list -/

section List
variable {xs : List α} {g : α → Except Exc β}

/-- Where each returns, the list returns what they gave. -/
theorem mapM_returns (h : ∀ x ∈ xs, ∃ b, g x = .ok b) :
    xs.mapM g = .ok (xs.filterMap (fun x => (g x).toOption)) := by
  induction xs with
  | nil => rfl
  | cons x xs ih =>
    obtain ⟨b, hb⟩ := h x List.mem_cons_self
    have hrest := ih (fun y hy => h y (List.mem_cons_of_mem x hy))
    rw [List.mapM_cons, hb, hrest, List.filterMap_cons, hb]
    rfl

/-- Where one raises, the list does. -/
theorem mapM_raises {x : α} (hx : x ∈ xs) (h : ¬ ∃ b, g x = .ok b) : ∃ e, xs.mapM g = .error e := by
  induction xs with
  | nil => cases hx
  | cons y xs ih =>
    rw [List.mapM_cons]
    cases hy : g y with
    | error e => exact ⟨e, rfl⟩
    | ok b =>
      rcases List.mem_cons.mp hx with rfl | hx
      · exact absurd ⟨b, hy⟩ h
      · obtain ⟨e, he⟩ := ih hx
        exact ⟨e, by rw [he]; rfl⟩

end List

/-! ## What reading a model field raises -/

section Reading
variable {field : String}

def Exc.isValidation : Exc → Prop
  | .validation _ => True
  | _ => False

theorem readStr_raises (v : Json) : RaisesOnly Exc.isValidation (readStr field v) := by
  cases v <;> first | exact raisesOnly_ok _ | exact raisesOnly_error.mpr trivial

theorem readStrings_raises (items : List Json) : RaisesOnly Exc.isValidation (readStrings field items) := by
  induction items with
  | nil => exact raisesOnly_ok _
  | cons item items ih => exact (readStr_raises item).bind (fun _ => ih.bind (fun _ => raisesOnly_ok _))

theorem readStrList_raises (v : Json) : RaisesOnly Exc.isValidation (readStrList field v) := by
  unfold readStrList
  split
  · exact readStrings_raises _
  · exact raisesOnly_error.mpr trivial

theorem readBool_raises (rt : Runtime) (v : Json) : RaisesOnly Exc.isValidation (readBool rt field v) := by
  cases v with
  | null | arr items | obj fields => exact raisesOnly_error.mpr trivial
  | bool b => exact raisesOnly_ok _
  | int n | float x | str s =>
    unfold readBool
    repeat' split
    all_goals first | exact raisesOnly_ok _ | exact raisesOnly_error.mpr trivial

theorem readStr_ok_iff {v : Json} : (∃ s, readStr field v = .ok s) ↔ ∃ s, v = .str s := by
  cases v <;> simp [readStr]

theorem readStrings_ok_iff {items : List Json} :
    (∃ xs, readStrings field items = .ok xs) ↔ ∀ item ∈ items, ∃ s, item = .str s := by
  induction items with
  | nil => simp [readStrings]
  | cons item items ih =>
    rw [List.forall_mem_cons, ← ih, ← @readStr_ok_iff field]
    constructor
    · intro hsome
      obtain ⟨xs, h⟩ := hsome
      obtain ⟨s, hs, h⟩ := bind_ok_iff.mp h
      obtain ⟨ss, hss, _⟩ := bind_ok_iff.mp h
      exact ⟨⟨s, hs⟩, ss, hss⟩
    · intro hsome
      obtain ⟨⟨s, hs⟩, ss, hss⟩ := hsome
      refine ⟨s :: ss, ?_⟩
      rw [readStrings, hs, hss]
      rfl

end Reading

end Python
