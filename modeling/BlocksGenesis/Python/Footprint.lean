import BlocksGenesis.Python.Dict
import BlocksGenesis.Python.Value

/-! Which keys of a dictionary a computation reads. -/

namespace Python

/-- Two dictionaries hold the same under each of these keys, absence included. -/
def AgreeOn (names : List String) (a b : Fields) : Prop :=
  ∀ n ∈ names, a.lookup n = b.lookup n

theorem AgreeOn.mono {names names' : List String} {a b : Fields} (h : AgreeOn names a b)
    (hs : ∀ n ∈ names', n ∈ names) : AgreeOn names' a b := by
  intro n hn
  exact h n (hs n hn)

theorem AgreeOn.get {names : List String} {a b : Fields} (h : AgreeOn names a b) {n : String}
    (hn : n ∈ names) : a.get n = b.get n := by
  rw [Fields.get, Fields.get, h n hn]

/-- The result depends on nothing but what is under these keys. -/
def ReadsOnly {α : Type} (names : List String) (f : Fields → α) : Prop :=
  ∀ a b, AgreeOn names a b → f a = f b

theorem ReadsOnly.const {α : Type} {names : List String} (x : α) : ReadsOnly names (fun _ => x) := by
  intro a b _
  rfl

/-- Filtering by the key alone never widens what is read. -/
theorem AgreeOn.filter {names : List String} {a b : Fields} (keep : String → Bool)
    (h : AgreeOn names a b) :
    AgreeOn names (a.filter (fun f => keep f.1)) (b.filter (fun f => keep f.1)) := by
  intro n hn
  rw [lookup_filter_keys, lookup_filter_keys, h n hn]

theorem lookup_set_other {fields : Fields} {n m : String} {v : Json} (h : n ≠ m) :
    (fields.set m v).lookup n = fields.lookup n := by
  have hne : (n == m) = false := by simpa using h
  have hk := lookup_filter_keys (fun k => k != m) fields n
  simp only [bne_iff_ne, ne_eq, h, not_false_eq_true, if_true] at hk
  simp [Fields.set, List.lookup_cons, hne, hk]

theorem getD_set_other {fields : Fields} {n m : String} {v d : Json} (h : n ≠ m) :
    (fields.set m v).getD n d = fields.getD n d := by
  simp [Fields.getD, lookup_set_other h]

end Python
