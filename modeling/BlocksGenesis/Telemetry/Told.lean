import Mathlib.Data.List.Basic

/-! Computations that tell of what they do, beside how they end. -/

namespace Telemetry

structure Told (ε χ α : Type) where
  told : List ε
  result : Except χ α

namespace Told
variable {ε χ α β γ δ : Type}

def ret (a : α) : Told ε χ α := ⟨[], .ok a⟩

/-- What was told before stays told, and what raises ends it. -/
def bind (m : Told ε χ α) (f : α → Told ε χ β) : Told ε χ β :=
  match m.result with
  | .ok a => ⟨m.told ++ (f a).told, (f a).result⟩
  | .error e => ⟨m.told, .error e⟩

instance : Monad (Told ε χ) where
  pure := ret
  bind := bind

def tell (event : ε) : Told ε χ Unit := ⟨[event], .ok ()⟩

def raise (e : χ) : Told ε χ α := ⟨[], .error e⟩

def ofExcept (r : Except χ α) : Told ε χ α := ⟨[], r⟩

/-- `except`, for every error there is. -/
def handle (m : Told ε χ α) (handler : χ → Told ε χ α) : Told ε χ α :=
  match m.result with
  | .ok _ => m
  | .error e => ⟨m.told ++ (handler e).told, (handler e).result⟩

@[simp] theorem told_pure (a : α) : (pure a : Told ε χ α).told = [] := rfl

@[simp] theorem result_pure (a : α) : (pure a : Told ε χ α).result = .ok a := rfl

@[simp] theorem told_tell (event : ε) : (tell event : Told ε χ Unit).told = [event] := rfl

@[simp] theorem result_tell (event : ε) : (tell event : Told ε χ Unit).result = .ok () := rfl

@[simp] theorem told_raise (e : χ) : (raise e : Told ε χ α).told = [] := rfl

@[simp] theorem result_raise (e : χ) : (raise e : Told ε χ α).result = .error e := rfl

@[simp] theorem told_ofExcept (r : Except χ α) : (ofExcept r : Told ε χ α).told = [] := rfl

@[simp] theorem result_ofExcept (r : Except χ α) : (ofExcept r : Told ε χ α).result = r := rfl

theorem bind_ok {m : Told ε χ α} {f : α → Told ε χ β} {a : α} (h : m.result = .ok a) :
    m >>= f = ⟨m.told ++ (f a).told, (f a).result⟩ := by
  change m.bind f = _
  unfold bind
  rw [h]

theorem bind_error {m : Told ε χ α} {f : α → Told ε χ β} {e : χ} (h : m.result = .error e) :
    m >>= f = ⟨m.told, .error e⟩ := by
  change m.bind f = _
  unfold bind
  rw [h]

@[simp] theorem result_bind (m : Told ε χ α) (f : α → Told ε χ β) :
    (m >>= f).result = m.result >>= fun a => (f a).result := by
  cases h : m.result with
  | ok a =>
    rw [bind_ok h]
    rfl
  | error e =>
    rw [bind_error h]
    rfl

@[simp] theorem told_map (f : α → β) (m : Told ε χ α) : (f <$> m).told = m.told := by
  change (m.bind (fun a => ret (f a))).told = _
  unfold bind
  split
  · exact List.append_nil _
  · rfl

@[simp] theorem result_map (f : α → β) (m : Told ε χ α) : (f <$> m).result = f <$> m.result := by
  change (m.bind (fun a => ret (f a))).result = _
  unfold bind
  cases m.result <;> rfl

@[simp] theorem tell_bind (event : ε) (f : Unit → Told ε χ β) :
    (tell event : Told ε χ Unit) >>= f = ⟨event :: (f ()).told, (f ()).result⟩ := bind_ok rfl

theorem handle_ok {m : Told ε χ α} {handler : χ → Told ε χ α} {a : α} (h : m.result = .ok a) :
    m.handle handler = m := by
  unfold handle
  rw [h]

theorem handle_error {m : Told ε χ α} {handler : χ → Told ε χ α} {e : χ} (h : m.result = .error e) :
    m.handle handler = ⟨m.told ++ (handler e).told, (handler e).result⟩ := by
  unfold handle
  rw [h]

/-! ## Two that tell the same -/

/-- Two computations that raise the same, or end in what is related. -/
inductive Ends (R : α → β → Prop) : Except χ α → Except χ β → Prop where
  | ok {a : α} {b : β} : R a b → Ends R (.ok a) (.ok b)
  | error (e : χ) : Ends R (.error e) (.error e)

theorem Ends.same (r : Except χ α) : Ends Eq r r := by
  cases r with
  | ok a => exact .ok rfl
  | error e => exact .error e

structure Alike (R : α → β → Prop) (m : Told ε χ α) (m' : Told ε χ β) : Prop where
  told : m.told = m'.told
  result : Ends R m.result m'.result

section Alike
variable {R : α → β → Prop} {S : γ → δ → Prop} {m : Told ε χ α} {m' : Told ε χ β}

theorem Alike.ret {a : α} {b : β} (h : R a b) : Alike R (pure a : Told ε χ α) (pure b : Told ε χ β) :=
  ⟨rfl, .ok h⟩

theorem Alike.raise (e : χ) : Alike R (Told.raise e : Told ε χ α) (Told.raise e : Told ε χ β) := ⟨rfl, .error e⟩

theorem Alike.ofExcept {r : Except χ α} {r' : Except χ β} (h : Ends R r r') :
    Alike R (Told.ofExcept r : Told ε χ α) (Told.ofExcept r') := ⟨rfl, h⟩

theorem Alike.bind {f : α → Told ε χ γ} {f' : β → Told ε χ δ} (h : Alike R m m')
    (hf : ∀ a b, m.result = .ok a → m'.result = .ok b → R a b → Alike S (f a) (f' b)) :
    Alike S (m >>= f) (m' >>= f') := by
  obtain ⟨htold, hresult⟩ := h
  cases hm : m.result with
  | ok a =>
    rw [hm] at hresult
    generalize hm' : m'.result = r' at hresult
    cases hresult with
    | @ok _ b hR =>
      obtain ⟨hrest, hends⟩ := hf a b hm hm' hR
      rw [bind_ok hm, bind_ok hm']
      exact ⟨by rw [htold, hrest], hends⟩
  | error e =>
    rw [hm] at hresult
    generalize hm' : m'.result = r' at hresult
    cases hresult with
    | error =>
      rw [bind_error hm, bind_error hm']
      exact ⟨htold, .error e⟩

theorem Alike.tell (event : ε) {f : Unit → Told ε χ α} {f' : Unit → Told ε χ β} (h : Alike R (f ()) (f' ())) :
    Alike R (Told.tell event >>= f) (Told.tell event >>= f') := by
  rw [tell_bind, tell_bind]
  exact ⟨by rw [h.told], h.result⟩

theorem Alike.handle {handler : χ → Told ε χ α} {handler' : χ → Told ε χ β} (h : Alike R m m')
    (hhandler : ∀ e, Alike R (handler e) (handler' e)) : Alike R (m.handle handler) (m'.handle handler') := by
  obtain ⟨htold, hresult⟩ := h
  cases hm : m.result with
  | ok a =>
    rw [hm] at hresult
    generalize hm' : m'.result = r' at hresult
    cases hresult with
    | ok hR =>
      rw [handle_ok hm, handle_ok hm']
      exact ⟨htold, by rw [hm, hm']; exact .ok hR⟩
  | error e =>
    rw [hm] at hresult
    generalize hm' : m'.result = r' at hresult
    cases hresult with
    | error =>
      obtain ⟨hrest, hends⟩ := hhandler e
      rw [handle_error hm, handle_error hm']
      exact ⟨by rw [htold, hrest], hends⟩

end Alike

end Told

end Telemetry
