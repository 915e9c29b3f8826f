import BlocksGenesis.Python.Dict
import BlocksGenesis.Python.Value

/-! Programs over a state that may raise, and what they write to the telemetry on the way. -/

namespace Telemetry
open Python

inductive Level where
  | debug | info | warning | error

abbrev Attributes := Dict String Json

/-- A log line, or what happens to the innermost span. -/
inductive Entry where
  | log (level : Level) (text : String)
  | started (name : String)
  | property (key : String) (value : Json)
  | status (ok : Bool) (description : String)
  | exception (text : String)
  | ended

/-- How a program ended, the state afterwards, and what it wrote, in order. -/
structure Outcome (σ α : Type) where
  result : Except Exc α
  state : σ
  entries : List Entry

def Program (σ α : Type) := σ → Outcome σ α

namespace Program
variable {σ α β : Type}

def ret (a : α) : Program σ α := fun s => ⟨.ok a, s, []⟩

/-- What was written before a program stays written, and what raises ends it. -/
def bind (m : Program σ α) (f : α → Program σ β) : Program σ β := fun s =>
  match (m s).result with
  | .ok a =>
    let rest := f a (m s).state
    { rest with entries := (m s).entries ++ rest.entries }
  | .error e => ⟨.error e, (m s).state, (m s).entries⟩

instance : Monad (Program σ) where
  pure := ret
  bind := bind

def raise (e : Exc) : Program σ α := fun s => ⟨.error e, s, []⟩

def update (f : σ → α × σ) : Program σ α := fun s => ⟨.ok (f s).1, (f s).2, []⟩

def write (entries : List Entry) : Program σ Unit := fun s => ⟨.ok (), s, entries⟩

/-- `except Exception`. -/
def handle (m : Program σ α) (handler : Exc → Program σ α) : Program σ α := fun s =>
  match (m s).result with
  | .ok _ => m s
  | .error e =>
    let rest := handler e (m s).state
    { rest with entries := (m s).entries ++ rest.entries }

def ofExcept : Except Exc α → Program σ α
  | .ok a => ret a
  | .error e => raise e

def log (level : Level) (text : String) : Program σ Unit := write [.log level text]

def setProperties (properties : Attributes) : Program σ Unit :=
  write (properties.map (fun entry => .property entry.1 entry.2))

/-- The end of a span: what left it as an error is recorded on it, and goes on. -/
def span (str : Exc → String) (name : String) (m : Program σ α) : Program σ α := fun s =>
  let ended := match (m s).result with
    | .ok _ => [.ended]
    | .error e => [.exception (str e), .status false (str e), .ended]
  { m s with entries := .started name :: (m s).entries ++ ended }

theorem bind_congr {m : Program σ α} {f f' : α → Program σ β} {s : σ}
    (h : ∀ a, (m s).result = .ok a → f a (m s).state = f' a (m s).state) : (m >>= f) s = (m >>= f') s := by
  change m.bind f s = m.bind f' s
  unfold bind
  cases hr : (m s).result with
  | error e => rfl
  | ok a => simp only [h a hr]

theorem bind_congr_left {m m' : Program σ α} {s : σ} (h : m s = m' s) (f : α → Program σ β) :
    (m >>= f) s = (m' >>= f) s := by
  change m.bind f s = m'.bind f s
  unfold bind
  rw [h]

theorem bind_of_ok {m : Program σ α} {f : α → Program σ β} {s : σ} {a : α} (h : (m s).result = .ok a) :
    (m >>= f) s = ⟨(f a (m s).state).result, (f a (m s).state).state,
      (m s).entries ++ (f a (m s).state).entries⟩ := by
  change m.bind f s = _
  unfold bind
  rw [h]

theorem bind_of_error {m : Program σ α} {f : α → Program σ β} {s : σ} {e : Exc} (h : (m s).result = .error e) :
    (m >>= f) s = ⟨.error e, (m s).state, (m s).entries⟩ := by
  change m.bind f s = _
  unfold bind
  rw [h]

theorem bind_ok {m : Program σ α} {f : α → Program σ β} {s : σ} {a : α} (h : (m s).result = .ok a) :
    ((m >>= f) s).result = (f a (m s).state).result ∧ ((m >>= f) s).state = (f a (m s).state).state := by
  rw [bind_of_ok h]
  exact ⟨rfl, rfl⟩

theorem handle_of_ok {m : Program σ α} {handler : Exc → Program σ α} {s : σ} {a : α} (h : (m s).result = .ok a) :
    (m.handle handler) s = m s := by
  unfold handle
  rw [h]

theorem handle_of_error {m : Program σ α} {handler : Exc → Program σ α} {s : σ} {e : Exc}
    (h : (m s).result = .error e) :
    (m.handle handler) s = ⟨(handler e (m s).state).result, (handler e (m s).state).state,
      (m s).entries ++ (handler e (m s).state).entries⟩ := by
  unfold handle
  rw [h]

theorem span_congr {m m' : Program σ α} {s : σ} (h : m s = m' s) (str : Exc → String) (name : String) :
    m.span str name s = m'.span str name s := by
  unfold span
  rw [h]

end Program

/-! ## Reading -/

section Reads
variable {σ α β : Type} {s : σ}

/-- A program that changes nothing here and ends like this. -/
structure Reads (m : Program σ α) (s : σ) (r : Except Exc α) : Prop where
  result : (m s).result = r
  state : (m s).state = s

theorem reads_pure (a : α) : Reads (pure a : Program σ α) s (.ok a) := ⟨rfl, rfl⟩

theorem reads_write (entries : List Entry) : Reads (Program.write entries) s (.ok ()) := ⟨rfl, rfl⟩

theorem reads_raise (e : Exc) : Reads (Program.raise e : Program σ α) s (.error e) := ⟨rfl, rfl⟩

theorem Reads.bind {m : Program σ α} {f : α → Program σ β} {r : Except Exc α} {g : α → Except Exc β}
    (hm : Reads m s r) (hf : ∀ a, r = .ok a → Reads (f a) s (g a)) : Reads (m >>= f) s (r >>= g) := by
  obtain ⟨hresult, hstate⟩ := hm
  change Reads (m.bind f) s (r >>= g)
  cases r with
  | ok a =>
    obtain ⟨hlast, hsame⟩ := hf a rfl
    constructor
    · simp only [Program.bind, hresult, hstate, hlast]
      rfl
    · simp only [Program.bind, hresult, hstate, hsame]
  | error e =>
    constructor
    · simp only [Program.bind, hresult]
      rfl
    · simp only [Program.bind, hresult, hstate]

theorem Reads.seq {m : Program σ α} {f : α → Program σ β} {a : α} {r : Except Exc β} (hm : Reads m s (.ok a))
    (hf : Reads (f a) s r) : Reads (m >>= f) s r := by
  have hbind : Reads (m >>= f) s ((.ok a : Except Exc α) >>= fun _ => r) := by
    apply hm.bind
    intro b hb
    cases hb
    exact hf
  exact hbind

theorem Reads.fail {m : Program σ α} {e : Exc} (hm : Reads m s (.error e)) (f : α → Program σ β) :
    Reads (m >>= f) s (.error e) := by
  have hbind : Reads (m >>= f) s ((.error e : Except Exc α) >>= fun _ => .error e) := by
    apply hm.bind
    intro a ha
    cases ha
  exact hbind

theorem Reads.span {m : Program σ α} {r : Except Exc α} (h : Reads m s r) (str : Exc → String)
    (name : String) : Reads (m.span str name) s r :=
  ⟨h.result, h.state⟩

theorem Reads.bind_congr {m : Program σ α} {f f' : α → Program σ β} {r : Except Exc α} (hm : Reads m s r)
    (h : ∀ a, r = .ok a → f a s = f' a s) : (m >>= f) s = (m >>= f') s := by
  apply Program.bind_congr
  intro a ha
  rw [hm.state]
  exact h a (hm.result.symm.trans ha)

theorem reads_ofExcept (r : Except Exc α) : Reads (Program.ofExcept r : Program σ α) s r := by
  cases r with
  | ok a => exact reads_pure a
  | error e => exact reads_raise e

end Reads

/-! ## What is written first of a kind -/

section First
variable {ι σ α β : Type} {kind : Entry → Option ι} {m : Program σ α} {s : σ}

/-- A program that only reads, and writes nothing of the kind. -/
structure Quiet (kind : Entry → Option ι) (m : Program σ α) (s : σ) (r : Except Exc α) : Prop extends
    Reads m s r where
  silent : (m s).entries.findSome? kind = none

/-- What a program writes first of the kind, and that it only reads if it writes nothing of it. -/
structure Writes (kind : Entry → Option ι) (m : Program σ α) (s : σ) (i : Option ι) : Prop where
  first : (m s).entries.findSome? kind = i
  kept : i = none → (m s).state = s

theorem quiet_pure (a : α) : Quiet kind (pure a : Program σ α) s (.ok a) := ⟨reads_pure a, rfl⟩

theorem quiet_raise (e : Exc) : Quiet kind (Program.raise e : Program σ α) s (.error e) := ⟨reads_raise e, rfl⟩

theorem quiet_ofExcept (r : Except Exc α) : Quiet kind (Program.ofExcept r : Program σ α) s r := by
  cases r with
  | ok a => exact quiet_pure a
  | error e => exact quiet_raise e

theorem quiet_write {entries : List Entry} (h : ∀ entry ∈ entries, kind entry = none) :
    Quiet kind (Program.write entries : Program σ Unit) s (.ok ()) :=
  ⟨reads_write entries, List.findSome?_eq_none_iff.mpr h⟩

theorem Quiet.writes {r : Except Exc α} (h : Quiet kind m s r) : Writes kind m s none :=
  ⟨h.silent, fun _ => h.state⟩

theorem Quiet.next {f : α → Program σ β} {a : α} {r : Except Exc β} (hm : Quiet kind m s (.ok a))
    (hf : Quiet kind (f a) s r) : Quiet kind (m >>= f) s r where
  toReads := hm.toReads.seq hf.toReads
  silent := by
    rw [Program.bind_of_ok hm.result, hm.state, List.findSome?_append, hm.silent, hf.silent]
    rfl

theorem Quiet.stops {e : Exc} (hm : Quiet kind m s (.error e)) (f : α → Program σ β) :
    Quiet kind (m >>= f) s (.error e) where
  toReads := hm.toReads.fail f
  silent := by
    rw [Program.bind_of_error hm.result]
    exact hm.silent

theorem Quiet.handle_ok {a : α} (hm : Quiet kind m s (.ok a)) (handler : Exc → Program σ α) :
    Quiet kind (m.handle handler) s (.ok a) := by
  have hsame := @Program.handle_of_ok σ α m handler s a hm.result
  exact ⟨⟨by rw [hsame, hm.result], by rw [hsame, hm.state]⟩, by rw [hsame, hm.silent]⟩

theorem Quiet.handle_error {e : Exc} {handler : Exc → Program σ α} {r : Except Exc α}
    (hm : Quiet kind m s (.error e)) (hh : Quiet kind (handler e) s r) : Quiet kind (m.handle handler) s r := by
  have hrun := @Program.handle_of_error σ α m handler s e hm.result
  rw [hm.state] at hrun
  refine ⟨⟨by rw [hrun, hh.result], by rw [hrun, hh.state]⟩, ?_⟩
  rw [hrun, List.findSome?_append, hm.silent, hh.silent]
  rfl

/-- What a failed step is followed by is not written. -/
def after {γ : Type} (r : Except Exc γ) (i : Option ι) : Option ι :=
  match r with
  | .ok _ => i
  | .error _ => none

theorem map_after {κ γ : Type} (f : ι → κ) (r : Except Exc γ) (i : Option ι) :
    (after r i).map f = after r (i.map f) := by
  cases r with
  | ok a => rfl
  | error e => rfl

theorem after_none {γ : Type} (r : Except Exc γ) : after r (none : Option ι) = none := by
  cases r with
  | ok a => rfl
  | error e => rfl

theorem of_after {γ : Type} {r : Except Exc γ} {i : Option ι} {shown : ι} (h : after r i = some shown) :
    i = some shown := by
  cases r with
  | ok a => exact h
  | error e => cases h

theorem Quiet.goes {f : α → Program σ β} {a : α} {i : Option ι} (hm : Quiet kind m s (.ok a))
    (hf : Writes kind (f a) s i) : Writes kind (m >>= f) s i := by
  constructor
  · rw [Program.bind_of_ok hm.result, hm.state, List.findSome?_append, hm.silent]
    exact hf.first
  · intro hnone
    rw [Program.bind_of_ok hm.result, hm.state]
    exact hf.kept hnone

theorem Quiet.last {f : α → Program σ β} {r : Except Exc α} {i : Option ι} (hm : Quiet kind m s r)
    (hf : ∀ a, r = .ok a → Writes kind (f a) s i) : Writes kind (m >>= f) s (after r i) := by
  cases r with
  | ok a => exact hm.goes (hf a rfl)
  | error e => exact (hm.stops f).writes

theorem Quiet.step {γ : Type} {f : α → Program σ β} {r : Except Exc α} {g : α → Except Exc γ} {i : Option ι}
    (hm : Quiet kind m s r) (hf : ∀ a, r = .ok a → Writes kind (f a) s (after (g a) i)) :
    Writes kind (m >>= f) s (after (r >>= g) i) := by
  cases r with
  | ok a => exact hm.goes (hf a rfl)
  | error e => exact (hm.stops f).writes

theorem Writes.congr {m' : Program σ α} {i : Option ι} (hm : Writes kind m s i) (heq : m' s = m s) :
    Writes kind m' s i :=
  ⟨by rw [heq, hm.first], by rw [heq]; exact hm.kept⟩

/-- What writes nothing of the kind may follow. -/
theorem Writes.bind {i : Option ι} (hm : Writes kind m s i) {f : α → Program σ β}
    (hf : ∀ a, Writes kind (f a) s none) : Writes kind (m >>= f) s i := by
  cases hr : (m s).result with
  | error e =>
    constructor
    · rw [Program.bind_of_error hr]
      exact hm.first
    · rw [Program.bind_of_error hr]
      exact hm.kept
  | ok a =>
    constructor
    · rw [Program.bind_of_ok hr, List.findSome?_append, hm.first]
      cases i with
      | some i => rfl
      | none =>
        rw [hm.kept rfl]
        exact (hf a).first
    · rintro rfl
      rw [Program.bind_of_ok hr, hm.kept rfl]
      exact (hf a).kept rfl

/-- What has been written stays first. -/
theorem Writes.shown {i : ι} (hm : Writes kind m s (some i)) (f : α → Program σ β) :
    Writes kind (m >>= f) s (some i) := by
  constructor
  · cases hr : (m s).result with
    | error e =>
      rw [Program.bind_of_error hr]
      exact hm.first
    | ok a =>
      rw [Program.bind_of_ok hr, List.findSome?_append, hm.first]
      rfl
  · intro hnone
    cases hnone

theorem Writes.handle {i : Option ι} (hm : Writes kind m s i) {handler : Exc → Program σ α}
    (hh : ∀ e, Writes kind (handler e) s none) :
    Writes kind (m.handle handler) s i := by
  cases hr : (m s).result with
  | ok a =>
    constructor
    · rw [Program.handle_of_ok hr]
      exact hm.first
    · rw [Program.handle_of_ok hr]
      exact hm.kept
  | error e =>
    constructor
    · rw [Program.handle_of_error hr, List.findSome?_append, hm.first]
      cases i with
      | some i => rfl
      | none =>
        rw [hm.kept rfl]
        exact (hh e).first
    · rintro rfl
      rw [Program.handle_of_error hr, hm.kept rfl]
      exact (hh e).kept rfl

/-- A kind that spans themselves are not of. -/
theorem Writes.span {i : Option ι} (hm : Writes kind m s i) (str : Exc → String) (name : String)
    (hstarted : kind (.started name) = none) (hended : kind .ended = none)
    (hexception : ∀ text, kind (.exception text) = none) (hstatus : ∀ ok text, kind (.status ok text) = none) :
    Writes kind (m.span str name) s i := by
  refine ⟨?_, hm.kept⟩
  unfold Program.span
  cases hr : (m s).result with
  | ok a => simp [hm.first, hstarted, hended, List.findSome?_append]
  | error e => simp [hm.first, hstarted, hended, hexception, hstatus, List.findSome?_append]

end First

/-! ## Two runs -/

section Alike
variable {σ α β : Type} {R : σ → σ → Prop} {V : α → α → Prop} {W : β → β → Prop} {mask : Entry → Entry}

/-- Two results that are related, or the same error. -/
inductive Agree (V : α → α → Prop) : Except Exc α → Except Exc α → Prop where
  | ok {a a'} : V a a' → Agree V (.ok a) (.ok a')
  | error (e) : Agree V (.error e) (.error e)

/-- Related results and states, and the same entries up to a mask. -/
structure Agreeing (mask : Entry → Entry) (R : σ → σ → Prop) (V : α → α → Prop) (o o' : Outcome σ α) :
    Prop where
  result : Agree V o.result o'.result
  state : R o.state o'.state
  entries : o.entries.map mask = o'.entries.map mask

/-- Two runs that agree have both returned, or have both raised the same. -/
theorem Agreeing.ends {o o' : Outcome σ α} (h : Agreeing mask R V o o') :
    (∃ a a' next next' entries entries', o = ⟨.ok a, next, entries⟩ ∧ o' = ⟨.ok a', next', entries'⟩ ∧
      V a a' ∧ R next next' ∧ entries.map mask = entries'.map mask) ∨
    ∃ e next next' entries entries', o = ⟨.error e, next, entries⟩ ∧ o' = ⟨.error e, next', entries'⟩ ∧
      R next next' ∧ entries.map mask = entries'.map mask := by
  obtain ⟨result, next, entries⟩ := o
  obtain ⟨result', next', entries'⟩ := o'
  obtain ⟨hresult, hstate, hentries⟩ := h
  cases hresult with
  | ok ha => exact .inl ⟨_, _, next, next', entries, entries', rfl, rfl, ha, hstate, hentries⟩
  | error e => exact .inr ⟨e, next, next', entries, entries', rfl, rfl, hstate, hentries⟩

/-- Two programs that agree, and keep the states related, when they are run from related states. -/
def Alike (mask : Entry → Entry) (R : σ → σ → Prop) (V : α → α → Prop) (m m' : Program σ α) : Prop :=
  ∀ s s', R s s' → Agreeing mask R V (m s) (m' s')

theorem alike_pure {a a' : α} (h : V a a') :
    Alike mask R V (pure a : Program σ α) (pure a' : Program σ α) :=
  fun _ _ hs => ⟨.ok h, hs, rfl⟩

theorem alike_raise (e : Exc) : Alike mask R V (Program.raise e) (Program.raise e) :=
  fun _ _ hs => ⟨.error e, hs, rfl⟩

theorem alike_write {entries entries' : List Entry} (h : entries.map mask = entries'.map mask) :
    Alike mask R Eq (Program.write entries) (Program.write entries') :=
  fun _ _ hs => ⟨.ok rfl, hs, h⟩

theorem alike_update {f f' : σ → α × σ} (h : ∀ s s', R s s' → V (f s).1 (f' s').1 ∧ R (f s).2 (f' s').2) :
    Alike mask R V (Program.update f) (Program.update f') :=
  fun s s' hs => ⟨.ok (h s s' hs).1, (h s s' hs).2, rfl⟩

theorem alike_ofExcept (r : Except Exc α) : Alike mask R Eq (Program.ofExcept r) (Program.ofExcept r) := by
  cases r with
  | ok a => exact alike_pure rfl
  | error e => exact alike_raise e

theorem Alike.bind {m m' : Program σ α} {f f' : α → Program σ β} (hm : Alike mask R V m m')
    (hf : ∀ a a', V a a' → Alike mask R W (f a) (f' a')) : Alike mask R W (m >>= f) (m' >>= f') := by
  intro s s' hs
  change Agreeing mask R W (m.bind f s) (m'.bind f' s')
  unfold Program.bind
  rcases (hm s s' hs).ends with ⟨a, a', next, next', entries, entries', hrun, hrun', ha, hstate, hentries⟩ |
    ⟨e, next, next', entries, entries', hrun, hrun', hstate, hentries⟩
  · rw [hrun, hrun']
    obtain ⟨hresult, hlast, hrest⟩ := hf _ _ ha _ _ hstate
    refine ⟨hresult, hlast, ?_⟩
    simp only [List.map_append, hentries, hrest]
  · rw [hrun, hrun']
    exact ⟨.error e, hstate, hentries⟩

/-- Both go on with the same value. -/
theorem Alike.next {m m' : Program σ α} {f f' : α → Program σ β} (hm : Alike mask R Eq m m')
    (hf : ∀ a, Alike mask R W (f a) (f' a)) : Alike mask R W (m >>= f) (m' >>= f') := by
  apply hm.bind
  intro a a' ha
  cases ha
  exact hf a

theorem Alike.handle {m m' : Program σ α} {handler handler' : Exc → Program σ α} (hm : Alike mask R V m m')
    (hh : ∀ e, Alike mask R V (handler e) (handler' e)) :
    Alike mask R V (m.handle handler) (m'.handle handler') := by
  intro s s' hs
  unfold Program.handle
  rcases (hm s s' hs).ends with ⟨a, a', next, next', entries, entries', hrun, hrun', ha, hstate, hentries⟩ |
    ⟨e, next, next', entries, entries', hrun, hrun', hstate, hentries⟩
  · rw [hrun, hrun']
    exact ⟨.ok ha, hstate, hentries⟩
  · rw [hrun, hrun']
    obtain ⟨hresult, hlast, hrest⟩ := hh e _ _ hstate
    refine ⟨hresult, hlast, ?_⟩
    simp only [List.map_append, hentries, hrest]

theorem Alike.span {m m' : Program σ α} (hm : Alike mask R V m m') (str : Exc → String) (name : String) :
    Alike mask R V (m.span str name) (m'.span str name) := by
  intro s s' hs
  unfold Program.span
  rcases (hm s s' hs).ends with ⟨a, a', next, next', entries, entries', hrun, hrun', ha, hstate, hentries⟩ |
    ⟨e, next, next', entries, entries', hrun, hrun', hstate, hentries⟩
  · rw [hrun, hrun']
    refine ⟨.ok ha, hstate, ?_⟩
    simp only [List.map_append, List.map_cons, hentries]
  · rw [hrun, hrun']
    refine ⟨.error e, hstate, ?_⟩
    simp only [List.map_append, List.map_cons, hentries]

end Alike

end Telemetry
