import Mathlib.Data.List.Basic

/-! Runs of a labelled machine, and what all of them keep. -/

namespace Machine
variable {State Event : Type}

/-- A run: each event is allowed in the state it meets, and the machine takes it. -/
inductive Run (step : State → Event → Option State) (allowed : State → Event → Prop) :
    State → List Event → State → Prop where
  | nil {s} : Run step allowed s [] s
  | cons {s e s' events s''} : allowed s e → step s e = some s' → Run step allowed s' events s'' →
      Run step allowed s (e :: events) s''

variable {step : State → Event → Option State} {allowed : State → Event → Prop} {s s' : State}
  {events : List Event}

/-- What every allowed step keeps, a whole run keeps. -/
theorem Run.invariant {Inv : State → Prop} (h : Run step allowed s events s') (hs : Inv s)
    (hstep : ∀ {s e s'}, Inv s → allowed s e → step s e = some s' → Inv s') : Inv s' := by
  induction h with
  | nil => exact hs
  | cons hallowed htaken _ ih => exact ih (hstep hs hallowed htaken)

/-- Executing a list of events is a run of another machine where that one allows and takes each of them. -/
theorem Run.of_foldlM {exec : State → Event → Option State}
    (hexec : ∀ e ∈ events, ∀ s next, exec s e = some next → allowed s e ∧ step s e = some next)
    (h : events.foldlM exec s = some s') : Run step allowed s events s' := by
  induction events generalizing s with
  | nil =>
    cases h
    exact .nil
  | cons e events ih =>
    rw [List.foldlM_cons] at h
    obtain ⟨next, htaken, hrest⟩ := Option.bind_eq_some_iff.mp h
    obtain ⟨hallowed, hstep⟩ := hexec e List.mem_cons_self s next htaken
    exact .cons hallowed hstep (ih (fun e hm => hexec e (List.mem_cons_of_mem _ hm)) hrest)

/-- Executing a list of events is a run where each of them is allowed in every state. -/
theorem Run.of_exec (hallowed : ∀ e ∈ events, ∀ s, allowed s e) (h : events.foldlM step s = some s') :
    Run step allowed s events s' :=
  of_foldlM (fun e hm s _ htaken => ⟨hallowed e hm s, htaken⟩) h

/-- Executing a list of events with a check before each of them. -/
theorem Run.of_checked [∀ s e, Decidable (allowed s e)]
    (h : events.foldlM (fun s e => if allowed s e then step s e else none) s = some s') :
    Run step allowed s events s' := by
  apply of_foldlM ?_ h
  intro e _ s next htaken
  split at htaken
  · rename_i hallowed
    exact ⟨hallowed, htaken⟩
  · cases htaken

/-! What the steps of a run cost. -/

def tally (step : State → Event → Option State) (cost : State → Event → Nat) : State → List Event → Nat
  | _, [] => 0
  | s, e :: events => cost s e + ((step s e).map (fun s' => tally step cost s' events)).getD 0

/-- What grows by the cost of each step grows by that of the whole run. -/
theorem Run.tally_eq {Inv : State → Prop} {cost : State → Event → Nat} (measure : State → Nat)
    (h : Run step allowed s events s') (hs : Inv s)
    (hstep : ∀ {s e s'}, Inv s → step s e = some s' → Inv s' ∧ measure s' = measure s + cost s e) :
    measure s' = measure s + tally step cost s events := by
  induction h with
  | nil => rfl
  | cons _ htaken _ ih =>
    obtain ⟨hinv, hgrown⟩ := hstep hs htaken
    rw [ih hinv, hgrown, tally, htaken, Option.map_some, Option.getD_some, Nat.add_assoc]

theorem Run.append {s'' : State} {later : List Event} (h : Run step allowed s events s')
    (hlater : Run step allowed s' later s'') : Run step allowed s (events ++ later) s'' := by
  induction h with
  | nil => exact hlater
  | cons hallowed htaken _ ih => exact .cons hallowed htaken (ih hlater)

end Machine
