import BlocksGenesis.Machine.Slots
import Mathlib.Data.List.Perm.Basic

/-! A broker that hands messages out on leases, and where each of them is. Messages and leases go by their numbers. -/

namespace Machine

/-- What has become of a lease. -/
inductive Fate where
  | held
  | settled
  | returned
deriving DecidableEq, Repr

structure Lease where
  message : Nat
  fate : Fate
deriving DecidableEq, Repr

/-- What can be told of a broker. -/
structure Ledger where
  published : Nat := 0
  waiting : List Nat := []
  leases : List Lease := []
  dead : List Nat := []
  expired : List Nat := []

namespace Ledger

def count (l : Ledger) (message : Nat) (fate : Fate) : Nat := l.leases.countP (fun lease => lease = ⟨message, fate⟩)

/-- How often a message was handed out. -/
def handed (l : Ledger) (message : Nat) : Nat := l.leases.countP (fun lease => lease.message = message)

def numberHeld (l : Ledger) : Nat := l.leases.countP (fun lease => lease.fate = .held)

/-! ## What an operation may do -/

/-- A message that is new waits, at any place. -/
def Published (l l' : Ledger) : Prop :=
  ∃ waiting, waiting.Perm (l.published :: l.waiting) ∧ l' = { l with published := l.published + 1, waiting }

/-- The number of a lease is its place. -/
def HandedOut (l l' : Ledger) : Prop :=
  ∃ message rest, l.waiting.Perm (message :: rest) ∧
    l' = { l with waiting := rest, leases := l.leases ++ [⟨message, .held⟩] }

def Settled (l : Ledger) (lease : Nat) (l' : Ledger) : Prop :=
  ∃ message, l.leases[lease]? = some ⟨message, .held⟩ ∧
    l' = { l with leases := l.leases.set lease ⟨message, .settled⟩ }

/-- A lease that ends unsettled. Its message waits again, until it was handed out as often as the limit has it. -/
def TakenBack (limit : Option Nat) (l : Ledger) (lease : Nat) (l' : Ledger) : Prop :=
  ∃ message, l.leases[lease]? = some ⟨message, .held⟩ ∧
    (((∃ n, limit = some n ∧ n ≤ l.handed message) ∧ l' = { l with
        leases := l.leases.set lease ⟨message, .returned⟩, dead := message :: l.dead }) ∨
      (∀ n, limit = some n → l.handed message < n) ∧ ∃ waiting, waiting.Perm (message :: l.waiting) ∧ l' = { l with
        leases := l.leases.set lease ⟨message, .returned⟩, waiting })

/-- A message that has waited for too long is gone. -/
def Expired (l l' : Ledger) : Prop :=
  ∃ message rest, l.waiting.Perm (message :: rest) ∧
    l' = { l with waiting := rest, expired := message :: l.expired }

end Ledger

/-- A broker by its operations. One that gives nothing is refused. -/
structure Broker where
  State : Type
  start : State
  publish : State → State
  handOut : State → Option State
  settle : State → Nat → Option State
  takeBack : State → Nat → Option State
  expire : State → Nat → Option State
  ledger : State → Ledger

/-- What is relied on of a broker that hands a message out up to so often. In which order it does is left open. -/
structure Broker.Lawful (broker : Broker) (limit : Option Nat) : Prop where
  start : broker.ledger broker.start = {}
  publish : ∀ b, (broker.ledger b).Published (broker.ledger (broker.publish b))
  handOut : ∀ b b', broker.handOut b = some b' → (broker.ledger b).HandedOut (broker.ledger b')
  settle : ∀ b lease b', broker.settle b lease = some b' → (broker.ledger b).Settled lease (broker.ledger b')
  takeBack : ∀ b lease b', broker.takeBack b lease = some b' →
    (broker.ledger b).TakenBack limit lease (broker.ledger b')
  expire : ∀ b place b', broker.expire b place = some b' → (broker.ledger b).Expired (broker.ledger b')

/-- Nothing is handed out while so many leases are held. A count of 0 is no limit. -/
def Broker.Prefetches (broker : Broker) (prefetchCount : Nat) : Prop :=
  ∀ b, 0 < prefetchCount → prefetchCount ≤ (broker.ledger b).numberHeld → broker.handOut b = none

namespace Ledger

/-! ## Where the messages are -/

/-- In how many places a message is. -/
def places (l : Ledger) (message : Nat) : Nat :=
  l.waiting.count message + l.count message .held + l.count message .settled + l.dead.count message +
    l.expired.count message

/-- Each message that was published is in one place, and is handed out no more often than the limit has it: as often
where it is a dead letter, less often where it waits or has waited for too long. -/
structure Accounted (limit : Option Nat) (l : Ledger) : Prop where
  positive : ∀ n, limit = some n → 0 < n
  once : ∀ message < l.published, l.places message = 1
  unknown : ∀ message, l.published ≤ message → l.places message = 0 ∧ l.handed message = 0
  due : ∀ n, limit = some n → ∀ message, 0 < l.waiting.count message + l.expired.count message → l.handed message < n
  limited : ∀ n, limit = some n → ∀ message, l.handed message ≤ n
  buried : ∀ message, 0 < l.dead.count message → ∃ n, limit = some n ∧ n ≤ l.handed message

/-- It was handed out as often as leases of it ended or are held. -/
theorem handed_eq (l : Ledger) (message : Nat) : l.handed message =
    l.count message .held + l.count message .settled + l.count message .returned := by
  unfold handed count
  induction l.leases with
  | nil => rfl
  | cons lease leases ih =>
    obtain ⟨other, fate⟩ := lease
    by_cases hm : other = message
    · cases fate <;> simp [hm] <;> omega
    · simp [hm]
      omega

theorem accounted_start {limit : Option Nat} (hlimit : ∀ n, limit = some n → 0 < n) : Accounted limit {} where
  positive := hlimit
  once message h := by simp at h
  unknown message _ := by simp [places, count, handed]
  due n hn message h := by simp at h
  limited n _ message := by simp [handed]
  buried message h := by simp at h

section Operations
variable {limit : Option Nat} {l l' : Ledger} {lease message other : Nat}

theorem count_set {fate : Fate} (hl : l.leases[lease]? = some ⟨message, .held⟩) (each : Fate) :
    ({ l with leases := l.leases.set lease ⟨message, fate⟩ } : Ledger).count other each +
        (if other = message ∧ each = .held then 1 else 0) =
      l.count other each + if other = message ∧ each = fate then 1 else 0 := by
  have hslot := @countP_slot _ l.leases lease _ ⟨message, fate⟩ (fun found => found = ⟨other, each⟩) hl
  simp only [Lease.mk.injEq, decide_eq_true_eq, @eq_comm _ message other, @eq_comm _ Fate.held each,
    @eq_comm _ fate each] at hslot
  exact hslot

theorem handed_set {fate : Fate} (hl : l.leases[lease]? = some ⟨message, .held⟩) :
    ({ l with leases := l.leases.set lease ⟨message, fate⟩ } : Ledger).handed other = l.handed other :=
  Nat.add_right_cancel (countP_slot (fun found => found.message = other) hl)

/-- A lease that is settled stays so whatever becomes of those that are held. -/
theorem settled_set {new : Lease} {m : Nat} (hl : l.leases[lease]? = some ⟨message, .held⟩) {settled : Nat}
    (h : l.leases[settled]? = some ⟨m, .settled⟩) : (l.leases.set lease new)[settled]? = some ⟨m, .settled⟩ := by
  have hne : lease ≠ settled := by
    rintro rfl
    cases hl.symm.trans h
  exact (List.getElem?_set_ne hne).trans h

theorem count_settled {settled m : Nat} (h : l.leases[settled]? = some ⟨m, .settled⟩) : 0 < l.count m .settled :=
  List.countP_pos_iff.mpr ⟨_, List.mem_of_getElem? h, decide_eq_true rfl⟩

theorem count_cons (message other : Nat) (rest : List Nat) :
    (message :: rest).count other = rest.count other + if message = other then 1 else 0 := by
  simp [List.count_cons]

theorem accounted_published (h : Accounted limit l) (hl : l.Published l') : Accounted limit l' := by
  obtain ⟨waiting, hperm, rfl⟩ := hl
  have hwaiting : ∀ message, waiting.count message =
      l.waiting.count message + if l.published = message then 1 else 0 := by
    intro message
    rw [hperm.count_eq, count_cons]
  have hplaces : ∀ message, ({ l with published := l.published + 1, waiting } : Ledger).places message =
      l.places message + if l.published = message then 1 else 0 := by
    intro message
    have hcount := hwaiting message
    simp only [places, count] at *
    omega
  refine ⟨h.positive, fun message hlt => ?_, fun message hle => ?_, fun n hn message hm => ?_, h.limited, h.buried⟩
  · rw [hplaces]
    by_cases he : l.published = message
    · subst he
      rw [if_pos rfl, (h.unknown _ (Nat.le_refl _)).1]
    · have hold : message < l.published := by
        dsimp only at hlt
        omega
      rw [if_neg he, h.once message hold]
  · dsimp only at hle
    obtain ⟨hnowhere, hnever⟩ := h.unknown message (by omega)
    rw [hplaces, if_neg (by omega), hnowhere]
    exact ⟨rfl, hnever⟩
  · dsimp only at hm
    rw [hwaiting] at hm
    change l.handed message < n
    by_cases he : l.published = message
    · have hnever := (h.unknown message (by omega)).2
      rw [hnever]
      exact h.positive n hn
    · rw [if_neg he] at hm
      exact h.due n hn message hm

/-- A message that waits is nowhere else. -/
theorem Accounted.waiting_alone (h : Accounted limit l) (hwaits : 0 < l.waiting.count message) :
    l.waiting.count message = 1 ∧ l.count message .settled = 0 ∧ l.dead.count message = 0 ∧
      l.expired.count message = 0 := by
  have hone : l.places message ≤ 1 := by
    rcases Nat.lt_or_ge message l.published with hlt | hge
    · exact Nat.le_of_eq (h.once message hlt)
    · have hnowhere := (h.unknown message hge).1
      omega
  rw [places] at hone
  omega

theorem accounted_handedOut (h : Accounted limit l) (hl : l.HandedOut l') : Accounted limit l' := by
  obtain ⟨first, rest, hperm, rfl⟩ := hl
  have hcount : ∀ message, l.waiting.count message = rest.count message + if first = message then 1 else 0 := by
    intro message
    rw [hperm.count_eq, count_cons]
  have hplaces : ∀ message,
      ({ l with waiting := rest, leases := l.leases ++ [⟨first, .held⟩] } : Ledger).places message =
        l.places message := by
    intro message
    have hsplit := hcount message
    simp only [places, count, List.countP_append, List.countP_singleton, Lease.mk.injEq, reduceCtorEq, and_false,
      and_true, decide_false, decide_eq_true_eq, Bool.false_eq_true, if_false] at *
    omega
  have hhanded : ∀ message,
      ({ l with waiting := rest, leases := l.leases ++ [⟨first, .held⟩] } : Ledger).handed message =
        l.handed message + if first = message then 1 else 0 := by
    intro message
    simp [handed, List.countP_append, List.countP_singleton]
  have hwaited : 0 < l.waiting.count first := by
    rw [hcount, if_pos rfl]
    omega
  obtain ⟨hone, _, hdead, hexpired⟩ := h.waiting_alone hwaited
  -- What waits still, or waited for too long, is another message.
  have hother : ∀ message, 0 < rest.count message + l.expired.count message → first ≠ message := by
    rintro message hm rfl
    rw [hcount, if_pos rfl] at hone
    omega
  refine ⟨h.positive, fun message hlt => (hplaces message).trans (h.once message hlt), fun message hle => ?_,
    fun n hn message hm => ?_, fun n hn message => ?_, fun message hm => ?_⟩
  · obtain ⟨hnowhere, hnever⟩ := h.unknown message hle
    have hne : first ≠ message := by
      rintro rfl
      simp only [places] at hnowhere
      omega
    rw [hplaces, hhanded, if_neg hne]
    exact ⟨hnowhere, hnever⟩
  · have hsplit := hcount message
    rw [hhanded, if_neg (hother message hm)]
    apply h.due n hn
    dsimp only at hm
    omega
  · rw [hhanded]
    split
    · rename_i he
      have hlt := h.due n hn first (by omega)
      rw [← he]
      omega
    · exact h.limited n hn message
  · have hne : first ≠ message := by
      rintro rfl
      dsimp only at hm
      omega
    rw [hhanded, if_neg hne]
    exact h.buried message hm

/-- A message that is settled is nowhere else. -/
theorem Accounted.settled_alone {m : Nat} (h : Accounted limit l) (hl : l.leases[lease]? = some ⟨m, .settled⟩) :
    l.waiting.count m = 0 ∧ l.count m .held = 0 ∧ l.dead.count m = 0 ∧ l.expired.count m = 0 := by
  have hsettled := count_settled hl
  rcases Nat.lt_or_ge m l.published with hlt | hge
  · have hone := h.once m hlt
    rw [places] at hone
    omega
  · have hnowhere := (h.unknown m hge).1
    rw [places] at hnowhere
    omega

theorem handedOut_settled {m : Nat} (h : Accounted limit l) (hl : l.leases[lease]? = some ⟨m, .settled⟩)
    (hout : l.HandedOut l') : l'.leases[lease]? = some ⟨m, .settled⟩ ∧ l'.handed m = l.handed m := by
  have hnone := (h.settled_alone hl).1
  obtain ⟨first, rest, hperm, rfl⟩ := hout
  have hne : first ≠ m := by
    rintro rfl
    rw [hperm.count_eq, count_cons, if_pos rfl] at hnone
    omega
  exact ⟨slot_append_left hl, by simp [handed, hne]⟩

/-- What only moves messages about: those that wait or expire were due, and those that die were not. -/
theorem Accounted.moved (h : Accounted limit l) (hpublished : l'.published = l.published)
    (hplaces : ∀ message, l'.places message = l.places message)
    (hhanded : ∀ message, l'.handed message = l.handed message)
    (hdue : ∀ n, limit = some n → ∀ message, 0 < l'.waiting.count message + l'.expired.count message →
      0 < l.waiting.count message + l.expired.count message ∨ l.handed message < n)
    (hdead : ∀ message, 0 < l'.dead.count message →
      0 < l.dead.count message ∨ ∃ n, limit = some n ∧ n ≤ l.handed message) : Accounted limit l' := by
  refine ⟨h.positive, fun message hlt => ?_, fun message hle => ?_, fun n hn message hm => ?_, fun n hn message => ?_,
    fun message hm => ?_⟩
  · rw [hplaces]
    exact h.once message (hpublished ▸ hlt)
  · rw [hplaces, hhanded]
    exact h.unknown message (hpublished ▸ hle)
  · rw [hhanded]
    rcases hdue n hn message hm with hold | hlt
    · exact h.due n hn message hold
    · exact hlt
  · rw [hhanded]
    exact h.limited n hn message
  · rw [hhanded]
    rcases hdead message hm with hold | hmany
    · exact h.buried message hold
    · exact hmany

theorem accounted_settled (h : Accounted limit l) (hl : l.Settled lease l') : Accounted limit l' := by
  obtain ⟨message, hheldAt, rfl⟩ := hl
  refine h.moved rfl (fun other => ?_) (fun other => handed_set hheldAt) (fun n hn other hm => .inl hm)
    (fun other hm => .inl hm)
  have hheld := @count_set l lease message other .settled hheldAt .held
  have hsettled := @count_set l lease message other .settled hheldAt .settled
  simp only [reduceCtorEq, and_true, and_false, if_false] at hheld hsettled
  simp only [places]
  omega

theorem accounted_takenBack (h : Accounted limit l) (hl : l.TakenBack limit lease l') : Accounted limit l' := by
  obtain ⟨message, hheldAt, hcases⟩ := hl
  have hplaces : ∀ other, l.waiting.count other +
      ({ l with leases := l.leases.set lease ⟨message, .returned⟩ } : Ledger).count other .held +
      ({ l with leases := l.leases.set lease ⟨message, .returned⟩ } : Ledger).count other .settled +
      l.dead.count other + l.expired.count other + (if message = other then 1 else 0) = l.places other := by
    intro other
    have hheld := @count_set l lease message other .returned hheldAt .held
    have hsettled := @count_set l lease message other .returned hheldAt .settled
    simp only [reduceCtorEq, and_true, and_false, if_false, @eq_comm _ other message] at hheld hsettled
    simp only [places]
    omega
  rcases hcases with ⟨hdone, rfl⟩ | ⟨hmore, waiting, hperm, rfl⟩
  · refine h.moved rfl (fun other => ?_) (fun other => handed_set hheldAt) (fun n hn other hm => .inl hm)
      (fun other hm => ?_)
    · rw [← hplaces other]
      simp only [places, count, count_cons]
      omega
    · by_cases he : message = other
      · exact .inr (he ▸ hdone)
      · left
        simpa [count_cons, he] using hm
  · have hwaiting : ∀ other, waiting.count other = l.waiting.count other + if message = other then 1 else 0 := by
      intro other
      rw [hperm.count_eq, count_cons]
    refine h.moved rfl (fun other => ?_) (fun other => handed_set hheldAt) (fun n hn other hm => ?_)
      (fun other hm => .inl hm)
    · have hcount := hwaiting other
      rw [← hplaces other]
      simp only [places, count] at hcount ⊢
      omega
    · by_cases he : message = other
      · exact .inr (he ▸ hmore n hn)
      · left
        simpa [hwaiting, he] using hm

theorem accounted_expired (h : Accounted limit l) (hl : l.Expired l') : Accounted limit l' := by
  obtain ⟨message, rest, hperm, rfl⟩ := hl
  have hcount : ∀ other, l.waiting.count other = rest.count other + if message = other then 1 else 0 := by
    intro other
    rw [hperm.count_eq, count_cons]
  refine h.moved rfl (fun other => ?_) (fun _ => rfl) (fun n hn other hm => .inl ?_) (fun other hm => .inl hm)
  · have hsplit := hcount other
    simp only [places, count, count_cons] at hsplit ⊢
    omega
  · have hsplit := hcount other
    simp only [count_cons] at hm
    omega

/-- Leases that are held are among those that are counted. -/
theorem held_le_numberHeld {leases : List Nat} (hnodup : leases.Nodup)
    (hheld : ∀ lease ∈ leases, ∃ message, l.leases[lease]? = some ⟨message, .held⟩) :
    leases.length ≤ l.numberHeld := by
  induction leases generalizing l with
  | nil => exact Nat.zero_le _
  | cons lease leases ih =>
    obtain ⟨hnew, hrest⟩ := List.nodup_cons.mp hnodup
    obtain ⟨message, hl⟩ := hheld lease List.mem_cons_self
    have hothers : leases.length ≤
        ({ l with leases := l.leases.set lease ⟨message, .returned⟩ } : Ledger).numberHeld := by
      apply ih hrest
      intro other hother
      have hne : lease ≠ other := by
        rintro rfl
        exact hnew hother
      obtain ⟨found, hfound⟩ := hheld other (List.mem_cons_of_mem _ hother)
      exact ⟨found, (List.getElem?_set_ne hne).trans hfound⟩
    have hslot := @countP_slot _ l.leases lease _ ⟨message, .returned⟩ (fun found => found.fate = .held) hl
    simp only [decide_true, reduceCtorEq, decide_false, if_true, Bool.false_eq_true, if_false] at hslot
    unfold numberHeld at hothers ⊢
    dsimp only at hothers
    rw [List.length_cons]
    omega

end Operations

end Ledger

/-! ## A broker that is its ledger -/

def firstWaiting (l : Ledger) : Option Ledger :=
  match l.waiting with
  | [] => none
  | message :: rest => some { l with waiting := rest, leases := l.leases ++ [⟨message, .held⟩] }

def settleHeld (l : Ledger) (lease : Nat) : Option Ledger :=
  match l.leases[lease]? with
  | some ⟨message, .held⟩ => some { l with leases := l.leases.set lease ⟨message, .settled⟩ }
  | _ => none

def returnHeld (limit : Option Nat) (l : Ledger) (lease : Nat) : Option Ledger :=
  match l.leases[lease]? with
  | some ⟨message, .held⟩ =>
    let leases := l.leases.set lease ⟨message, .returned⟩
    if limit.any (fun n => n ≤ l.handed message) then some { l with leases, dead := message :: l.dead }
    else some { l with leases, waiting := message :: l.waiting }
  | _ => none

def expireWaiting (l : Ledger) (place : Nat) : Option Ledger :=
  (l.waiting[place]?).map (fun message =>
    { l with waiting := l.waiting.eraseIdx place, expired := message :: l.expired })

/-- The first that waits is handed out, and what is taken back is the first to wait again. -/
def leasing (limit : Option Nat) (prefetchCount : Nat) : Broker where
  State := Ledger
  start := {}
  publish l := { l with published := l.published + 1, waiting := l.waiting ++ [l.published] }
  handOut l := if 0 < prefetchCount ∧ prefetchCount ≤ l.numberHeld then none else firstWaiting l
  settle := settleHeld
  takeBack := returnHeld limit
  expire := expireWaiting
  ledger l := l

section Leasing
variable {limit : Option Nat} {prefetchCount : Nat} {l l' : Ledger} {lease place : Nat}

theorem firstWaiting_handedOut (h : firstWaiting l = some l') : l.HandedOut l' := by
  unfold firstWaiting at h
  split at h
  · cases h
  · rename_i message rest hwaiting
    cases h
    exact ⟨message, rest, .of_eq hwaiting, rfl⟩

theorem settleHeld_settled (h : settleHeld l lease = some l') : l.Settled lease l' := by
  unfold settleHeld at h
  split at h
  · rename_i message hl
    cases h
    exact ⟨message, hl, rfl⟩
  · cases h

theorem returnHeld_takenBack (h : returnHeld limit l lease = some l') : l.TakenBack limit lease l' := by
  unfold returnHeld at h
  split at h
  · rename_i message hl
    refine ⟨message, hl, ?_⟩
    split at h
    · rename_i hdone
      cases h
      refine .inl ⟨?_, rfl⟩
      cases limit with
      | none => cases hdone
      | some n => exact ⟨n, rfl, by simpa using hdone⟩
    · rename_i hmore
      cases h
      refine .inr ⟨fun n hn => ?_, _, .refl _, rfl⟩
      rw [hn] at hmore
      simpa using hmore
  · cases h

theorem expireWaiting_expired (h : expireWaiting l place = some l') : l.Expired l' := by
  obtain ⟨message, hm, rfl⟩ := Option.map_eq_some_iff.mp h
  obtain ⟨hlt, rfl⟩ := List.getElem?_eq_some_iff.mp hm
  exact ⟨_, _, (List.getElem_cons_eraseIdx_perm hlt).symm, rfl⟩

theorem leasing_lawful (limit : Option Nat) (prefetchCount : Nat) : (leasing limit prefetchCount).Lawful limit where
  start := rfl
  publish l := ⟨_, List.perm_append_singleton l.published l.waiting, rfl⟩
  handOut _ _ h := firstWaiting_handedOut (Option.ite_none_left_eq_some.mp h).2
  settle _ _ _ := settleHeld_settled
  takeBack _ _ _ := returnHeld_takenBack
  expire _ _ _ := expireWaiting_expired

theorem leasing_prefetches (limit : Option Nat) (prefetchCount : Nat) :
    (leasing limit prefetchCount).Prefetches prefetchCount :=
  fun _ hpositive hmany => if_pos ⟨hpositive, hmany⟩

end Leasing

end Machine
