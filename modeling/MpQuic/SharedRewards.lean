import MpQuic.Lib.Machine
import MpQuic.SacLearning

/-!
# Two sessions and one table of rewards

Two sessions of a process that use `sac` or `sacmulti` share `multiclients.List_Reward_DQN`,
in which a payload is found by the probability of its action alone, and
`multiclients.S2`, over which `sacmulti` sums up.  A run is any interleaving of their
requests, answers, packets and acknowledgements; what a session would do without the
other one is the run of its own events.
-/
namespace MpQuic
open Systems Function

/-! ## One session and the table -/

/-- What a session does with the table. -/
inductive TableEvent (σ : Type)
  | observe (stateData : σ)
  | answer (i : Nat) (probability : Option ℚ)
  | record (pathID packetNumber : Nat)
  | reward (pathID lastRcvdPacketNumber : Nat) (reward : ℚ)

namespace SacScheduler
variable {σ : Type}

/-- The scheduler and the table after an event, and the payload submitted. -/
def step (sch : SacScheduler σ) (rewards : RewardTable σ) :
    TableEvent σ → SacScheduler σ × RewardTable σ × Option (SacPayload σ)
  | .observe stateData =>
    let (sch, rewards) := sch.observe rewards stateData
    (sch, rewards, none)
  | .answer i probability =>
    let (sch, rewards) := sch.receiveAction rewards i probability
    (sch, rewards, none)
  | .record pathID packetNumber => (sch.record pathID packetNumber, rewards, none)
  | .reward pathID lastRcvdPacketNumber reward =>
    let (rewards, submitted) := sch.getStateAndReward rewards pathID lastRcvdPacketNumber reward
    (sch, rewards, submitted)

/-- The action whose entry an event looks at and changes. -/
def key (sch : SacScheduler σ) : TableEvent σ → ℚ
  | .observe _ => sch.currentProb
  | .answer _ probability => probability.getD 0
  | .record .. => 0
  | .reward pathID lastRcvdPacketNumber _ => sch.oldAction pathID lastRcvdPacketNumber

/-- What an event makes of the entry it looks at. -/
def stepEntry (sch : SacScheduler σ) (e : TableEvent σ) (entry : Option (SacPayload σ)) :
    SacScheduler σ × Option (SacPayload σ) × Option (SacPayload σ) :=
  let (sch', rewards, submitted) := sch.step (fun _ => entry) e
  (sch', rewards (sch.key e), submitted)

/-- **An event is about one entry of the table.** -/
theorem step_eq (sch : SacScheduler σ) (rewards : RewardTable σ) (e : TableEvent σ) :
    sch.step rewards e =
      let (sch', entry, submitted) := sch.stepEntry e (rewards (sch.key e))
      (sch', update rewards (sch.key e) entry, submitted) := by
  cases e with
  | observe stateData =>
    rw [stepEntry, step, step, observe, observe, key]
    split_ifs with hzero hone hcount
    · dsimp only
      rw [update_eq_self]
    · dsimp only
      rw [update_eq_self]
    · cases hentry : rewards sch.currentProb with
      | none =>
        dsimp only
        rw [← hentry, update_eq_self]
      | some rewardPayload =>
        dsimp only
        split_ifs
        · dsimp only
          rw [← hentry, update_eq_self]
        · dsimp only
          rw [update_self]
    · dsimp only
      rw [update_eq_self]
  | answer i probability =>
    rw [stepEntry, step, step, receiveAction, receiveAction, key]
    cases sch.requests[i]? with
    | none =>
      dsimp only
      rw [update_eq_self]
    | some state =>
      cases probability with
      | none =>
        dsimp only
        rw [update_eq_self]
      | some currentProb =>
        dsimp only [Option.getD_some]
        rw [update_self]
  | record pathID packetNumber =>
    rw [stepEntry, step, step, key]
    dsimp only
    rw [update_eq_self]
  | reward pathID n reward =>
    rw [stepEntry, step, step, getStateAndReward, getStateAndReward, key, ownPayload, ownPayload]
    cases hown : (rewards (sch.oldAction pathID n)).filter (·.kind = sch.kind) with
    | none =>
      dsimp only
      rw [update_eq_self]
    | some rewardPayload =>
      dsimp only
      split_ifs
      · dsimp only
        rw [update_self]
      · dsimp only
        rw [update_self]

variable {e : TableEvent σ}

/-- Only an answer makes a new entry. -/
theorem stepEntry_none (sch : SacScheduler σ) (he : ∀ i p, e ≠ .answer i (some p)) :
    (sch.stepEntry e none).2.1 = none := by
  cases e with
  | observe stateData =>
    rw [stepEntry, step, observe]
    split_ifs <;> rfl
  | answer i probability =>
    cases probability with
    | some p => exact absurd rfl (he i p)
    | none =>
      rw [stepEntry, step, receiveAction]
      cases sch.requests[i]? <;> rfl
  | record pathID packetNumber => rfl
  | reward pathID n reward => rfl

theorem step_of_ne (sch : SacScheduler σ) (rewards : RewardTable σ) {p : ℚ} (hp : p ≠ sch.key e) :
    (sch.step rewards e).2.1 p = rewards p := by
  rw [step_eq]
  exact update_of_ne hp _ _

/-- Without an entry to look at, the table stays as it is. -/
theorem step_of_none (sch : SacScheduler σ) {rewards : RewardTable σ}
    (he : ∀ i p, e ≠ .answer i (some p)) (hnone : rewards (sch.key e) = none) :
    (sch.step rewards e).2.1 = rewards := by
  have hentry := sch.stepEntry_none he
  rw [step_eq, hnone]
  dsimp only
  rw [hentry, ← hnone, update_eq_self]

/-- Tables that agree on the entry looked at make no difference. -/
theorem step_congr (sch : SacScheduler σ) {rewards rewards' : RewardTable σ}
    (hkey : rewards' (sch.key e) = rewards (sch.key e)) :
    (sch.step rewards' e).1 = (sch.step rewards e).1 ∧
      (sch.step rewards' e).2.2 = (sch.step rewards e).2.2 ∧
      ∀ p, rewards' p = rewards p → (sch.step rewards' e).2.1 p = (sch.step rewards e).2.1 p := by
  rw [step_eq sch rewards', step_eq sch rewards, hkey]
  refine ⟨rfl, rfl, ?_⟩
  intro p hp
  dsimp only
  by_cases hpkey : p = sch.key e
  · rw [hpkey, update_self, update_self]
  · rw [update_of_ne hpkey, update_of_ne hpkey, hp]

theorem kind_step (sch : SacScheduler σ) (rewards : RewardTable σ) (e : TableEvent σ) :
    (sch.step rewards e).1.kind = sch.kind := by
  cases e with
  | observe stateData =>
    rw [step, observe]
    split_ifs
    · rfl
    · rfl
    · cases rewards sch.currentProb with
      | none => rfl
      | some rewardPayload =>
        dsimp only
        split_ifs <;> rfl
    · rfl
  | answer i probability =>
    rw [step, receiveAction]
    cases sch.requests[i]? with
    | none => rfl
    | some state => cases probability <;> rfl
  | record pathID packetNumber =>
    rw [step, record]
    split_ifs <;> rfl
  | reward pathID n reward => rfl

/-- All actions of a session are 0, 1 or among those in `X`. -/
structure ActsWithin (sch : SacScheduler σ) (X : ℚ → Prop) : Prop where
  currentProb : sch.currentProb = 0 ∨ sch.currentProb = 1 ∨ X sch.currentProb
  listAction : ∀ pathID packetNumber action, sch.listAction pathID packetNumber = some action →
    action = 0 ∨ action = 1 ∨ X action

variable {sch : SacScheduler σ} {X : ℚ → Prop}

theorem ActsWithin.key (h : sch.ActsWithin X) (he : ∀ i p, e = .answer i (some p) → X p) :
    sch.key e = 0 ∨ sch.key e = 1 ∨ X (sch.key e) := by
  cases e with
  | observe stateData => exact h.currentProb
  | answer i probability =>
    cases probability with
    | none => exact .inl rfl
    | some p => exact .inr (.inr (he i p rfl))
  | record pathID packetNumber => exact .inl rfl
  | reward pathID n reward =>
    rw [SacScheduler.key, oldAction]
    cases haction : sch.listAction pathID n with
    | none => exact .inl rfl
    | some action => exact h.listAction pathID n action haction

theorem ActsWithin.record (h : sch.ActsWithin X) (pathID packetNumber : Nat) :
    (sch.record pathID packetNumber).ActsWithin X := by
  rw [SacScheduler.record]
  split_ifs
  · refine ⟨h.currentProb, ?_⟩
    intro id n action haction
    dsimp only at haction
    by_cases hid : id = pathID
    · subst hid
      rw [update_self] at haction
      by_cases hn : n = packetNumber
      · subst hn
        rw [update_self, Option.some_inj] at haction
        rw [← haction]
        exact h.currentProb
      · rw [update_of_ne hn] at haction
        exact h.listAction id n action haction
    · rw [update_of_ne hid] at haction
      exact h.listAction id n action haction
  · exact h

/-- A session only takes actions that it was given in an answer, besides 0 and 1. -/
theorem ActsWithin.step (h : sch.ActsWithin X) (rewards : RewardTable σ)
    (he : ∀ i p, e = .answer i (some p) → X p) : (sch.step rewards e).1.ActsWithin X := by
  cases e with
  | observe stateData =>
    rw [SacScheduler.step, observe]
    split_ifs
    · exact ⟨.inr (.inl rfl), h.listAction⟩
    · exact h
    · cases rewards sch.currentProb with
      | none => exact ⟨h.currentProb, h.listAction⟩
      | some rewardPayload =>
        dsimp only
        split_ifs
        · exact h
        · exact ⟨h.currentProb, h.listAction⟩
    · exact ⟨h.currentProb, h.listAction⟩
  | answer i probability =>
    rw [SacScheduler.step, receiveAction]
    cases sch.requests[i]? with
    | none => exact h
    | some state =>
      cases probability with
      | none => exact ⟨h.currentProb, h.listAction⟩
      | some p => exact ⟨.inr (.inr (he i p rfl)), h.listAction⟩
  | record pathID packetNumber => exact h.record pathID packetNumber
  | reward pathID n reward => exact h

end SacScheduler

/-! ## Two sessions -/

/-- The two sessions. -/
inductive Side
  | a | b
  deriving DecidableEq, Repr

/-- Their schedulers, what they share, and the payloads they have submitted. -/
structure Sessions where
  scheduler : Side → SacScheduler SacState
  rewards : RewardTable SacState
  /-- `multiclients.S2`; an entry is a pointer until its session refreshes it. -/
  s2 : Side → Option (Option StateMulti)
  submitted : Side → List (SacPayload SacState)

/-- What happens in a session: the server puts it into `multiclients.S2` or removes it, a selection
among two paths, the answer to a request, a packet sent, and the reward for an ACK. -/
inductive SessionEvent
  | register
  | unregister
  | select (m : Measured)
  | answer (i : Nat) (probability : Option ℚ)
  | send (pathID packetNumber : Nat)
  | ack (pathID lastRcvdPacketNumber : Nat) (reward : ℚ)
  deriving DecidableEq

namespace Sessions

/-- Two new sessions; no other session has used the tables. -/
def new (kind : Side → RewardPayload) (modelID : Side → Nat) : Sessions where
  scheduler side := { kind := kind side, modelID := modelID side }
  rewards _ := none
  s2 _ := none
  submitted _ := []

/-- An event of the scheduler of a session. -/
def withTable (s : Sessions) (side : Side) (e : TableEvent SacState) : Sessions :=
  let (sch, rewards, submitted) := (s.scheduler side).step s.rewards e
  { s with
    scheduler := update s.scheduler side sch
    rewards
    submitted := update s.submitted side (s.submitted side ++ submitted.toList) }

/-- A change of the entry of a session in `multiclients.S2`. -/
def setS2 (s : Sessions) (side : Side) (entry : Option (Option StateMulti)) : Sessions :=
  { s with s2 := update s.s2 side entry }

/-- The beginning of `selectPathSACMulti`: a session in `multiclients.S2` refreshes its entry. -/
def refresh (s : Sessions) (side : Side) (m : Measured) : Sessions :=
  if (s.s2 side).isSome then s.setS2 side (some (some m.own)) else s

/-- The state that a session observes. -/
def stateData (s : Sessions) (side : Side) (m : Measured) : SacState :=
  match (s.scheduler side).kind with
  | .dqn => .dqn m.stateDQN
  | .sacMulti => .multi (m.stateSACMulti [s.s2 .a, s.s2 .b].reduceOption)

/-- The sessions after an event. -/
def apply (s : Sessions) : Side × SessionEvent → Sessions
  | (side, .register) => s.setS2 side (some ((s.s2 side).getD none))
  | (side, .unregister) => s.setS2 side none
  | (side, .select m) =>
    let s := match (s.scheduler side).kind with
      | .dqn => s
      | .sacMulti => s.refresh side m
    s.withTable side (.observe (s.stateData side m))
  | (side, .answer i probability) => s.withTable side (.answer i probability)
  | (side, .send pathID packetNumber) => s.withTable side (.record pathID packetNumber)
  | (side, .ack pathID lastRcvdPacketNumber reward) =>
    s.withTable side (.reward pathID lastRcvdPacketNumber reward)

/-! ## Isolation -/

/-- The model server answers the probability to a request of the session. -/
def Answered (events : List (Side × SessionEvent)) (side : Side) (p : ℚ) : Prop :=
  ∃ i, (side, .answer i (some p)) ∈ events

/-- The answers to the two sessions differ from each other and from 0 and 1, and if the session uses
`sacmulti`, the other one is not in `multiclients.S2`. -/
structure Apart (kind : Side → RewardPayload) (events : List (Side × SessionEvent)) (side : Side) :
    Prop where
  proper : ∀ side p, Answered events side p → p ≠ 0 ∧ p ≠ 1
  distinct : ∀ side' p, side' ≠ side → Answered events side' p → ¬ Answered events side p
  alone : kind side = .dqn ∨ ∀ side', side' ≠ side → (side', .register) ∉ events

/-- The states of a run with the other session and of one without it, where `A` and `B` are the
answers to the session and to the other one. -/
structure Related (A B : ℚ → Prop) (payload : RewardPayload) (side : Side) (s t : Sessions) :
    Prop where
  kind : (s.scheduler side).kind = payload
  scheduler : t.scheduler side = s.scheduler side
  submitted : t.submitted side = s.submitted side
  rewards : ∀ p, ¬ B p → t.rewards p = s.rewards p
  absent : ∀ p, ¬ A p → ¬ B p → s.rewards p = none
  own : (s.scheduler side).ActsWithin A
  other : ∀ side', side' ≠ side → (s.scheduler side').ActsWithin B
  s2 : payload = .dqn ∨ t.s2 = s.s2 ∧ ∀ side', side' ≠ side → s.s2 side' = none

/-- The answers to two sessions: none is 0 or 1, and none is given to both. -/
structure Separate (A B : ℚ → Prop) : Prop where
  proper : ∀ p, A p ∨ B p → p ≠ 0 ∧ p ≠ 1
  distinct : ∀ p, B p → ¬ A p

section
variable {A B : ℚ → Prop} {payload : RewardPayload} {side side' : Side} {s t : Sessions}
  {e : TableEvent SacState}

section

variable (h : Related A B payload side s t)
include h

/-- An event of either session leaves the table without entries for what nobody was answered. -/
theorem Related.absent_step (side' : Side) (he : ∀ i p, e = .answer i (some p) → A p ∨ B p)
    {p : ℚ} (hA : ¬ A p) (hB : ¬ B p) : ((s.scheduler side').step s.rewards e).2.1 p = none := by
  by_cases hkey : p = (s.scheduler side').key e
  · have hanswer : ∀ i q, e ≠ .answer i (some q) := by
      rintro i q rfl
      rcases he i q rfl with hq | hq
      · exact hA (hkey ▸ hq)
      · exact hB (hkey ▸ hq)
    rw [(s.scheduler side').step_of_none hanswer (hkey ▸ h.absent p hA hB)]
    exact h.absent p hA hB
  · rw [(s.scheduler side').step_of_ne s.rewards hkey]
    exact h.absent p hA hB

/-- Both runs take an event of the session. -/
theorem Related.withTable (hsep : Separate A B) (he : ∀ i p, e = .answer i (some p) → A p) :
    Related A B payload side (s.withTable side e) (t.withTable side e) := by
  -- the entry looked at is none of the other session's
  have hkey : ¬ B ((s.scheduler side).key e) := by
    intro hB
    rcases h.own.key he with hk | hk | hk
    · exact (hsep.proper _ (.inr hB)).1 hk
    · exact (hsep.proper _ (.inr hB)).2 hk
    · exact hsep.distinct _ hB hk
  obtain ⟨hscheduler, hsubmitted, hrewards⟩ :=
    (s.scheduler side).step_congr (h.rewards _ hkey)
  rw [Sessions.withTable, Sessions.withTable, h.scheduler]
  constructor
  · dsimp only
    rw [update_self, SacScheduler.kind_step]
    exact h.kind
  · dsimp only
    rw [update_self, update_self, hscheduler]
  · dsimp only
    rw [update_self, update_self, hsubmitted, h.submitted]
  · intro p hp
    exact hrewards p (h.rewards p hp)
  · intro p hA hB
    exact h.absent_step side (fun i p hp => .inl (he i p hp)) hA hB
  · dsimp only
    rw [update_self]
    exact h.own.step s.rewards he
  · intro side' hside'
    dsimp only
    rw [update_of_ne hside']
    exact h.other side' hside'
  · exact h.s2

/-- Only one run takes an event of the other session. -/
theorem Related.withTable_other (hsep : Separate A B) (hside' : side' ≠ side)
    (he : ∀ i p, e = .answer i (some p) → B p) :
    Related A B payload side (s.withTable side' e) t := by
  have hside : side ≠ side' := hside'.symm
  rw [Sessions.withTable]
  constructor
  · dsimp only
    rw [update_of_ne hside]
    exact h.kind
  · dsimp only
    rw [update_of_ne hside]
    exact h.scheduler
  · dsimp only
    rw [update_of_ne hside]
    exact h.submitted
  · intro p hp
    rw [h.rewards p hp]
    by_cases hkey : p = (s.scheduler side').key e
    · -- the entry is that of 0 or 1, and there is none
      have hnot : ¬ A p := by
        intro hA
        rcases (h.other side' hside').key he with hk | hk | hk
        · exact (hsep.proper p (.inl hA)).1 (hkey.trans hk)
        · exact (hsep.proper p (.inl hA)).2 (hkey.trans hk)
        · exact hp (hkey ▸ hk)
      rw [h.absent p hnot hp]
      exact (h.absent_step side' (fun i p hp => .inr (he i p hp)) hnot hp).symm
    · exact ((s.scheduler side').step_of_ne s.rewards hkey).symm
  · intro p hA hB
    exact h.absent_step side' (fun i p hp => .inr (he i p hp)) hA hB
  · dsimp only
    rw [update_of_ne hside]
    exact h.own
  · intro side'' hside''
    dsimp only
    by_cases heq : side'' = side'
    · subst heq
      rw [update_self]
      exact (h.other _ hside'').step s.rewards he
    · rw [update_of_ne heq]
      exact h.other side'' hside''
  · exact h.s2

/-- Both runs change the entry of the session in `multiclients.S2`. -/
theorem Related.setS2 {entry entry' : Option (Option StateMulti)}
    (hentry : t.s2 = s.s2 → entry' = entry) :
    Related A B payload side (s.setS2 side entry) (t.setS2 side entry') := by
  refine ⟨h.kind, h.scheduler, h.submitted, h.rewards, h.absent, h.own, h.other, ?_⟩
  rcases h.s2 with hdqn | ⟨heq, hnone⟩
  · exact .inl hdqn
  · refine .inr ⟨?_, ?_⟩
    · rw [Sessions.setS2, Sessions.setS2, heq, hentry heq]
    · intro side' hside'
      rw [Sessions.setS2]
      dsimp only
      rw [update_of_ne hside']
      exact hnone side' hside'

/-- An entry of the other session only matters for `sacmulti`. -/
theorem Related.setS2_other {entry : Option (Option StateMulti)}
    (hentry : payload = .dqn ∨ entry = s.s2 side') :
    Related A B payload side (s.setS2 side' entry) t := by
  refine ⟨h.kind, h.scheduler, h.submitted, h.rewards, h.absent, h.own, h.other, ?_⟩
  rcases hentry with hdqn | rfl
  · exact .inl hdqn
  · rw [Sessions.setS2, update_eq_self]
    exact h.s2

theorem Related.refresh (hmulti : payload = .sacMulti) (m : Measured) :
    Related A B payload side (s.refresh side m) (t.refresh side m) := by
  have hs2 : t.s2 = s.s2 := by
    rcases h.s2 with hdqn | ⟨heq, -⟩
    · rw [hmulti] at hdqn
      cases hdqn
    · exact heq
  rw [Sessions.refresh, Sessions.refresh, hs2]
  split_ifs
  · exact h.setS2 fun _ => rfl
  · exact h

theorem Related.refresh_other (hside' : side' ≠ side) (m : Measured) :
    Related A B payload side (s.refresh side' m) t := by
  rw [Sessions.refresh]
  split_ifs with hsome
  · refine h.setS2_other ?_
    rcases h.s2 with hdqn | ⟨-, hnone⟩
    · exact .inl hdqn
    · rw [hnone side' hside'] at hsome
      cases hsome
  · exact h

/-- The session observes the same state in both runs. -/
theorem Related.stateData (m : Measured) : t.stateData side m = s.stateData side m := by
  rw [Sessions.stateData, Sessions.stateData, h.scheduler, h.kind]
  cases payload with
  | dqn => rfl
  | sacMulti =>
    rcases h.s2 with hdqn | ⟨heq, -⟩
    · cases hdqn
    · rw [heq]

/-- An event of the session. -/
theorem Related.apply (hsep : Separate A B) {e : SessionEvent}
    (he : ∀ i p, e = .answer i (some p) → A p) :
    Related A B payload side (s.apply (side, e)) (t.apply (side, e)) := by
  cases e with
  | register =>
    refine h.setS2 fun heq => ?_
    rw [heq]
  | unregister => exact h.setS2 fun _ => rfl
  | select m =>
    rw [Sessions.apply, Sessions.apply, h.scheduler, h.kind]
    cases payload with
    | dqn =>
      rw [h.stateData]
      exact h.withTable hsep (fun _ _ hanswer => by cases hanswer)
    | sacMulti =>
      have hrefreshed := h.refresh rfl m
      rw [hrefreshed.stateData]
      exact hrefreshed.withTable hsep (fun _ _ hanswer => by cases hanswer)
  | answer i probability =>
    refine h.withTable hsep (e := .answer i probability) fun j p hanswer => he j p ?_
    cases hanswer
    rfl
  | send pathID packetNumber =>
    exact h.withTable hsep (e := .record pathID packetNumber) (fun _ _ hanswer => by cases hanswer)
  | ack pathID n reward =>
    exact h.withTable hsep (e := .reward pathID n reward) (fun _ _ hanswer => by cases hanswer)

/-- An event of the other session. -/
theorem Related.apply_other (hsep : Separate A B) (hside' : side' ≠ side) {e : SessionEvent}
    (he : ∀ i p, e = .answer i (some p) → B p) (halone : payload = .dqn ∨ e ≠ .register) :
    Related A B payload side (s.apply (side', e)) t := by
  cases e with
  | register => exact h.setS2_other (.inl (halone.resolve_right fun hne => hne rfl))
  | unregister =>
    refine h.setS2_other ?_
    rcases h.s2 with hdqn | ⟨-, hnone⟩
    · exact .inl hdqn
    · exact .inr (hnone side' hside').symm
  | select m =>
    rw [Sessions.apply]
    cases (s.scheduler side').kind with
    | dqn => exact h.withTable_other hsep hside' (fun _ _ hanswer => by cases hanswer)
    | sacMulti =>
      exact (h.refresh_other hside' m).withTable_other hsep hside'
        (fun _ _ hanswer => by cases hanswer)
  | answer i probability =>
    refine h.withTable_other hsep hside' (e := .answer i probability)
      fun j p hanswer => he j p ?_
    cases hanswer
    rfl
  | send pathID packetNumber =>
    exact h.withTable_other hsep hside' (e := .record pathID packetNumber)
      (fun _ _ hanswer => by cases hanswer)
  | ack pathID n reward =>
    exact h.withTable_other hsep hside' (e := .reward pathID n reward)
      (fun _ _ hanswer => by cases hanswer)

end

end

theorem related_new (A B : ℚ → Prop) (kind : Side → RewardPayload) (modelID : Side → Nat)
    (side : Side) : Related A B (kind side) side (new kind modelID) (new kind modelID) where
  kind := rfl
  scheduler := rfl
  submitted := rfl
  rewards _ _ := rfl
  absent _ _ _ := rfl
  own := ⟨.inl rfl, fun _ _ _ haction => by cases haction⟩
  other _ _ := ⟨.inl rfl, fun _ _ _ haction => by cases haction⟩
  s2 := .inr ⟨rfl, fun _ _ => rfl⟩

/-- **Sessions are isolated** if the model server never gives both the same answer, nor 0 or 1 to
one of them, and a session that uses `sacmulti` does not find the other one in `multiclients.S2`:
what a session submits is what it submits if the other one does nothing. -/
theorem submissions_isolated (kind : Side → RewardPayload) (modelID : Side → Nat)
    (events : List (Side × SessionEvent)) (side : Side) (h : Apart kind events side) :
    (events.foldl apply (new kind modelID)).submitted side =
      ((events.filter (·.1 = side)).foldl apply (new kind modelID)).submitted side := by
  let A : ℚ → Prop := Answered events side
  let B : ℚ → Prop := fun p => ∃ side', side' ≠ side ∧ Answered events side' p
  have hsep : Separate A B := by
    constructor
    · rintro p (hp | ⟨side', -, hp⟩)
      · exact h.proper side p hp
      · exact h.proper side' p hp
    · rintro p ⟨side', hside', hp⟩
      exact h.distinct side' p hside' hp
  suffices hrelated : Related A B (kind side) side (events.foldl apply (new kind modelID))
      ((events.filter (·.1 = side)).foldl apply (new kind modelID)) from hrelated.submitted.symm
  refine Machine.unwinding ?_ ?_ (related_new A B kind modelID side)
  · rintro s t ⟨side', e⟩ hmem hvisible hst
    obtain rfl : side' = side := of_decide_eq_true hvisible
    refine hst.apply hsep ?_
    rintro i p rfl
    exact ⟨i, hmem⟩
  · rintro s t ⟨side', e⟩ hmem hother hst
    have hside' : side' ≠ side := of_decide_eq_false hother
    refine hst.apply_other hsep hside' ?_ ?_
    · rintro i p rfl
      exact ⟨side', hside', i, hmem⟩
    · rcases h.alone with hdqn | hnever
      · exact .inl hdqn
      · refine .inr ?_
        rintro rfl
        exact hnever side' hside' hmem

/-! ## Two runs of sessions with `sac` -/

/-- Measured values. -/
def measured : Measured :=
  { own := { fRTT := 0, sRTT := 0, fCWND := 0, sCWND := 0, fInP := 0, sInP := 0 }
    sRTTf := 0, sRTTs := 0 }

/-- A session asks for an action, is answered `p`, sends a packet and is rewarded for `n` ACKs. -/
def rewarded (side : Side) (p : ℚ) (n : Nat) : List (Side × SessionEvent) :=
  [(side, .select measured), (side, .answer 0 (some p)), (side, .send 1 7)] ++
    List.replicate n (side, .ack 1 7 1)

theorem eq_of_answered_rewarded {side side' : Side} {p q : ℚ} {n : Nat}
    (h : Answered (rewarded side p n) side' q) : side' = side ∧ q = p := by
  obtain ⟨i, hmem⟩ := h
  rcases List.mem_append.mp hmem with hmem | hmem
  · simp only [List.mem_cons, Prod.mk.injEq, reduceCtorEq, and_false, false_or, or_false,
      SessionEvent.answer.injEq, Option.some_inj, List.not_mem_nil] at hmem
    exact ⟨hmem.1, hmem.2.2⟩
  · cases (List.mem_replicate.mp hmem).2

/-- Both sessions use `sac`. -/
def twoSac : Sessions := new (fun _ => .dqn) (fun side => if side = .a then 1 else 2)

/-- With different answers, session A submits the mean of its nine rewards. -/
theorem different_answers_isolated :
    let events := rewarded .b (1 / 3) 1 ++ rewarded .a (1 / 2) 9
    Apart (fun _ => .dqn) events .a ∧
      ((events.foldl apply twoSac).submitted .a).map (·.reward) = [1 / 2] ∧
      (events.foldl apply twoSac).submitted .a =
        ((events.filter (·.1 = .a)).foldl apply twoSac).submitted .a := by
  intro events
  have hanswers : ∀ side p, Answered events side p →
      side = .a ∧ p = 1 / 2 ∨ side = .b ∧ p = 1 / 3 := by
    rintro side p ⟨i, hmem⟩
    rcases List.mem_append.mp hmem with hmem | hmem
    · exact .inr (eq_of_answered_rewarded ⟨i, hmem⟩)
    · exact .inl (eq_of_answered_rewarded ⟨i, hmem⟩)
  have hapart : Apart (fun _ => .dqn) events .a := by
    refine ⟨?_, ?_, .inl rfl⟩
    · intro side p hp
      rcases hanswers side p hp with ⟨-, rfl⟩ | ⟨-, rfl⟩
      · decide +kernel
      · decide +kernel
    · intro side' p hside' hp hp'
      rcases hanswers side' p hp with ⟨rfl, -⟩ | ⟨rfl, rfl⟩
      · exact hside' rfl
      · rcases hanswers .a _ hp' with ⟨-, heq⟩ | ⟨hside, -⟩
        · exact absurd heq (by decide +kernel)
        · cases hside
  exact ⟨hapart, by decide +kernel, submissions_isolated _ _ events .a hapart⟩

/-- If both sessions are answered 1/2, the answer to session B replaces the payload of session A: A
submits nothing after the nine ACKs for which it would submit a payload on its own. -/
theorem same_answer_shares_payload :
    let events := rewarded .a (1 / 2) 8 ++ rewarded .b (1 / 2) 0 ++ [(.a, .ack 1 7 1)]
    (events.foldl apply twoSac).submitted .a = [] ∧
      (((events.filter (·.1 = .a)).foldl apply twoSac).submitted .a).map
        (fun payload => (payload.modelID, payload.reward)) = [(1, 1 / 2)] := by
  decide +kernel

end Sessions
end MpQuic
