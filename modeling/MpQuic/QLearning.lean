import Mathlib.Algebra.Order.Ring.Abs
import Mathlib.Tactic.Linarith
import MpQuic.SacLearning

/-!
# Q-learning (`scheduler_dl.go`)

The schedulers `qsat`, `fuzzyqsat` and `multiclients` learn a table of values with a row
for a state and a column for each of two actions.  An ACK for a path gives a reward for
the action whose column belongs to that path: 0 for the path with the lower ID, and 1
for the other one.

The values are exact rationals.  What the rows are found by, rates and send windows, is
compared with thresholds as floating point numbers, as in the selection of a path.
-/
namespace MpQuic
open Function Session Systems

/-- A table of values, for rows of type `ρ`. -/
abbrev QTable (ρ : Type) := ρ → Nat → ℚ

namespace QTable
variable {ρ : Type} [DecidableEq ρ]

/-- A new value. -/
def set (q : QTable ρ) (row : ρ) (col : Nat) (value : ℚ) : QTable ρ :=
  update q row (update (q row) col value)

/-- `maxNextState`: the value of the best action of a row. -/
def best (q : QTable ρ) (row : ρ) : ℚ := if q row 0 > q row 1 then q row 0 else q row 1

end QTable

/-- The levels of the sending rates in a state of `multiclients`: of the two paths, and of the two
paths of the other sessions. -/
structure MultiLevels where
  f : Nat
  s : Nat
  fr : Nat
  sr : Nat
  deriving DecidableEq, Repr

/-- What the Q-learning schedulers learn with.  Values that are only recorded (`preRTT`, `iRTT`,
`record`, the counters of states) are left out. -/
structure QLearner where
  alpha : ℚ
  beta : ℚ
  gamma : ℚ
  delta : ℚ
  adaDivisor : ℚ
  -- `qsat`; a packet without an entry has 0
  qstate : Nat → Float
  qoldState : Nat → Nat → Float := fun _ _ => 0
  qqtable : QTable Nat := fun _ _ => 0
  -- `fuzzyqsat`
  clvState : Nat → Float
  qtable : QTable (Nat × Nat) := fun _ _ => 0
  -- `multiclients`, with the table that all sessions share
  clvState2 : Nat → Float
  listState : Nat → Nat → Option MultiLevels := fun _ _ => none
  multiQtable : QTable MultiLevels := fun _ _ => 0
  currentState : MultiLevels := ⟨0, 0, 0, 0⟩

namespace QLearner
variable {κ : Type} [SendAlgorithm κ]

/-! ## Rewards of paths -/

/-- `cwndlevel`: how full the congestion window of a path is. -/
def cwndLevel (s : Session κ) (pathID : Nat) : ℚ :=
  match s.paths.lookup pathID with
  | none => 0
  | some pth =>
    let cwnd := SendAlgorithm.getCongestionWindow pth.sentPacketHandler.congestion
    if cwnd ≠ 0 then (pth.sentPacketHandler.bytesInFlight : ℚ) / cwnd else 1

/-- `reWard` of `qsat` and `fuzzyqsat` for a path. -/
def reward (l : QLearner) (s : Session κ) (pathID : Nat) : ℚ :=
  let (packetNumber, retransNumber) := ((s.paths.lookup pathID).map fun pth =>
    (pth.sentPacketHandler.packets, pth.sentPacketHandler.retransmissions)).getD (0, 0)
  let reward := (1 - l.alpha - l.beta) * cwndLevel s pathID -
    l.alpha * (normalizeTimes (s.latestRTTOf pathID) / 50)
  if 0 < packetNumber then reward - l.beta * (5 * retransNumber / packetNumber) else reward

/-- `reWard` of `multiclients` for a path. -/
def rewardMulti (l : QLearner) (s : Session κ) (pathID : Nat) : ℚ :=
  (1 - l.adaDivisor) * cwndLevel s pathID - l.alpha * normalizeTimes (s.latestRTTOf pathID)

/-- The iteration over the paths other than the initial one at the time of a reward. -/
def observedPaths (s : Session κ) (env : Env) : List Nat :=
  (env.order 30 s.paths.keys).filter (· ≠ initialPathID)

/-- `firstPath` and `secondPath` at the time of a reward. -/
def firstAndSecond (s : Session κ) (env : Env) : Nat × Nat :=
  firstAndSecondPath (observedPaths s env)

/-- `col`: the action that a reward on a path is for. -/
def column (s : Session κ) (env : Env) (pathID : Nat) : Nat :=
  if pathID = (firstAndSecond s env).1 then 0 else 1

/-- The path of `firstPath` and `secondPath` whose reward decides whether there is an update. -/
def decisive (s : Session κ) (env : Env) (pathID : Nat) : Nat :=
  if pathID = (firstAndSecond s env).1 then (firstAndSecond s env).1 else (firstAndSecond s env).2

/-- `reWard[pth.pathID]`; only the first and the second path have rewards. -/
def rewardOf (reward : Nat → ℚ) (s : Session κ) (env : Env) (pathID : Nat) : ℚ :=
  if pathID = (firstAndSecond s env).1 ∨ pathID = (firstAndSecond s env).2 then reward pathID else 0

/-- `newValue`. -/
def newValue (l : QLearner) (old reward maxNextState : ℚ) : ℚ :=
  (1 - l.delta) * old + l.delta * (reward + l.gamma * maxNextState)

/-! ## Updates -/

/-- `GetStateAndRewardQSAT`.  The entry of the packet is deleted even if there is no reward. -/
def getStateAndRewardQSAT (l : QLearner) (s : Session κ) (pth : Path κ) (env : Env) : QLearner :=
  let n := pth.lastRcvdPacketNumber
  let oldBSend := l.qoldState pth.pathID n
  let states := update (l.qoldState pth.pathID) n 0
  let l := { l with qoldState := update l.qoldState pth.pathID states }
  if l.reward s (decisive s env pth.pathID) = 0 then l
  else
    let bSend₁ := Float32.ofNat s.bSend / (Float32.ofNat defaultMaxCongestionWindow * 300)
    let ro := level 7 fun i => bSend₁.toFloat < l.qstate i
    let ro₁ := level 7 fun i => oldBSend < l.qstate i
    let col := column s env pth.pathID
    let reward := rewardOf (l.reward s) s env pth.pathID
    let newValue := l.newValue (l.qqtable ro₁ col) reward (l.qqtable.best ro)
    { l with qqtable := l.qqtable.set ro₁ col newValue }

/-- `GetStateAndRewardQlearning`. -/
def getStateAndRewardQlearning (l : QLearner) (s : Session κ) (pth : Path κ) (env : Env) :
    QLearner :=
  if l.reward s (decisive s env pth.pathID) = 0 then l
  else
    let (firstPath, secondPath) := firstAndSecond s env
    let (f, s') := s.sendingRatesOf firstPath secondPath
    let fLevel := level 4 fun i => f < l.clvState i
    let sLevel := level 4 fun i => s' < l.clvState i
    let old := (l.currentState.f, l.currentState.s)
    let col := column s env pth.pathID
    let reward := rewardOf (l.reward s) s env pth.pathID
    let newValue := l.newValue (l.qtable old col) reward (l.qtable.best (fLevel, sLevel))
    { l with
      qtable := l.qtable.set old col newValue
      currentState := { l.currentState with f := fLevel, s := sLevel } }

/-- The levels of the sending rates that `GetStateAndRewardMultiClients` finds. -/
def multiLevels (l : QLearner) (s : Session κ) (s2 : List (Option StateMulti)) (env : Env) :
    MultiLevels :=
  let (firstPath, secondPath) := firstAndSecond s env
  let (f, s') := s.sendingRatesOf firstPath secondPath
  let fr := othersRate s2 (fun e => sendingRate e.fCWND e.fRTT e.sCWND e.sRTT) f
  let sr := othersRate s2 (fun e => sendingRate e.sCWND e.sRTT e.fCWND e.fRTT) s'
  { f := level 4 fun i => f < l.clvState i
    s := level 4 fun i => s' < l.clvState i
    fr := level 4 fun i => fr < l.clvState2 i
    sr := level 4 fun i => sr ≥ l.clvState2 i }

/-- The state recorded for the packet of ours that has the number of the last packet received. -/
def recordedState (l : QLearner) (pth : Path κ) : MultiLevels :=
  (l.listState pth.pathID pth.lastRcvdPacketNumber).getD ⟨0, 0, 0, 0⟩

/-- The end of the updates of `multiclients`, which take the old value from the row of the current
state and put the new one into the row of the recorded state. -/
def updateMulti (l : QLearner) (s : Session κ) (pth : Path κ) (env : Env) (reward : Nat → ℚ)
    (next : MultiLevels) : QLearner :=
  let col := column s env pth.pathID
  let reward := rewardOf reward s env pth.pathID
  let newValue := l.newValue (l.multiQtable l.currentState col) reward (l.multiQtable.best next)
  { l with multiQtable := l.multiQtable.set (l.recordedState pth) col newValue }

/-- `GetStateAndRewardMultiClients`, with `multiclients.S2`. -/
def getStateAndRewardMultiClients (l : QLearner) (s2 : List (Option StateMulti)) (s : Session κ)
    (pth : Path κ) (env : Env) : QLearner :=
  if l.rewardMulti s (decisive s env pth.pathID) = 0 then l
  else l.updateMulti s pth env (l.rewardMulti s) (l.multiLevels s s2 env)

/-- `GetStateAndRewardMultiClientsRetrans`. -/
def getStateAndRewardMultiClientsRetrans (l : QLearner) (s : Session κ) (pth : Path κ) (env : Env) :
    QLearner :=
  l.updateMulti s pth env (fun _ => -l.beta) (l.recordedState pth)

/-- The end of `handleAckFrame`, for a path other than the initial one: whether the ACK has made
packets lost decides about the reward of `multiclients`. -/
def handleAck (l : QLearner) (name : SchedulerName) (s2 : List (Option StateMulti)) (s : Session κ)
    (pth : Path κ) (lost : Bool) (env : Env) : QLearner :=
  match name with
  | .qsat => l.getStateAndRewardQSAT s pth env
  | .fuzzyqsat => l.getStateAndRewardQlearning s pth env
  | .multiclients =>
    if (l.listState pth.pathID pth.lastRcvdPacketNumber).isSome then
      if lost then l.getStateAndRewardMultiClientsRetrans s pth env
      else l.getStateAndRewardMultiClients s2 s pth env
    else l
  | _ => l

/-! ## Bounded values -/

/-- The values are at most `B`, and a reward of at most `R` does not lead beyond that. -/
structure Bounded (R B : ℚ) (l : QLearner) : Prop where
  beta : |l.beta| ≤ R
  gamma : 0 ≤ l.gamma ∧ R + l.gamma * B ≤ B
  delta : 0 ≤ l.delta ∧ l.delta ≤ 1
  qqtable : ∀ row col, |l.qqtable row col| ≤ B
  qtable : ∀ row col, |l.qtable row col| ≤ B
  multiQtable : ∀ row col, |l.multiQtable row col| ≤ B

/-- The rewards of the paths are at most `R`. -/
def Moderate (R : ℚ) (l : QLearner) (s : Session κ) : Prop :=
  ∀ id, |l.reward s id| ≤ R ∧ |l.rewardMulti s id| ≤ R

variable {l : QLearner} {R B : ℚ}

section
variable (hl : l.Bounded R B) {s : Session κ} (pth : Path κ) (env : Env)
include hl

/-- The new value is a mean of the old one and of a reward with what is expected after it. -/
theorem Bounded.newValue {old r next : ℚ} (hold : |old| ≤ B) (hr : |r| ≤ R) (hnext : |next| ≤ B) :
    |l.newValue old r next| ≤ B := by
  have htarget : |r + l.gamma * next| ≤ B :=
    calc |r + l.gamma * next| ≤ |r| + |l.gamma * next| := abs_add_le _ _
      _ = |r| + l.gamma * |next| := by rw [abs_mul, abs_of_nonneg hl.gamma.1]
      _ ≤ R + l.gamma * B := add_le_add hr (mul_le_mul_of_nonneg_left hnext hl.gamma.1)
      _ ≤ B := hl.gamma.2
  rw [abs_le] at hold htarget ⊢
  rw [QLearner.newValue]
  constructor <;> nlinarith [hl.delta]

/-- A new value from any two rows keeps a table bounded. -/
theorem Bounded.set {ρ : Type} [DecidableEq ρ] {q : QTable ρ} {r : ℚ}
    (hq : ∀ row col, |q row col| ≤ B) (hr : |r| ≤ R) (old next row : ρ) (col : Nat) (row' : ρ)
    (col' : Nat) :
    |q.set row col (l.newValue (q old col) r (q.best next)) row' col'| ≤ B := by
  have hbest : |q.best next| ≤ B := by
    rw [QTable.best]
    split <;> exact hq ..
  rw [QTable.set, update_apply]
  split
  · rw [update_apply]
    split
    · exact hl.newValue (hq ..) hr hbest
    · exact hq ..
  · exact hq ..

omit [SendAlgorithm κ] in
theorem Bounded.rewardOf {reward : Nat → ℚ} (h : ∀ id, |reward id| ≤ R) (pathID : Nat) :
    |rewardOf reward s env pathID| ≤ R := by
  rw [QLearner.rewardOf]
  split
  · exact h pathID
  · exact abs_zero.trans_le ((abs_nonneg _).trans hl.beta)

omit [SendAlgorithm κ] in
theorem Bounded.updateMulti {reward : Nat → ℚ} (h : ∀ id, |reward id| ≤ R) (next : MultiLevels) :
    (l.updateMulti s pth env reward next).Bounded R B :=
  { hl with multiQtable := hl.set hl.multiQtable (hl.rewardOf env h _) _ _ _ _ }

omit [SendAlgorithm κ] in
theorem Bounded.retransmission : (l.getStateAndRewardMultiClientsRetrans s pth env).Bounded R B :=
  hl.updateMulti pth env (fun _ => (abs_neg _).trans_le hl.beta) _

/-- An update keeps the values within the bound, being a mean of the old value and a bounded target.
-/
theorem Bounded.handleAck (hs : l.Moderate R s) (name : SchedulerName)
    (s2 : List (Option StateMulti)) (lost : Bool) :
    (l.handleAck name s2 s pth lost env).Bounded R B := by
  have hreward := hl.rewardOf (s := s) env (fun id => (hs id).1) pth.pathID
  rw [handleAck.eq_def]
  cases name with
  | qsat =>
    dsimp only
    rw [getStateAndRewardQSAT]
    split_ifs
    · exact { hl with }
    · exact { hl with qqtable := hl.set hl.qqtable hreward _ _ _ _ }
  | fuzzyqsat =>
    dsimp only
    rw [getStateAndRewardQlearning]
    split_ifs
    · exact hl
    · exact { hl with qtable := hl.set hl.qtable hreward _ _ _ _ }
  | multiclients =>
    split_ifs
    · exact hl.retransmission pth env
    · rw [getStateAndRewardMultiClients]
      split_ifs
      · exact hl
      · exact hl.updateMulti pth env (fun id => (hs id).2) _
    · exact hl
  | _ => exact hl

end

/-- An ACK, a packet that `getRetransmission` takes, or the selection of paths and other sessions
with the shared table: the values they leave. -/
inductive Lesson (κ : Type)
  | ack (name : SchedulerName) (s2 : List (Option StateMulti)) (s : Session κ) (pth : Path κ)
      (lost : Bool) (env : Env)
  | retransmission (s : Session κ) (pth : Path κ) (env : Env)
  | others (o : QLearner)

/-- The runs of a learner, with rewards up to `R` and values of other sessions up to `B`. -/
def machine (κ : Type) [SendAlgorithm κ] (R B : ℚ) (l₀ : QLearner) :
    Machine QLearner (Lesson κ) where
  init l := l = l₀
  step l lesson l' := match lesson with
    | .ack name s2 s pth lost env =>
      l.Moderate R s ∧ l' = l.handleAck name s2 s pth lost env
    | .retransmission s pth env => l' = l.getStateAndRewardMultiClientsRetrans s pth env
    | .others o => (∀ row col, |o.multiQtable row col| ≤ B) ∧
      l' = { l with qoldState := o.qoldState, listState := o.listState
                    multiQtable := o.multiQtable, currentState := o.currentState }

/-- **The values stay bounded**, whatever the schedulers learn from. -/
theorem values_bounded {l₀ : QLearner} (h : (machine κ R B l₀).Reach Machine.Always l)
    (h₀ : l₀.Bounded R B) : l.Bounded R B := by
  refine h.invariant (P := Bounded R B) (fun _ hl => hl ▸ h₀) ?_
  intro l lesson l' hl _ hstep
  cases lesson with
  | ack name s2 s pth lost env => exact hstep.2 ▸ hl.handleAck pth env hstep.1 name s2 lost
  | retransmission s pth env => exact hstep ▸ hl.retransmission pth env
  | others o => exact hstep.2 ▸ { hl with multiQtable := hstep.1 }

/-- A learner with empty tables. -/
def sample : QLearner :=
  { alpha := 0, beta := 1, gamma := 1 / 2, delta := 1 / 2, adaDivisor := 1
    qstate _ := 0, clvState _ := 0, clvState2 _ := 0 }

/-- A path of the sample session. -/
def samplePath (pathID : Nat) : Path FixedWindow :=
  .setup pathID (sampleAddr 1 443) (sampleAddr 2 443) versionMP ⟨1000⟩ 0

/-- A session with the paths 1 and 3 besides the initial one. -/
def sampleSession : Session FixedWindow :=
  ((Session.sample .client).setPath 1 (samplePath 1)).setPath 3 (samplePath 3)

/-- A packet of each path is taken for retransmission, which costs half of `beta`. -/
theorem values_bounded_retransmission :
    let l := (sample.getStateAndRewardMultiClientsRetrans sampleSession (samplePath 1)
      { now := 0 }).getStateAndRewardMultiClientsRetrans sampleSession (samplePath 3) { now := 0 }
    l.multiQtable ⟨0, 0, 0, 0⟩ 0 = -1 / 2 ∧ l.multiQtable ⟨0, 0, 0, 0⟩ 1 = -1 / 2 ∧
      l.Bounded 1 2 := by
  have hbounded : sample.Bounded 1 2 := by constructor <;> norm_num [sample]
  have hreach : (machine FixedWindow 1 2 sample).Reach Machine.Always _ :=
    .step (l := .retransmission sampleSession (samplePath 3) { now := 0 })
      (.step (l := .retransmission sampleSession (samplePath 1) { now := 0 }) (.init rfl) trivial
        rfl) trivial rfl
  exact ⟨by decide +kernel, by decide +kernel, values_bounded hreach hbounded⟩

end QLearner
end MpQuic
