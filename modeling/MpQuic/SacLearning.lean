import Mathlib.Data.Rat.Defs
import Mathlib.Logic.Function.Basic
import MpQuic.SelectPath

/-!
# Learning with SAC (`scheduler_dl.go`, `scheduler_drl.go`)

The schedulers `sac` and `sacmulti` ask a model server for the probability of sending
on one of two paths.  The probability is the action: it is remembered for every
packet sent, and the rewards that acknowledgements bring are summed up in a payload
for the action.  The payloads of all sessions are in one table,
`multiclients.List_Reward_DQN`, under the formatted probability.

The two schedulers differ in the states they send to the model server, and in the type
of the payloads by which they recognise their own.  Probabilities and rewards are
exact rationals here, and a probability stands for its text.
-/
namespace MpQuic
open Function

/-- `RewardPayload` and `RewardPayloadSACMulti`, for the type `σ` of states.  `Done` is always
false. -/
structure SacPayload (σ : Type) where
  kind : RewardPayload
  state : σ
  nextState : σ
  action : ℚ
  reward : ℚ
  modelID : Nat
  countReward : Nat
  deriving DecidableEq

/-- `multiclients.List_Reward_DQN`. -/
abbrev RewardTable (σ : Type) := ℚ → Option (SacPayload σ)

/-- What a scheduler needs for its learning.  The states recorded for the packets are never read
and are left out. -/
structure SacScheduler (σ : Type) where
  /-- `dqn` for `sac`, `sacMulti` for `sacmulti`. -/
  kind : RewardPayload
  modelID : Nat
  currentProb : ℚ := 0
  countAction : Nat := 0
  /-- `list_Action_DQN`: the action of a packet, by its path and its number. -/
  listAction : Nat → Nat → Option ℚ := fun _ _ => none
  /-- The states of the requests to the model server that have not been answered. -/
  requests : List σ := []

/-! ## Rewards -/

/-- `NormalizeTimes`: a duration in milliseconds. -/
def normalizeTimes (stat : Int) : ℚ := stat / millisecond

/-- `NormalizeGoodput`, for the time since the session was created. -/
def normalizeGoodput (duration : Int) (packetNumber retransNumber : Nat) : ℚ :=
  let elapsedtime := normalizeTimes duration / 1000
  ((packetNumber : ℚ) - retransNumber) / 1024 / 1024 / elapsedtime * defaultTCPMSS

/-- The reward on a path in `GetStateAndRewardSAC` and `GetStateAndRewardSACMulti`. -/
def sacReward {κ : Type} (duration : Int) (pth : Path κ) : ℚ :=
  let goodput :=
    normalizeGoodput duration pth.sentPacketHandler.packets pth.sentPacketHandler.retransmissions
  let rttrate := (pth.rttStats.latestRTT : ℚ) / 100 / 1000000
  goodput / 100 - rttrate

/-! ## States -/

/-- `StateDQN`: what the model server is told about the first and the second path. -/
structure StateDQN where
  cwndf : ℚ
  inpf : ℚ
  srttf : ℚ
  cwnds : ℚ
  inps : ℚ
  srtts : ℚ
  deriving DecidableEq

/-- `StateSACMulti`, with sums over all sessions. -/
structure StateSACMulti extends StateDQN where
  cwndfAll : ℚ
  inpfAll : ℚ
  srttfAll : ℚ
  cwndsAll : ℚ
  inpsAll : ℚ
  srttsAll : ℚ
  cNumber : Nat
  deriving DecidableEq

/-- The states of the two schedulers. -/
inductive SacState
  | dqn (state : StateDQN)
  | multi (state : StateSACMulti)
  deriving DecidableEq

/-- What a selection reads from the first and the second path: the values it puts into
`multiclients.S2`, and the smoothed RTTs. -/
structure Measured where
  own : StateMulti
  sRTTf : Int
  sRTTs : Int
  deriving DecidableEq

namespace Measured

/-- Bytes as a share of the largest congestion window. -/
def share (bytes : Nat) : ℚ := bytes / (defaultMaxCongestionWindow * 1024)

/-- An RTT for the model server. -/
def scaledTime (rtt : Int) : ℚ := normalizeTimes rtt / 100 / 1000000

/-- `stateData` of `selectPathSAC`. -/
def stateDQN (m : Measured) : StateDQN :=
  { cwndf := share m.own.fCWND, inpf := share m.own.fInP, srttf := scaledTime m.sRTTf
    cwnds := share m.own.sCWND, inps := share m.own.sInP, srtts := scaledTime m.sRTTs }

/-- `stateData` of `selectPathSACMulti`. -/
def stateSACMulti (m : Measured) (s2 : List (Option StateMulti)) : StateSACMulti :=
  { m.stateDQN with
    cwndfAll := share (totalBytes s2 (·.fCWND))
    inpfAll := share (totalBytes s2 (·.fInP))
    srttfAll := scaledTime (totalTime s2 (·.fRTT))
    cwndsAll := share (totalBytes s2 (·.sCWND))
    -- the sum for the second path is over the first one
    inpsAll := share (totalBytes s2 (·.fInP))
    srttsAll := scaledTime (totalTime s2 (·.sRTT))
    cNumber := s2.length }

end Measured

/-! ## Actions -/

/-- The beginning of a selection among many paths leaves the choice open: there are two paths to
choose from, and none is preferred for a retransmission. -/
def Session.choiceOpen {κ : Type} (s : Session κ) (r : Retransmission) (env : Env) : Bool :=
  let unique := (env.order 22 s.paths.keys).find? (· ≠ initialPathID)
  1 < s.paths.keys.length && (s.paths.keys.length ≠ 2 || unique.isNone) &&
    (s.byLowQuota r env).toOption == some none

namespace SacScheduler
variable {σ : Type}

/-- The end of a round of `sendPacket`: the action is recorded for the packet. -/
def record (sch : SacScheduler σ) (pathID packetNumber : Nat) : SacScheduler σ :=
  if 0 < pathID ∧ 0 < packetNumber then
    let actions := update (sch.listAction pathID) packetNumber (some sch.currentProb)
    { sch with listAction := update sch.listAction pathID actions }
  else sch

/-- `getActionAsync`. -/
def getActionAsync (sch : SacScheduler σ) (stateData : σ) : SacScheduler σ :=
  { sch with requests := sch.requests ++ [stateData] }

/-- The part of `selectPathSAC` and `selectPathSACMulti` that is about learning, when there are two
paths to choose from. -/
def observe (sch : SacScheduler σ) (rewards : RewardTable σ) (stateData : σ) :
    SacScheduler σ × RewardTable σ :=
  if sch.currentProb = 0 then ({ sch with currentProb := 1 }.getActionAsync stateData, rewards)
  else if sch.currentProb = 1 then (sch, rewards)
  else if 10 < sch.countAction then
    let next := { sch with countAction := 0 }.getActionAsync stateData
    match rewards sch.currentProb with
    | none => (next, rewards)
    | some rewardPayload =>
      -- "Type assertion failed"
      if rewardPayload.kind ≠ sch.kind then (sch, rewards)
      else (next, update rewards sch.currentProb
        (some { rewardPayload with nextState := stateData }))
  else ({ sch with countAction := sch.countAction + 1 }, rewards)

/-- `selectPathSAC` and `selectPathSACMulti`: the path selected, and what it leaves for learning. -/
def selectPath {κ : Type} [SendAlgorithm κ] (sch : SacScheduler σ) (rewards : RewardTable σ)
    (draw : ℚ) (stateData : σ) (s : Session κ) (r : Retransmission) (env : Env) :
    Session.Selected × SacScheduler σ × RewardTable σ :=
  let undecided := sch.currentProb = 0 ∨ sch.currentProb = 1
  let mismatch := 10 < sch.countAction ∧ (rewards sch.currentProb).any (·.kind ≠ sch.kind)
  let exceeds := draw < sch.currentProb
  (s.amongManyPaths r env (s.chooseByProbability undecided mismatch exceeds r env),
    if s.choiceOpen r env then sch.observe rewards stateData else (sch, rewards))

/-- The goroutine of `getActionAsync` gets its answer, or none because of an error. -/
def receiveAction (sch : SacScheduler σ) (rewards : RewardTable σ) (i : Nat)
    (probability : Option ℚ) : SacScheduler σ × RewardTable σ :=
  match sch.requests[i]? with
  | none => (sch, rewards)
  | some state =>
    let sch := { sch with requests := sch.requests.eraseIdx i }
    match probability with
    | none => (sch, rewards)
    | some currentProb =>
      ({ sch with currentProb }, update rewards currentProb (some
        { kind := sch.kind, state, nextState := state, action := currentProb, reward := 0
          modelID := sch.modelID, countReward := 0 }))

/-- `old_action`: the action recorded for the packet of ours that has the number of the last packet
received on the path; 0 if there is none. -/
def oldAction (sch : SacScheduler σ) (pathID lastRcvdPacketNumber : Nat) : ℚ :=
  (sch.listAction pathID lastRcvdPacketNumber).getD 0

/-- The payload of an action, if it is one of this scheduler's kind. -/
def ownPayload (sch : SacScheduler σ) (rewards : RewardTable σ) (action : ℚ) :
    Option (SacPayload σ) :=
  (rewards action).filter fun rewardPayload => rewardPayload.kind = sch.kind

/-- The share of a reward on a path that an action gets. -/
def weight (action : ℚ) (pathID : Nat) : ℚ := if pathID = 1 then action else 1 - action

/-- `GetStateAndRewardSAC` and `GetStateAndRewardSACMulti`, for the reward on the path: the table,
and the payload that is submitted to the model server if there is one. -/
def getStateAndReward (sch : SacScheduler σ) (rewards : RewardTable σ)
    (pathID lastRcvdPacketNumber : Nat) (reward : ℚ) : RewardTable σ × Option (SacPayload σ) :=
  let oldAction := sch.oldAction pathID lastRcvdPacketNumber
  match sch.ownPayload rewards oldAction with
  | none => (rewards, none)
  | some rewardPayload =>
    let rewardPayload := { rewardPayload with
      reward := rewardPayload.reward + reward * weight oldAction pathID
      countReward := (rewardPayload.countReward + 1) % 2 ^ 16 }
    if 8 < rewardPayload.countReward then
      let rewardPayload := { rewardPayload with
        reward := rewardPayload.reward / rewardPayload.countReward
        action := oldAction }
      (update rewards oldAction (some { rewardPayload with reward := 0, countReward := 0 }),
        some { rewardPayload with modelID := sch.modelID, countReward := 0 })
    else (update rewards oldAction (some rewardPayload), none)

end SacScheduler
end MpQuic
