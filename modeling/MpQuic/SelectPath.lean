import MpQuic.Session

/-!
# Path selection (the `selectPath` functions of `scheduler.go`)

The eleven selection algorithms, for a session, a scheduler and what `getRetransmission`
found.  A path is returned as its ID; `none` is the nil path.  What the algorithms only
remember for their learning (counters, the last state, requests for an action) is left
out: the scheduler is an input, with whatever learning has made of it.

The random draws and the outcome of the linear bandit, which is computed by a matrix
library, are inputs as well.
-/
namespace MpQuic

/-- `SchedulerName`; any other name selects the default, `rtt`, and so does `lowband`. -/
inductive SchedulerName
  | rtt | random | peek | lowband | ecf | blest | dqn | sac | sacmulti | qsat | fuzzyqsat
  | multiclients
  deriving DecidableEq, Repr

/-- `multiclients.StateMulti`. -/
structure StateMulti where
  fRTT : Int
  sRTT : Int
  fCWND : Nat
  sCWND : Nat
  fInP : Nat
  sInP : Nat
  deriving DecidableEq, Repr

/-- The two types of the values in `multiclients.List_Reward_DQN`. -/
inductive RewardPayload
  | dqn | sacMulti
  deriving DecidableEq, Repr

/-- `scheduler`, with the tables of `multiclients` it reads.  The quotas are in the session. -/
structure Scheduler where
  schedulerName : SchedulerName
  waiting : UInt64 := 0
  epsilon : Float := 0
  -- QSAT
  state : Nat → Float := fun _ => 0
  qqtable : Nat → Nat → Float := fun _ _ => 0
  -- Q-learning
  clvState : Nat → Float := fun _ => 0
  clvState2 : Nat → Float := fun _ => 0
  qtable : Nat → Nat → Nat → Float := fun _ _ _ => 0
  -- SAC
  currentProb : Float := 0
  countAction : Nat := 0
  listRewardDQN : Float → Option RewardPayload := fun _ => none
  -- shared by the sessions of the server; an entry is a pointer until its session refreshes it,
  -- and fails the type assertion of the schedulers
  s2 : List (Nat × Option StateMulti) := []
  multiQtable : Nat → Nat → Nat → Nat → Nat → Float := fun _ _ _ _ _ => 0

/-- What a selection draws: `rand.Float64()`, `rand.Intn(100)`, and whether the bandit of `peek`
values waiting for the best path higher for a feature vector. -/
structure Draws where
  float64 : Float
  intn : Nat := 0
  bandit : List Float → Bool := fun _ => false

/-- The arguments of a selection that come from `getRetransmission`. -/
structure Retransmission where
  hasRetransmission : Bool := false
  hasStreamRetransmission : Bool := false
  fromPth : Option Nat := none
  deriving DecidableEq, Repr

/-- A sum of bytes over the sessions of `multiclients.S2`, if there are at least two. -/
def totalBytes (s2 : List (Option StateMulti)) (bytes : StateMulti → Nat) : Nat :=
  if 1 < s2.length then s2.reduceOption.foldl (fun sum state => add64 sum (bytes state)) 0 else 0

/-- A sum of RTTs over the sessions of `multiclients.S2`, if there are at least two. -/
def totalTime (s2 : List (Option StateMulti)) (rtt : StateMulti → Int) : Int :=
  if 1 < s2.length then s2.reduceOption.foldl (fun sum state => sum + rtt state) 0 else 0

/-- The sessions together have capacity to spare on the path of an action. -/
def spareCapacity (s2 : List (Option StateMulti)) (action : Nat) : Bool :=
  totalBytes s2 (if action = 0 then (·.fCWND) else (·.sCWND)) < 1024 * 1024

namespace Session
variable {κ : Type}

/-- The path returned by a selection, or the nil path. -/
abbrev Selected := Except Err (Option Nat)

/-! ## What the algorithms share -/

/-- The first of `n` thresholds a value is on the right side of. -/
def level (n : Nat) (reached : Nat → Bool) : Nat := ((List.range n).find? reached).getD n

/-- The two path IDs the learning schedulers observe, 255 for those there are not. -/
def firstAndSecondPath (pathIDs : List Nat) : Nat × Nat :=
  pathIDs.foldl (fun (firstPath, secondPath) pathID =>
    if firstPath = 255 then (pathID, secondPath)
    else if pathID < firstPath then (pathID, firstPath)
    else (firstPath, pathID)) (255, 255)

/-- The share of the first of two paths in their sending rates. -/
def sendingRate (cwnd : Nat) (rtt : Int) (cwnd' : Nat) (rtt' : Int) : Float :=
  let rate := Float.ofNat cwnd / Float.ofInt rtt
  rate / (rate + Float.ofNat cwnd' / Float.ofInt rtt')

/-- The iteration of a selection over the paths other than the initial one. -/
def availablePaths (s : Session κ) (env : Env) : List Nat :=
  (env.order 20 s.paths.keys).filter (· ≠ initialPathID)

/-- The return of the only path if there is one: the initial path. -/
def onlyInitialPath [SendAlgorithm κ] (s : Session κ) (hasRetransmission : Bool) : Selected :=
  match s.paths.lookup initialPathID with
  | none => if hasRetransmission then .ok none else .error (.panic .nilPath)
  | some pth =>
    if !hasRetransmission && !pth.sendingAllowed then .ok none else .ok (some initialPathID)

/-- The retransmission of stream data from an unprobed path: another path with a lower quota, if
there is one. -/
def byLowQuota (s : Session κ) (r : Retransmission) (env : Env) : Selected :=
  if r.hasRetransmission && r.hasStreamRetransmission then
    match r.fromPth.bind fun id => s.paths.lookup id with
    | none => .error (.panic .nilPath)
    | some fromPth =>
      if fromPth.rttStats.smoothedRTT = 0 then
        .ok ((env.order 21 s.paths.keys).find? fun pathID =>
          pathID ≠ initialPathID && pathID ≠ fromPth.pathID &&
            s.quotas pathID < s.quotas fromPth.pathID)
      else .ok none
  else .ok none

/-- A selection that comes after the one by quota. -/
def orByLowQuota (s : Session κ) (r : Retransmission) (env : Env) (otherwise : Selected) :
    Selected :=
  match s.byLowQuota r env with
  | .error e => .error e
  | .ok (some pathID) => .ok (some pathID)
  | .ok none => otherwise

/-- The beginning of `rtt`, `blest`, `ecf` and `peek`. -/
def amongPaths [SendAlgorithm κ] (s : Session κ) (r : Retransmission) (env : Env)
    (otherwise : Selected) : Selected :=
  if s.paths.keys.length ≤ 1 then s.onlyInitialPath r.hasRetransmission
  else s.orByLowQuota r env otherwise

/-- The beginning of the other algorithms, which look for a unique path beside the initial one. -/
def amongManyPaths [SendAlgorithm κ] (s : Session κ) (r : Retransmission) (env : Env)
    (otherwise : Selected) : Selected :=
  if s.paths.keys.length ≤ 1 then s.onlyInitialPath r.hasRetransmission
  else if s.paths.keys.length = 2 then
    match (env.order 22 s.paths.keys).find? (· ≠ initialPathID) with
    | some pathID => .ok (some pathID)
    | none => s.orByLowQuota r env otherwise
  else s.orByLowQuota r env otherwise

/-- A path if it exists and its congestion window allows sending. -/
def ifAllowed [SendAlgorithm κ] (s : Session κ) (pathID : Nat) (otherwise : Selected) : Selected :=
  match s.paths.lookup pathID with
  | none => .error (.panic .nilPath)
  | some pth => if pth.sendingAllowed then .ok (some pathID) else otherwise

/-- The end of most learning schedulers: retransmissions may use the initial path. -/
def orInitialPath [SendAlgorithm κ] (s : Session κ) (hasRetransmission : Bool) : Selected :=
  if hasRetransmission then s.ifAllowed initialPathID (.ok none) else .ok none

/-- An action as the path it stands for, with the path of the other action.  There are two
available paths whenever a learning scheduler comes here. -/
def withAction (available : List Nat) (action : Nat)
    (act : (action pathID pathID₂ : Nat) → Selected) : Selected :=
  match available[action]?, available[1 - action]? with
  | some pathID, some pathID₂ => act action pathID pathID₂
  | _, _ => .error (.panic .indexOutOfRange)

/-- The best action of a row of a Q-table. -/
def withActions (available : List Nat) (q₀ q₁ : Float)
    (act : (action pathID pathID₂ : Nat) → Selected) : Selected :=
  withAction available (if q₀ > q₁ then 0 else 1) act

/-- `SmoothedRTT` of a path. -/
def smoothedRTTOf (s : Session κ) (pathID : Nat) : Int :=
  ((s.paths.lookup pathID).map (·.rttStats.smoothedRTT)).getD 0

/-- `LatestRTT` of a path. -/
def latestRTTOf (s : Session κ) (pathID : Nat) : Int :=
  ((s.paths.lookup pathID).map (·.rttStats.latestRTT)).getD 0

/-- `GetCongestionWindow` of a path. -/
def congestionWindowOf [SendAlgorithm κ] (s : Session κ) (pathID : Nat) : Nat :=
  ((s.paths.lookup pathID).map fun pth =>
    SendAlgorithm.getCongestionWindow pth.sentPacketHandler.congestion).getD 0

/-- `GetBytesInFlight` of a path. -/
def bytesInFlightOf (s : Session κ) (pathID : Nat) : Nat :=
  ((s.paths.lookup pathID).map (·.sentPacketHandler.bytesInFlight)).getD 0

/-- `SendWindowSize(5)` of the session, which stands for what there is to send. -/
def bSend (s : Session κ) : Nat :=
  s.streamFramer.flowControlManager.sendWindowSize s.streamFramer.connectionParameters 5

/-! ## `rtt` -/

variable [SendAlgorithm κ]

/-- The variables of the loop of `selectPathLowLatency`. -/
structure LowLatency where
  selectedPath : Option Nat := none
  lowerRTT : Int := 0
  deriving DecidableEq, Repr

/-- Whether the loops over the paths skip one because it is not probed while another is, or has
sent more packets than another unprobed one.  The best path so far stands for 255 if there is
none. -/
def unprobedSkipped (s : Session κ) (best : Option Nat) (lowerRTT currentRTT : Int)
    (pathID : Nat) : Bool :=
  currentRTT = 0 &&
    (lowerRTT ≠ 0 || (best.isSome && s.quotas (best.getD 255) < s.quotas pathID))

/-- A round of `pathLoop` in `selectPathLowLatency`. -/
def lowLatencyRound (s : Session κ) (hasRetransmission : Bool) (l : LowLatency) (pathID : Nat) :
    LowLatency :=
  match s.paths.lookup pathID with
  | none => l
  | some pth =>
    let currentRTT := pth.rttStats.smoothedRTT
    if !hasRetransmission && !pth.sendingAllowed then l
    else if pth.potentiallyFailed then l
    else if pathID = initialPathID then l
    else if s.unprobedSkipped l.selectedPath l.lowerRTT currentRTT pathID then l
    else if currentRTT ≠ 0 ∧ l.lowerRTT ≠ 0 ∧ l.selectedPath.isSome ∧ l.lowerRTT ≤ currentRTT then l
    else { selectedPath := some pathID, lowerRTT := currentRTT }

/-- `selectPathLowLatency`. -/
def selectPathLowLatency (s : Session κ) (r : Retransmission) (env : Env) : Selected :=
  s.amongPaths r env <|
    .ok ((env.order 23 s.paths.keys).foldl (s.lowLatencyRound r.hasRetransmission) {}).selectedPath

/-! ## `blest`, `ecf` and `peek` -/

/-- The variables of the loops that look for the two paths with the lowest RTT. -/
structure TwoBest where
  bestPath : Option Nat := none
  secondBestPath : Option Nat := none
  lowerRTT : Int := 0
  secondLowerRTT : Int := 0
  deriving DecidableEq, Repr

/-- The end of a round of `pathLoop`, for a path that was not skipped. -/
def TwoBest.update (t : TwoBest) (pathID : Nat) (pth : Path κ) : TwoBest :=
  let currentRTT := pth.rttStats.smoothedRTT
  let t' := if t.lowerRTT ≤ currentRTT ∧ (t.secondLowerRTT = 0 ∨ currentRTT < t.secondLowerRTT) ∧
      pth.sendingAllowed then
    { t with secondLowerRTT := currentRTT, secondBestPath := some pathID } else t
  if t.lowerRTT ≤ currentRTT ∧ currentRTT ≠ 0 ∧ t.lowerRTT ≠ 0 ∧ t.bestPath.isSome then t'
  else { t' with lowerRTT := currentRTT, bestPath := some pathID }

/-- A round of `pathLoop`; `peek` also considers paths that may not send. -/
def twoBestRound (s : Session κ) (anyWindow : Bool) (t : TwoBest) (pathID : Nat) : TwoBest :=
  match s.paths.lookup pathID with
  | none => t
  | some pth =>
    if !anyWindow && !pth.sendingAllowed then t
    else if pth.potentiallyFailed then t
    else if pathID = initialPathID then t
    else if s.unprobedSkipped t.bestPath t.lowerRTT pth.rttStats.smoothedRTT pathID then t
    else t.update pathID pth

/-- `pathLoop` of `blest`, `ecf` and `peek`. -/
def twoBest (s : Session κ) (anyWindow : Bool) (env : Env) : TwoBest :=
  (env.order 23 s.paths.keys).foldl (s.twoBestRound anyWindow) {}

/-- The choice between the two paths found, for the decision to send on the second one. -/
def chooseBest (s : Session κ) (hasRetransmission : Bool) (t : TwoBest)
    (useSecond : (best second : Path κ) → Bool) : Selected :=
  match t.bestPath with
  | none => .ok t.secondBestPath
  | some bestPath =>
    match s.paths.lookup bestPath with
    | none => .error (.panic .nilPath)
    | some best =>
      if hasRetransmission || best.sendingAllowed then .ok (some bestPath)
      else
        match t.secondBestPath with
        | none => .ok none
        | some secondBestPath =>
          match s.paths.lookup secondBestPath with
          | none => .error (.panic .nilPath)
          | some second => .ok (if useSecond best second then some secondBestPath else none)

/-- `GetCongestionWindow` as a `uint64`. -/
def cwnd (pth : Path κ) : UInt64 :=
  .ofNat (SendAlgorithm.getCongestionWindow pth.sentPacketHandler.congestion)

/-- The estimate of `selectBLEST` that the second path does not block the best one. -/
def blestUsesSecond (s : Session κ) (t : TwoBest) (best second : Path κ) : Bool :=
  let lowerRTT := UInt64.ofInt t.lowerRTT
  let secondLowerRTT := UInt64.ofInt t.secondLowerRTT
  let mss := UInt64.ofNat defaultTCPMSS
  let firstCo := mss * secondLowerRTT * (cwnd best * 2 * lowerRTT + secondLowerRTT - lowerRTT)
  let secondCo := 2 * 1 * lowerRTT * lowerRTT *
    (.ofNat s.bSend - (.ofNat second.sentPacketHandler.bytesInFlight + mss))
  !(firstCo > secondCo)

/-- `selectBLEST`. -/
def selectBLEST (s : Session κ) (r : Retransmission) (env : Env) : Selected :=
  let t := s.twoBest r.hasRetransmission env
  s.amongPaths r env (s.chooseBest r.hasRetransmission t (s.blestUsesSecond t))

/-- `queueSize` of `selectECF`: the bytes the streams have to send.  `Iterate` ends at an open
stream that is not in the map. -/
def queueSize (s : Session κ) : UInt64 :=
  let streams := s.streamsMap.openStreams.map fun id => s.streamsMap.streams.lookup id
  .ofNat ((streams.takeWhile (·.isSome)).reduceOption.map (·.lenOfDataForWriting)).sum

/-- The estimate of `selectECF` that the second path delivers the queue earlier. -/
def ecfUsesSecond (sch : Scheduler) (s : Session κ) (t : TwoBest) (best second : Path κ) : Bool :=
  let lowerRTT := UInt64.ofInt t.lowerRTT
  let secondLowerRTT := UInt64.ofInt t.secondLowerRTT
  let delta := max (UInt64.ofInt best.rttStats.meanDeviation)
    (UInt64.ofInt second.rttStats.meanDeviation)
  let xBest := max s.queueSize (cwnd best)
  let lhs := lowerRTT * (xBest + cwnd best)
  let rhs := cwnd best * (secondLowerRTT + delta)
  let xSecond := max s.queueSize (cwnd second)
  let lhsSecond := secondLowerRTT * xSecond
  let rhsSecond := cwnd second * (2 * lowerRTT + delta)
  !(lhs * 4 < rhs * 4 + sch.waiting * rhs && lhsSecond > rhsSecond)

/-- `selectECF`. -/
def selectECF (sch : Scheduler) (s : Session κ) (r : Retransmission) (env : Env) : Selected :=
  let t := s.twoBest r.hasRetransmission env
  s.amongPaths r env (s.chooseBest r.hasRetransmission t (s.ecfUsesSecond sch t))

/-- The feature vector of the bandit of `selectPathPeek`. -/
def peekFeature (s : Session κ) (best second : Path κ) : List Float :=
  let llowerRTT := Float.ofInt best.rttStats.latestRTT
  let lsecondLowerRTT := Float.ofInt second.rttStats.latestRTT
  let bSend := Float.ofNat s.bSend
  if 0 < lsecondLowerRTT && 0 < llowerRTT then
    [ (cwnd best).toFloat / llowerRTT,
      Float.ofNat second.sentPacketHandler.bytesInFlight / lsecondLowerRTT,
      bSend / llowerRTT,
      bSend / lsecondLowerRTT,
      Float.ofNat best.sentPacketHandler.bytesInFlight / llowerRTT,
      (cwnd second).toFloat / lsecondLowerRTT ]
  else [0, 0, 0, 0, 0, 0]

/-- The decision of `selectPathPeek` not to wait for the best path. -/
def peekUsesSecond (sch : Scheduler) (d : Draws) (s : Session κ) (best second : Path κ) : Bool :=
  if sch.waiting = 1 then false
  else if d.bandit (s.peekFeature best second) then !(d.intn < 70)
  else d.intn < 90

/-- The end of `selectPathPeek`.  Unlike the others it returns the best path only if it may send,
also for retransmissions. -/
def peekChoose (sch : Scheduler) (d : Draws) (s : Session κ) (hasRetransmission : Bool)
    (t : TwoBest) : Selected :=
  match t.bestPath, t.secondBestPath with
  | none, second => .ok second
  | some bestPath, none => s.ifAllowed bestPath (.ok none)
  | some bestPath, some secondBestPath =>
    s.ifAllowed bestPath <|
      if hasRetransmission then
        s.ifAllowed secondBestPath (.ok ((s.paths.lookup initialPathID).map fun _ => initialPathID))
      else s.chooseBest false t (s.peekUsesSecond sch d)

/-- `selectPathPeek`. -/
def selectPathPeek (sch : Scheduler) (d : Draws) (s : Session κ) (r : Retransmission) (env : Env) :
    Selected :=
  s.amongPaths r env (s.peekChoose sch d r.hasRetransmission (s.twoBest true env))

/-! ## The learning schedulers -/

/-- The end of `selectPathQSAT`: the path of the other action comes first if it is faster. -/
def actQSAT (s : Session κ) (hasRetransmission : Bool) (pathID pathID₂ : Nat) : Selected :=
  let last := s.ifAllowed pathID (s.orInitialPath hasRetransmission)
  if s.smoothedRTTOf pathID₂ < s.smoothedRTTOf pathID then s.ifAllowed pathID₂ last else last

/-- `selectPathQSAT`. -/
def selectPathQSAT (sch : Scheduler) (d : Draws) (s : Session κ) (r : Retransmission) (env : Env) :
    Selected :=
  if d.float64 > sch.epsilon then s.selectPathLowLatency r env
  else
    let bSend₁ := Float32.ofNat s.bSend / (Float32.ofNat defaultMaxCongestionWindow * 300)
    let ro := level 7 fun i => bSend₁.toFloat < sch.state i
    let q := sch.qqtable ro
    s.amongManyPaths r env <|
      if q 0 == 0 && q 0 == q 1 then s.selectPathLowLatency r env
      else withActions (s.availablePaths env) (q 0) (q 1) fun _ => s.actQSAT r.hasRetransmission

/-- The sending rates of two paths, each as a share of both. -/
def sendingRatesOf (s : Session κ) (firstPath secondPath : Nat) : Float × Float :=
  let (cwnd, cwnd') := (s.congestionWindowOf firstPath, s.congestionWindowOf secondPath)
  let (rtt, rtt') := (s.latestRTTOf firstPath, s.latestRTTOf secondPath)
  (sendingRate cwnd rtt cwnd' rtt', sendingRate cwnd' rtt' cwnd rtt)

/-- The sending rates of the first and the second path. -/
def sendingRates (s : Session κ) (env : Env) : Float × Float :=
  let (firstPath, secondPath) := firstAndSecondPath (s.availablePaths env)
  s.sendingRatesOf firstPath secondPath

/-- The end of `selectPathQlearning`: the path of the other action only comes second, and only if it
is faster. -/
def actQlearning (s : Session κ) (hasRetransmission : Bool) (pathID pathID₂ : Nat) : Selected :=
  let last := s.orInitialPath hasRetransmission
  s.ifAllowed pathID <|
    if s.smoothedRTTOf pathID₂ < s.smoothedRTTOf pathID then s.ifAllowed pathID₂ last else last

/-- `selectPathQlearning`, the scheduler `fuzzyqsat`. -/
def selectPathQlearning (sch : Scheduler) (d : Draws) (s : Session κ) (r : Retransmission)
    (env : Env) : Selected :=
  if d.float64 ≤ sch.epsilon then s.selectPathLowLatency r env
  else
    let (f, s') := s.sendingRates env
    let q := sch.qtable (level 4 fun i => f < sch.clvState i) (level 4 fun i => s' < sch.clvState i)
    s.amongManyPaths r env <|
      if q 0 == 0 && q 1 == q 0 then s.selectPathLowLatency r env
      else withActions (s.availablePaths env) (q 0) (q 1) fun _ =>
        s.actQlearning r.hasRetransmission

/-- The `tmp_value` with which a session refreshes its entry of `multiclients.S2`. -/
def stateMulti (s : Session κ) (env : Env) : StateMulti :=
  let (firstPath, secondPath) := firstAndSecondPath (s.availablePaths env)
  { fRTT := s.latestRTTOf firstPath, sRTT := s.latestRTTOf secondPath
    fCWND := s.congestionWindowOf firstPath, sCWND := s.congestionWindowOf secondPath
    fInP := s.bytesInFlightOf firstPath, sInP := s.bytesInFlightOf secondPath }

/-- `multiclients.S2` with the entry of this session brought up to date. -/
def updatedS2 (sch : Scheduler) (s : Session κ) (env : Env) : List (Option StateMulti) :=
  sch.s2.map fun (connectionID, state) =>
    if connectionID = s.packer.connectionID then some (s.stateMulti env) else state

/-- The mean sending rate of the other sessions, from the sum over all of them. -/
def othersRate (states : List (Option StateMulti)) (rate : StateMulti → Float) (own : Float) :
    Float :=
  if 1 < states.length then
    (states.reduceOption.foldl (fun sum state => sum + rate state) 0 - own) /
      Float.ofNat (states.length - 1)
  else 0

/-- The end of `selectPathQlearningMultiClients`: the best action, or the other one if its path is
faster, each only while the sessions together have capacity to spare on its path. -/
def actWithin (s : Session κ) (spare : Nat → Bool) (action pathID pathID₂ : Nat) : Selected :=
  let second :=
    if s.smoothedRTTOf pathID₂ < s.smoothedRTTOf pathID ∧ spare (1 - action) then
      s.ifAllowed pathID₂ (.ok none)
    else .ok none
  if spare action then s.ifAllowed pathID second else second

/-- `selectPathQlearningMultiClients`. -/
def selectPathQlearningMultiClients (sch : Scheduler) (d : Draws) (s : Session κ)
    (r : Retransmission) (env : Env) : Selected :=
  if d.float64 ≤ sch.epsilon then s.selectPathLowLatency r env
  else
    let states := s.updatedS2 sch env
    let (f, s') := s.sendingRates env
    let fr := othersRate states (fun e => sendingRate e.fCWND e.fRTT e.sCWND e.sRTT) f
    let sr := othersRate states (fun e => sendingRate e.sCWND e.sRTT e.fCWND e.fRTT) s'
    let q := sch.multiQtable (level 4 fun i => f < sch.clvState i)
      (level 4 fun i => s' < sch.clvState i) (level 4 fun i => fr < sch.clvState2 i)
      -- the only comparison the other way round
      (level 4 fun i => sr ≥ sch.clvState2 i)
    s.amongManyPaths r env <|
      if q 0 == 0 && q 1 == 0 then s.selectPathLowLatency r env
      else withActions (s.availablePaths env) (q 0) (q 1) (s.actWithin (spareCapacity states))

/-- `selectPathDQN`, which has no use for its actions any more. -/
def selectPathDQN (s : Session κ) (r : Retransmission) (env : Env) : Selected :=
  s.amongManyPaths r env (s.orInitialPath r.hasRetransmission)

/-- `selectPathRandom`: between the path IDs 1 and 3. -/
def selectPathRandom (sch : Scheduler) (d : Draws) (s : Session κ) (r : Retransmission)
    (env : Env) : Selected :=
  s.amongManyPaths r env <|
    s.ifAllowed (if sch.currentProb > d.float64 then 3 else 1) (s.orInitialPath r.hasRetransmission)

/-- The choice of `selectPathSAC` and `selectPathSACMulti` among at least two paths: whether there
is no probability yet, whether the rewards for it have the wrong type, and whether it exceeds the
number drawn. -/
def chooseByProbability (s : Session κ) (undecided mismatch exceeds : Bool) (r : Retransmission)
    (env : Env) : Selected :=
  if undecided then s.selectPathLowLatency r env
  else if mismatch then .ok none
  else
    match (s.availablePaths env)[if exceeds then 1 else 0]? with
    | none => .error (.panic .indexOutOfRange)
    | some pathID => s.ifAllowed pathID (s.orInitialPath r.hasRetransmission)

/-- `selectPathSAC` and `selectPathSACMulti`, for the type of the rewards they expect. -/
def selectByProbability (payload : RewardPayload) (sch : Scheduler) (d : Draws) (s : Session κ)
    (r : Retransmission) (env : Env) : Selected :=
  s.amongManyPaths r env <|
    s.chooseByProbability (sch.currentProb == 0 || sch.currentProb == 1)
      (10 < sch.countAction && (sch.listRewardDQN sch.currentProb).any (· ≠ payload))
      (sch.currentProb > d.float64) r env

/-- `selectPathSAC`. -/
def selectPathSAC (sch : Scheduler) (d : Draws) (s : Session κ) (r : Retransmission) (env : Env) :
    Selected := selectByProbability .dqn sch d s r env

/-- `selectPathSACMulti`. -/
def selectPathSACMulti (sch : Scheduler) (d : Draws) (s : Session κ) (r : Retransmission)
    (env : Env) : Selected := selectByProbability .sacMulti sch d s r env

/-- `selectPath`. -/
def selectPath (sch : Scheduler) (d : Draws) (s : Session κ) (r : Retransmission) (env : Env) :
    Selected :=
  match sch.schedulerName with
  | .rtt => s.selectPathLowLatency r env
  | .random => s.selectPathRandom sch d r env
  | .peek => s.selectPathPeek sch d r env
  | .lowband => s.selectPathLowLatency r env
  | .ecf => s.selectECF sch r env
  | .blest => s.selectBLEST r env
  | .dqn => s.selectPathDQN r env
  | .sac => s.selectPathSAC sch d r env
  | .sacmulti => s.selectPathSACMulti sch d r env
  | .qsat => s.selectPathQSAT sch d r env
  | .fuzzyqsat => s.selectPathQlearning sch d r env
  | .multiclients => s.selectPathQlearningMultiClients sch d r env

end Session
end MpQuic
