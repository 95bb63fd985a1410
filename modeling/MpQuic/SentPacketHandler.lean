import MpQuic.Congestion
import MpQuic.Frame

/-!
# Sent packets (`ackhandler/sent_packet_handler.go`, `packet.go`, `stop_waiting_manager.go`)

One `SentPacketHandler` per path keeps the packets that are neither acknowledged
nor declared lost (`packetHistory`) and those waiting to be sent again
(`retransmissionQueue`).  Stream frames inside packets are references into the
sender's heap.  The functions take the current time as an argument; the state of
`RTTStats`, which the path shares with its handler, is kept here.

The elements of `packetHistory` are identified by their packet numbers, which
`sentPacket` checks to be increasing.
-/
namespace MpQuic

/-- A reference to a stream frame of the sender. -/
abbrev FrameRef := Nat

/-- `ackhandler.Packet`.  The source's frames are pointers, so a packet's stream frames can
change after it was sent; `written` is not part of the source and keeps the frames as they
were on the wire. -/
structure Packet where
  packetNumber : Nat
  frames : List (Frame FrameRef)
  length : Nat
  encryptionLevel : EncryptionLevel
  sendTime : Int := 0
  written : List (Frame StreamFrame) := []
  deriving DecidableEq, Repr

/-- `IsFrameRetransmittable`. -/
def Frame.isRetransmittable {σ : Type} : Frame σ → Bool
  | .stopWaiting _ => false
  | .ack _ => false
  | _ => true

/-- `stripNonRetransmittableFrames`. -/
def stripNonRetransmittableFrames {σ : Type} (fs : List (Frame σ)) : List (Frame σ) :=
  fs.filter Frame.isRetransmittable

namespace Packet

/-- `GetFramesForRetransmission`. -/
def getFramesForRetransmission (p : Packet) : List (Frame FrameRef) :=
  p.frames.filter Frame.isRetransmittable

/-- `IsRetransmittable`; CLOSE_PATH and CONNECTION_CLOSE frames are not in its list. -/
def isRetransmittable (p : Packet) : Bool :=
  p.frames.any fun
    | .stream _ | .rstStream _ | .windowUpdate _ | .blocked _ | .ping | .goaway _
    | .addAddress _ | .paths _ => true
    | _ => false

end Packet

/-- `stopWaitingManager`. -/
structure StopWaitingManager where
  largestLeastUnackedSent : Nat := 0
  nextLeastUnacked : Nat := 0
  lastStopWaitingFrame : Option StopWaitingFrame := none
  deriving DecidableEq, Repr

namespace StopWaitingManager

/-- `GetStopWaitingFrame`. -/
def getStopWaitingFrame (s : StopWaitingManager) (force : Bool) :
    StopWaitingManager × Option StopWaitingFrame :=
  let swf : StopWaitingFrame := { leastUnacked := s.nextLeastUnacked }
  if s.nextLeastUnacked ≤ s.largestLeastUnackedSent then
    if force then
      if s.lastStopWaitingFrame.isNone ∧ 0 < s.largestLeastUnackedSent then
        ({ s with lastStopWaitingFrame := some swf }, some swf)
      else (s, s.lastStopWaitingFrame)
    else (s, none)
  else
    ({ s with largestLeastUnackedSent := s.nextLeastUnacked, lastStopWaitingFrame := some swf },
      some swf)

/-- `ReceivedAck` and `QueuedRetransmissionForPacketNumber`: nothing up to `p` is waited for. -/
def waitBeyond (s : StopWaitingManager) (p : Nat) : StopWaitingManager :=
  if s.nextLeastUnacked ≤ p then { s with nextLeastUnacked := add64 p 1 } else s

/-- `stopWaitingManager.ReceivedAck`. -/
def receivedAck (s : StopWaitingManager) (ack : AckFrame) : StopWaitingManager :=
  s.waitBeyond ack.largestAcked

/-- `QueuedRetransmissionForPacketNumber`. -/
def queuedRetransmissionForPacketNumber (s : StopWaitingManager) (p : Nat) :
    StopWaitingManager :=
  s.waitBeyond p

end StopWaitingManager

/-- `sentPacketHandler`.  The last two fields are not part of the source and nothing reads
them: the numbers of all packets sent, and the packets that acknowledgements have removed from
the history. -/
structure SentPacketHandler (κ : Type) where
  congestion : κ
  lastSentPacketNumber : Nat := 0
  skippedPackets : List Nat := []
  numNonRetransmittablePackets : Nat := 0
  largestAcked : Nat := 0
  largestReceivedPacketWithAck : Nat := 0
  packetHistory : List Packet := []
  stopWaitingManager : StopWaitingManager := {}
  retransmissionQueue : List Packet := []
  bytesInFlight : Nat := 0
  rttStats : RTTStats := {}
  rtoCount : Nat := 0
  tlpCount : Nat := 0
  lossTime : Option Int := none
  lastSentTime : Option Int := none
  alarm : Option Int := none
  packets : Nat := 0
  retransmissions : Nat := 0
  losses : Nat := 0
  ackedBytes : Nat := 0
  sentBytes : Nat := 0
  sent : List Nat := []
  acknowledged : List Packet := []

namespace SentPacketHandler
variable {κ : Type} [SendAlgorithm κ]

/-- `NewSentPacketHandler`, with the given congestion controller. -/
def new (congestion : κ) : SentPacketHandler κ := { congestion }

/-- A call of the congestion controller. -/
def notify (h : SentPacketHandler κ) (e : CongestionEvent) : SentPacketHandler κ :=
  { h with congestion := SendAlgorithm.notify h.congestion h.rttStats e }

/-! ## The alarm -/

/-- `defaultRTOTimeout`. -/
def defaultRTOTimeout : Int := 500 * millisecond
/-- `minRTOTimeout`. -/
def minRTOTimeout : Int := 200 * millisecond
/-- `maxRTOTimeout`. -/
def maxRTOTimeout : Int := 60000 * millisecond
/-- `maxTailLossProbes`. -/
def maxTailLossProbes : Nat := 2
/-- `minRetransmissionTime`. -/
def minRetransmissionTime : Int := 200 * millisecond
/-- `minTailLossProbeTimeout`. -/
def minTailLossProbeTimeout : Int := 10 * millisecond

/-- `computeRTOTimeout`; the shift is one of 64-bit integers. -/
def computeRTOTimeout (h : SentPacketHandler κ) : Int :=
  let rto := h.rttStats.retransmissionDelay
  let rto := if rto = 0 then defaultRTOTimeout else rto
  let rto := max rto minRTOTimeout
  min ((rto * 2 ^ h.rtoCount).bmod (2 ^ 64)) maxRTOTimeout

/-- `hasMultipleOutstandingRetransmittablePackets`. -/
def hasMultipleOutstandingRetransmittablePackets (h : SentPacketHandler κ) : Bool :=
  2 ≤ h.packetHistory.length

/-- `computeTLPTimeout`. -/
def computeTLPTimeout (h : SentPacketHandler κ) : Int :=
  let rtt := h.rttStats.smoothedRTT
  if h.hasMultipleOutstandingRetransmittablePackets then
    max (2 * rtt) ((rtt * 3).tdiv 2 + minRetransmissionTime.tdiv 2)
  else max (2 * rtt) minTailLossProbeTimeout

/-- `updateLossDetectionAlarm`. -/
def updateLossDetectionAlarm (h : SentPacketHandler κ) : SentPacketHandler κ :=
  let lastSentTime := h.lastSentTime.getD 0
  if h.packetHistory.length = 0 then { h with alarm := none }
  else if h.lossTime.isSome then { h with alarm := h.lossTime }
  else if h.rttStats.smoothedRTT ≠ 0 ∧ h.tlpCount < maxTailLossProbes then
    { h with alarm := some (lastSentTime + h.computeTLPTimeout) }
  else
    { h with alarm := some (lastSentTime + max h.computeRTOTimeout minRetransmissionTime) }

/-! ## Queries -/

/-- `largestInOrderAcked`. -/
def largestInOrderAcked (h : SentPacketHandler κ) : Nat :=
  match h.packetHistory.head? with
  | some p => sub64 p.packetNumber 1
  | none => h.largestAcked

/-- `GetLeastUnacked`. -/
def getLeastUnacked (h : SentPacketHandler κ) : Nat := add64 h.largestInOrderAcked 1

/-- `ShouldSendRetransmittablePacket`. -/
def shouldSendRetransmittablePacket (h : SentPacketHandler κ) : Bool :=
  maxNonRetransmittablePackets ≤ h.numNonRetransmittablePackets

/-- `hasOutstandingRetransmittablePacket`. -/
def hasOutstandingRetransmittablePacket (h : SentPacketHandler κ) : Bool :=
  h.packetHistory.any Packet.isRetransmittable

/-- `SendingAllowed`. -/
def sendingAllowed (h : SentPacketHandler κ) : Bool :=
  let congestionLimited := SendAlgorithm.getCongestionWindow h.congestion < h.bytesInFlight
  let maxTrackedLimited :=
    maxTrackedSentPackets ≤ h.retransmissionQueue.length + h.packetHistory.length
  let haveRetransmissions := 0 < h.retransmissionQueue.length
  !maxTrackedLimited && (!congestionLimited || haveRetransmissions)

/-! ## Sending -/

/-- Appending to `skippedPackets`, which keeps the most recent numbers only. -/
def addSkippedPacket (skipped : List Nat) (p : Nat) : List Nat :=
  let skipped := skipped ++ [p]
  if maxTrackedSkippedPackets < skipped.length then skipped.drop 1 else skipped

/-- `SentPacket`. -/
def sentPacket (h : SentPacketHandler κ) (packet : Packet) (now : Int) :
    Except Err (SentPacketHandler κ) :=
  if packet.packetNumber ≤ h.lastSentPacketNumber then .error .packetNumberNotIncreasing
  else if maxTrackedSentPackets < h.retransmissionQueue.length + h.packetHistory.length + 1 then
    .error .tooManyTrackedSentPackets
  else
    let numSkipped := packet.packetNumber - (h.lastSentPacketNumber + 1)
    let packet := { packet with frames := stripNonRetransmittableFrames packet.frames }
    let isRetransmittable := packet.frames.length ≠ 0
    let h := { h with
      skippedPackets := (List.range' (h.lastSentPacketNumber + 1) numSkipped).foldl
        addSkippedPacket h.skippedPackets
      lastSentPacketNumber := packet.packetNumber
      packets := add64 h.packets 1
      lastSentTime := some now
      sent := h.sent ++ [packet.packetNumber] }
    let h :=
      if isRetransmittable then
        { h with
          bytesInFlight := add64 h.bytesInFlight packet.length
          sentBytes := add64 h.sentBytes packet.length
          packetHistory := h.packetHistory ++ [{ packet with sendTime := now }]
          numNonRetransmittablePackets := 0 }
      else { h with numNonRetransmittablePackets := h.numNonRetransmittablePackets + 1 }
    .ok (h.notify (.onPacketSent now h.bytesInFlight packet.packetNumber packet.length
      isRetransmittable)).updateLossDetectionAlarm

/-! ## Acknowledgements -/

/-- Moving on to the range the packet may be in: ranges are given lowest first, and the last
one is kept. -/
def advanceRange (packetNumber : Nat) : List AckRange → List AckRange
  | r :: next :: rest =>
    if r.last < packetNumber then advanceRange packetNumber (next :: rest) else r :: next :: rest
  | ranges => ranges

/-- The loop of `determineNewlyAckedPackets`; the list starts with the range at
`ackRangeIndex`. -/
def newlyAcked (f : AckedPackets) : List AckRange → List Packet → Except Err (List Packet)
  | _, [] => .ok []
  | ranges, packet :: rest =>
    let packetNumber := packet.packetNumber
    if packetNumber < f.lowestAcked then newlyAcked f ranges rest
    else if f.largestAcked < packetNumber then .ok []
    else if f.hasMissingRanges then
      match advanceRange packetNumber ranges with
      | [] => .error (.panic .indexOutOfRange)
      | ackRange :: ranges =>
        if ackRange.first ≤ packetNumber then
          if ackRange.last < packetNumber then .error .wouldHaveAckedWrongPacket
          else (packet :: ·) <$> newlyAcked f (ackRange :: ranges) rest
        else newlyAcked f (ackRange :: ranges) rest
    else (packet :: ·) <$> newlyAcked f ranges rest

/-- `determineNewlyAckedPackets` and `determineNewlyAckedPacketsClosePath`. -/
def determineNewlyAckedPackets (h : SentPacketHandler κ) (f : AckedPackets) :
    Except Err (List Packet) :=
  newlyAcked f f.ackRanges.reverse h.packetHistory

/-- The history without the element of a packet. -/
def removeFromHistory (history : List Packet) (packet : Packet) : List Packet :=
  history.filter (·.packetNumber ≠ packet.packetNumber)

/-- `onPacketAcked`, and the call of the congestion controller after it. -/
def onPacketAcked (h : SentPacketHandler κ) (packet : Packet) : SentPacketHandler κ :=
  let h := { h with
    bytesInFlight := sub64 h.bytesInFlight packet.length
    rtoCount := 0
    tlpCount := 0
    packetHistory := removeFromHistory h.packetHistory packet
    ackedBytes := add64 h.ackedBytes packet.length
    acknowledged := h.acknowledged ++ [packet] }
  h.notify (.onPacketAcked packet.packetNumber packet.length h.bytesInFlight)

/-- `queuePacketForRetransmission`. -/
def queuePacketForRetransmission (h : SentPacketHandler κ) (packet : Packet) :
    SentPacketHandler κ :=
  { h with
    bytesInFlight := sub64 h.bytesInFlight packet.length
    retransmissionQueue := h.retransmissionQueue ++ [packet]
    packetHistory := removeFromHistory h.packetHistory packet
    stopWaitingManager :=
      h.stopWaitingManager.queuedRetransmissionForPacketNumber packet.packetNumber }

/-- A packet queued for retransmission, and the congestion controller told of its loss. -/
def queueLost (h : SentPacketHandler κ) (packet : Packet) : SentPacketHandler κ :=
  let h := h.queuePacketForRetransmission packet
  h.notify (.onPacketLost packet.packetNumber packet.length h.bytesInFlight)

/-- `detectLostPackets`. -/
def detectLostPackets (h : SentPacketHandler κ) (now : Int) : SentPacketHandler κ :=
  let maxRTT := Float.ofInt (max h.rttStats.latestRTT h.rttStats.smoothedRTT)
  let delayUntilLost := ((1.125 : Float) * maxRTT).toInt64.toInt
  let candidates := h.packetHistory.takeWhile (·.packetNumber ≤ h.largestAcked)
  let lostPackets := candidates.filter fun p => delayUntilLost < now - p.sendTime
  let waiting := candidates.find? fun p => now - p.sendTime ≤ delayUntilLost
  let h := { h with
    lossTime := waiting.map fun p => now + (delayUntilLost - (now - p.sendTime))
    losses := add64 h.losses lostPackets.length }
  lostPackets.foldl queueLost h

/-- `SetInflightAsLost`. -/
def setInflightAsLost (h : SentPacketHandler κ) : SentPacketHandler κ :=
  let lostPackets := h.packetHistory.takeWhile (·.packetNumber ≤ h.largestAcked)
  lostPackets.foldl queueLost { h with losses := add64 h.losses lostPackets.length }

/-- `maybeUpdateRTT`, with its result. -/
def maybeUpdateRTT (h : SentPacketHandler κ) (largestAcked : Nat) (ackDelay rcvTime : Int) :
    SentPacketHandler κ × Bool :=
  let packet? := (h.packetHistory.takeWhile (·.packetNumber ≤ largestAcked)).find?
    (·.packetNumber = largestAcked)
  match packet? with
  | some packet =>
    ({ h with rttStats := h.rttStats.updateRTT (rcvTime - packet.sendTime) ackDelay }, true)
  | none => (h, false)

/-- `skippedPacketsAcked` and `skippedPacketsAckedClosePath`. -/
def skippedPacketsAcked (h : SentPacketHandler κ) (f : AckedPackets) : Bool :=
  h.skippedPackets.any f.acksPacket

/-- `garbageCollectSkippedPackets`: everything up to the last number not above the largest
acked in order is dropped. -/
def garbageCollectSkippedPackets (h : SentPacketHandler κ) : SentPacketHandler κ :=
  let lioa := h.largestInOrderAcked
  { h with skippedPackets := (h.skippedPackets.reverse.takeWhile (lioa < ·)).reverse }

/-- `ReceivedAck`. -/
def receivedAck (h : SentPacketHandler κ) (ackFrame : AckFrame) (withPacketNumber : Nat)
    (rcvTime now : Int) : SentPacketHandler κ × Option Err :=
  if h.lastSentPacketNumber < ackFrame.largestAcked then (h, some .ackForUnsentPacket)
  else if withPacketNumber ≤ h.largestReceivedPacketWithAck then
    (h, some .duplicateOrOutOfOrderAck)
  else
    let h := { h with largestReceivedPacketWithAck := withPacketNumber }
    if ackFrame.largestAcked ≤ h.largestInOrderAcked then (h, none)
    else
      let h := { h with largestAcked := ackFrame.largestAcked }
      if h.skippedPacketsAcked ackFrame.toAckedPackets then (h, some .ackForSkippedPacket)
      else
        let (h, rttUpdated) := h.maybeUpdateRTT ackFrame.largestAcked ackFrame.delayTime rcvTime
        let h := if rttUpdated then h.notify .maybeExitSlowStart else h
        match h.determineNewlyAckedPackets ackFrame.toAckedPackets with
        | .error e => (h, some e)
        | .ok ackedPackets =>
          let h := ackedPackets.foldl onPacketAcked h
          let h := (h.detectLostPackets now).updateLossDetectionAlarm.garbageCollectSkippedPackets
          ({ h with stopWaitingManager := h.stopWaitingManager.receivedAck ackFrame }, none)

/-- `ReceivedClosePath`. -/
def receivedClosePath (h : SentPacketHandler κ) (f : ClosePathFrame) (withPacketNumber : Nat) :
    SentPacketHandler κ × Option Err :=
  if h.lastSentPacketNumber < f.largestAcked then (h, some .ackForUnsentPacket)
  else if withPacketNumber ≤ h.largestReceivedPacketWithAck then
    (h, some .duplicateOrOutOfOrderAck)
  else
    let h := { h with largestReceivedPacketWithAck := withPacketNumber }
    if h.skippedPacketsAcked f.toAckedPackets then (h, some .ackForSkippedPacket)
    else
      match h.determineNewlyAckedPackets f.toAckedPackets with
      | .error e => (h, some e)
      | .ok ackedPackets =>
        let h := ackedPackets.foldl onPacketAcked h
        (h.setInflightAsLost.garbageCollectSkippedPackets, none)

/-! ## Retransmissions -/

/-- `queueRTO`. -/
def queueRTO (h : SentPacketHandler κ) (packet : Packet) : SentPacketHandler κ :=
  let h := h.queuePacketForRetransmission packet
  let h := { h with losses := add64 h.losses 1 }
  h.notify (.onPacketLost packet.packetNumber packet.length h.bytesInFlight)

/-- `retransmitTLP`. -/
def retransmitTLP (h : SentPacketHandler κ) : SentPacketHandler κ :=
  match h.packetHistory.getLast? with
  | some p => h.queuePacketForRetransmission p
  | none => h

/-- `retransmitAllPackets`. -/
def retransmitAllPackets (h : SentPacketHandler κ) : SentPacketHandler κ :=
  (h.packetHistory.foldl queueRTO h).notify (.onRetransmissionTimeout true)

/-- `retransmitOldestPacket`. -/
def retransmitOldestPacket (h : SentPacketHandler κ) : SentPacketHandler κ :=
  match h.packetHistory.head? with
  | some p => h.queueRTO p
  | none => h

/-- `retransmitOldestTwoPackets`. -/
def retransmitOldestTwoPackets (h : SentPacketHandler κ) : SentPacketHandler κ :=
  h.retransmitOldestPacket.retransmitOldestPacket.notify (.onRetransmissionTimeout true)

/-- The branch of `OnAlarm` that calls `onRTOCallback`. -/
def rtoDue (h : SentPacketHandler κ) : Bool :=
  h.hasOutstandingRetransmittablePacket && h.lossTime.isNone && maxTailLossProbes ≤ h.tlpCount

/-- `OnAlarm`; `potentiallyFailed` is what `onRTOCallback` returns when it is called. -/
def onAlarm (h : SentPacketHandler κ) (potentiallyFailed : Bool) (now : Int) :
    SentPacketHandler κ :=
  if !h.hasOutstandingRetransmittablePacket then { h with alarm := none }
  else if h.lossTime.isSome then (h.detectLostPackets now).updateLossDetectionAlarm
  else if h.tlpCount < maxTailLossProbes then
    let h := h.retransmitTLP
    { h with tlpCount := h.tlpCount + 1 }.updateLossDetectionAlarm
  else
    let h := if potentiallyFailed then h.retransmitAllPackets else h.retransmitOldestTwoPackets
    { h with rtoCount := (h.rtoCount + 1) % 2 ^ 32 }.updateLossDetectionAlarm

/-- `DequeuePacketForRetransmission`. -/
def dequeuePacketForRetransmission (h : SentPacketHandler κ) :
    SentPacketHandler κ × Option Packet :=
  match h.retransmissionQueue with
  | [] => (h, none)
  | packet :: rest =>
    ({ h with retransmissionQueue := rest, retransmissions := add64 h.retransmissions 1 },
      some packet)

/-- `DuplicatePacket`. -/
def duplicatePacket (h : SentPacketHandler κ) (packet : Packet) : SentPacketHandler κ :=
  { h with retransmissionQueue := h.retransmissionQueue ++ [packet] }

/-- `GetStopWaitingFrame`. -/
def getStopWaitingFrame (h : SentPacketHandler κ) (force : Bool) :
    SentPacketHandler κ × Option StopWaitingFrame :=
  let (stopWaitingManager, swf) := h.stopWaitingManager.getStopWaitingFrame force
  ({ h with stopWaitingManager }, swf)

end SentPacketHandler
end MpQuic
