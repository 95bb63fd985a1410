import MpQuic.Protocol

/-!
# Round trip times and congestion control (`congestion/rtt_stats.go`, `interface.go`)

The window of a path is computed by one of two senders, cubic or OLIA.  What the
rest of the program relies on is the interface: the sender is told about sent,
acknowledged and lost packets, and asked for its window.
-/
namespace MpQuic

/-- `RTTStats`, without the samples of the windowed minimum, which nothing reads. -/
structure RTTStats where
  minRTT : Int := 0
  maxRTT : Int := 0
  latestRTT : Int := 0
  smoothedRTT : Int := 0
  meanDeviation : Int := 0
  deriving DecidableEq, Repr

namespace RTTStats

/-- `time.Duration(x) * time.Microsecond` for a `float32` number of microseconds. -/
def ofMicroseconds (x : Float32) : Int := x.toInt64.toInt * 1000

/-- `float32(d / time.Microsecond)`. -/
def microseconds (d : Int) : Float32 := Float32.ofInt (d.tdiv 1000)

/-- `UpdateRTT`. -/
def updateRTT (r : RTTStats) (sendDelta ackDelay : Int) : RTTStats :=
  -- `utils.InfDuration` is the largest `time.Duration`
  if sendDelta = 2 ^ 63 - 1 ∨ sendDelta ≤ 0 then r
  else
    let minRTT := if r.minRTT = 0 ∨ sendDelta < r.minRTT then sendDelta else r.minRTT
    let maxRTT := if r.maxRTT < sendDelta then sendDelta else r.maxRTT
    let sample := if ackDelay < sendDelta then sendDelta - ackDelay else sendDelta
    let r := { r with minRTT, maxRTT, latestRTT := sample }
    if r.smoothedRTT = 0 then
      { r with smoothedRTT := sample, meanDeviation := sample.tdiv 2 }
    else
      { r with
        meanDeviation := ofMicroseconds (0.75 * microseconds r.meanDeviation +
          0.25 * microseconds (r.smoothedRTT - sample).natAbs)
        smoothedRTT := ofMicroseconds (microseconds r.smoothedRTT * 0.875 +
          microseconds sample * 0.125) }

/-- `RetransmissionDelay`, the same for both senders. -/
def retransmissionDelay (r : RTTStats) : Int :=
  if r.smoothedRTT = 0 then 0 else r.smoothedRTT + r.meanDeviation * 4

end RTTStats

/-- The calls of `SendAlgorithm` that may change the state of a sender, with their arguments. -/
inductive CongestionEvent
  | onPacketSent (sentTime : Int) (bytesInFlight packetNumber bytes : Nat)
      (isRetransmittable : Bool)
  | maybeExitSlowStart
  | onPacketAcked (number ackedBytes bytesInFlight : Nat)
  | onPacketLost (number lostBytes bytesInFlight : Nat)
  | onRetransmissionTimeout (packetsRetransmitted : Bool)

/-- `congestion.SendAlgorithm`. -/
class SendAlgorithm (κ : Type) where
  /-- A new OLIA sender, or a new cubic sender. -/
  new : (olia : Bool) → κ
  /-- The state of the sender after a call. -/
  notify : κ → RTTStats → CongestionEvent → κ
  /-- `GetCongestionWindow`. -/
  getCongestionWindow : κ → Nat

/-- The simplest sender: a window that nothing changes. -/
structure FixedWindow where
  bytes : Nat
  deriving DecidableEq, Repr

/-- Both kinds of sender start with `InitialCongestionWindow` packets of 1460 bytes. -/
instance : SendAlgorithm FixedWindow where
  new _ := ⟨32 * 1460⟩
  notify w _ _ := w
  getCongestionWindow w := w.bytes

end MpQuic
