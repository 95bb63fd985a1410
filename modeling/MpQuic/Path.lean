import MpQuic.PacketNumberGenerator
import MpQuic.ReceivedPacketHandler
import MpQuic.SentPacketHandler

/-!
# Paths (`path.go`)

A path has its own packet numbers, its own sent and received packet handlers and
its own congestion controller.  Its run loop only turns timers into events of the
session and ends when the path is closed; `closeRequested` is the value waiting in
its `closeChan`.
-/
namespace MpQuic

/-- `path`.  `rttStats` is the one of `sentPacketHandler`, with which the source shares it. -/
structure Path (κ : Type) where
  pathID : Nat
  localAddr : UDPAddr
  remoteAddr : UDPAddr
  sentPacketHandler : SentPacketHandler κ
  receivedPacketHandler : ReceivedPacketHandler
  isOpen : Bool := true
  closeRequested : Bool := false
  potentiallyFailed : Bool := false
  packetNumberGenerator : PacketNumberGenerator := .new skipPacketAveragePeriodLength
  lastRcvdPacketNumber : Nat := 0
  largestRcvdPacketNumber : Nat := 0
  leastUnacked : Nat := 0
  lastNetworkActivityTime : Int

namespace Path
variable {κ : Type} [SendAlgorithm κ]

/-- `setup`, with a new congestion controller. -/
def setup (pathID : Nat) (localAddr remoteAddr : UDPAddr) (version : Int) (congestion : κ)
    (now : Int) : Path κ :=
  { pathID, localAddr, remoteAddr
    sentPacketHandler := .new congestion
    receivedPacketHandler := .new version
    lastNetworkActivityTime := now }

/-- `path.rttStats`. -/
def rttStats (p : Path κ) : RTTStats := p.sentPacketHandler.rttStats

/-- `SendingAllowed`. -/
def sendingAllowed (p : Path κ) : Bool := p.isOpen && p.sentPacketHandler.sendingAllowed

/-- `SetLeastUnacked` with `GetLeastUnacked`. -/
def setLeastUnacked (p : Path κ) : Path κ :=
  { p with leastUnacked := p.sentPacketHandler.getLeastUnacked }

/-- `GetStopWaitingFrame`. -/
def getStopWaitingFrame (p : Path κ) (force : Bool) : Path κ × Option StopWaitingFrame :=
  let (sentPacketHandler, swf) := p.sentPacketHandler.getStopWaitingFrame force
  ({ p with sentPacketHandler }, swf)

/-- `GetAckFrame`. -/
def getAckFrame (p : Path κ) (now : Int) : Except Err (Path κ × Option AckFrame) := do
  let (receivedPacketHandler, ack) ← p.receivedPacketHandler.getAckFrame p.pathID now
  return ({ p with receivedPacketHandler }, ack)

end Path
end MpQuic
