import MpQuic.Frame

/-!
# Received packets (`ackhandler/received_packet_handler.go`, `received_packet_history.go`)

Which packets of a path have arrived, and when to acknowledge them.  The intervals
of the history are kept with the highest one first, the order in which the source
walks its list and in which an ACK frame reports them.
-/
namespace MpQuic

/-! ## The history -/

namespace ReceivedPacketHistory

/-- An extended interval, merged with the one below it if they now touch. -/
def mergeWithPrev (el : AckRange) : List AckRange → List AckRange
  | prev :: rest =>
    if add64 prev.last 1 = el.first then { prev with last := el.last } :: rest
    else el :: prev :: rest
  | [] => [el]

/-- The loop of `ReceivedPacket`. -/
def insertPacket (p : Nat) : List AckRange → List AckRange
  | [] => [{ first := p, last := p }]
  | el :: rest =>
    if el.first ≤ p ∧ p ≤ el.last then el :: rest
    else if el.last = sub64 p 1 then mergeWithPrev { el with last := p } rest
    else if el.first = add64 p 1 then mergeWithPrev { el with first := p } rest
    else if el.last < p then { first := p, last := p } :: el :: rest
    else el :: insertPacket p rest

/-- `receivedPacketHistory.ReceivedPacket`. -/
def receivedPacket (ranges : List AckRange) (p : Nat) : Except Err (List AckRange) :=
  if maxTrackedReceivedAckRanges ≤ ranges.length then
    .error .tooManyOutstandingReceivedAckRanges
  else .ok (insertPacket p ranges)

/-- The loop of `DeleteUpTo`, from the lowest interval up. -/
def deleteFromLowest (p : Nat) : List AckRange → List AckRange
  | [] => []
  | el :: rest =>
    if el.first ≤ p ∧ p < el.last then
      { el with first := add64 p 1 } :: deleteFromLowest p rest
    else if el.last ≤ p then deleteFromLowest p rest
    else el :: rest

/-- `DeleteUpTo`. -/
def deleteUpTo (ranges : List AckRange) (p : Nat) : List AckRange :=
  (deleteFromLowest p ranges.reverse).reverse

/-- `GetAckRanges`, from the back of the source's list to its front: the order kept here. -/
def getAckRanges (ranges : List AckRange) : List AckRange := ranges

end ReceivedPacketHistory

/-! ## The handler -/

/-- `receivedPacketHandler`; `packetHistory` is its list of intervals. -/
structure ReceivedPacketHandler where
  version : Int
  largestObserved : Nat := 0
  lowerLimit : Nat := 0
  largestObservedReceivedTime : Int := 0
  packetHistory : List AckRange := []
  packetsReceivedSinceLastAck : Nat := 0
  retransmittablePacketsReceivedSinceLastAck : Nat := 0
  ackQueued : Bool := false
  ackAlarm : Option Int := none
  lastAck : Option AckFrame := none
  packets : Nat := 0
  deriving DecidableEq, Repr

namespace ReceivedPacketHandler

/-- `NewReceivedPacketHandler`. -/
def new (version : Int) : ReceivedPacketHandler := { version }

/-- `GetHighestAckRange`, the zero range if there is none. -/
def getHighestAckRange (h : ReceivedPacketHandler) : AckRange :=
  h.packetHistory.headD { first := 0, last := 0 }

/-- `maybeQueueAck`. -/
def maybeQueueAck (h : ReceivedPacketHandler) (packetNumber : Nat) (shouldInstigateAck : Bool)
    (now : Int) : ReceivedPacketHandler :=
  let h := { h with
    packetsReceivedSinceLastAck := h.packetsReceivedSinceLastAck + 1
    retransmittablePacketsReceivedSinceLastAck :=
      h.retransmittablePacketsReceivedSinceLastAck + if shouldInstigateAck then 1 else 0 }
  let everyTwentieth := h.version < 39 ∧
    maxPacketsReceivedBeforeAckSend ≤ h.packetsReceivedSinceLastAck
  let firstOrMissing := match h.lastAck with
    | none => true
    | some lastAck => packetNumber < lastAck.largestAcked ||
        lastAck.largestAcked < h.getHighestAckRange.first
  let h := { h with ackQueued := h.ackQueued || firstOrMissing || decide everyTwentieth }
  let h :=
    if !h.ackQueued && shouldInstigateAck then
      if retransmittablePacketsBeforeAck ≤ h.retransmittablePacketsReceivedSinceLastAck then
        { h with ackQueued := true }
      else if h.ackAlarm.isNone then { h with ackAlarm := some (now + ackSendDelay) }
      else h
    else h
  if h.ackQueued then { h with ackAlarm := none } else h

/-- `ReceivedPacket`. -/
def receivedPacket (h : ReceivedPacketHandler) (packetNumber : Nat) (shouldInstigateAck : Bool)
    (now : Int) : ReceivedPacketHandler × Option Err :=
  if packetNumber = 0 then (h, some .invalidPacketNumber)
  else
    let h := { h with packets := add64 h.packets 1 }
    let h :=
      if h.largestObserved < packetNumber then
        { h with largestObserved := packetNumber, largestObservedReceivedTime := now }
      else h
    if packetNumber ≤ h.lowerLimit then (h, none)
    else
      match ReceivedPacketHistory.receivedPacket h.packetHistory packetNumber with
      | .error e => (h, some e)
      | .ok packetHistory =>
        ({ h with packetHistory }.maybeQueueAck packetNumber shouldInstigateAck now, none)

/-- `SetLowerLimit`. -/
def setLowerLimit (h : ReceivedPacketHandler) (p : Nat) : ReceivedPacketHandler :=
  { h with
    lowerLimit := p
    packetHistory := ReceivedPacketHistory.deleteUpTo h.packetHistory p }

/-- `GetAckFrame`; the path fills in its ID. -/
def getAckFrame (h : ReceivedPacketHandler) (pathID : Nat) (now : Int) :
    Except Err (ReceivedPacketHandler × Option AckFrame) :=
  let alarmDue := match h.ackAlarm with
    | none => false
    | some ackAlarm => decide (ackAlarm ≤ now)
  if !h.ackQueued && !alarmDue then .ok (h, none)
  else
    match h.packetHistory.getLast? with
    | none => .error (.panic .indexOutOfRange)
    | some lowest =>
      let ack : AckFrame :=
        { pathID
          largestAcked := h.largestObserved
          lowestAcked := lowest.first
          ackRanges := if 1 < h.packetHistory.length then h.packetHistory else []
          packetReceivedTime := h.largestObservedReceivedTime
          delayTime := 0 }
      .ok ({ h with
        lastAck := some ack
        ackAlarm := none
        ackQueued := false
        packetsReceivedSinceLastAck := 0
        retransmittablePacketsReceivedSinceLastAck := 0 }, some ack)

end ReceivedPacketHandler
end MpQuic
