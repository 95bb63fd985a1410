import MpQuic.ByteOrder
import MpQuic.Errors
import MpQuic.StreamFrame

/-!
# Frames (`internal/wire`)

The frame types with the functions the sender and the receiver use on them: which
packets an ACK or CLOSE_PATH frame acknowledges, the lengths the packer counts
with (`MinLength`) and the bytes written (`Write`).

`Frame σ` is `wire.Frame`.  Stream frames are the only frames that are shared and
mutated after their creation, so their representation is a parameter: `σ` is
`StreamFrame` for a parsed or written frame and a reference into the sender's heap
for a frame in one of the sender's queues.
-/
namespace MpQuic

/-! ## Frame types -/

/-- `wire.AckRange`. -/
structure AckRange where
  first : Nat
  last : Nat
  deriving DecidableEq, Repr

/-- The fields that `wire.AckFrame` and `wire.ClosePathFrame` have in common.  The range with
the highest numbers goes first. -/
structure AckedPackets where
  pathID : Nat
  largestAcked : Nat
  lowestAcked : Nat
  ackRanges : List AckRange
  deriving DecidableEq, Repr

/-- `wire.AckFrame`. -/
structure AckFrame extends AckedPackets where
  packetReceivedTime : Int
  delayTime : Int
  deriving DecidableEq, Repr

/-- `wire.ClosePathFrame`. -/
structure ClosePathFrame extends AckedPackets where
  deriving DecidableEq, Repr

/-- `wire.StopWaitingFrame`; a length of 0 is `PacketNumberLenInvalid`. -/
structure StopWaitingFrame where
  leastUnacked : Nat
  packetNumberLen : Nat := 0
  packetNumber : Nat := 0
  deriving DecidableEq, Repr

/-- `wire.RstStreamFrame`. -/
structure RstStreamFrame where
  streamID : Nat
  errorCode : Nat
  byteOffset : Nat
  deriving DecidableEq, Repr

/-- `wire.WindowUpdateFrame`. -/
structure WindowUpdateFrame where
  streamID : Nat
  byteOffset : Nat
  deriving DecidableEq, Repr

/-- `wire.BlockedFrame`. -/
structure BlockedFrame where
  streamID : Nat
  deriving DecidableEq, Repr

/-- `wire.GoawayFrame`. -/
structure GoawayFrame where
  errorCode : Nat
  lastGoodStream : Nat
  reasonPhrase : List Byte
  deriving DecidableEq, Repr

/-- `wire.ConnectionCloseFrame`. -/
structure ConnectionCloseFrame where
  errorCode : Nat
  reasonPhrase : List Byte
  deriving DecidableEq, Repr

/-- `net.UDPAddr`, without the zone. -/
structure UDPAddr where
  ip : List Byte
  port : Nat
  deriving DecidableEq, Repr

namespace UDPAddr

/-- The prefix of an IPv4 address in its 16-byte form. -/
def v4InV6Prefix : List Byte := List.replicate 10 0 ++ [0xff, 0xff]

/-- `net.IP.To4`. -/
def to4 (a : UDPAddr) : Option (List Byte) :=
  if a.ip.length = 4 then some a.ip
  else if a.ip.length = 16 ∧ a.ip.take 12 = v4InV6Prefix then some (a.ip.drop 12)
  else none

/-- `net.IP.To16`. -/
def to16 (a : UDPAddr) : Option (List Byte) :=
  if a.ip.length = 4 then some (v4InV6Prefix ++ a.ip)
  else if a.ip.length = 16 then some a.ip
  else none

theorem length_to16 (a : UDPAddr) {ip : List Byte} (h : a.to16 = some ip) : ip.length = 16 := by
  unfold to16 at h
  split at h
  · next hlen =>
    obtain rfl := Option.some.inj h
    rw [List.length_append, hlen]
    rfl
  split at h
  · next hlen => exact Option.some.inj h ▸ hlen
  · cases h

/-- The four bytes of an IPv4 address stand for the same address in the 16-byte form. -/
theorem to16_of_to4 (a : UDPAddr) {ip : List Byte} (h : a.to4 = some ip) :
    ip.length = 4 ∧ ∀ port, (UDPAddr.mk (v4InV6Prefix ++ ip) port).to16 = a.to16 := by
  have hlength {ip : List Byte} (hip : ip.length = 4) :
      (v4InV6Prefix ++ ip).length = 16 := by
    rw [List.length_append, hip]
    rfl
  unfold to4 at h
  split at h
  · next hlen =>
    obtain rfl := Option.some.inj h
    refine ⟨hlen, fun port => ?_⟩
    rw [to16, to16, if_neg (by rw [hlength hlen]; decide), if_pos (hlength hlen), if_pos hlen]
  split at h
  · next hlen =>
    obtain rfl := Option.some.inj h
    have hdrop : (a.ip.drop 12).length = 4 := by rw [List.length_drop, hlen.1]
    have hip : v4InV6Prefix ++ a.ip.drop 12 = a.ip := by
      rw [← hlen.2, List.take_append_drop]
    refine ⟨hdrop, fun port => ?_⟩
    rw [hip]
    rfl
  · cases h

end UDPAddr

/-- `wire.AddAddressFrame`. -/
structure AddAddressFrame where
  ipVersion : Nat
  addr : UDPAddr
  deriving DecidableEq, Repr

/-- `wire.PathsFrame`. -/
structure PathsFrame where
  maxNumPaths : Nat
  numPaths : Nat
  pathIDs : List Nat
  remoteRTTs : List Int
  deriving DecidableEq, Repr

/-- `wire.Frame`, with stream frames represented by `σ`. -/
inductive Frame (σ : Type)
  | stream (f : σ)
  | ack (f : AckFrame)
  | stopWaiting (f : StopWaitingFrame)
  | rstStream (f : RstStreamFrame)
  | windowUpdate (f : WindowUpdateFrame)
  | blocked (f : BlockedFrame)
  | ping
  | goaway (f : GoawayFrame)
  | connectionClose (f : ConnectionCloseFrame)
  | addAddress (f : AddAddressFrame)
  | closePath (f : ClosePathFrame)
  | paths (f : PathsFrame)
  deriving DecidableEq, Repr

/-- A frame that is not a STREAM frame: what the packer queues apart from stream data. -/
abbrev ControlFrame := Frame Empty

namespace Frame
variable {σ : Type}

/-- A control frame as a frame. -/
def ofControl : ControlFrame → Frame σ
  | ack f => .ack f
  | stopWaiting f => .stopWaiting f
  | rstStream f => .rstStream f
  | windowUpdate f => .windowUpdate f
  | blocked f => .blocked f
  | ping => .ping
  | goaway f => .goaway f
  | connectionClose f => .connectionClose f
  | addAddress f => .addAddress f
  | closePath f => .closePath f
  | paths f => .paths f

/-- A type switch on a frame: its STREAM frame, or the control frame it is. -/
def split : Frame σ → σ ⊕ ControlFrame
  | stream f => .inl f
  | ack f => .inr (.ack f)
  | stopWaiting f => .inr (.stopWaiting f)
  | rstStream f => .inr (.rstStream f)
  | windowUpdate f => .inr (.windowUpdate f)
  | blocked f => .inr (.blocked f)
  | ping => .inr .ping
  | goaway f => .inr (.goaway f)
  | connectionClose f => .inr (.connectionClose f)
  | addAddress f => .inr (.addAddress f)
  | closePath f => .inr (.closePath f)
  | paths f => .inr (.paths f)

end Frame

/-! ## Acknowledged packets -/

namespace AckedPackets

/-- `HasMissingRanges`. -/
def hasMissingRanges (f : AckedPackets) : Bool := !f.ackRanges.isEmpty

/-- `AcksPacket`. -/
def acksPacket (f : AckedPackets) (p : Nat) : Bool :=
  if p < f.lowestAcked ∨ f.largestAcked < p then false
  else if f.hasMissingRanges then
    f.ackRanges.any fun r => r.first ≤ p && p ≤ r.last
  else true

/-- The consistency checks of `validateAckRanges` on neighbouring ranges. -/
def rangesDescend : List AckRange → Bool
  | lastAckRange :: ackRange :: rest =>
    !(lastAckRange.first ≤ ackRange.first) && !(lastAckRange.first ≤ add64 ackRange.last 1) &&
      rangesDescend (ackRange :: rest)
  | _ => true

/-- `validateAckRanges`. -/
def validateAckRanges (f : AckedPackets) : Bool :=
  match f.ackRanges with
  | [] => true
  | [_] => false
  | r :: rs =>
    r.last == f.largestAcked && (r :: rs).all (fun r => r.first ≤ r.last) &&
      rangesDescend (r :: rs)

/-- The number of blocks written for a gap: one more for every 255 missing packets. -/
def blocksForGap (gap : Nat) : Nat :=
  if gap % 255 = 0 then gap / 255 else gap / 255 + 1

/-- The gap between two neighbouring ranges. -/
def gap (lastAckRange ackRange : AckRange) : Nat :=
  sub64 (sub64 lastAckRange.first ackRange.last) 1

/-- The loop of `numWritableNackRanges`. -/
def countNackRanges (numRanges : Nat) : List AckRange → Nat
  | lastAckRange :: ackRange :: rest =>
    let rangeLength := blocksForGap (gap lastAckRange ackRange)
    if numRanges + rangeLength < 0xFF then
      countNackRanges (numRanges + rangeLength) (ackRange :: rest)
    else numRanges
  | _ => numRanges

/-- `numWritableNackRanges`. -/
def numWritableNackRanges (f : AckedPackets) : Nat :=
  if f.ackRanges.isEmpty then 0 else countNackRanges 0 f.ackRanges + 1

/-- The number of packets in a range. -/
def rangeLength (r : AckRange) : Nat := add64 (sub64 r.last r.first) 1

/-- `getMissingSequenceNumberDeltaLen`. -/
def getMissingSequenceNumberDeltaLen (f : AckedPackets) : Nat :=
  let maxRangeLength :=
    if f.hasMissingRanges then (f.ackRanges.map rangeLength).foldl max 0
    else add64 (sub64 f.largestAcked f.lowestAcked) 1
  if maxRangeLength ≤ 0xFF then 1
  else if maxRangeLength ≤ 0xFFFF then 2
  else if maxRangeLength ≤ 0xFFFFFFFF then 4
  else 6

end AckedPackets
end MpQuic
