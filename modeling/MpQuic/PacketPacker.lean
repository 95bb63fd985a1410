import MpQuic.Path
import MpQuic.PublicHeader
import MpQuic.StreamFramer

/-!
# The packet packer (`packet_packer.go`)

The packer composes packets from the queued control frames and the framer's
stream frames, and seals them with the packet number it takes from the path.
Which keys there are is the part of `handshake.CryptoSetup` that it sees.

Two fields are not part of the source and nothing reads them: `sealLog` records
every packet sealed, and `packed` the frames of every packet `PackPacket` wrote,
as they were when they were written.
-/
namespace MpQuic

/-! ## Keys -/

/-- `handshake.CryptoSetup`, as far as sealing is concerned: the keys installed, the overhead
of a sealed packet at each level, and the server's diversification nonce. -/
structure CryptoSetup where
  perspective : Perspective
  secureAEAD : Bool := false
  forwardSecureAEAD : Bool := false
  overhead : EncryptionLevel → Nat := fun _ => 12
  diversificationNonce : List Byte := []

namespace CryptoSetup

/-- `GetSealer`; the server never uses its secure key for anything but the crypto stream. -/
def getSealer (c : CryptoSetup) : EncryptionLevel :=
  if c.forwardSecureAEAD then .forwardSecure
  else
    match c.perspective with
    | .client => if c.secureAEAD then .secure else .unencrypted
    | .server => .unencrypted

/-- `GetSealerForCryptoStream`. -/
def getSealerForCryptoStream (c : CryptoSetup) : EncryptionLevel :=
  match c.perspective with
  | .client => .unencrypted
  | .server => if c.secureAEAD then .secure else .unencrypted

/-- Whether `GetSealerWithEncryptionLevel` finds a key. -/
def hasSealer (c : CryptoSetup) : EncryptionLevel → Bool
  | .unspecified => false
  | .unencrypted => true
  | .secure => c.secureAEAD
  | .forwardSecure => c.forwardSecureAEAD

end CryptoSetup

/-! ## The packer -/

/-- A call of `Seal`: the key is that of the level, the path is where the packet goes. -/
structure SealedPacket where
  encryptionLevel : EncryptionLevel
  pathID : Nat
  packetNumber : Nat
  deriving DecidableEq, Repr

/-- `packetPacker`. -/
structure PacketPacker where
  connectionID : Nat
  perspective : Perspective
  version : Int
  cryptoSetup : CryptoSetup
  streamFramer : StreamFramer
  controlFrames : List ControlFrame := []
  stopWaiting : Nat → Option StopWaitingFrame := fun _ => none
  ackFrame : Nat → Option AckFrame := fun _ => none
  sealLog : List SealedPacket := []
  packed : List (List (Frame StreamFrame)) := []

/-- `packedPacket`; of `raw` only the length is kept, and the frames as they were written. -/
structure PackedPacket where
  number : Nat
  length : Nat
  frames : List (Frame FrameRef)
  encryptionLevel : EncryptionLevel
  written : List (Frame StreamFrame)

namespace PacketPacker
variable {κ : Type} [SendAlgorithm κ]

/-- The frame queued as `stopWaiting` for a path. -/
def setStopWaiting (p : PacketPacker) (pathID : Nat) (f : Option StopWaitingFrame) :
    PacketPacker :=
  { p with stopWaiting := Function.update p.stopWaiting pathID f }

/-- The frame queued as `ackFrame` for a path. -/
def setAckFrame (p : PacketPacker) (pathID : Nat) (f : Option AckFrame) : PacketPacker :=
  { p with ackFrame := Function.update p.ackFrame pathID f }

/-- `QueueControlFrame`. -/
def queueControlFrame (p : PacketPacker) (frame : ControlFrame) (pathID : Nat) : PacketPacker :=
  match frame with
  | .stopWaiting f => p.setStopWaiting pathID (some f)
  | .ack f => p.setAckFrame pathID (some f)
  | frame => { p with controlFrames := p.controlFrames ++ [frame] }

/-- `getPublicHeader`. -/
def getPublicHeader (p : PacketPacker) (handshakeComplete : Bool) (encLevel : EncryptionLevel)
    (pth : Path κ) : PublicHeader :=
  let pnum := pth.packetNumberGenerator.peek
  let ph : PublicHeader :=
    { connectionID := p.connectionID
      packetNumber := pnum
      packetNumberLen := getPacketNumberLengthForPublicHeader pnum pth.leastUnacked
      truncateConnectionID := p.streamFramer.connectionParameters.truncateConnectionID }
  let ph :=
    if p.perspective = .server ∧ encLevel = .secure then
      { ph with diversificationNonce := p.cryptoSetup.diversificationNonce }
    else ph
  let ph :=
    if p.perspective = .client ∧ encLevel ≠ .forwardSecure then
      { ph with versionFlag := true, versionNumber := p.version }
    else ph
  if handshakeComplete ∧ versionMP ≤ p.version then
    { ph with multipathFlag := true, pathID := pth.pathID, truncateConnectionID := false }
  else ph

/-- The queued STOP_WAITING frame with the number of the packet it will be sent in. -/
def numberStopWaiting (p : PacketPacker) (ph : PublicHeader) (pathID : Nat) : PacketPacker :=
  p.setStopWaiting pathID <| (p.stopWaiting pathID).map
    ({ · with packetNumber := ph.packetNumber, packetNumberLen := ph.packetNumberLen })

/-- `writeAndSealPacket`, and the packet made of its result. -/
def writeAndSealPacket (p : PacketPacker) (ph : PublicHeader) (frames : List (Frame FrameRef))
    (encLevel : EncryptionLevel) (pth : Path κ) (now : Int) (random : Option UInt16) :
    Except Err (PacketPacker × Path κ × PackedPacket) := do
  let header ← ph.write p.version p.perspective
  let written := frames.map p.streamFramer.heap.read
  let payload ← written.mapM (·.write p.version now)
  let length := header.length + payload.flatten.length + p.cryptoSetup.overhead encLevel
  if maxPacketSize < length then throw .packetTooLarge
  let sealedPacket := { encryptionLevel := encLevel, pathID := pth.pathID,
                        packetNumber := ph.packetNumber }
  let (num, packetNumberGenerator) := pth.packetNumberGenerator.pop random
  if num ≠ ph.packetNumber then throw .packetNumbersDoNotMatch
  return ({ p with sealLog := p.sealLog ++ [sealedPacket] }, { pth with packetNumberGenerator },
    { number := ph.packetNumber, length, frames, encryptionLevel := encLevel, written })

/-- `canSendData`. -/
def canSendData (p : PacketPacker) (encLevel : EncryptionLevel) : Bool :=
  match p.perspective with
  | .client => EncryptionLevel.secure ≤ encLevel
  | .server => encLevel = .forwardSecure

/-! ## Composing packets -/

/-- The loop of `composeNextPacket` over the control frames, from the end of the queue: the
frames that stay queued, those taken, and the length with them. -/
def popControlFrames (maxFrameSize : Nat) :
    List ControlFrame → Nat → Except Err (List ControlFrame × List ControlFrame × Nat)
  | [], payloadLength => .ok ([], [], payloadLength)
  | frame :: rest, payloadLength => do
    let minLength ← (Frame.ofControl frame).minLength
    if maxFrameSize < payloadLength + minLength then return (frame :: rest, [], payloadLength)
    else
      let (rest, taken, payloadLength) ←
        popControlFrames maxFrameSize rest (payloadLength + minLength)
      return (rest, frame :: taken, payloadLength)

/-- The queued STOP_WAITING frame of a path and its length. -/
def stopWaitingFrames (p : PacketPacker) (pathID : Nat) : Except Err (List ControlFrame × Nat) :=
  match p.stopWaiting pathID with
  | none => .ok ([], 0)
  | some f => do return ([.stopWaiting f], ← f.minLength)

/-- The queued ACK frame of a path and its length. -/
def ackFrames (p : PacketPacker) (pathID : Nat) : List ControlFrame × Nat :=
  match p.ackFrame pathID with
  | none => ([], 0)
  | some f => ([.ack f], f.minLength)

/-- The STOP_WAITING and ACK frames a packet on a path starts with, and their length. -/
def headFrames (p : PacketPacker) (pathID : Nat) : Except Err (List ControlFrame × Nat) := do
  let (stopWaiting, stopWaitingLen) ← p.stopWaitingFrames pathID
  let (ack, ackLen) := p.ackFrames pathID
  return (stopWaiting ++ ack, stopWaitingLen + ackLen)

/-- A frame that is to be written without its length. -/
def omitLength (h : FrameHeap) : Option FrameRef → FrameHeap
  | none => h
  | some r => h.modify r ({ · with dataLenPresent := false })

/-- The stream frames of a packet.  The last one does without its length; BLOCKED frames the
framer has queued go into a later packet. -/
def popStreamFrames (p : PacketPacker) (maxLen : Nat) :
    Except Err (PacketPacker × List FrameRef) := do
  let (framer, fs) ← p.streamFramer.popStreamFrames maxLen
  let heap := omitLength framer.heap fs.getLast?
  return ({ p with
    streamFramer := { framer with heap, blockedFrameQueue := [] }
    controlFrames := p.controlFrames ++ framer.blockedFrameQueue.map Frame.blocked }, fs)

/-- `composeNextPacket`. -/
def composeNextPacket (p : PacketPacker) (maxFrameSize : Nat) (canSendStreamFrames : Bool)
    (pathID : Nat) : Except Err (PacketPacker × List (Frame FrameRef)) := do
  let (head, headLength) ← p.headFrames pathID
  let (rest, taken, payloadLength) ←
    popControlFrames maxFrameSize p.controlFrames.reverse headLength
  let p := { p with controlFrames := rest.reverse }
  if maxFrameSize < payloadLength then throw (Err.payloadTooLarge payloadLength maxFrameSize)
  let payloadFrames := (head ++ taken).map Frame.ofControl
  if canSendStreamFrames then
    -- two bytes more, which the last stream frame saves by omitting its length
    let (p, fs) ← p.popStreamFrames (maxFrameSize + 2 - payloadLength)
    return (p, payloadFrames ++ fs.map Frame.stream)
  else return (p, payloadFrames)

/-! ## Packing -/

/-- `packCryptoPacket`, for the crypto stream `cs` that has data. -/
def packCryptoPacket (p : PacketPacker) (handshakeComplete : Bool) (cs : Stream) (pth : Path κ)
    (now : Int) (random : Option UInt16) :
    Except Err (PacketPacker × Path κ × PackedPacket) := do
  let encLevel := p.cryptoSetup.getSealerForCryptoStream
  let publicHeader := p.getPublicHeader handshakeComplete encLevel pth
  let publicHeaderLength ← publicHeader.getLength p.perspective
  let maxLen := maxPacketSize - p.cryptoSetup.overhead encLevel -
    nonForwardSecurePacketSizeReduction - publicHeaderLength
  let (streamFramer, frame) := p.streamFramer.popCryptoStreamFrame cs maxLen
  { p with streamFramer }.writeAndSealPacket publicHeader [.stream frame] encLevel pth now random

/-- The frames of a packet of `PackPacket`: a PING that is first in the queue goes alone. -/
def payloadFrames (p : PacketPacker) (encLevel : EncryptionLevel) (publicHeaderLength : Nat)
    (pathID : Nat) : Except Err (PacketPacker × List (Frame FrameRef)) :=
  match p.controlFrames with
  | .ping :: rest => .ok ({ p with controlFrames := rest }, [.ping])
  | _ =>
    let maxSize := maxPacketSize - p.cryptoSetup.overhead encLevel - publicHeaderLength
    p.composeNextPacket maxSize (p.canSendData encLevel) pathID

/-- `PackPacket` when there is no crypto data. -/
def packDataPacket (p : PacketPacker) (handshakeComplete : Bool) (pth : Path κ) (now : Int)
    (random : Option UInt16) : Except Err (PacketPacker × Path κ × Option PackedPacket) := do
  let encLevel := p.cryptoSetup.getSealer
  let publicHeader := p.getPublicHeader handshakeComplete encLevel pth
  let publicHeaderLength ← publicHeader.getLength p.perspective
  let (p, frames) ← (p.numberStopWaiting publicHeader pth.pathID).payloadFrames encLevel
    publicHeaderLength pth.pathID
  if frames.length = 0 ∨ frames.length = 1 ∧ (p.stopWaiting pth.pathID).isSome then
    return (p, pth, none)
  else
    let p := (p.setStopWaiting pth.pathID none).setAckFrame pth.pathID none
    let (p, pth, packet) ← p.writeAndSealPacket publicHeader frames encLevel pth now random
    return ({ p with packed := p.packed ++ [packet.written] }, pth, some packet)

/-- `PackPacket`. -/
def packPacket (p : PacketPacker) (handshakeComplete : Bool) (pth : Path κ) (now : Int)
    (random : Option UInt16) : Except Err (PacketPacker × Path κ × Option PackedPacket) := do
  let (streamFramer, cs, hasCrypto) ← p.streamFramer.hasCryptoStreamFrame
  let p := { p with streamFramer }
  if hasCrypto then
    let (p, pth, packet) ← p.packCryptoPacket handshakeComplete cs pth now random
    return ({ p with packed := p.packed ++ [packet.written] }, pth, some packet)
  else p.packDataPacket handshakeComplete pth now random

/-- `PackPing`. -/
def packPing (p : PacketPacker) (handshakeComplete : Bool) (pth : Path κ) (now : Int)
    (random : Option UInt16) : Except Err (PacketPacker × Path κ × Option PackedPacket) :=
  { p with controlFrames := .ping :: p.controlFrames }.packPacket handshakeComplete
    pth.setLeastUnacked now random

/-- `PackAckPacket`. -/
def packAckPacket (p : PacketPacker) (handshakeComplete : Bool) (pth : Path κ) (now : Int)
    (random : Option UInt16) : Except Err (PacketPacker × Path κ × PackedPacket) :=
  match p.ackFrame pth.pathID with
  | none => .error .noAckFrameQueued
  | some ack =>
    let encLevel := p.cryptoSetup.getSealer
    let ph := p.getPublicHeader handshakeComplete encLevel pth
    let p := p.numberStopWaiting ph pth.pathID
    let frames := .ack ack :: ((p.stopWaiting pth.pathID).map .stopWaiting).toList
    let p := (p.setStopWaiting pth.pathID none).setAckFrame pth.pathID none
    p.writeAndSealPacket ph frames encLevel pth now random

/-- `PackHandshakeRetransmission`. -/
def packHandshakeRetransmission (p : PacketPacker) (handshakeComplete : Bool) (packet : Packet)
    (pth : Path κ) (now : Int) (random : Option UInt16) :
    Except Err (PacketPacker × Path κ × PackedPacket) :=
  if packet.encryptionLevel = .forwardSecure then .error .forwardSecureHandshakeRetransmission
  else if !p.cryptoSetup.hasSealer packet.encryptionLevel then
    .error (.noAEAD packet.encryptionLevel)
  else
    let ph := p.getPublicHeader handshakeComplete packet.encryptionLevel pth
    match (p.numberStopWaiting ph pth.pathID).stopWaiting pth.pathID with
    | none => .error .handshakeRetransmissionWithoutStopWaiting
    | some swf =>
      (p.setStopWaiting pth.pathID none).writeAndSealPacket ph (.stopWaiting swf :: packet.frames)
        packet.encryptionLevel pth now random

/-- `PackConnectionClose`. -/
def packConnectionClose (p : PacketPacker) (handshakeComplete : Bool) (ccf : ConnectionCloseFrame)
    (pth : Path κ) (now : Int) (random : Option UInt16) :
    Except Err (PacketPacker × Path κ × PackedPacket) :=
  let encLevel := p.cryptoSetup.getSealer
  let ph := p.getPublicHeader handshakeComplete encLevel pth
  p.writeAndSealPacket ph [.connectionClose ccf] encLevel pth now random

/-- The packer's interface: the ways in which a packet is packed. -/
inductive Call
  | packPacket
  | packPing
  | packAckPacket
  | packHandshakeRetransmission (packet : Packet)
  | packConnectionClose (ccf : ConnectionCloseFrame)

/-- A call; only the first two may find nothing to send. -/
def Call.run (call : Call) (p : PacketPacker) (handshakeComplete : Bool) (pth : Path κ)
    (now : Int) (random : Option UInt16) :
    Except Err (PacketPacker × Path κ × Option PackedPacket) :=
  let packed (r : PacketPacker × Path κ × PackedPacket) := (r.1, r.2.1, some r.2.2)
  match call with
  | .packPacket => p.packPacket handshakeComplete pth now random
  | .packPing => p.packPing handshakeComplete pth now random
  | .packAckPacket => packed <$> p.packAckPacket handshakeComplete pth now random
  | .packHandshakeRetransmission packet =>
    packed <$> p.packHandshakeRetransmission handshakeComplete packet pth now random
  | .packConnectionClose ccf =>
    packed <$> p.packConnectionClose handshakeComplete ccf pth now random

end PacketPacker
end MpQuic
