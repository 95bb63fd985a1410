import MpQuic.Lib.Outcome
import MpQuic.PacketPacker

/-!
# Where a nil pointer can come from

Writing frames and composing packets can fail in many ways, but the only lookup
that can give a nil pointer there is the one of the crypto stream.  One lemma per
function, up to `packPacket`.
-/
namespace MpQuic
open Systems

/-- The errors other than the use of a missing path, stream or packet. -/
def Err.NotNil (e : Err) : Prop :=
  e ≠ .panic .nilPath ∧ e ≠ .panic .nilStream ∧ e ≠ .panic .nilPacket

instance (e : Err) : Decidable e.NotNil := inferInstanceAs (Decidable (_ ∧ _))

/-! ## Streams, flow control and packet handlers -/

/-- The error an operation returned, if any, is not a nil pointer. -/
structure NotNil (err : Option Err) : Prop where
  error : ∀ e, err = some e → e.NotNil

@[simp] theorem notNil_none : NotNil none := ⟨by simp⟩

@[simp] theorem notNil_some (e : Err) : NotNil (some e) ↔ e.NotNil :=
  ⟨fun h => h.error e rfl, fun h => ⟨by simpa using h⟩⟩

theorem StreamsMap.openRemoteStream_notNil (m : StreamsMap) (params : ConnectionParameters)
    (id : Nat) : FailsOnly Err.NotNil (m.openRemoteStream params id) := by
  unfold openRemoteStream
  split_ifs <;> simp [Err.NotNil]

theorem StreamsMap.openUpTo_notNil (params : ConnectionParameters) (id fuel sid : Nat)
    (m : StreamsMap) (opened : List Nat) :
    NotNil (openUpTo params id fuel sid m opened).2.2 := by
  fun_induction openUpTo params id fuel sid m opened with
  | case1 | case2 => simp
  | case3 sid m opened fuel _ e he =>
    simpa using (openRemoteStream_notNil ..).error e he
  | case4 sid m opened fuel _ m' _ ih => exact ih

theorem StreamFramer.getOrOpenStream_notNil (f : StreamFramer) (id : Nat) :
    NotNil (f.getOrOpenStream id).2 := by
  simp only [getOrOpenStream, StreamsMap.getOrOpenStream]
  split_ifs
  · simp
  · simp
  · simp [Err.NotNil]
  · simp
  · exact StreamsMap.openUpTo_notNil ..
  · exact StreamsMap.openUpTo_notNil ..

namespace FlowControlManager

theorem countReceived_notNil (f : FlowControlManager) (id : Nat) (fc : FlowController) (n : Nat) :
    NotNil (f.countReceived id fc n).2 := by
  unfold countReceived
  dsimp only
  split_ifs <;> simp [Err.NotNil]

theorem resetStream_notNil (f : FlowControlManager) (id offset : Nat) :
    NotNil (f.resetStream id offset).2 := by
  unfold resetStream
  split
  · simp [Err.NotNil]
  · split
    · simp [Err.NotNil]
    · exact countReceived_notNil ..

theorem updateHighestReceived_notNil (f : FlowControlManager) (id offset : Nat) :
    NotNil (f.updateHighestReceived id offset).2 := by
  unfold updateHighestReceived
  split
  · simp [Err.NotNil]
  · exact countReceived_notNil ..

theorem updateWindow_notNil (f : FlowControlManager) (id offset : Nat) :
    NotNil (f.updateWindow id offset).2 := by
  unfold updateWindow
  split
  · simp
  · split <;> simp [Err.NotNil]

end FlowControlManager

namespace SentPacketHandler
variable {κ : Type} [SendAlgorithm κ]

theorem newlyAcked_notNil (f : AckedPackets) (ranges : List AckRange) (history : List Packet) :
    FailsOnly Err.NotNil (newlyAcked f ranges history) := by
  fun_induction newlyAcked f ranges history <;> simp_all [Err.NotNil]

theorem receivedAck_notNil (h : SentPacketHandler κ) (f : AckFrame) (withPN : Nat)
    (rcvTime now : Int) : NotNil (h.receivedAck f withPN rcvTime now).2 := by
  unfold receivedAck
  dsimp only
  split
  · simp [Err.NotNil]
  split
  · simp [Err.NotNil]
  split
  · simp
  split
  · simp [Err.NotNil]
  split
  · next e he => simpa using (newlyAcked_notNil ..).error e he
  · simp

theorem receivedClosePath_notNil (h : SentPacketHandler κ) (f : ClosePathFrame) (withPN : Nat) :
    NotNil (h.receivedClosePath f withPN).2 := by
  unfold receivedClosePath
  dsimp only
  split
  · simp [Err.NotNil]
  split
  · simp [Err.NotNil]
  split
  · simp [Err.NotNil]
  split
  · next e he => simpa using (newlyAcked_notNil ..).error e he
  · simp

theorem sentPacket_notNil (h : SentPacketHandler κ) (packet : Packet) (now : Int) :
    FailsOnly Err.NotNil (h.sentPacket packet now) := by
  unfold sentPacket
  split_ifs <;> simp [Err.NotNil]

end SentPacketHandler

theorem ReceivedPacketHandler.receivedPacket_notNil (h : ReceivedPacketHandler) (pn : Nat)
    (instigate : Bool) (now : Int) : NotNil (h.receivedPacket pn instigate now).2 := by
  unfold receivedPacket ReceivedPacketHistory.receivedPacket
  dsimp only
  split_ifs <;> simp [Err.NotNil]

/-! ## Writing frames and headers -/

/-- The errors of `internal/wire`; those of the packer and of the handler are not among them. -/
def Err.FromWire (e : Err) : Prop :=
  e.NotNil ∧ e ≠ .packetTooLarge ∧ e ≠ .tooManyTrackedSentPackets

theorem FromWire.notNil {α : Type} {x : Except Err α} (h : FailsOnly Err.FromWire x) :
    FailsOnly Err.NotNil x :=
  h.imp fun _ => And.left

namespace AckedPackets

theorem writeNumber_fromWire (o : ByteOrder) (cut : Bool) (len v : Nat) :
    FailsOnly Err.FromWire (writeNumber o cut len v) := by
  unfold writeNumber
  split <;> simp [Err.FromWire, Err.NotNil]

theorem writeBlock_fromWire (o : ByteOrder) (cut : Bool) (len : Nat) (last r : AckRange) :
    FailsOnly Err.FromWire (writeBlock o cut len last r) := by
  unfold writeBlock
  dsimp only
  split_ifs
  · exact (writeNumber_fromWire ..).bind (by simp)
  · simp
  · exact (writeNumber_fromWire ..).bind (by simp)

theorem writeBlocks_fromWire (o : ByteOrder) (cut : Bool) (len numRanges written : Nat)
    (ranges : List AckRange) :
    FailsOnly Err.FromWire (writeBlocks o cut len numRanges written ranges) := by
  fun_induction writeBlocks o cut len numRanges written ranges with
  | case1 written last r rest ih =>
    refine (writeBlock_fromWire ..).bind fun _ _ => ?_
    dsimp only
    split_ifs
    · simp
    · exact ih.bind (by simp)
  | case2 => simp

theorem writeRanges_fromWire (f : AckedPackets) (o : ByteOrder) (cut : Bool) :
    FailsOnly Err.FromWire (f.writeRanges o cut) := by
  unfold writeRanges
  dsimp only
  split
  · split
    · simp [Err.FromWire, Err.NotNil]
    split
    · simp [Err.FromWire, Err.NotNil]
    refine (writeNumber_fromWire ..).bind fun _ _ => ?_
    refine (writeBlocks_fromWire ..).bind fun _ _ => ?_
    split <;> simp [Err.FromWire, Err.NotNil]
  · exact writeNumber_fromWire ..

theorem writeNumRanges_fromWire (f : AckedPackets) : FailsOnly Err.FromWire f.writeNumRanges := by
  unfold writeNumRanges
  split_ifs <;> simp [Err.FromWire, Err.NotNil]

end AckedPackets

open AckedPackets

theorem AckFrame.write_fromWire (f : AckFrame) (version now : Int) :
    FailsOnly Err.FromWire (f.write version now) := by
  unfold AckFrame.write
  refine (writeNumRanges_fromWire _).bind fun _ _ => ?_
  exact (writeRanges_fromWire ..).bind (by simp)

theorem ClosePathFrame.write_fromWire (f : ClosePathFrame) (version : Int) :
    FailsOnly Err.FromWire (f.write version) := by
  unfold ClosePathFrame.write
  refine (writeNumRanges_fromWire _).bind fun _ _ => ?_
  refine (writeNumber_fromWire ..).bind fun _ _ => ?_
  exact (writeRanges_fromWire ..).bind (by simp)

theorem AddAddressFrame.write_fromWire (f : AddAddressFrame) (version : Int) :
    FailsOnly Err.FromWire (f.write version) := by
  unfold AddAddressFrame.write
  dsimp only
  split_ifs
  · split <;> simp [Err.FromWire, Err.NotNil]
  · split <;> simp [Err.FromWire, Err.NotNil]
  · simp [Err.FromWire, Err.NotNil]

theorem StopWaitingFrame.minLength_fromWire (f : StopWaitingFrame) :
    FailsOnly Err.FromWire f.minLength := by
  unfold StopWaitingFrame.minLength
  split_ifs <;> simp [Err.FromWire, Err.NotNil]

theorem Frame.minLength_fromWire (f : Frame StreamFrame) : FailsOnly Err.FromWire f.minLength := by
  cases f with
  | stopWaiting f => exact f.minLength_fromWire
  | addAddress f =>
    simp only [Frame.minLength, AddAddressFrame.minLength]
    split_ifs <;> simp [Err.FromWire, Err.NotNil]
  | _ => simp [Frame.minLength]

theorem Frame.write_fromWire (f : Frame StreamFrame) (version now : Int) :
    FailsOnly Err.FromWire (f.write version now) := by
  cases f with
  | stream f =>
    simp only [Frame.write, StreamFrame.write]
    split_ifs <;> simp [Err.FromWire, Err.NotNil]
  | ack f => exact f.write_fromWire version now
  | stopWaiting f =>
    simp only [Frame.write, StopWaitingFrame.write]
    split_ifs <;> simp [Err.FromWire, Err.NotNil]
  | connectionClose f =>
    simp only [Frame.write, ConnectionCloseFrame.write]
    split_ifs <;> simp [Err.FromWire, Err.NotNil]
  | addAddress f => exact f.write_fromWire version
  | closePath f => exact f.write_fromWire version
  | paths f =>
    simp only [Frame.write, PathsFrame.write]
    split_ifs <;> simp [Err.FromWire, Err.NotNil]
  | _ => simp [Frame.write]

namespace PublicHeader

theorem getLength_fromWire (h : PublicHeader) (pers : Perspective) :
    FailsOnly Err.FromWire (h.getLength pers) := by
  unfold getLength
  split_ifs <;> simp [Err.FromWire, Err.NotNil]

theorem write_fromWire (h : PublicHeader) (version : Int) (pers : Perspective) :
    FailsOnly Err.FromWire (h.write version pers) := by
  unfold write
  split_ifs <;> simp [Err.FromWire, Err.NotNil]

end PublicHeader

/-! ## Composing packets -/

theorem StreamsMap.iterateOthers_notNil {β : Type} (fn : Stream → β → Stream × β × Bool)
    (numStreams : Nat) (ids : List (Option Nat)) (m : StreamsMap) (b : β) :
    FailsOnly Err.NotNil (iterateOthers fn numStreams ids m b) := by
  fun_induction iterateOthers fn numStreams ids m b <;> simp_all [Err.NotNil]

theorem StreamsMap.roundRobinIterate_notNil {β : Type} (m : StreamsMap)
    (fn : Stream → β → Stream × β × Bool) (b : β) :
    FailsOnly Err.NotNil (m.roundRobinIterate fn b) := by
  unfold roundRobinIterate
  split
  · simp
  · exact iterateOthers_notNil ..

theorem StreamFramer.popStreamFrames_notNil (f : StreamFramer) (maxLen : Nat) :
    FailsOnly Err.NotNil (f.popStreamFrames maxLen) := by
  unfold popStreamFrames maybePopNormalFrames
  refine FailsOnly.bind ?_ (by simp)
  exact (StreamsMap.roundRobinIterate_notNil ..).bind (by simp)

namespace PacketPacker
variable {κ : Type}

theorem popControlFrames_notNil (maxFrameSize : Nat) (frames : List ControlFrame) (n : Nat) :
    FailsOnly Err.NotNil (popControlFrames maxFrameSize frames n) := by
  fun_induction popControlFrames maxFrameSize frames n with
  | case1 => simp
  | case2 frame rest n ih =>
    refine (FromWire.notNil (Frame.minLength_fromWire _)).bind fun len _ => ?_
    split
    · simp
    · exact (ih len).bind (by simp)

theorem headFrames_notNil (p : PacketPacker) (pathID : Nat) :
    FailsOnly Err.NotNil (p.headFrames pathID) := by
  unfold headFrames stopWaitingFrames
  refine FailsOnly.bind ?_ (by simp)
  split
  · simp
  · exact (FromWire.notNil (StopWaitingFrame.minLength_fromWire _)).bind (by simp)

theorem composeNextPacket_notNil (p : PacketPacker) (maxFrameSize : Nat) (canSend : Bool)
    (pathID : Nat) : FailsOnly Err.NotNil (p.composeNextPacket maxFrameSize canSend pathID) := by
  unfold composeNextPacket popStreamFrames
  refine (headFrames_notNil ..).bind fun _ _ => ?_
  refine (popControlFrames_notNil ..).bind fun _ _ => ?_
  dsimp only
  split
  · simp [Err.NotNil]
  split
  · refine FailsOnly.bind ?_ (by simp)
    exact (StreamFramer.popStreamFrames_notNil ..).bind (by simp)
  · simp

theorem writeAndSealPacket_notNil (p : PacketPacker) (ph : PublicHeader)
    (frames : List (Frame FrameRef)) (level : EncryptionLevel) (pth : Path κ) (now : Int)
    (random : Option UInt16) :
    FailsOnly Err.NotNil (p.writeAndSealPacket ph frames level pth now random) := by
  unfold writeAndSealPacket
  refine (FromWire.notNil (PublicHeader.write_fromWire ..)).bind fun _ _ => ?_
  refine (FailsOnly.mapM fun f _ => FromWire.notNil (Frame.write_fromWire ..)).bind fun _ _ => ?_
  dsimp only
  split
  · simp [Err.NotNil]
  · split <;> simp [Err.NotNil]

theorem packCryptoPacket_notNil (p : PacketPacker) (hc : Bool) (cs : Stream) (pth : Path κ)
    (now : Int) (random : Option UInt16) :
    FailsOnly Err.NotNil (p.packCryptoPacket hc cs pth now random) := by
  unfold packCryptoPacket
  refine (FromWire.notNil (PublicHeader.getLength_fromWire ..)).bind fun _ _ => ?_
  exact writeAndSealPacket_notNil ..

theorem packDataPacket_notNil (p : PacketPacker) (hc : Bool) (pth : Path κ) (now : Int)
    (random : Option UInt16) :
    FailsOnly Err.NotNil (p.packDataPacket hc pth now random) := by
  unfold packDataPacket payloadFrames
  refine (FromWire.notNil (PublicHeader.getLength_fromWire ..)).bind fun _ _ => ?_
  refine FailsOnly.bind ?_ fun _ _ => ?_
  · split
    · simp
    · exact composeNextPacket_notNil ..
  · dsimp only
    split
    · simp
    · exact (writeAndSealPacket_notNil ..).bind (by simp)

theorem packAckPacket_notNil (p : PacketPacker) (hc : Bool) (pth : Path κ) (now : Int)
    (random : Option UInt16) : FailsOnly Err.NotNil (p.packAckPacket hc pth now random) := by
  rw [packAckPacket]
  split
  · simp [Err.NotNil]
  · exact writeAndSealPacket_notNil ..

theorem packHandshakeRetransmission_notNil (p : PacketPacker) (hc : Bool) (packet : Packet)
    (pth : Path κ) (now : Int) (random : Option UInt16) :
    FailsOnly Err.NotNil (p.packHandshakeRetransmission hc packet pth now random) := by
  rw [packHandshakeRetransmission]
  split_ifs
  · simp [Err.NotNil]
  · simp [Err.NotNil]
  · dsimp only
    split
    · simp [Err.NotNil]
    · exact writeAndSealPacket_notNil ..

/-- The crypto stream is missing, also after an attempt to open it. -/
def cryptoStreamMissing (p : PacketPacker) : Prop :=
  (p.streamFramer.getOrOpenStream 1).1.streamsMap.streams.lookup 1 = none

/-- **The only nil pointer of `PackPacket`** is a missing crypto stream. -/
theorem packPacket_fails (p : PacketPacker) (hc : Bool) (pth : Path κ) (now : Int)
    (random : Option UInt16) :
    FailsOnly (fun e => e.NotNil ∨ e = .panic .nilStream ∧ p.cryptoStreamMissing)
      (p.packPacket hc pth now random) := by
  unfold packPacket
  refine FailsOnly.bind ?_ fun framer _ => FailsOnly.imp ?_ fun _ => Or.inl
  · simp only [StreamFramer.hasCryptoStreamFrame]
    split
    · next h => simp [cryptoStreamMissing, h]
    · simp
  · dsimp only
    split
    · exact (packCryptoPacket_notNil ..).bind (by simp)
    · exact packDataPacket_notNil ..

end PacketPacker
end MpQuic
