import MpQuic.HandlerRuns
import MpQuic.NilPackets

/-!
# Packets without retransmittable frames

A handler counts the packets in a row that have no frame to retransmit, and says when
the next one should have such a frame.  The packer has only its queues to see to that:
a PING that is first, or a frame that is last and fits, gets into the next packet.
-/
namespace MpQuic
open Systems Outcome List

/-! ## Counting -/

namespace SentPacketHandler
variable {κ : Type} [SendAlgorithm κ]

theorem numNonRetransmittablePackets_untouched :
    Untouched (numNonRetransmittablePackets : SentPacketHandler κ → Nat) :=
  ⟨fun _ _ => rfl, fun _ _ _ _ _ => rfl, fun _ _ => rfl, fun _ _ => rfl, fun _ _ => rfl⟩

variable {h h' : SentPacketHandler κ} {packet : Packet} {now : Int}

/-- The count is the number of packets since the last one with a frame to retransmit. -/
theorem numNonRetransmittablePackets_sentPacket (hs : h.sentPacket packet now = .ok h') :
    h'.numNonRetransmittablePackets =
      if stripNonRetransmittableFrames packet.frames = [] then h.numNonRetransmittablePackets + 1
      else 0 := by
  rw [sentPacket] at hs
  split at hs
  · cases hs
  split at hs
  · cases hs
  rw [← Except.ok.inj hs]
  refine (numNonRetransmittablePackets_untouched.updateLossDetectionAlarm _).trans ?_
  by_cases hstrip : stripNonRetransmittableFrames packet.frames = []
  · rw [if_pos hstrip, if_neg (by rw [hstrip]; exact fun hne => hne rfl)]
    rfl
  · rw [if_neg hstrip, if_pos (mt length_eq_zero_iff.mp hstrip)]
    rfl

theorem numNonRetransmittablePackets_receivedAck (h : SentPacketHandler κ) (f : AckFrame)
    (withPN : Nat) (rcvTime now : Int) :
    (h.receivedAck f withPN rcvTime now).1.numNonRetransmittablePackets =
      h.numNonRetransmittablePackets := by
  have hout := receivedAck_outcome h f withPN rcvTime now
  generalize h.receivedAck f withPN rcvTime now = r at hout ⊢
  cases hout with
  | unsent | outOfOrder | repeated | skipped | failed => rfl
  | applied rttStats congestion acked =>
    exact numNonRetransmittablePackets_untouched.foldl_detectLostPackets
      (h.sampled f withPN rttStats congestion) acked now

theorem numNonRetransmittablePackets_receivedClosePath (h : SentPacketHandler κ)
    (f : ClosePathFrame) (withPN : Nat) :
    (h.receivedClosePath f withPN).1.numNonRetransmittablePackets =
      h.numNonRetransmittablePackets := by
  have hout := receivedClosePath_outcome h f withPN
  generalize h.receivedClosePath f withPN = r at hout ⊢
  cases hout with
  | refused => rfl
  | applied n acked =>
    have huntouched : Untouched (numNonRetransmittablePackets : SentPacketHandler κ → Nat) :=
      numNonRetransmittablePackets_untouched
    exact (huntouched.setInflightAsLost _).trans (huntouched.foldl_onPacketAcked acked _)

/-- `SentPacket` as an operation. -/
def Op.isSend : Op κ → Bool
  | .sentPacket .. => true
  | _ => false

/-- Only packets that are sent are counted. -/
theorem numNonRetransmittablePackets_apply (h : SentPacketHandler κ) {op : Op κ}
    (hop : op.isSend = false) :
    (op.apply h).numNonRetransmittablePackets = h.numNonRetransmittablePackets := by
  have huntouched : Untouched (numNonRetransmittablePackets : SentPacketHandler κ → Nat) :=
    numNonRetransmittablePackets_untouched
  cases op with
  | sentPacket => cases hop
  | receivedAck => exact numNonRetransmittablePackets_receivedAck ..
  | receivedClosePath => exact numNonRetransmittablePackets_receivedClosePath ..
  | setInflightAsLost => exact huntouched.setInflightAsLost h
  | onAlarm failed now => exact huntouched.onAlarm h failed now
  | dequeuePacketForRetransmission =>
    rw [Op.apply, dequeuePacketForRetransmission]
    split <;> rfl
  | duplicatePacket | getStopWaitingFrame | shared => rfl

omit [SendAlgorithm κ] in
theorem shouldSendRetransmittablePacket_iff :
    h.shouldSendRetransmittablePacket = true ↔
      ¬h.numNonRetransmittablePackets < maxNonRetransmittablePackets := by
  rw [shouldSendRetransmittablePacket, decide_eq_true_iff, not_lt]

/-- The count has not exceeded its limit. -/
def InLimit (h : SentPacketHandler κ) : Prop :=
  h.numNonRetransmittablePackets ≤ maxNonRetransmittablePackets

/-- The count allows the frames of a packet. -/
def Allows (h : SentPacketHandler κ) (frames : List (Frame FrameRef)) : Prop :=
  h.numNonRetransmittablePackets < maxNonRetransmittablePackets ∨
    h.InLimit ∧ stripNonRetransmittableFrames frames ≠ []

omit [SendAlgorithm κ] in
theorem Allows.inLimit {frames : List (Frame FrameRef)} (ha : h.Allows frames) : h.InLimit :=
  ha.elim Nat.le_of_lt And.left

theorem Allows.sentPacket (ha : h.Allows packet.frames) (hs : h.sentPacket packet now = .ok h') :
    h'.InLimit := by
  have hcount := numNonRetransmittablePackets_sentPacket hs
  rw [InLimit, hcount]
  split
  · next hstrip =>
    rcases ha with hlt | ⟨-, hne⟩
    · exact hlt
    · exact absurd hstrip hne
  · exact Nat.zero_le _

end SentPacketHandler

/-! ## Packing -/

namespace PacketPacker
variable {κ : Type} {p p' : PacketPacker} {pth : Path κ} {hc : Bool} {random : Option UInt16}

/-- The packet packed, if any, has a frame to retransmit. -/
def Retransmittable (r : PacketPacker × Path κ × Option PackedPacket) : Prop :=
  ∀ packet, r.2.2 = some packet → stripNonRetransmittableFrames packet.frames ≠ []

variable {frames : List (Frame FrameRef)} {r : PacketPacker × Path κ × Option PackedPacket}

theorem strip_ne_nil {f : Frame FrameRef} (hf : f ∈ frames)
    (hretransmittable : f.isRetransmittable = true) : stripNonRetransmittableFrames frames ≠ [] :=
  ne_nil_of_mem (mem_filter.mpr ⟨hf, hretransmittable⟩)

/-- A frame to retransmit is due for the next packet of a path: a PING is first in the queue, or a
frame that fits is last. -/
def Urges (p : PacketPacker) (pathID : Nat) : Prop :=
  p.controlFrames.head? = some .ping ∨ ∃ q frame len, p.controlFrames = q ++ [frame] ∧
    (Frame.ofControl frame : Frame FrameRef).isRetransmittable = true ∧
    (Frame.ofControl frame).minLength = .ok len ∧
    (p.ackFrame pathID).elim 0 AckFrame.minLength + len ≤ 1307

theorem Payload.retransmittable {headerLen : Nat}
    (h : Payload (p.numbered hc pth) p.cryptoSetup.getSealer headerLen pth.pathID p' frames)
    (hheader : (p.getPublicHeader hc p.cryptoSetup.getSealer pth).getLength p.perspective =
      .ok headerLen) (hstandard : p.Standard) (hurges : p.Urges pth.pathID) :
    stripNonRetransmittableFrames frames ≠ [] := by
  cases h with
  | ping => exact strip_ne_nil (mem_singleton_self _) rfl
  | composed hfirst h =>
    obtain ⟨q, frame, len, hlast, hframe, hlen, hshort⟩ := hurges.resolve_left hfirst
    obtain ⟨taken, rest, htakes, htoolong⟩ := h.takes
    have hne : taken ≠ [] := fun hnil =>
      not_lastTooLong hstandard hlast hlen hshort hheader (htoolong hnil)
    have hmem : frame ∈ taken := by
      have hsplits : q ++ [frame] = rest ++ taken := hlast.symm.trans htakes.splits
      have heq := congrArg getLast? hsplits
      rw [getLast?_concat, getLast?_append_of_ne_nil _ hne] at heq
      exact mem_of_mem_getLast? heq.symm
    obtain ⟨streams, rfl⟩ := htakes.frames
    refine strip_ne_nil (mem_append_left _ (mem_append_right _ ?_)) hframe
    exact mem_map_of_mem (mem_reverse.mpr hmem)

theorem Packing.retransmittable (h : Packing p hc pth random r) (hstandard : p.Standard)
    (hurges : p.Urges pth.pathID) : Retransmittable r := by
  cases h with
  | crypto _ _ hsealed =>
    cases hsealed
    rintro _ ⟨⟩
    exact strip_ne_nil (mem_singleton_self _) rfl
  | nothing => exact nofun
  | @data framer _ _ _ _ _ _ _ _ hheader hpayload _ hsealed =>
    have hp : ({ p with streamFramer := framer } : PacketPacker).Standard :=
      ⟨hstandard.overhead, hstandard.perspective⟩
    cases hsealed
    rintro _ ⟨⟩
    exact hpayload.retransmittable hheader hp hurges

theorem packPing_retransmittable {now : Int}
    (hrun : Call.run .packPing p hc pth now random = .ok r) (hstandard : p.Standard) :
    Retransmittable r := by
  cases Call.ran hrun with
  | packPing h => exact h.retransmittable ⟨hstandard.overhead, hstandard.perspective⟩ (.inl rfl)

end PacketPacker

end MpQuic
