import Mathlib.Algebra.Order.BigOperators.Group.List
import Mathlib.Algebra.Order.Ring.Nat
import MpQuic.PacketMoves

/-!
# The byte counters of the sent packet handler

A `Ledger` is a handler with one more list, the packets that have moved from its
history to the retransmission queue in the run so far.  In every run the history is
ordered by packet number, `bytesInFlight` is the number of bytes in the history, and
`sentBytes` is what was acknowledged, what is in flight and what has moved.  The
counters are `uint64`s; a history of packets of at most `maxPacketSize` bytes, which
`maxTrackedSentPackets` bounds, is too small for `bytesInFlight` to wrap around.
-/
namespace MpQuic
open Systems List

namespace SentPacketHandler
variable {κ : Type} {h h' : SentPacketHandler κ} {a q : List Packet}

/-- What leaves the history is taken off its number of bytes. -/
theorem Moves.totalLength_history (m : Moves h h' a q) (ho : h.Ordered) :
    totalLength h'.packetHistory + totalLength (a ++ q) = totalLength h.packetHistory := by
  let gone : Packet → Bool := fun p => p.packetNumber ∈ (a ++ q).map (·.packetNumber)
  have hnodup : h.packetHistory.Nodup := ho.imp fun hlt heq => by simp [heq] at hlt
  have hmem : ∀ p, p ∈ h.packetHistory.filter gone ↔ p ∈ a ++ q := by
    intro p
    refine ⟨fun hp => ?_, fun hp => mem_filter.mpr ⟨m.tracked p hp, ?_⟩⟩
    · obtain ⟨hp, hgone⟩ := mem_filter.mp hp
      obtain ⟨p', hp', hnum⟩ := mem_map.mp (of_decide_eq_true hgone)
      rwa [← ho.eq_of_number hp (m.tracked p' hp') hnum]
    · exact decide_eq_true (mem_map_of_mem hp)
  have hperm : (h.packetHistory.filter gone).Perm (a ++ q) :=
    (perm_ext_iff_of_nodup (hnodup.filter _) (List.Nodup.of_map _ m.distinct)).mpr hmem
  have hsplit := filter_append_perm gone h.packetHistory
  have h₁ := (hperm.map (·.length)).sum_eq
  have h₂ := (hsplit.map (·.length)).sum_eq
  have h₃ : h'.packetHistory = h.packetHistory.filter fun p => !gone p := by
    rw [m.history]
    exact filter_congr fun p _ => decide_not
  rw [map_append, sum_append] at h₂
  rw [h₃, totalLength, totalLength, totalLength]
  omega

/-- What the counters say, where `moved` is what has moved to the queue so far. -/
structure Accounted (h : SentPacketHandler κ) (moved : List Packet) : Prop where
  lengths : ∀ p ∈ h.packetHistory, p.length < 2 ^ 64
  inFlight : h.bytesInFlight = totalLength h.packetHistory % 2 ^ 64
  sentBytes : h.sentBytes =
    (h.ackedBytes + totalLength h.packetHistory + totalLength moved) % 2 ^ 64
  tracked : h.packetHistory.length ≤ maxTrackedSentPackets

theorem Accounted.moves {moved : List Packet} (hacc : h.Accounted moved) (ho : h.Ordered)
    (m : Moves h h' a q) :
    h'.Accounted (moved ++ q) := by
  have hweight := m.totalLength_history ho
  have hflight := m.inFlight hacc.lengths
  have hflight' := m.inFlight_lt (by rw [hacc.inFlight]; omega)
  have hacked := m.ackedBytes
  rw [hacc.inFlight] at hflight
  refine ⟨fun p hp => hacc.lengths p (m.history_sublist.subset hp), ?_, ?_,
    m.history_sublist.length_le.trans hacc.tracked⟩
  · omega
  · rw [m.sentBytes, hacc.sentBytes]
    simp only [totalLength_append] at hweight ⊢
    omega

/-- A packet that is tracked adds its length to the bytes in flight. -/
theorem Accounted.sends {moved : List Packet} {packet : Packet} {now : Int}
    (hacc : h.Accounted moved) (s : Sends h h' packet now) (hlen : packet.length < 2 ^ 64) :
    h'.Accounted moved := by
  have hhistory := s.history
  have hflight := s.inFlight
  have hsent := s.sentBytes
  have hroom := s.room
  by_cases hr : (stripNonRetransmittableFrames packet.frames).length ≠ 0
  · rw [if_pos hr] at hhistory hflight hsent
    refine ⟨?_, ?_, ?_, ?_⟩
    · intro p hp
      rw [hhistory] at hp
      rcases mem_append.mp hp with hp | hp
      · exact hacc.lengths p hp
      · rw [mem_singleton.mp hp]
        exact hlen
    · rw [hflight, hacc.inFlight, hhistory, add64]
      simp
    · rw [hsent, hacc.sentBytes, hhistory, s.ackedBytes, add64]
      simp only [totalLength_append, totalLength_singleton]
      omega
    · rw [hhistory, length_append, length_singleton]
      omega
  · rw [if_neg hr] at hhistory hflight hsent
    rw [append_nil] at hhistory
    refine ⟨by rw [hhistory]; exact hacc.lengths, ?_, ?_, by rw [hhistory]; exact hacc.tracked⟩
    · rw [hflight, hhistory, hacc.inFlight]
    · rw [hsent, hhistory, s.ackedBytes, hacc.sentBytes]

/-! ## Runs -/

variable [SendAlgorithm κ]

/-- A length is a `uint64`. -/
def Op.Sized : Op κ → Prop
  | .sentPacket packet _ => packet.length < 2 ^ 64
  | _ => True

/-- The packets an operation moves from the history to the queue: what it appends to the
queue, unless that is a copy of a packet of another path. -/
def Op.moved (h : SentPacketHandler κ) : Op κ → List Packet
  | .duplicatePacket _ => []
  | op => (op.apply h).retransmissionQueue.drop h.retransmissionQueue.length

omit [SendAlgorithm κ] in
theorem Moves.drop_queue (m : Moves h h' a q) :
    h'.retransmissionQueue.drop h.retransmissionQueue.length = q := by
  rw [m.queue, drop_left]

/-- One operation keeps the accounts. -/
theorem Accounted.apply {moved : List Packet} (hacc : h.Accounted moved) (ho : h.Ordered)
    {op : Op κ} (hsized : op.Sized) : (op.apply h).Accounted (moved ++ op.moved h) := by
  have hmoves {op : Op κ} (hop : op.moved h =
      (op.apply h).retransmissionQueue.drop h.retransmissionQueue.length)
      (hm : ∃ a q, Moves h (op.apply h) a q) : (op.apply h).Accounted (moved ++ op.moved h) := by
    obtain ⟨a, q, m⟩ := hm
    rw [hop, m.drop_queue]
    exact hacc.moves ho m
  cases op with
  | sentPacket packet now =>
    simp only [Op.moved, Op.apply]
    cases hs : h.sentPacket packet now with
    | error e => simpa [Except.toOption] using hacc
    | ok h' =>
      have hsends := sends_of_sentPacket hs
      simpa [Except.toOption, hsends.queue] using hacc.sends hsends hsized
  | receivedAck f withPN rcvTime now =>
    exact hmoves rfl (moves_receivedAck ho f withPN rcvTime now)
  | receivedClosePath f withPN => exact hmoves rfl (moves_receivedClosePath ho f withPN)
  | setInflightAsLost => exact hmoves rfl ⟨_, _, moves_setInflightAsLost ho⟩
  | onAlarm failed now => exact hmoves rfl ⟨_, moves_onAlarm ho failed now⟩
  | dequeuePacketForRetransmission =>
    simp only [Op.moved, Op.apply, dequeuePacketForRetransmission]
    split
    · next hq => simpa [hq] using hacc
    · next packet rest hq =>
      have hdrop : rest.drop h.retransmissionQueue.length = [] := by simp [hq]
      rw [hdrop, append_nil]
      exact ⟨hacc.lengths, hacc.inFlight, hacc.sentBytes, hacc.tracked⟩
  | duplicatePacket packet =>
    rw [Op.moved, append_nil]
    exact ⟨hacc.lengths, hacc.inFlight, hacc.sentBytes, hacc.tracked⟩
  | getStopWaitingFrame force => exact hmoves rfl ⟨[], [], Moves.of_books rfl⟩
  | shared rttStats congestion => exact hmoves rfl ⟨[], [], Moves.of_books rfl⟩

end SentPacketHandler

/-- A handler, and the packets that have moved from its history to its queue. -/
structure Ledger (κ : Type) where
  handler : SentPacketHandler κ
  moved : List Packet

namespace Ledger
variable {κ : Type} [SendAlgorithm κ]
open SentPacketHandler

/-- The runs of a handler, with what each operation moves. -/
def machine (κ : Type) [SendAlgorithm κ] : Machine (Ledger κ) (Op κ) where
  init l := (∃ congestion, l.handler = .new congestion) ∧ l.moved = []
  step l op l' := op.Sized ∧ l' = ⟨op.apply l.handler, l.moved ++ op.moved l.handler⟩

theorem reach_accounted {l : Ledger κ} (hr : (machine κ).Reach Machine.Always l) :
    l.handler.Tracked ∧ l.handler.Accounted l.moved := by
  refine Machine.Reach.invariant (P := fun l => l.handler.Tracked ∧ l.handler.Accounted l.moved)
    hr ?_ ?_
  · rintro ⟨h, moved⟩ ⟨⟨c, rfl⟩, rfl⟩
    exact ⟨Reachable.tracked (.init ⟨c, rfl⟩), by simp [new], by simp [new], by simp [new],
      by simp [new]⟩
  · rintro l op _ ⟨ht, hacc⟩ - ⟨hsized, rfl⟩
    exact ⟨ht.apply op, hacc.apply ht.ordered hsized⟩

/-- **The accounts of a sent packet handler.**  In every state of every run the history is
strictly increasing and holds no number above the last one sent, `bytesInFlight` is the number
of bytes in the history, and `sentBytes` the sum of the bytes acknowledged, in flight and moved
to the queue.  The equations are those of `uint64`s; if the packets are of the size the packer
gives them, `bytesInFlight` has not wrapped around, and taking off a packet does not either. -/
theorem sent_packet_accounting {l : Ledger κ} (hr : (machine κ).Reach Machine.Always l) :
    l.handler.packetHistory.Pairwise (·.packetNumber < ·.packetNumber) ∧
    (∀ p ∈ l.handler.packetHistory, p.packetNumber ≤ l.handler.lastSentPacketNumber) ∧
    l.handler.bytesInFlight = totalLength l.handler.packetHistory % 2 ^ 64 ∧
    l.handler.sentBytes =
      (l.handler.ackedBytes + l.handler.bytesInFlight + totalLength l.moved) % 2 ^ 64 ∧
    ((∀ p ∈ l.handler.packetHistory, p.length ≤ maxPacketSize) →
      l.handler.bytesInFlight = totalLength l.handler.packetHistory ∧
      ∀ p ∈ l.handler.packetHistory, p.length ≤ l.handler.bytesInFlight) := by
  obtain ⟨ht, hacc⟩ := reach_accounted hr
  refine ⟨ht.ordered, fun p hp => ht.sent_le _ (ht.history_sent p hp), hacc.inFlight, ?_, ?_⟩
  · rw [hacc.sentBytes, hacc.inFlight]
    omega
  · intro hsize
    have hbound : totalLength l.handler.packetHistory ≤
        l.handler.packetHistory.length * maxPacketSize := by
      have := sum_le_card_nsmul (l.handler.packetHistory.map (·.length)) maxPacketSize
        (by simpa using hsize)
      simpa [totalLength] using this
    have htracked := hacc.tracked
    have hexact : l.handler.bytesInFlight = totalLength l.handler.packetHistory := by
      rw [hacc.inFlight]
      refine Nat.mod_eq_of_lt (hbound.trans_lt ?_)
      simp only [maxTrackedSentPackets, maxPacketSize] at htracked ⊢
      omega
    refine ⟨hexact, fun p hp => ?_⟩
    rw [hexact]
    exact single_le_sum (by simp) _ (mem_map_of_mem hp)

/-- Two packets are sent, the first is acknowledged and the second queued by the alarm. -/
def sampleOps : List (Op FixedWindow) :=
  [.sentPacket ⟨1, [.ping], 100, .forwardSecure, 0, []⟩ 0,
    .sentPacket ⟨2, [.ping], 150, .forwardSecure, 0, []⟩ 0,
    .receivedAck ⟨⟨0, 1, 1, []⟩, 0, 0⟩ 1 0 0,
    .onAlarm false 0]

/-- The ledger after them. -/
def sampleLedger : Ledger FixedWindow :=
  sampleOps.foldl (fun l op => ⟨op.apply l.handler, l.moved ++ op.moved l.handler⟩) ⟨.new ⟨0⟩, []⟩

theorem sent_bytes_of_sampleLedger :
    sampleLedger.handler.ackedBytes = 100 ∧ totalLength sampleLedger.moved = 150 ∧
      sampleLedger.handler.sentBytes =
        (sampleLedger.handler.ackedBytes + sampleLedger.handler.bytesInFlight +
          totalLength sampleLedger.moved) % 2 ^ 64 := by
  have hr : (machine FixedWindow).Reach Machine.Always sampleLedger := by
    have hlengths : Machine.Meets (fun _ (op : Op FixedWindow) => op.Sized)
        (fun l op => ⟨op.apply l.handler, l.moved ++ op.moved l.handler⟩)
        (⟨.new ⟨0⟩, []⟩ : Ledger FixedWindow) sampleOps :=
      ⟨show 100 < 2 ^ 64 by decide, show 150 < 2 ^ 64 by decide, trivial, trivial, trivial⟩
    exact .foldl (.init ⟨⟨_, rfl⟩, rfl⟩) (fun _ _ hsized => ⟨trivial, hsized, rfl⟩) hlengths
  exact ⟨by decide +kernel, by decide +kernel, (sent_packet_accounting hr).2.2.2.1⟩

end Ledger
end MpQuic
