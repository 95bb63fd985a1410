import MpQuic.AckHandling

/-!
# The limit on tracked packets

A handler tracks the packets of its history and of its retransmission queue.
`SentPacket` refuses a packet when the limit is reached, whether or not the packet is
one to be tracked, and `DuplicatePacket` adds to the queue without a look at the
limit.  The check of `SentPacket` bounds the packets that are tracked; a run goes wrong
exactly where the limit is reached and a packet is copied, or an ACK is to be sent.
-/
namespace MpQuic
open Systems List

namespace SentPacketHandler
variable {κ : Type} {h h' : SentPacketHandler κ}

/-- The number of packets tracked. -/
def numTracked (h : SentPacketHandler κ) : Nat :=
  h.retransmissionQueue.length + h.packetHistory.length

/-- A packet that leaves the history for the queue is still one packet. -/
theorem Moves.numTracked_le {acked queued : List Packet} (m : Moves h h' acked queued) :
    h'.numTracked ≤ h.numTracked := by
  set moved := (acked ++ queued).map (·.packetNumber) with hmoved
  have hnodup : (queued.map (·.packetNumber)).Nodup := by
    have hdistinct := m.distinct
    rw [map_append] at hdistinct
    exact hdistinct.of_append_right
  -- the packets queued are among those that the history loses
  have hlost : queued.length ≤ (h.packetHistory.filter fun p => p.packetNumber ∈ moved).length := by
    have hsubset : queued.map (·.packetNumber) ⊆
        (h.packetHistory.filter fun p => p.packetNumber ∈ moved).map (·.packetNumber) := by
      intro n hn
      obtain ⟨p, hp, rfl⟩ := mem_map.mp hn
      refine mem_map_of_mem (mem_filter.mpr ⟨m.tracked p (mem_append_right _ hp), ?_⟩)
      exact decide_eq_true (mem_map_of_mem (mem_append_right _ hp))
    have hle := hnodup.length_le_of_subset hsubset
    rwa [length_map, length_map] at hle
  have hsplit := length_eq_length_filter_add (l := h.packetHistory)
    fun p => decide (p.packetNumber ∈ moved)
  rw [numTracked, numTracked, m.history, m.queue, length_append]
  simp only [decide_not, ← hmoved] at hsplit ⊢
  omega

variable {packet : Packet} {now : Int} {op : Op κ} {n : Nat}

/-- A packet that is sent is tracked if it has frames to retransmit. -/
theorem Sends.numTracked_eq (s : Sends h h' packet now) :
    h'.numTracked = h.numTracked +
      if stripNonRetransmittableFrames packet.frames = [] then 0 else 1 := by
  rw [numTracked, numTracked, s.history, s.queue, length_append]
  by_cases hstrip : stripNonRetransmittableFrames packet.frames = []
  · rw [if_pos hstrip, if_neg (by rw [hstrip]; exact fun h => h rfl)]
    rfl
  · rw [if_neg hstrip, if_pos (mt length_eq_zero_iff.mp hstrip)]
    rfl

theorem numTracked_duplicatePacket (h : SentPacketHandler κ) (packet : Packet) :
    (h.duplicatePacket packet).numTracked = h.numTracked + 1 := by
  rw [numTracked, numTracked, duplicatePacket, length_append, length_singleton]
  dsimp only
  omega

variable [SendAlgorithm κ]

/-- The operations after which there may be one packet more. -/
def Op.tracks : Op κ → Bool
  | .sentPacket .. | .duplicatePacket _ => true
  | _ => false

theorem numTracked_apply_le (ht : h.Tracked) (hop : op.tracks = false) :
    (op.apply h).numTracked ≤ h.numTracked := by
  cases op with
  | sentPacket => cases hop
  | receivedAck f withPN rcvTime now =>
    obtain ⟨_, _, m⟩ := moves_receivedAck ht.ordered f withPN rcvTime now
    exact m.numTracked_le
  | receivedClosePath f withPN =>
    obtain ⟨_, _, m⟩ := moves_receivedClosePath ht.ordered f withPN
    exact m.numTracked_le
  | setInflightAsLost => exact (moves_setInflightAsLost ht.ordered).numTracked_le
  | onAlarm failed now =>
    obtain ⟨_, m⟩ := moves_onAlarm ht.ordered failed now
    exact m.numTracked_le
  | dequeuePacketForRetransmission =>
    rw [Op.apply, dequeuePacketForRetransmission]
    split
    · exact le_rfl
    · next packet rest hqueue =>
      rw [numTracked, numTracked, hqueue, length_cons]
      dsimp only
      omega
  | duplicatePacket => cases hop
  | getStopWaitingFrame | shared => exact le_rfl

/-- `SentPacket` complains about the limit exactly if it is reached, for a packet with a new
number. -/
theorem sentPacket_tooMany_iff : h.sentPacket packet now = .error .tooManyTrackedSentPackets ↔
    h.lastSentPacketNumber < packet.packetNumber ∧ maxTrackedSentPackets ≤ h.numTracked := by
  rw [sentPacket]
  split_ifs with hnumber hlimit
  · exact iff_of_false (by simp) fun h => absurd h.1 (not_lt.mpr hnumber)
  · exact iff_of_true rfl ⟨not_le.mp hnumber, Nat.le_of_lt_succ hlimit⟩
  · exact iff_of_false (by simp) fun h => hlimit (Nat.lt_succ_of_le h.2)

/-- A packet is accepted only below the limit, whether it is to be tracked or not. -/
theorem numTracked_lt_of_sentPacket (hs : h.sentPacket packet now = .ok h') :
    h.numTracked < maxTrackedSentPackets := by
  by_contra hge
  have hnumber := (sends_of_sentPacket hs).increasing
  rw [sentPacket_tooMany_iff.mpr ⟨hnumber, not_lt.mp hge⟩] at hs
  cases hs

/-- `SentPacket`'s own check bounds the number of tracked packets. -/
theorem numTracked_sentPacket_le (hle : h.numTracked ≤ maxTrackedSentPackets) (packet : Packet)
    (now : Int) : ((Op.sentPacket packet now).apply h).numTracked ≤ maxTrackedSentPackets := by
  rw [Op.apply]
  cases hs : h.sentPacket packet now with
  | error e => exact hle
  | ok h' =>
    have hlt := numTracked_lt_of_sentPacket hs
    have heq := (sends_of_sentPacket hs).numTracked_eq
    change h'.numTracked ≤ _
    split at heq <;> omega

/-- After the operation no more packets are tracked than the limit allows, and a packet that is
not to be tracked has not been refused because of the limit. -/
structure KeepsLimit (h : SentPacketHandler κ) (op : Op κ) : Prop where
  tracked : (op.apply h).numTracked ≤ maxTrackedSentPackets
  accepted : ∀ packet now, op = .sentPacket packet now →
    stripNonRetransmittableFrames packet.frames = [] →
    h.sentPacket packet now ≠ .error .tooManyTrackedSentPackets

/-- The limit is not reached when a packet is copied, or sent without being tracked. -/
def BelowLimit (h : SentPacketHandler κ) : Op κ → Prop
  | .sentPacket packet _ =>
    stripNonRetransmittableFrames packet.frames = [] →
      h.lastSentPacketNumber < packet.packetNumber → h.numTracked < maxTrackedSentPackets
  | .duplicatePacket _ => h.numTracked < maxTrackedSentPackets
  | _ => True

/-- One operation: a copy is tracked without a check, and a packet that is not tracked is checked
all the same. -/
theorem keepsLimit_iff (ht : h.Tracked) (hle : h.numTracked ≤ maxTrackedSentPackets)
    (op : Op κ) :
    h.KeepsLimit op ↔ h.BelowLimit op := by
  cases op with
  | sentPacket packet now =>
    rw [BelowLimit]
    constructor
    · intro hkeeps hstrip hnumber
      by_contra hge
      exact hkeeps.accepted packet now rfl hstrip
        (sentPacket_tooMany_iff.mpr ⟨hnumber, not_lt.mp hge⟩)
    · intro hbelow
      refine ⟨numTracked_sentPacket_le hle packet now, ?_⟩
      rintro packet now ⟨rfl, rfl⟩ hstrip hs
      obtain ⟨hnumber, hge⟩ := sentPacket_tooMany_iff.mp hs
      exact absurd (hbelow hstrip hnumber) (not_lt.mpr hge)
  | duplicatePacket packet =>
    refine ⟨fun hkeeps => ?_, fun hbelow => ⟨?_, by rintro _ _ ⟨⟩⟩⟩
    · exact (h.numTracked_duplicatePacket packet).symm.trans_le hkeeps.tracked
    · exact (h.numTracked_duplicatePacket packet).trans_le hbelow
  | _ =>
    exact iff_of_true ⟨(numTracked_apply_le ht rfl).trans hle, by rintro _ _ ⟨⟩⟩ trivial

theorem meets_keepsLimit_iff (ht : h.Tracked) (hle : h.numTracked ≤ maxTrackedSentPackets)
    (ops : List (Op κ)) :
    Machine.Meets KeepsLimit (fun h op => op.apply h) h ops ↔
      Machine.Meets BelowLimit (fun h op => op.apply h) h ops := by
  induction ops generalizing h with
  | nil => exact Iff.rfl
  | cons op ops ih =>
    -- a step that keeps the limit leads to a state from which the rest of the run is judged
    have hstep := keepsLimit_iff ht hle op
    rw [Machine.Meets, Machine.Meets, hstep]
    exact and_congr_right fun hbelow => ih (ht.apply op) (hstep.mpr hbelow).tracked

/-- **The limit on tracked packets** is kept by every operation of a run, and no packet that is not
tracked is refused because of it, exactly if the limit is not reached when a packet is copied or
sent without being tracked.  The packets that are tracked need no condition. -/
theorem tracking_limit_iff (congestion : κ) (ops : List (Op κ)) :
    Machine.Meets KeepsLimit (fun h op => op.apply h) (new congestion) ops ↔
      Machine.Meets BelowLimit (fun h op => op.apply h) (new congestion) ops :=
  meets_keepsLimit_iff (Reachable.tracked (.init ⟨congestion, rfl⟩)) (Nat.zero_le _) ops

/-! ## A full handler -/

theorem congestion_sentPacket {h h' : SentPacketHandler FixedWindow}
    (hs : h.sentPacket packet now = .ok h') : h'.congestion = h.congestion := by
  have halarm (h : SentPacketHandler FixedWindow) :
      h.updateLossDetectionAlarm.congestion = h.congestion := by
    rw [updateLossDetectionAlarm]
    split_ifs <;> rfl
  rw [sentPacket] at hs
  split at hs
  · cases hs
  split at hs
  · cases hs
  · cases hs
    refine (halarm _).trans ?_
    rw [notify]
    split <;> rfl

/-- A handler with a wide congestion window that has sent `n` PINGs. -/
structure Pinged (n : Nat) (h : SentPacketHandler FixedWindow) : Prop where
  reachable : h.Reachable
  queue : h.retransmissionQueue = []
  history : h.packetHistory.length = n
  lastSent : h.lastSentPacketNumber = n
  inFlight : h.bytesInFlight = 20 * n
  congestion : h.congestion = ⟨1000000⟩

theorem Pinged.sentPacket {h : SentPacketHandler FixedWindow} (hp : Pinged n h)
    (hn : n < maxTrackedSentPackets) :
    ∃ h', h.sentPacket (packetOf (n + 1) [.ping]) 0 = .ok h' ∧ Pinged (n + 1) h' := by
  cases hs : h.sentPacket (packetOf (n + 1) [.ping]) 0 with
  | error e =>
    rw [SentPacketHandler.sentPacket, hp.queue, hp.history, hp.lastSent] at hs
    split_ifs at hs with hnumber hlimit
    · exact absurd hnumber (Nat.not_succ_le_self n)
    · rw [length_nil, Nat.zero_add] at hlimit
      omega
  | ok h' =>
    have hreach := hp.reachable.apply (.sentPacket (packetOf (n + 1) [.ping]) 0)
    rw [Op.apply, hs] at hreach
    have hsends := sends_of_sentPacket hs
    have htracks : (stripNonRetransmittableFrames (packetOf (n + 1) [.ping]).frames).length ≠ 0 :=
      Nat.one_ne_zero
    have hhistory := hsends.history
    have hflight := hsends.inFlight
    rw [if_pos htracks] at hhistory hflight
    refine ⟨h', rfl, hreach, hsends.queue.trans hp.queue, ?_, hsends.lastSent, ?_,
      (congestion_sentPacket hs).trans hp.congestion⟩
    · rw [hhistory, length_append, hp.history, length_singleton]
    · have hlen : (packetOf (n + 1) [.ping]).length = 20 := rfl
      rw [maxTrackedSentPackets] at hn
      rw [hflight, hp.inFlight, hlen, add64, Nat.mod_eq_of_lt (by omega), Nat.mul_succ]

theorem exists_pinged (hn : n ≤ maxTrackedSentPackets) : ∃ h, Pinged n h := by
  induction n with
  | zero => exact ⟨new ⟨1000000⟩, .init ⟨_, rfl⟩, rfl, rfl, rfl, rfl, rfl⟩
  | succ n ih =>
    obtain ⟨h, hp⟩ := ih (Nat.le_of_succ_le hn)
    obtain ⟨h', -, hp'⟩ := hp.sentPacket hn
    exact ⟨h', hp'⟩

/-- A copy of the last packet there was a place for exceeds the limit, and with the limit reached
no ACK can be sent. -/
theorem full_handler_refuses_ack :
    ∃ h full copied : SentPacketHandler FixedWindow,
      h.Reachable ∧ h.sendingAllowed = true ∧
      h.sentPacket (packetOf 5000 [.ping]) 0 = .ok full ∧ full.Reachable ∧
      copied = full.duplicatePacket (packetOf 5000 [.ping]) ∧ copied.Reachable ∧
      copied.numTracked = maxTrackedSentPackets + 1 ∧
      stripNonRetransmittableFrames (packetOf 5001 [.ack (ackOf 1 1)]).frames = [] ∧
      full.sentPacket (packetOf 5001 [.ack (ackOf 1 1)]) 0 =
        .error .tooManyTrackedSentPackets := by
  obtain ⟨h, hp⟩ := exists_pinged (n := 4999) (by decide)
  obtain ⟨full, hs, hfull⟩ := hp.sentPacket (by decide)
  refine ⟨h, full, _, hp.reachable, ?_, hs, hfull.reachable, rfl,
    hfull.reachable.apply (.duplicatePacket (packetOf 5000 [.ping])), ?_, rfl, ?_⟩
  · rw [sendingAllowed, hp.queue, hp.history, hp.inFlight, hp.congestion]
    decide
  · rw [numTracked, duplicatePacket, hfull.queue]
    dsimp only
    rw [hfull.history]
    rfl
  · rw [SentPacketHandler.sentPacket, hfull.queue, hfull.history, hfull.lastSent]
    rfl

end SentPacketHandler
end MpQuic
