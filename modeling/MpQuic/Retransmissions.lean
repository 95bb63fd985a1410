import MpQuic.NilPackets

/-!
# What `getRetransmission` leaves alone

Packets are taken from the retransmission queues and their frames are queued.  Apart
from the queues nothing changes on a path (`Retransmits`), and a packet that is to be
sent again as a whole comes from one of the queues.  If there is only one path, every
scheduler selects it for a retransmission.
-/
namespace MpQuic
open Systems

/-- The part of a packer that queueing retransmittable frames leaves alone. -/
def PacketPacker.standing (p : PacketPacker) : Nat × Perspective × Int × CryptoSetup ×
    FrameHeap × ConnectionParameters × List SealedPacket × (Nat → Option AckFrame) :=
  (p.connectionID, p.perspective, p.version, p.cryptoSetup, p.streamFramer.heap,
    p.streamFramer.connectionParameters, p.sealLog, p.ackFrame)

/-- A path with other packets queued for retransmission. -/
def Path.withQueue {κ : Type} (pth : Path κ) (retransmissionQueue : List Packet)
    (retransmissions : Nat) : Path κ :=
  { pth with
    sentPacketHandler := { pth.sentPacketHandler with retransmissionQueue, retransmissions } }

namespace Session
variable {κ : Type} {s s' s'' : Session κ} {pathID : Nat}

theorem eq_initialPathID (hkeys : s.paths.keys = [initialPathID]) {id : Nat} {pth : Path κ}
    (hpth : s.paths.lookup id = some pth) : id = initialPathID := by
  have hmem : id ∈ s.paths.keys := AList.mem_keys.mp (mem_paths_of_lookup hpth)
  rw [hkeys] at hmem
  exact List.mem_singleton.mp hmem

/-- Frames that are retransmitted are queued among the control frames. -/
theorem requeueFrame_standing {frame : Frame FrameRef} (hframe : frame.isRetransmittable = true)
    (pathID : Nat) (env : Env) (s : Session κ) :
    (requeueFrame pathID env s frame).packer.standing = s.packer.standing ∧
      (requeueFrame pathID env s frame).handshakeComplete = s.handshakeComplete := by
  rw [requeueFrame]
  split
  · exact ⟨rfl, rfl⟩
  · split
    · exact ⟨rfl, rfl⟩
    · split_ifs
      · exact ⟨rfl, rfl⟩
      · exact ⟨rfl, rfl⟩
  · exact ⟨rfl, rfl⟩
  · next f hsplit =>
    cases frame with
    | ack | stopWaiting => cases hframe
    | stream => cases hsplit
    | _ =>
      cases hsplit
      exact ⟨rfl, rfl⟩

theorem foldl_requeueFrame_standing (packet : Packet) (pathID : Nat) (env : Env) (s : Session κ) :
    (packet.getFramesForRetransmission.foldl (requeueFrame pathID env) s).packer.standing =
        s.packer.standing ∧
      (packet.getFramesForRetransmission.foldl (requeueFrame pathID env) s).handshakeComplete =
        s.handshakeComplete := by
  refine List.foldlRecOn _ _ (motive := fun s' : Session κ => s'.packer.standing =
    s.packer.standing ∧ s'.handshakeComplete = s.handshakeComplete) ⟨rfl, rfl⟩ ?_
  intro s' hs' frame hframe
  obtain ⟨hstanding, hcomplete⟩ :=
    requeueFrame_standing (List.mem_filter.mp hframe).2 pathID env s'
  exact ⟨hstanding.trans hs'.1, hcomplete.trans hs'.2⟩

/-- What `getRetransmission` leaves alone: everything on the paths but the queues.  What is queued
for retransmission was queued before. -/
structure Retransmits (s s' : Session κ) : Prop where
  packer : s'.packer.standing = s.packer.standing
  handshakeComplete : s'.handshakeComplete = s.handshakeComplete
  keys : s.paths.keys = [initialPathID] → s'.paths.keys = [initialPathID]
  paths : ∀ id pth', s'.paths.lookup id = some pth' → ∃ pth queue n,
    s.paths.lookup id = some pth ∧ queue ⊆ pth.sentPacketHandler.retransmissionQueue ∧
      pth' = pth.withQueue queue n

theorem Retransmits.ackFrame (h : Retransmits s s') : s'.packer.ackFrame = s.packer.ackFrame :=
  congrArg (·.2.2.2.2.2.2.2) h.packer

theorem Retransmits.refl (s : Session κ) : Retransmits s s :=
  ⟨rfl, rfl, fun h => h, fun _ pth h => ⟨pth, _, _, h, fun _ hp => hp, rfl⟩⟩

theorem Retransmits.dequeue (h : Retransmits s s') {packet : Packet} {id : Nat}
    (hdequeue : s'.dequeueFrom pathID = some (s'', id, packet)) : Retransmits s s'' := by
  obtain ⟨-, pth, rest, hpth, hqueue, rfl⟩ := dequeueFrom_eq hdequeue
  refine ⟨h.packer, h.handshakeComplete, fun hkeys => ?_, forall_lookup_insert ?_ h.paths⟩
  · have hkeys' := h.keys hkeys
    obtain rfl := eq_initialPathID hkeys' hpth
    rw [setPath, AList.keys_insert, hkeys', List.erase_cons_head]
  · obtain ⟨pth₀, queue, n, hpth₀, hsubset, rfl⟩ := h.paths _ pth hpth
    have hqueue' : queue = packet :: rest := hqueue
    refine ⟨pth₀, rest, _, hpth₀, fun p hp => hsubset ?_, rfl⟩
    rw [hqueue']
    exact List.mem_cons_of_mem _ hp

theorem Retransmits.requeue (h : Retransmits s s') (packet : Packet) (pathID : Nat) (env : Env) :
    Retransmits s (packet.getFramesForRetransmission.foldl (requeueFrame pathID env) s') := by
  obtain ⟨hstanding, hcomplete⟩ := foldl_requeueFrame_standing packet pathID env s'
  have hpaths := paths_foldl_requeueFrame pathID env packet.getFramesForRetransmission s'
  refine ⟨hstanding.trans h.packer, hcomplete.trans h.handshakeComplete, ?_, ?_⟩
  · rw [hpaths]
    exact h.keys
  · rw [hpaths]
    exact h.paths

/-- The packet to be sent again as a whole was queued on a path, and the handshake is going on. -/
def FromQueue (s : Session κ) (packet : Packet) : Prop :=
  s.handshakeComplete = false ∧ packet.encryptionLevel ≠ .forwardSecure ∧
    ∃ id pth, s.paths.lookup id = some pth ∧ packet ∈ pth.sentPacketHandler.retransmissionQueue

/-- The loop stops at the first handshake packet, which comes from the queue of a path. -/
theorem getRetransmissionLoop_retransmits (env : Env) (n : Nat) {r : Dequeued κ}
    (h : Retransmits s r.session) (hr : ∀ packet, r.retransmitPacket = some packet →
      r.hasRetransmission = true ∧ s.FromQueue packet) :
    Retransmits s (getRetransmissionLoop env n r).session ∧
      ∀ packet, (getRetransmissionLoop env n r).retransmitPacket = some packet →
        (getRetransmissionLoop env n r).hasRetransmission = true ∧ s.FromQueue packet := by
  induction n generalizing r with
  | zero => exact ⟨h, hr⟩
  | succ n ih =>
    rw [getRetransmissionLoop]
    split
    · exact ⟨h, hr⟩
    next s' pathID packet hfound =>
    obtain ⟨id, -, hdequeue⟩ := List.exists_of_findSome?_eq_some hfound
    have hs' := h.dequeue hdequeue
    split_ifs with hlevel hcomplete
    · exact ih hs' fun _ h => by cases h
    · refine ⟨hs', ?_⟩
      rintro _ ⟨⟩
      obtain ⟨-, pth, rest, hpth, hqueue, -⟩ := dequeueFrom_eq hdequeue
      obtain ⟨pth₀, queue, n, hpth₀, hsubset, rfl⟩ := h.paths _ pth hpth
      have hqueue' : queue = packet :: rest := hqueue
      refine ⟨rfl, ?_, hlevel, id, pth₀, hpth₀, hsubset (hqueue' ▸ List.mem_cons_self)⟩
      rw [← hs'.handshakeComplete]
      exact Bool.eq_false_of_not_eq_true hcomplete
    · exact ih (hs'.requeue packet pathID env) fun _ h => by cases h

theorem getRetransmission_retransmits (s : Session κ) (env : Env) :
    Retransmits s (s.getRetransmission env).session ∧
      ∀ packet, (s.getRetransmission env).retransmitPacket = some packet →
        (s.getRetransmission env).hasRetransmission = true ∧ s.FromQueue packet :=
  getRetransmissionLoop_retransmits env s.queuedPackets (.refl s) nofun

/-- Without a retransmission nothing has happened. -/
theorem getRetransmission_session (s : Session κ) (env : Env) :
    (s.getRetransmission env).hasRetransmission = true ∨ (s.getRetransmission env).session = s := by
  have hloop (n : Nat) (r : Dequeued κ) (hr : r.hasRetransmission = true) :
      (getRetransmissionLoop env n r).hasRetransmission = true := by
    induction n generalizing r with
    | zero => exact hr
    | succ n ih =>
      rw [getRetransmissionLoop]
      split
      · exact hr
      · split_ifs
        · exact ih _ rfl
        · rfl
        · exact ih _ rfl
  rw [getRetransmission]
  cases s.queuedPackets with
  | zero => exact .inr rfl
  | succ n =>
    rw [getRetransmissionLoop]
    split
    · exact .inr rfl
    · split_ifs
      · exact .inl (hloop n _ rfl)
      · exact .inl rfl
      · exact .inl (hloop n _ rfl)

variable [SendAlgorithm κ]

/-- All schedulers select the only path if it may send, or if there is something to retransmit. -/
theorem selectPath_only (hkeys : s.paths.keys = [initialPathID]) {pth : Path κ}
    (hpth : s.paths.lookup initialPathID = some pth) {r : Retransmission}
    (hallowed : r.hasRetransmission = true ∨ pth.sendingAllowed = true)
    (sch : Scheduler) (d : Draws)
    (env : Env) : s.selectPath sch d r env = .ok (some initialPathID) := by
  have hone : s.onlyInitialPath r.hasRetransmission = .ok (some initialPathID) := by
    rw [onlyInitialPath, hpth]
    dsimp only
    rcases hallowed with hr | hsending
    · rw [hr]
      rfl
    · rw [hsending]
      cases r.hasRetransmission <;> rfl
  have hlen : s.paths.keys.length ≤ 1 := by rw [hkeys]; exact le_rfl
  have hpaths (x : Selected) : s.amongPaths r env x = .ok (some initialPathID) := by
    rw [amongPaths, if_pos hlen, hone]
  have hmany (x : Selected) : s.amongManyPaths r env x = .ok (some initialPathID) := by
    rw [amongManyPaths, if_pos hlen, hone]
  have hlow : s.selectPathLowLatency r env = .ok (some initialPathID) := hpaths _
  rw [selectPath]
  split
  · exact hlow
  · exact hmany _
  · exact hpaths _
  · exact hlow
  · exact hpaths _
  · exact hpaths _
  · exact hmany _
  · exact hmany _
  · exact hmany _
  · rw [selectPathQSAT]
    split_ifs
    · exact hlow
    · exact hmany _
  · rw [selectPathQlearning]
    split_ifs
    · exact hlow
    · exact hmany _
  · rw [selectPathQlearningMultiClients]
    split_ifs
    · exact hlow
    · exact hmany _

end Session
end MpQuic
