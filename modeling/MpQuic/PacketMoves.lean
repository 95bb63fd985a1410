import Mathlib.Data.List.TakeWhile
import MpQuic.Lib.Machine
import MpQuic.SentPacketHandler

/-!
# Where tracked packets go

A packet leaves the history of its path in two ways only: an acknowledgement
removes it, or it moves to the retransmission queue.  `Moves h h' acked queued`
says that this is all that happened between two states of a handler, and to which
packets, and what it did to the byte counters; every function of the handler that
looks at acknowledgements, losses or timers has its `Moves` lemma.

`Tracked` is the invariant behind them: the history is ordered by packet number,
holds sent packets only, and no sent packet was recorded as skipped.
-/
namespace MpQuic
open Systems List

/-- The number of bytes of some packets. -/
def totalLength (ps : List Packet) : Nat := (ps.map (·.length)).sum

@[simp] theorem totalLength_nil : totalLength [] = 0 := rfl

@[simp] theorem totalLength_singleton (p : Packet) : totalLength [p] = p.length := by
  simp [totalLength]

@[simp] theorem totalLength_append (ps qs : List Packet) :
    totalLength (ps ++ qs) = totalLength ps + totalLength qs := by
  simp [totalLength]

namespace SentPacketHandler
variable {κ : Type}

/-- The fields that say what happened to which packet. -/
def books (h : SentPacketHandler κ) :
    List Packet × List Packet × List Packet × List Nat × Nat × List Nat × Nat × Nat × Nat :=
  (h.packetHistory, h.retransmissionQueue, h.acknowledged, h.sent, h.lastSentPacketNumber,
    h.skippedPackets, h.bytesInFlight, h.ackedBytes, h.sentBytes)

/-- The packets `acked` were acknowledged, the packets `queued` put into the queue, and all of
them taken from the history. -/
structure Moves (h h' : SentPacketHandler κ) (acked queued : List Packet) : Prop where
  history : h'.packetHistory =
    h.packetHistory.filter fun p => p.packetNumber ∉ (acked ++ queued).map (·.packetNumber)
  queue : h'.retransmissionQueue = h.retransmissionQueue ++ queued
  acknowledged : h'.acknowledged = h.acknowledged ++ acked
  tracked : ∀ p ∈ acked ++ queued, p ∈ h.packetHistory
  sent : h'.sent = h.sent
  lastSent : h'.lastSentPacketNumber = h.lastSentPacketNumber
  skipped : h'.skippedPackets ⊆ h.skippedPackets
  distinct : ((acked ++ queued).map (·.packetNumber)).Nodup
  inFlight : (∀ p ∈ h.packetHistory, p.length < 2 ^ 64) →
    (h'.bytesInFlight + totalLength (acked ++ queued)) % 2 ^ 64 = h.bytesInFlight % 2 ^ 64
  inFlight_lt : h.bytesInFlight < 2 ^ 64 → h'.bytesInFlight < 2 ^ 64
  ackedBytes : h'.ackedBytes % 2 ^ 64 = (h.ackedBytes + totalLength acked) % 2 ^ 64
  sentBytes : h'.sentBytes = h.sentBytes

namespace Moves
variable {h h' h'' : SentPacketHandler κ}

theorem of_books (hb : h'.books = h.books) : Moves h h' [] [] := by
  simp only [books, Prod.mk.injEq] at hb
  obtain ⟨h₁, h₂, h₃, h₄, h₅, h₆, h₇, h₈, h₉⟩ := hb
  exact ⟨by simp [h₁], by simp [h₂], by simp [h₃], by simp, h₄, h₅, by simp [h₆], by simp,
    by simp [h₇], by simp [h₇], by simp [h₈], h₉⟩

variable {a q : List Packet}

/-- The history only shrinks. -/
theorem history_sublist (m : Moves h h' a q) : h'.packetHistory.Sublist h.packetHistory := by
  rw [m.history]
  exact filter_sublist

/-- Moves compose: what left the history in the first step cannot leave it in the second. -/
theorem trans {a a' q q' : List Packet} (m : Moves h h' a q) (m' : Moves h' h'' a' q') :
    Moves h h'' (a ++ a') (q ++ q') := by
  refine ⟨?_, by simp [m'.queue, m.queue], by simp [m'.acknowledged, m.acknowledged], ?_,
    m'.sent.trans m.sent, m'.lastSent.trans m.lastSent, List.Subset.trans m'.skipped m.skipped,
    ?_, ?_, fun hlt => m'.inFlight_lt (m.inFlight_lt hlt), ?_, m'.sentBytes.trans m.sentBytes⟩
  · rw [m'.history, m.history, filter_filter]
    grind
  · intro p hp
    have hsub : ∀ p ∈ a' ++ q', p ∈ h.packetHistory := by
      intro p hp
      have := m'.tracked p hp
      rw [m.history] at this
      exact (mem_filter.mp this).1
    rcases mem_append.mp hp with hp | hp <;> rcases mem_append.mp hp with hp | hp
    · exact m.tracked p (by simp [hp])
    · exact hsub p (by simp [hp])
    · exact m.tracked p (by simp [hp])
    · exact hsub p (by simp [hp])
  · have hperm : ((a ++ a') ++ (q ++ q')).Perm ((a ++ q) ++ (a' ++ q')) := by grind
    rw [(hperm.map _).nodup_iff, map_append]
    refine m.distinct.append m'.distinct ?_
    -- what moves later was still in the history after the first move
    intro n hn hn'
    obtain ⟨p, hp, rfl⟩ := mem_map.mp hn'
    have hkept := m'.tracked p hp
    rw [m.history] at hkept
    exact absurd hn (by simpa using (mem_filter.mp hkept).2)
  · intro hlen
    have h₁ := m.inFlight hlen
    have h₂ := m'.inFlight fun p hp => hlen p (m.history_sublist.subset hp)
    simp only [totalLength_append] at h₁ h₂ ⊢
    omega
  · have h₁ := m.ackedBytes
    have h₂ := m'.ackedBytes
    simp only [totalLength_append]
    omega

/-- A change of other fields before. -/
theorem books_left {h₀ : SentPacketHandler κ} (m : Moves h h' a q) (hb : h.books = h₀.books) :
    Moves h₀ h' a q := by
  simpa using (of_books hb).trans m

/-- A change of other fields afterwards. -/
theorem books_right (m : Moves h h' a q) (hb : h''.books = h'.books) : Moves h h'' a q := by
  simpa using m.trans (of_books hb)

end Moves

/-! ## One packet -/

@[simp] theorem books_updateLossDetectionAlarm (h : SentPacketHandler κ) :
    h.updateLossDetectionAlarm.books = h.books := by
  unfold updateLossDetectionAlarm
  split_ifs <;> rfl

variable {h h' : SentPacketHandler κ} {p packet : Packet} {a q ps : List Packet} {now : Int}
  {n : Nat}

theorem moves_queuePacketForRetransmission (hp : p ∈ h.packetHistory) :
    Moves h (h.queuePacketForRetransmission p) [] [p] :=
  ⟨by simp [queuePacketForRetransmission, removeFromHistory], rfl,
    by simp [queuePacketForRetransmission], by simpa using hp, rfl, rfl, List.Subset.refl _,
    by simp, fun hlen => by simpa [queuePacketForRetransmission] using sub64_add_mod (hlen p hp),
    sub64_lt, by simp [queuePacketForRetransmission], rfl⟩

variable [SendAlgorithm κ]

@[simp] theorem books_notify (h : SentPacketHandler κ) (e : CongestionEvent) :
    (h.notify e).books = h.books := rfl

theorem moves_onPacketAcked (hp : p ∈ h.packetHistory) : Moves h (h.onPacketAcked p) [p] [] :=
  ⟨by simp [onPacketAcked, notify, removeFromHistory], by simp [onPacketAcked, notify], rfl,
    by simpa using hp, rfl, rfl, List.Subset.refl _, by simp,
    fun hlen => by simpa [onPacketAcked, notify] using sub64_add_mod (hlen p hp), sub64_lt,
    by simp [onPacketAcked, notify, add64], rfl⟩

theorem moves_queueLost (hp : p ∈ h.packetHistory) : Moves h (h.queueLost p) [] [p] :=
  (moves_queuePacketForRetransmission hp).books_right (books_notify ..)

theorem moves_queueRTO (hp : p ∈ h.packetHistory) : Moves h (h.queueRTO p) [] [p] :=
  (moves_queuePacketForRetransmission hp).books_right rfl

/-! ## Lists of packets -/

/-- The history is ordered by packet number. -/
def Ordered (h : SentPacketHandler κ) : Prop :=
  h.packetHistory.Pairwise (·.packetNumber < ·.packetNumber)

omit [SendAlgorithm κ] in
theorem Ordered.eq_of_number (ho : h.Ordered) {p p' : Packet} (hp : p ∈ h.packetHistory)
    (hp' : p' ∈ h.packetHistory) (hnum : p'.packetNumber = p.packetNumber) : p' = p := by
  have hnodup : (h.packetHistory.map (·.packetNumber)).Nodup :=
    pairwise_map.mpr (List.Pairwise.imp ne_of_lt ho)
  exact inj_on_of_nodup_map hnodup hp' hp hnum

omit [SendAlgorithm κ] in
theorem Moves.ordered (m : Moves h h' a q) (ho : h.Ordered) : h'.Ordered :=
  List.Pairwise.sublist m.history_sublist ho

omit [SendAlgorithm κ] in
/-- A packet that has left the history was acknowledged or put into the queue. -/
theorem Moves.mem_of_gone (m : Moves h h' a q) (ho : h.Ordered) (hp : p ∈ h.packetHistory)
    (hgone : p ∉ h'.packetHistory) : p ∈ a ∨ p ∈ q := by
  have hmem : p.packetNumber ∈ (a ++ q).map (·.packetNumber) := by
    by_contra hnot
    rw [m.history] at hgone
    exact hgone (mem_filter.mpr ⟨hp, by simpa using hnot⟩)
  obtain ⟨p', hp', hnum⟩ := mem_map.mp hmem
  obtain rfl := ho.eq_of_number hp (m.tracked p' hp') hnum
  exact mem_append.mp hp'

omit [SendAlgorithm κ] in
/-- A loop that acknowledges packets of the history, or queues them. -/
theorem moves_foldl {op : SentPacketHandler κ → Packet → SentPacketHandler κ} (ack : Bool)
    (hop : ∀ h p, p ∈ h.packetHistory →
      Moves h (op h p) (if ack then [p] else []) (if ack then [] else [p])) (ho : h.Ordered)
    (hps : ps.Sublist h.packetHistory) :
    Moves h (ps.foldl op h) (if ack then ps else []) (if ack then [] else ps) := by
  have hlt : ps.Pairwise (·.packetNumber < ·.packetNumber) := List.Pairwise.sublist hps ho
  have hmem : ∀ p ∈ ps, p ∈ h.packetHistory := hps.subset
  clear hps ho
  -- the packets have different numbers, so taking one out of the history leaves the others in
  induction ps generalizing h with
  | nil => cases ack <;> exact Moves.of_books rfl
  | cons p ps ih =>
    obtain ⟨hne, hlt⟩ := pairwise_cons.mp hlt
    have hp := hop h p (hmem p (by simp))
    have hrest : ∀ p' ∈ ps, p' ∈ (op h p).packetHistory := by
      intro p' hp'
      rw [hp.history]
      refine mem_filter.mpr ⟨hmem p' (by simp [hp']), ?_⟩
      have := hne p' hp'
      cases ack <;> simp <;> omega
    have htrans := hp.trans (ih hlt hrest)
    cases ack <;> exact htrans

/-! ## Losses and timers -/

/-- Only packets up to the largest acknowledged one are declared lost. -/
theorem moves_detectLostPackets (ho : h.Ordered) (now : Int) :
    ∃ queued, Moves h (h.detectLostPackets now) [] queued ∧
      ∀ p ∈ queued, p.packetNumber ≤ h.largestAcked := by
  refine ⟨_, (moves_foldl false (fun _ _ => moves_queueLost) ?_ ?_).books_left rfl, ?_⟩
  · exact ho
  · exact filter_sublist.trans (takeWhile_sublist _)
  · intro p hp
    simpa using mem_takeWhile_imp (mem_filter.1 hp).1

/-- `SetInflightAsLost` gives up the packets up to the largest acknowledged one only. -/
theorem moves_setInflightAsLost (ho : h.Ordered) :
    Moves h h.setInflightAsLost []
      (h.packetHistory.takeWhile (·.packetNumber ≤ h.largestAcked)) := by
  refine (moves_foldl false (fun _ _ => moves_queueLost) ?_ ?_).books_left rfl
  · exact ho
  · exact takeWhile_sublist _

omit [SendAlgorithm κ] in
theorem moves_retransmitTLP (h : SentPacketHandler κ) :
    ∃ queued, Moves h h.retransmitTLP [] queued := by
  unfold retransmitTLP
  split
  · next p hp => exact ⟨_, moves_queuePacketForRetransmission (mem_of_getLast? hp)⟩
  · exact ⟨_, Moves.of_books rfl⟩

theorem moves_retransmitOldestPacket (h : SentPacketHandler κ) :
    ∃ queued, Moves h h.retransmitOldestPacket [] queued := by
  unfold retransmitOldestPacket
  split
  · next p hp => exact ⟨_, moves_queueRTO (mem_of_head? hp)⟩
  · exact ⟨_, Moves.of_books rfl⟩

/-- An alarm moves packets to the queue: those lost, one for a tail loss probe, or after a timeout
the two oldest, and all of them if the path has failed. -/
theorem moves_onAlarm (ho : h.Ordered) (failed : Bool) (now : Int) :
    ∃ queued, Moves h (h.onAlarm failed now) [] queued := by
  unfold onAlarm
  split
  · exact ⟨_, Moves.of_books rfl⟩
  split
  · obtain ⟨queued, m, -⟩ := moves_detectLostPackets ho now
    exact ⟨queued, m.books_right (books_updateLossDetectionAlarm _)⟩
  split
  · obtain ⟨queued, m⟩ := moves_retransmitTLP h
    exact ⟨queued, m.books_right (books_updateLossDetectionAlarm _)⟩
  cases failed with
  | true =>
    have m := moves_foldl false (fun _ _ => moves_queueRTO) ho
      (List.Sublist.refl h.packetHistory)
    exact ⟨_, m.books_right (books_updateLossDetectionAlarm _)⟩
  | false =>
    obtain ⟨q₁, m₁⟩ := moves_retransmitOldestPacket h
    obtain ⟨q₂, m₂⟩ := moves_retransmitOldestPacket h.retransmitOldestPacket
    exact ⟨_, (m₁.trans m₂).books_right (books_updateLossDetectionAlarm _)⟩

/-! ## Acknowledgements -/

omit [SendAlgorithm κ] in
theorem cons_map_ok {x : Except Err (List Packet)} (h : (p :: ·) <$> x = .ok ps) :
    ∃ ps', x = .ok ps' ∧ ps = p :: ps' := by
  cases x with
  | error e => cases h
  | ok ps' => exact ⟨ps', rfl, (Except.ok.inj h).symm⟩

omit [SendAlgorithm κ] in
/-- The packets that an ACK finds are packets of the history, in its order. -/
theorem newlyAcked_sublist {f : AckedPackets} {ranges : List AckRange} {history ps : List Packet}
    (hps : newlyAcked f ranges history = .ok ps) : ps.Sublist history := by
  induction history generalizing ranges ps with
  | nil =>
    obtain rfl : [] = ps := by simpa [newlyAcked] using hps
    exact List.Sublist.refl _
  | cons p rest ih =>
    have hkeep : ∀ {ranges}, ((p :: ·) <$> newlyAcked f ranges rest) = .ok ps →
        ps.Sublist (p :: rest) := by
      intro ranges h
      obtain ⟨ps', hr, rfl⟩ := cons_map_ok h
      exact (ih hr).cons_cons p
    simp only [newlyAcked] at hps
    split at hps
    · exact (ih hps).cons p
    split at hps
    · obtain rfl : [] = ps := by simpa using hps
      exact nil_sublist _
    split at hps
    · split at hps
      · simp at hps
      split at hps
      · split at hps
        · simp at hps
        · exact hkeep hps
      · exact (ih hps).cons p
    · exact hkeep hps

omit [SendAlgorithm κ] in
theorem moves_garbageCollectSkippedPackets (h : SentPacketHandler κ) :
    Moves h h.garbageCollectSkippedPackets [] [] := by
  refine ⟨by simp [garbageCollectSkippedPackets], by simp [garbageCollectSkippedPackets],
    by simp [garbageCollectSkippedPackets], by simp, rfl, rfl, ?_, by simp,
    by simp [garbageCollectSkippedPackets], id, by simp [garbageCollectSkippedPackets], rfl⟩
  intro n hn
  have hn' := (takeWhile_sublist _).subset (mem_reverse.mp hn)
  exact mem_reverse.mp hn'

/-- The handler in which the packets of a frame are looked up: the frame has passed the first
checks, and may have given an RTT sample. -/
def sampled (h : SentPacketHandler κ) (f : AckFrame) (withPN : Nat) (rttStats : RTTStats)
    (congestion : κ) : SentPacketHandler κ :=
  { h with
    largestReceivedPacketWithAck := withPN, largestAcked := f.largestAcked, rttStats, congestion }

/-- The end of `ReceivedAck`, once the packets a frame acknowledges have been found. -/
def finishAck (h : SentPacketHandler κ) (f : AckFrame) (acked : List Packet) (now : Int) :
    SentPacketHandler κ :=
  let h := acked.foldl onPacketAcked h
  let h := (h.detectLostPackets now).updateLossDetectionAlarm.garbageCollectSkippedPackets
  { h with stopWaitingManager := h.stopWaitingManager.receivedAck f }

/-- What `ReceivedAck` can do with a frame. -/
inductive AckOutcome (h : SentPacketHandler κ) (f : AckFrame) (withPN : Nat) (now : Int) :
    SentPacketHandler κ × Option Err → Prop
  | unsent : h.lastSentPacketNumber < f.largestAcked →
      AckOutcome h f withPN now (h, some .ackForUnsentPacket)
  | outOfOrder : f.largestAcked ≤ h.lastSentPacketNumber →
      withPN ≤ h.largestReceivedPacketWithAck →
      AckOutcome h f withPN now (h, some .duplicateOrOutOfOrderAck)
  | repeated : f.largestAcked ≤ h.lastSentPacketNumber →
      h.largestReceivedPacketWithAck < withPN → f.largestAcked ≤ h.largestInOrderAcked →
      AckOutcome h f withPN now ({ h with largestReceivedPacketWithAck := withPN }, none)
  | skipped : f.largestAcked ≤ h.lastSentPacketNumber →
      h.largestReceivedPacketWithAck < withPN → h.largestInOrderAcked < f.largestAcked →
      h.skippedPacketsAcked f.toAckedPackets = true →
      AckOutcome h f withPN now
        (h.sampled f withPN h.rttStats h.congestion, some .ackForSkippedPacket)
  | failed (rttStats : RTTStats) (congestion : κ) (e : Err) :
      f.largestAcked ≤ h.lastSentPacketNumber → h.largestReceivedPacketWithAck < withPN →
      h.largestInOrderAcked < f.largestAcked →
      h.skippedPacketsAcked f.toAckedPackets = false →
      h.determineNewlyAckedPackets f.toAckedPackets = .error e →
      AckOutcome h f withPN now (h.sampled f withPN rttStats congestion, some e)
  | applied (rttStats : RTTStats) (congestion : κ) (acked : List Packet) :
      f.largestAcked ≤ h.lastSentPacketNumber → h.largestReceivedPacketWithAck < withPN →
      h.largestInOrderAcked < f.largestAcked →
      h.skippedPacketsAcked f.toAckedPackets = false →
      h.determineNewlyAckedPackets f.toAckedPackets = .ok acked →
      AckOutcome h f withPN now
        ((h.sampled f withPN rttStats congestion).finishAck f acked now, none)

/-- **The specification of `ReceivedAck`.** -/
theorem receivedAck_outcome (h : SentPacketHandler κ) (f : AckFrame) (withPN : Nat)
    (rcvTime now : Int) : AckOutcome h f withPN now (h.receivedAck f withPN rcvTime now) := by
  rw [receivedAck]
  split
  · next hlt => exact .unsent hlt
  next hle =>
  have hle := Nat.le_of_not_lt hle
  split
  · next hwith => exact .outOfOrder hle hwith
  next hwith =>
  have hwith := Nat.lt_of_not_le hwith
  dsimp only
  split
  · next hold => exact .repeated hle hwith hold
  next hnew =>
  have hnew : h.largestInOrderAcked < f.largestAcked := Nat.lt_of_not_le hnew
  split
  · next hskipped => exact .skipped hle hwith hnew hskipped
  next hskipped =>
  have hnone : h.skippedPacketsAcked f.toAckedPackets = false :=
    Bool.eq_false_of_not_eq_true hskipped
  set h₁ : SentPacketHandler κ :=
    { h with largestReceivedPacketWithAck := withPN, largestAcked := f.largestAcked } with hh₁
  -- the RTT sample may tell the congestion controller to leave slow start
  obtain ⟨rttStats, congestion, heq⟩ : ∃ rttStats congestion,
      (if (h₁.maybeUpdateRTT f.largestAcked f.delayTime rcvTime).2 then
        (h₁.maybeUpdateRTT f.largestAcked f.delayTime rcvTime).1.notify .maybeExitSlowStart
      else (h₁.maybeUpdateRTT f.largestAcked f.delayTime rcvTime).1) =
        h.sampled f withPN rttStats congestion := by
    rw [maybeUpdateRTT]
    split
    · exact ⟨_, _, rfl⟩
    · exact ⟨h.rttStats, h.congestion, rfl⟩
  rw [heq]
  split
  · next e he => exact .failed rttStats congestion e hle hwith hnew hnone he
  · next acked hacked => exact .applied rttStats congestion acked hle hwith hnew hnone hacked

theorem moves_receivedAck (ho : h.Ordered) (f : AckFrame) (withPN : Nat) (rcvTime now : Int) :
    ∃ acked queued, Moves h (h.receivedAck f withPN rcvTime now).1 acked queued := by
  have hout := receivedAck_outcome h f withPN rcvTime now
  generalize h.receivedAck f withPN rcvTime now = r at hout ⊢
  cases hout with
  | unsent | outOfOrder | repeated | skipped | failed => exact ⟨_, _, Moves.of_books rfl⟩
  | applied rttStats congestion acked _ _ _ _ hacked =>
    have m₂ : Moves h (h.sampled f withPN rttStats congestion) [] [] := Moves.of_books rfl
    have m₃ := moves_foldl true (fun _ _ => moves_onPacketAcked) (m₂.ordered ho)
      (newlyAcked_sublist hacked)
    obtain ⟨queued, m₄, -⟩ := moves_detectLostPackets ((m₂.trans m₃).ordered ho) now
    have m₅ := (m₄.books_right (books_updateLossDetectionAlarm _)).trans
      (moves_garbageCollectSkippedPackets _)
    exact ⟨_, _, ((m₂.trans m₃).trans m₅).books_right rfl⟩

/-- What `ReceivedClosePath` does once its checks have passed. -/
theorem moves_receivedClosePath_acked (ho : h.Ordered) {acked : List Packet}
    (hacked : acked.Sublist h.packetHistory) :
    Moves h (acked.foldl onPacketAcked h).setInflightAsLost.garbageCollectSkippedPackets acked
      ((acked.foldl onPacketAcked h).packetHistory.takeWhile
        (·.packetNumber ≤ (acked.foldl onPacketAcked h).largestAcked)) := by
  have m₁ := moves_foldl true (fun _ _ => moves_onPacketAcked) ho hacked
  have m₂ := (moves_setInflightAsLost (m₁.ordered ho)).trans (moves_garbageCollectSkippedPackets _)
  simpa using m₁.trans m₂

/-- What `ReceivedClosePath` can do with a frame. -/
inductive ClosePathOutcome (h : SentPacketHandler κ) (f : ClosePathFrame) :
    SentPacketHandler κ × Option Err → Prop
  | refused (withPN : Nat) (e : Err) :
      ClosePathOutcome h f ({ h with largestReceivedPacketWithAck := withPN }, some e)
  | applied (withPN : Nat) (acked : List Packet) :
      h.determineNewlyAckedPackets f.toAckedPackets = .ok acked →
      ClosePathOutcome h f
        ((acked.foldl onPacketAcked { h with largestReceivedPacketWithAck := withPN
          }).setInflightAsLost.garbageCollectSkippedPackets, none)

theorem receivedClosePath_outcome (h : SentPacketHandler κ) (f : ClosePathFrame) (withPN : Nat) :
    ClosePathOutcome h f (h.receivedClosePath f withPN) := by
  rw [receivedClosePath]
  split
  · exact .refused h.largestReceivedPacketWithAck _
  split
  · exact .refused h.largestReceivedPacketWithAck _
  dsimp only
  split
  · exact .refused withPN _
  split
  · exact .refused withPN _
  · next acked hacked => exact .applied withPN acked hacked

theorem moves_receivedClosePath (ho : h.Ordered) (f : ClosePathFrame) (withPN : Nat) :
    ∃ acked queued, Moves h (h.receivedClosePath f withPN).1 acked queued := by
  have hout := receivedClosePath_outcome h f withPN
  generalize h.receivedClosePath f withPN = r at hout ⊢
  cases hout with
  | refused => exact ⟨_, _, Moves.of_books rfl⟩
  | applied n acked hacked =>
    refine ⟨_, _, Moves.books_left (moves_receivedClosePath_acked ?_ ?_) rfl⟩
    · exact ho
    · exact newlyAcked_sublist hacked

/-! ## What acknowledgements are compared with -/

omit [SendAlgorithm κ] in
/-- A loop over packets that leaves a field alone. -/
theorem foldl_keeps {α : Type} (field : SentPacketHandler κ → α)
    (op : SentPacketHandler κ → Packet → SentPacketHandler κ)
    (hop : ∀ h p, field (op h p) = field h) (packets : List Packet) (h : SentPacketHandler κ) :
    field (packets.foldl op h) = field h := by
  induction packets generalizing h with
  | nil => rfl
  | cons p packets ih => exact (ih (op h p)).trans (hop h p)

/-- A property that neither acknowledged and lost packets nor alarms break.  The packets that are
queued come from the history, where `N` holds for all of them. -/
structure Kept (P : SentPacketHandler κ → Prop) (N : Packet → Prop) : Prop where
  alarm : ∀ h alarm, P h → P { h with alarm }
  counts : ∀ h losses rtoCount tlpCount lossTime, P h →
    P { h with losses, rtoCount, tlpCount, lossTime }
  notify : ∀ h e, P h → P (notify h e)
  history : ∀ h, P h → ∀ p ∈ h.packetHistory, N p
  acked : ∀ h p, P h → P (onPacketAcked h p)
  queued : ∀ h p, P h → N p → P (queuePacketForRetransmission h p)

namespace Kept
variable {P : SentPacketHandler κ → Prop} {N : Packet → Prop} (hP : Kept P N)
  {h : SentPacketHandler κ}
include hP

theorem updateLossDetectionAlarm (hh : P h) : P h.updateLossDetectionAlarm := by
  rw [SentPacketHandler.updateLossDetectionAlarm]
  split_ifs <;> exact hP.alarm _ _ hh

theorem foldl_onPacketAcked (packets : List Packet) (hh : P h) :
    P (packets.foldl onPacketAcked h) :=
  foldlRecOn packets _ hh fun h' hh' p _ => hP.acked h' p hh'

theorem foldl_queueLost {packets : List Packet} (hp : ∀ p ∈ packets, N p) (hh : P h) :
    P (packets.foldl queueLost h) :=
  foldlRecOn packets _ hh fun h' hh' p hmem =>
    hP.notify _ _ (hP.queued h' p hh' (hp p hmem))

theorem detectLostPackets (hh : P h) (now : Int) : P (h.detectLostPackets now) := by
  refine hP.foldl_queueLost ?_ (hP.counts h _ h.rtoCount h.tlpCount _ hh)
  intro p hp
  have hcandidate := (takeWhile_sublist _).subset (mem_of_mem_filter hp)
  exact hP.history h hh p hcandidate

theorem setInflightAsLost (hh : P h) : P h.setInflightAsLost := by
  refine hP.foldl_queueLost ?_ (hP.counts h _ h.rtoCount h.tlpCount h.lossTime hh)
  intro p hp
  exact hP.history h hh p ((takeWhile_sublist _).subset hp)

theorem queueRTO {p : Packet} (hp : N p) (hh : P h) : P (h.queueRTO p) :=
  hP.notify _ _ (hP.counts (h.queuePacketForRetransmission p) _ h.rtoCount h.tlpCount h.lossTime
    (hP.queued h p hh hp))

theorem retransmitOldestPacket (hh : P h) : P h.retransmitOldestPacket := by
  rw [SentPacketHandler.retransmitOldestPacket]
  split
  · next p hp => exact hP.queueRTO (hP.history h hh p (mem_of_mem_head? hp)) hh
  · exact hh

theorem retransmitTLP (hh : P h) : P h.retransmitTLP := by
  rw [SentPacketHandler.retransmitTLP]
  split
  · next p hp => exact hP.queued h p hh (hP.history h hh p (mem_of_getLast? hp))
  · exact hh

theorem onAlarm (hh : P h) (failed : Bool) (now : Int) : P (h.onAlarm failed now) := by
  have hall : P h.retransmitAllPackets :=
    hP.notify _ _ (foldlRecOn _ _ hh fun _ hh' p hp => hP.queueRTO (hP.history h hh p hp) hh')
  have holdest : P h.retransmitOldestTwoPackets :=
    hP.notify _ _ (hP.retransmitOldestPacket (hP.retransmitOldestPacket hh))
  have hcounted (h' : SentPacketHandler κ) (rtoCount tlpCount : Nat) (hh' : P h') :
      P { h' with rtoCount, tlpCount } := hP.counts h' h'.losses rtoCount tlpCount h'.lossTime hh'
  rw [SentPacketHandler.onAlarm]
  split
  · exact hP.alarm h none hh
  split
  · exact hP.updateLossDetectionAlarm (hP.detectLostPackets hh now)
  split
  · exact hP.updateLossDetectionAlarm (hcounted _ _ _ (hP.retransmitTLP hh))
  · refine hP.updateLossDetectionAlarm (hcounted _ _ _ ?_)
    cases failed with
    | true => exact hall
    | false => exact holdest

/-- The loops at the end of `ReceivedAck`, before skipped numbers are forgotten. -/
theorem foldl_detectLostPackets (hh : P h) (acked : List Packet) (now : Int) :
    P ((acked.foldl onPacketAcked h).detectLostPackets now).updateLossDetectionAlarm :=
  hP.updateLossDetectionAlarm (hP.detectLostPackets (hP.foldl_onPacketAcked acked hh) now)

end Kept

/-- A field that neither acknowledged and lost packets nor alarms touch. -/
structure Untouched {α : Type} (field : SentPacketHandler κ → α) : Prop where
  alarm : ∀ h alarm, field { h with alarm } = field h
  counts : ∀ h losses rtoCount tlpCount lossTime,
    field { h with losses, rtoCount, tlpCount, lossTime } = field h
  notify : ∀ h e, field (notify h e) = field h
  acked : ∀ h p, field (onPacketAcked h p) = field h
  queued : ∀ h p, field (queuePacketForRetransmission h p) = field h

namespace Untouched
variable {α : Type} {field : SentPacketHandler κ → α} (hf : Untouched field)
include hf

theorem kept (a : α) : Kept (fun h => field h = a) fun _ => True where
  alarm h alarm hh := (hf.alarm h alarm).trans hh
  counts h losses rtoCount tlpCount lossTime hh :=
    (hf.counts h losses rtoCount tlpCount lossTime).trans hh
  notify h e hh := (hf.notify h e).trans hh
  history _ _ _ _ := trivial
  acked h p hh := (hf.acked h p).trans hh
  queued h p hh _ := (hf.queued h p).trans hh

theorem updateLossDetectionAlarm (h : SentPacketHandler κ) :
    field h.updateLossDetectionAlarm = field h := (hf.kept _).updateLossDetectionAlarm rfl

theorem foldl_onPacketAcked (packets : List Packet) (h : SentPacketHandler κ) :
    field (packets.foldl onPacketAcked h) = field h := (hf.kept _).foldl_onPacketAcked packets rfl

theorem setInflightAsLost (h : SentPacketHandler κ) : field h.setInflightAsLost = field h :=
  (hf.kept _).setInflightAsLost rfl

theorem onAlarm (h : SentPacketHandler κ) (failed : Bool) (now : Int) :
    field (h.onAlarm failed now) = field h := (hf.kept _).onAlarm rfl failed now

/-- The loops at the end of `ReceivedAck`, before skipped numbers are forgotten. -/
theorem foldl_detectLostPackets (h : SentPacketHandler κ) (acked : List Packet) (now : Int) :
    field ((acked.foldl onPacketAcked h).detectLostPackets now).updateLossDetectionAlarm =
      field h := (hf.kept _).foldl_detectLostPackets rfl acked now

end Untouched

/-- The largest acknowledged number and the skipped numbers. -/
def ackBooks (h : SentPacketHandler κ) : Nat × List Nat := (h.largestAcked, h.skippedPackets)

theorem ackBooks_untouched : Untouched (ackBooks : SentPacketHandler κ → Nat × List Nat) :=
  ⟨fun _ _ => rfl, fun _ _ _ _ _ => rfl, fun _ _ => rfl, fun _ _ => rfl, fun _ _ => rfl⟩

theorem largestAcked_finishAck (h : SentPacketHandler κ) (f : AckFrame) (acked : List Packet)
    (now : Int) : (h.finishAck f acked now).largestAcked = h.largestAcked :=
  congrArg Prod.fst (ackBooks_untouched.foldl_detectLostPackets h acked now)

theorem largestAcked_receivedClosePath (h : SentPacketHandler κ) (f : ClosePathFrame)
    (withPN : Nat) : (h.receivedClosePath f withPN).1.largestAcked = h.largestAcked := by
  have hout := receivedClosePath_outcome h f withPN
  generalize h.receivedClosePath f withPN = r at hout ⊢
  cases hout with
  | refused => rfl
  | applied n acked =>
    exact congrArg Prod.fst
      ((ackBooks_untouched.setInflightAsLost _).trans
        (ackBooks_untouched.foldl_onPacketAcked acked _))

/-- Only a number that was sent becomes the largest acknowledged. -/
theorem largestAcked_receivedAck (h : SentPacketHandler κ) (f : AckFrame) (withPN : Nat)
    (rcvTime now : Int) :
    (h.receivedAck f withPN rcvTime now).1.largestAcked = h.largestAcked ∨
      (h.receivedAck f withPN rcvTime now).1.largestAcked ≤ h.lastSentPacketNumber := by
  have hout := receivedAck_outcome h f withPN rcvTime now
  generalize h.receivedAck f withPN rcvTime now = r at hout ⊢
  cases hout with
  | unsent | outOfOrder | repeated => exact .inl rfl
  | skipped hle | failed _ _ _ hle => exact .inr hle
  | applied rttStats congestion acked hle => exact .inr ((largestAcked_finishAck ..).trans_le hle)

theorem largestAcked_sentPacket (hs : h.sentPacket packet now = .ok h') :
    h'.largestAcked = h.largestAcked := by
  rw [sentPacket] at hs
  split at hs
  · cases hs
  split at hs
  · cases hs
  · rw [← Except.ok.inj hs]
    refine (congrArg Prod.fst (ackBooks_untouched.updateLossDetectionAlarm _)).trans ?_
    split <;> rfl

/-! ## Sending -/

/-- A packet was added to the history, if it has frames to retransmit. -/
structure Sends (h h' : SentPacketHandler κ) (packet : Packet) (now : Int) : Prop where
  increasing : h.lastSentPacketNumber < packet.packetNumber
  room : h.retransmissionQueue.length + h.packetHistory.length + 1 ≤ maxTrackedSentPackets
  history : h'.packetHistory = h.packetHistory ++
    if (stripNonRetransmittableFrames packet.frames).length ≠ 0 then
      [{ packet with frames := stripNonRetransmittableFrames packet.frames, sendTime := now }]
    else []
  queue : h'.retransmissionQueue = h.retransmissionQueue
  acknowledged : h'.acknowledged = h.acknowledged
  sent : h'.sent = h.sent ++ [packet.packetNumber]
  lastSent : h'.lastSentPacketNumber = packet.packetNumber
  skippedPackets : h'.skippedPackets = (range' (h.lastSentPacketNumber + 1)
    (packet.packetNumber - (h.lastSentPacketNumber + 1))).foldl addSkippedPacket h.skippedPackets
  inFlight : h'.bytesInFlight =
    if (stripNonRetransmittableFrames packet.frames).length ≠ 0 then
      add64 h.bytesInFlight packet.length
    else h.bytesInFlight
  ackedBytes : h'.ackedBytes = h.ackedBytes
  sentBytes : h'.sentBytes =
    if (stripNonRetransmittableFrames packet.frames).length ≠ 0 then
      add64 h.sentBytes packet.length
    else h.sentBytes

/-- Recording skipped numbers adds no others. -/
theorem mem_foldl_addSkippedPacket {numbers skipped : List Nat}
    (hn : n ∈ numbers.foldl addSkippedPacket skipped) : n ∈ skipped ∨ n ∈ numbers := by
  induction numbers generalizing skipped with
  | nil => exact .inl hn
  | cons m numbers ih =>
    rcases ih hn with h | h
    · have hmem : n ∈ skipped ++ [m] := by
        unfold addSkippedPacket at h
        dsimp only at h
        split at h
        · exact mem_of_mem_drop h
        · exact h
      rcases mem_append.mp hmem with h | h
      · exact .inl h
      · exact .inr (by simp [mem_singleton.mp h])
    · exact .inr (by simp [h])

omit [SendAlgorithm κ] in
theorem Sends.skipped (s : Sends h h' packet now) (hn : n ∈ h'.skippedPackets) :
    n ∈ h.skippedPackets ∨ h.lastSentPacketNumber < n ∧ n < packet.packetNumber := by
  rw [s.skippedPackets] at hn
  rcases mem_foldl_addSkippedPacket hn with hn | hn
  · exact .inl hn
  · have := mem_range'_1.mp hn
    exact .inr (by omega)

theorem sends_of_sentPacket (hs : h.sentPacket packet now = .ok h') : Sends h h' packet now := by
  unfold sentPacket at hs
  split at hs
  · simp at hs
  split at hs
  · simp at hs
  have hb := congrArg books (Except.ok.inj hs)
  rw [books_updateLossDetectionAlarm] at hb
  by_cases hr : (stripNonRetransmittableFrames packet.frames).length ≠ 0
  · rw [if_pos hr] at hb
    simp only [books, Prod.mk.injEq] at hb
    obtain ⟨h₁, h₂, h₃, h₄, h₅, h₆, h₇, h₈, h₉⟩ := hb
    exact ⟨by omega, by omega, by rw [if_pos hr]; exact h₁.symm, h₂.symm, h₃.symm, h₄.symm,
      h₅.symm, h₆.symm, by rw [if_pos hr]; exact h₇.symm, h₈.symm,
      by rw [if_pos hr]; exact h₉.symm⟩
  · rw [if_neg hr] at hb
    simp only [books, Prod.mk.injEq] at hb
    obtain ⟨h₁, h₂, h₃, h₄, h₅, h₆, h₇, h₈, h₉⟩ := hb
    exact ⟨by omega, by omega, by rw [if_neg hr, append_nil]; exact h₁.symm, h₂.symm, h₃.symm,
      h₄.symm, h₅.symm, h₆.symm, by rw [if_neg hr]; exact h₇.symm, h₈.symm,
      by rw [if_neg hr]; exact h₉.symm⟩

/-! ## Runs of a handler -/

/-- The operations on a handler: its interface, and what other paths and the session do to the
statistics and the congestion controller it shares with them. -/
inductive Op (κ : Type)
  | sentPacket (packet : Packet) (now : Int)
  | receivedAck (frame : AckFrame) (withPacketNumber : Nat) (rcvTime now : Int)
  | receivedClosePath (frame : ClosePathFrame) (withPacketNumber : Nat)
  | setInflightAsLost
  | onAlarm (potentiallyFailed : Bool) (now : Int)
  | dequeuePacketForRetransmission
  | duplicatePacket (packet : Packet)
  | getStopWaitingFrame (force : Bool)
  | shared (rttStats : RTTStats) (congestion : κ)

/-- The handler after an operation; a packet that is refused leaves it as it is. -/
def Op.apply : Op κ → SentPacketHandler κ → SentPacketHandler κ
  | .sentPacket packet now, h => (h.sentPacket packet now).toOption.getD h
  | .receivedAck f withPN rcvTime now, h => (h.receivedAck f withPN rcvTime now).1
  | .receivedClosePath f withPN, h => (h.receivedClosePath f withPN).1
  | .setInflightAsLost, h => h.setInflightAsLost
  | .onAlarm failed now, h => h.onAlarm failed now
  | .dequeuePacketForRetransmission, h => h.dequeuePacketForRetransmission.1
  | .duplicatePacket packet, h => h.duplicatePacket packet
  | .getStopWaitingFrame force, h => (h.getStopWaitingFrame force).1
  | .shared rttStats congestion, h => { h with rttStats, congestion }

/-- The transition system of one handler. -/
def machine (κ : Type) [SendAlgorithm κ] : Machine (SentPacketHandler κ) (Op κ) where
  init h := ∃ congestion, h = .new congestion
  step h op h' := h' = op.apply h

/-- The states of a handler in any run. -/
abbrev Reachable (h : SentPacketHandler κ) : Prop := (machine κ).Reach Machine.Always h

/-- The history is ordered and holds sent packets only, and no sent packet counts as skipped. -/
structure Tracked (h : SentPacketHandler κ) : Prop where
  ordered : h.Ordered
  history_sent : ∀ p ∈ h.packetHistory, p.packetNumber ∈ h.sent
  sent_le : ∀ n ∈ h.sent, n ≤ h.lastSentPacketNumber
  skipped : ∀ n ∈ h.skippedPackets, n ∉ h.sent ∧ 0 < n ∧ n ≤ h.lastSentPacketNumber

omit [SendAlgorithm κ] in
theorem Tracked.moves (ht : h.Tracked) (m : Moves h h' a q) : h'.Tracked := by
  refine ⟨m.ordered ht.ordered, ?_, ?_, ?_⟩
  · intro p hp
    rw [m.sent]
    exact ht.history_sent p (m.history_sublist.subset hp)
  · rw [m.sent, m.lastSent]
    exact ht.sent_le
  · intro n hn
    rw [m.sent, m.lastSent]
    exact ht.skipped n (m.skipped hn)

omit [SendAlgorithm κ] in
/-- A packet that is sent has a number above the history, and the numbers it skips were not sent. -/
theorem Tracked.sends (ht : h.Tracked) (s : Sends h h' packet now) : h'.Tracked := by
  have hlt := s.increasing
  refine ⟨?_, ?_, ?_, ?_⟩
  · unfold Ordered
    rw [s.history]
    refine pairwise_append.mpr ⟨ht.ordered, by split <;> simp, ?_⟩
    intro p hp p' hp'
    have hle := ht.sent_le _ (ht.history_sent p hp)
    split at hp'
    · obtain rfl := mem_singleton.mp hp'
      exact lt_of_le_of_lt hle hlt
    · simp at hp'
  · intro p hp
    rw [s.history] at hp
    rw [s.sent]
    rcases mem_append.mp hp with hp | hp
    · exact mem_append_left _ (ht.history_sent p hp)
    · split at hp
      · obtain rfl := mem_singleton.mp hp
        simp
      · simp at hp
  · intro n hn
    rw [s.sent] at hn
    rw [s.lastSent]
    rcases mem_append.mp hn with hn | hn
    · exact ((ht.sent_le n hn).trans_lt hlt).le
    · exact (mem_singleton.mp hn).le
  · intro n hn
    rw [s.sent, s.lastSent]
    rcases s.skipped hn with hold | hnew
    · obtain ⟨hsent, hpos, hle⟩ := ht.skipped n hold
      refine ⟨?_, hpos, by omega⟩
      simp only [mem_append, mem_singleton, not_or]
      exact ⟨hsent, by omega⟩
    · refine ⟨?_, by omega, by omega⟩
      simp only [mem_append, mem_singleton, not_or]
      refine ⟨fun hmem => ?_, by omega⟩
      have := ht.sent_le n hmem
      omega

/-- One operation keeps the invariant. -/
theorem Tracked.apply (ht : h.Tracked) (op : Op κ) : (op.apply h).Tracked := by
  cases op with
  | sentPacket packet now =>
    simp only [Op.apply]
    cases hs : h.sentPacket packet now with
    | error e => simpa [Except.toOption] using ht
    | ok h' => simpa [Except.toOption] using ht.sends (sends_of_sentPacket hs)
  | receivedAck f withPN rcvTime now =>
    obtain ⟨_, _, m⟩ := moves_receivedAck ht.ordered f withPN rcvTime now
    exact ht.moves m
  | receivedClosePath f withPN =>
    obtain ⟨_, _, m⟩ := moves_receivedClosePath ht.ordered f withPN
    exact ht.moves m
  | setInflightAsLost => exact ht.moves (moves_setInflightAsLost ht.ordered)
  | onAlarm failed now =>
    obtain ⟨_, m⟩ := moves_onAlarm ht.ordered failed now
    exact ht.moves m
  | dequeuePacketForRetransmission =>
    simp only [Op.apply, dequeuePacketForRetransmission]
    split <;> exact ⟨ht.ordered, ht.history_sent, ht.sent_le, ht.skipped⟩
  | duplicatePacket packet => exact ⟨ht.ordered, ht.history_sent, ht.sent_le, ht.skipped⟩
  | getStopWaitingFrame force => exact ⟨ht.ordered, ht.history_sent, ht.sent_le, ht.skipped⟩
  | shared rttStats congestion => exact ⟨ht.ordered, ht.history_sent, ht.sent_le, ht.skipped⟩

/-- **The invariant holds in every state of every run.** -/
theorem Reachable.tracked (hr : h.Reachable) : h.Tracked := by
  refine Machine.Reach.invariant hr ?_ ?_
  · rintro _ ⟨c, rfl⟩
    exact ⟨by simp [Ordered, new], by simp [new], by simp [new], by simp [new]⟩
  · rintro h op _ ht - rfl
    exact ht.apply op

theorem Reachable.apply (hr : h.Reachable) (op : Op κ) : (op.apply h).Reachable :=
  .step hr trivial rfl

/-- A packet with the given frames. -/
def packetOf (packetNumber : Nat) (frames : List (Frame FrameRef)) : Packet :=
  { packetNumber, frames, length := 20, encryptionLevel := .forwardSecure }

end SentPacketHandler
end MpQuic
