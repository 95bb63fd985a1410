import MpQuic.Alarms
import MpQuic.NewlyAcked
import MpQuic.PacketNumbers

/-!
# ACK frames that lie

`ReceivedAck` ignores a frame whose largest acknowledged number is not above the
largest one acknowledged in order, and takes every other frame's number as
`LargestAcked`, before it looks whether the frame acknowledges a packet that was
skipped on purpose.  The skipped numbers it remembers are those above the front
of the history.  Both follow the front of the history and not `LargestAcked`;
this file says what that costs.
-/
namespace MpQuic
open Systems

namespace SentPacketHandler
variable {κ : Type}

/-- The frame is not refused for an unsent packet or its order, and not ignored as repeated. -/
structure Applies (h : SentPacketHandler κ) (f : AckFrame) (withPN : Nat) : Prop where
  sent : f.largestAcked ≤ h.lastSentPacketNumber
  inOrder : h.largestReceivedPacketWithAck < withPN
  new : h.largestInOrderAcked < f.largestAcked

variable [SendAlgorithm κ]

/-! ## `LargestAcked`, and calls that fail -/

/-- What the call `r` of `ReceivedAck` owes the handler: the largest acknowledged number does not
go back, and a call that fails changes none of the books. -/
structure Harmless (h : SentPacketHandler κ) (r : SentPacketHandler κ × Option Err) : Prop where
  monotone : h.largestAcked ≤ r.1.largestAcked
  failed : r.2.isSome = true → r.1.packetHistory = h.packetHistory ∧
    r.1.bytesInFlight = h.bytesInFlight ∧ r.1.largestAcked = h.largestAcked ∧
    r.1.retransmissionQueue = h.retransmissionQueue ∧
    r.1.stopWaitingManager = h.stopWaitingManager

/-- Operations other than `ReceivedAck`. -/
def Op.isNotAck : Op κ → Bool
  | .receivedAck .. => false
  | _ => true

/-- Only an ACK frame moves the largest packet number acknowledged. -/
theorem largestAcked_apply (h : SentPacketHandler κ) {op : Op κ} (hop : op.isNotAck = true) :
    (op.apply h).largestAcked = h.largestAcked := by
  cases op with
  | sentPacket packet now =>
    rw [Op.apply]
    cases hs : h.sentPacket packet now with
    | error e => rfl
    | ok h' => exact largestAcked_sentPacket hs
  | receivedAck => cases hop
  | receivedClosePath f withPN => exact largestAcked_receivedClosePath h f withPN
  | setInflightAsLost => exact congrArg Prod.fst (ackBooks_untouched.setInflightAsLost h)
  | onAlarm failed now => exact congrArg Prod.fst (ackBooks_untouched.onAlarm h failed now)
  | dequeuePacketForRetransmission =>
    rw [Op.apply, dequeuePacketForRetransmission]
    split <;> rfl
  | duplicatePacket | getStopWaitingFrame | shared => rfl

/-- **`LargestAcked` is monotone and errors are harmless** exactly if no frame goes behind
`LargestAcked`, and none acknowledges a skipped packet except as `LargestAcked` says already. -/
theorem ack_harmless {h : SentPacketHandler κ} (hr : h.Reachable) :
    (∀ op : Op κ, op.isNotAck = true → (op.apply h).largestAcked = h.largestAcked) ∧
    ∀ (version : Int) (bs rest : List Byte) (f : AckFrame),
      Parser.parseAckFrame version bs = .ok (f, rest) → ∀ (withPN : Nat) (rcvTime now : Int),
      (h.Harmless (h.receivedAck f withPN rcvTime now) ↔
        (h.Applies f withPN → h.largestAcked ≤ f.largestAcked ∧
          (h.skippedPacketsAcked f.toAckedPackets = true → f.largestAcked = h.largestAcked))) := by
  refine ⟨fun op hop => largestAcked_apply h hop, fun version bs rest f hf withPN rcvTime now => ?_⟩
  have hout := receivedAck_outcome h f withPN rcvTime now
  generalize h.receivedAck f withPN rcvTime now = r at hout ⊢
  cases hout with
  | unsent hlt =>
    exact ⟨fun _ happ => absurd happ.sent (by omega), fun _ => ⟨le_rfl, by simp⟩⟩
  | outOfOrder _ hle =>
    exact ⟨fun _ happ => absurd happ.inOrder (by omega), fun _ => ⟨le_rfl, by simp⟩⟩
  | repeated _ _ hle =>
    exact ⟨fun _ happ => absurd happ.new (by omega), fun _ => ⟨le_rfl, by simp⟩⟩
  | skipped hsent horder hnew hskipped =>
    constructor
    · intro hh _
      exact ⟨hh.monotone, fun _ => (hh.failed rfl).2.2.1⟩
    · intro hcond
      obtain ⟨hle, heq⟩ := hcond ⟨hsent, horder, hnew⟩
      exact ⟨hle, fun _ => ⟨rfl, rfl, heq hskipped, rfl, rfl⟩⟩
  | failed _ _ e _ _ _ _ herr =>
    -- the parser accepts no frame for which the lookup fails
    obtain ⟨-, zs, -, hstrict⟩ := Parser.parseAckFrame_strict hf
    rw [determineNewlyAckedPackets_eq hr.tracked.ordered hstrict] at herr
    cases herr
  | applied rttStats congestion acked hsent horder hnew hskipped =>
    constructor
    · intro hh _
      refine ⟨hh.monotone.trans_eq (largestAcked_finishAck ..), fun hs => ?_⟩
      rw [hskipped] at hs
      cases hs
    · intro hcond
      have hle := (hcond ⟨hsent, horder, hnew⟩).1
      have heq := largestAcked_finishAck (h.sampled f withPN rttStats congestion) f acked now
      exact ⟨hle.trans_eq heq.symm, nofun⟩

/-- A handler that has sent PINGs with the given numbers. -/
def sentPings (numbers : List Nat) : SentPacketHandler FixedWindow :=
  numbers.foldl (fun h n => (Op.sentPacket (packetOf n [.ping]) 0).apply h)
    (new (SendAlgorithm.new false))

theorem sentPings_reach {C : SentPacketHandler FixedWindow → Op FixedWindow → Prop}
    (hsend : ∀ h packet now, C h (.sentPacket packet now)) (numbers : List Nat) :
    (machine FixedWindow).Reach C (sentPings numbers) := by
  rw [sentPings]
  have hinit : (machine FixedWindow).Reach C (new (SendAlgorithm.new false)) := .init ⟨_, rfl⟩
  generalize new (SendAlgorithm.new false : FixedWindow) = h at hinit ⊢
  induction numbers generalizing h with
  | nil => exact hinit
  | cons n numbers ih => exact ih _ (.step hinit (hsend ..) rfl)

theorem sentPings_reachable (numbers : List Nat) : (sentPings numbers).Reachable :=
  sentPings_reach (fun _ _ _ => trivial) numbers

/-- The ACK frame for the packets from `lowest` to `largest`. -/
def ackOf (lowest largest : Nat) : AckFrame :=
  { pathID := 0, largestAcked := largest, lowestAcked := lowest, ackRanges := []
    packetReceivedTime := 0, delayTime := 0 }

theorem ack_harmless_first_packet :
    Parser.parseAckFrame 39 [0x40, 1, 0, 0, 1, 0] = .ok (ackOf 1 1, []) ∧
      (sentPings [1, 2]).Harmless ((sentPings [1, 2]).receivedAck (ackOf 1 1) 1 5 5) := by
  have hf : Parser.parseAckFrame 39 [0x40, 1, 0, 0, 1, 0] = .ok (ackOf 1 1, []) := by
    decide +kernel
  refine ⟨hf, ((ack_harmless (sentPings_reachable [1, 2])).2 39 _ _ _ hf 1 5 5).2 fun _ => ?_⟩
  exact ⟨by decide, fun hs => absurd hs (by decide)⟩

/-- Packet 2 was skipped.  The frame that acknowledges it is refused, with `LargestAcked` set to
its number, and the next frame sets it back. -/
theorem refused_ack_moves_largestAcked :
    Parser.parseAckFrame 39 [0x40, 3, 0, 0, 2, 0] = .ok (ackOf 2 3, []) ∧
    Parser.parseAckFrame 39 [0x40, 1, 0, 0, 1, 0] = .ok (ackOf 1 1, []) ∧
    (sentPings [1, 3]).Reachable ∧ (sentPings [1, 3]).largestAcked = 0 ∧
    ((sentPings [1, 3]).receivedAck (ackOf 2 3) 1 5 5).2 = some .ackForSkippedPacket ∧
    ((sentPings [1, 3]).receivedAck (ackOf 2 3) 1 5 5).1.largestAcked = 3 ∧
    (((sentPings [1, 3]).receivedAck (ackOf 2 3) 1 5 5).1.receivedAck (ackOf 1 1) 2 6
      6).1.largestAcked = 1 := by
  refine ⟨by decide +kernel, by decide +kernel, sentPings_reachable _, by decide, by decide,
    by decide, ?_⟩
  decide +kernel

end SentPacketHandler
end MpQuic
