import MpQuic.PackerCalls
import MpQuic.PacketMoves

/-!
# Truncated packet numbers

The header of a packet has the last two, four or six bytes of its number, and the receiver
takes the nearest number to the one after the largest it has seen that ends in them
(`inferPacketNumber_eq_iff`).  The sender chooses the length by the distance to the oldest
packet it tracks.  That says nothing about what the receiver has seen: packets without
retransmittable frames are not tracked, and lost ones are not tracked any more.
-/
namespace MpQuic
open Systems List PacketNumberGenerator

/-! ## Inferring a number -/

variable {a b : Nat}

theorem delta_of_le (h : a ≤ b) : delta a b = b - a := by
  unfold delta
  split <;> omega

theorem delta_of_ge (h : b ≤ a) : delta a b = a - b := by
  unfold delta
  split <;> omega

/-- Of three candidates the first is taken if it is strictly nearer than the others. -/
theorem closestTo_eq_first {t a b c : Nat} (hb : a ≠ b) (hc : a ≠ c) :
    closestTo t a (closestTo t b c) = a ↔ delta t a < delta t b ∧ delta t a < delta t c := by
  unfold closestTo
  split_ifs <;> omega

/-- Of three candidates the last is taken if none is strictly nearer. -/
theorem closestTo_eq_last {t a b c : Nat} (ha : c ≠ a) (hb : c ≠ b) :
    closestTo t a (closestTo t b c) = c ↔ delta t c ≤ delta t a ∧ delta t c ≤ delta t b := by
  unfold closestTo
  split_ifs <;> omega

/-- The middle one is taken only if it is strictly nearer than the last. -/
theorem closestTo_cases (t a b c : Nat) :
    closestTo t a (closestTo t b c) = a ∨ closestTo t a (closestTo t b c) = c ∨
      closestTo t a (closestTo t b c) = b ∧ delta t b < delta t c := by
  unfold closestTo
  split_ifs <;> omega

/-- The candidates around `epoch`, the beginning of the window of the last number. -/
structure Candidates (E epoch w prev next : Nat) : Prop where
  window : 2 * E < 2 ^ 64
  digits : w < E
  prev : epoch = 0 ∧ prev = 2 ^ 64 - E + w ∨ E ≤ epoch ∧ prev = epoch - E + w
  next : epoch + E = 2 ^ 64 ∧ next = w ∨ epoch + 2 * E ≤ 2 ^ 64 ∧ next = epoch + E + w

section
variable {E epoch w prev next t n : Nat}

section
variable (h : Candidates E epoch w prev next)
include h

theorem Candidates.this_window (hlow : epoch < t) (ht : t ≤ epoch + w) :
    closestTo t (epoch + w) (closestTo t prev next) = epoch + w ↔
      epoch = 0 ∨ 2 * (epoch + w - t) < E := by
  obtain ⟨hE, hw, hprev, hnext⟩ := h
  have hthis := delta_of_le ht
  have hdprev : epoch = 0 ∧ delta t prev = prev - t ∨ E ≤ epoch ∧ delta t prev = t - prev := by
    rcases hprev with ⟨h0, rfl⟩ | ⟨h0, rfl⟩
    · exact .inl ⟨h0, delta_of_le (by omega)⟩
    · exact .inr ⟨h0, delta_of_ge (by omega)⟩
  have hdnext : next = w ∧ delta t next = t - next ∨ next ≠ w ∧ delta t next = next - t := by
    rcases hnext with ⟨h0, rfl⟩ | ⟨h0, rfl⟩
    · exact .inl ⟨rfl, delta_of_ge (by omega)⟩
    · exact .inr ⟨by omega, delta_of_le (by omega)⟩
  rw [closestTo_eq_first (by omega) (by omega)]
  omega

theorem Candidates.next_window (hlow : epoch < t) (ht : t ≤ epoch + E)
    (hn : epoch + E + w < 2 ^ 64) :
    closestTo t (epoch + w) (closestTo t prev next) = epoch + E + w ↔
      2 * (epoch + E + w - t) ≤ E := by
  obtain ⟨hE, hw, hprev, hnext⟩ := h
  have hnext : next = epoch + E + w := by omega
  subst hnext
  have hdnext := delta_of_le (show t ≤ epoch + E + w by omega)
  have hdthis : delta t (epoch + w) = epoch + w - t ∧ t ≤ epoch + w ∨
      delta t (epoch + w) = t - (epoch + w) ∧ epoch + w ≤ t := by
    rcases Nat.le_total t (epoch + w) with hle | hle
    · exact .inl ⟨delta_of_le hle, hle⟩
    · exact .inr ⟨delta_of_ge hle, hle⟩
  have hdprev : epoch = 0 ∧ delta t prev = prev - t ∨ E ≤ epoch ∧ delta t prev = t - prev := by
    rcases hprev with ⟨h0, rfl⟩ | ⟨h0, rfl⟩
    · exact .inl ⟨h0, delta_of_le (by omega)⟩
    · exact .inr ⟨h0, delta_of_ge (by omega)⟩
  rw [closestTo_eq_last (by omega) (by omega)]
  omega

theorem Candidates.later_window (ht : t ≤ epoch + E) (hn : epoch + 2 * E + w ≤ n) :
    closestTo t (epoch + w) (closestTo t prev next) ≠ n := by
  obtain ⟨hE, hw, hprev, hnext⟩ := h
  rcases closestTo_cases t (epoch + w) prev next with hthis | hnext' | ⟨hprev', hnearer⟩
  · omega
  · omega
  · -- the window before the first one is the last one of all
    intro heq
    rw [delta_of_le (show t ≤ prev by omega), delta_of_le (show t ≤ next by omega)] at hnearer
    omega

end

end

/-- The number is the nearest to `last + 1` of those with its last digits: it has no others, or
is less than half a window ahead.  If it is half a window ahead, the number in the next window
is taken. -/
def Nearest (window last n : Nat) : Prop :=
  n < window ∨ 2 * (n - (last + 1)) < window ∨
    2 * (n - (last + 1)) = window ∧ last / window < n / window

instance (window last n : Nat) : Decidable (Nearest window last n) := by
  unfold Nearest
  infer_instance

theorem candidates_of_dvd {E last w : Nat} (hE : 2 * E < 2 ^ 64) (hdvd : E ∣ 2 ^ 64)
    (hlast : last < 2 ^ 64) (hw : w < E) :
    Candidates E (E * (last / E)) w (add64 (sub64 (E * (last / E)) E) w)
      (add64 (add64 (E * (last / E)) E) w) := by
  have hle := Nat.mul_div_le last E
  obtain ⟨m, hm⟩ := hdvd
  have hprev : last / E = 0 ∨ E ≤ E * (last / E) := by
    rcases Nat.eq_zero_or_pos (last / E) with h0 | hpos
    · exact .inl h0
    · exact .inr (Nat.le_mul_of_pos_right E hpos)
  have hlt : last / E < m := (Nat.div_lt_iff_lt_mul (by omega)).mpr (by rw [Nat.mul_comm]; omega)
  have hnext : E * (last / E) + E = 2 ^ 64 ∨ E * (last / E) + 2 * E ≤ 2 ^ 64 := by
    rw [hm]
    rcases Nat.lt_or_ge (last / E + 1) m with hlt' | hge
    · right
      calc E * (last / E) + 2 * E = E * (last / E + 2) := by rw [Nat.mul_add, Nat.mul_comm 2]
        _ ≤ E * m := Nat.mul_le_mul_left E hlt'
    · left
      rw [show m = last / E + 1 by omega, Nat.mul_add, Nat.mul_one]
  refine ⟨hE, hw, ?_, ?_⟩
  · rcases hprev with h0 | hge
    · refine .inl ⟨by rw [h0, Nat.mul_zero], ?_⟩
      rw [h0, Nat.mul_zero, sub64, if_neg (by omega), add64_of_lt (by omega)]
      rfl
    · refine .inr ⟨hge, ?_⟩
      rw [sub64_of_le hge, add64_of_lt (by omega)]
  · rcases hnext with htop | hle
    · have hnextEpoch : add64 (E * (last / E)) E = 0 := by rw [add64, htop, Nat.mod_self]
      refine .inl ⟨htop, ?_⟩
      rw [hnextEpoch, add64_of_lt (by omega), Nat.zero_add]
    · have hnextEpoch : add64 (E * (last / E)) E = E * (last / E) + E := add64_of_lt (by omega)
      exact .inr ⟨hle, by rw [hnextEpoch, add64_of_lt (by omega)]⟩

/-- `InferPacketNumber` finds the number exactly if it is the nearest. -/
theorem inferPacketNumber_eq_iff {len last n : Nat} (hlen : len ∈ [2, 4, 6]) (hn : n < 2 ^ 64)
    (hlast : last < n) :
    inferPacketNumber len last (n % 2 ^ (len * 8)) = n ↔ Nearest (2 ^ (len * 8)) last n := by
  obtain ⟨E, hE⟩ : ∃ E, E = 2 ^ (len * 8) := ⟨_, rfl⟩
  have hsmall : 2 * E < 2 ^ 64 ∧ E ∣ 2 ^ 64 ∧ 0 < E := by
    subst hE
    simp only [mem_cons, not_mem_nil, or_false] at hlen
    rcases hlen with rfl | rfl | rfl <;> decide
  obtain ⟨hlt, hdvd, hpos⟩ := hsmall
  have hlastE := Nat.div_add_mod last E
  have hnE := Nat.div_add_mod n E
  have hmodLast := Nat.mod_lt last hpos
  have hmod := Nat.mod_lt n hpos
  have hcandidates := candidates_of_dvd hlt hdvd (hlast.trans hn) hmod
  have hdiv : last / E ≤ n / E := Nat.div_le_div_right hlast.le
  have hmul := Nat.mul_le_mul_left E hdiv
  have hepoch : last - last % E = E * (last / E) := by omega
  have htarget : add64 last 1 = last + 1 := add64_of_lt (by omega)
  have hthis : add64 (E * (last / E)) (n % E) = E * (last / E) + n % E := add64_of_lt (by omega)
  unfold inferPacketNumber Nearest
  dsimp only
  rw [← hE, hepoch, htarget, hthis]
  rcases Nat.lt_trichotomy (n / E) (last / E + 1) with hq | hq | hq
  · -- the window of the last number
    have hq : n / E = last / E := by omega
    rw [hq] at hnE
    have hsame := hcandidates.this_window (t := last + 1) (by omega) (by omega)
    rw [hnE] at hsame ⊢
    rw [hsame, hq]
    have hfirst : E * (last / E) = 0 ↔ n < E := by
      refine ⟨by omega, fun h => ?_⟩
      rw [← hq, Nat.div_eq_of_lt h, Nat.mul_zero]
    rw [hfirst]
    omega
  · -- the window after it
    rw [hq, Nat.mul_add, Nat.mul_one] at hnE
    have hnext := hcandidates.next_window (t := last + 1) (by omega) (by omega) (by omega)
    rw [hnE] at hnext
    rw [hnext, hq]
    omega
  · have hfar : E * (last / E) + 2 * E ≤ E * (n / E) := by
      have := Nat.mul_le_mul_left E (show last / E + 2 ≤ n / E from hq)
      rw [Nat.mul_add, Nat.mul_comm E 2] at this
      exact this
    have hlater := hcandidates.later_window (t := last + 1) (n := n) (by omega) (by omega)
    refine iff_of_false hlater ?_
    omega

/-- Of the numbers a whole window apart only one is less than half a window away. -/
theorem lt_delta {t n c E : Nat} (hn : 2 * delta t n < E) (hc : n + E ≤ c ∨ c + E ≤ n) :
    E < 2 * delta t c := by
  unfold delta at *
  split_ifs at * <;> omega

/-- A candidate less than half a window away is taken. -/
theorem Candidates.near {E epoch w prev next t n : Nat} (h : Candidates E epoch w prev next)
    (hlt : n + 2 * E < 2 ^ 64) (hn : n + E = epoch + w ∨ n = epoch + w ∨ n = epoch + E + w)
    (hnear : 2 * delta t n < E) : closestTo t (epoch + w) (closestTo t prev next) = n := by
  obtain ⟨hE, hw, hprev, hnext⟩ := h
  have hfar {c : Nat} := lt_delta (c := c) hnear
  unfold closestTo
  rcases hn with hn | hn | hn
  · obtain rfl : prev = n := by omega
    have hthis := hfar (c := epoch + w) (by omega)
    have hnext := hfar (c := next) (by omega)
    split_ifs <;> omega
  · subst hn
    have hprev := hfar (c := prev) (by omega)
    have hnext := hfar (c := next) (by omega)
    split_ifs <;> omega
  · obtain rfl : next = n := by omega
    have hthis := hfar (c := epoch + w) (by omega)
    have hprev := hfar (c := prev) (by omega)
    split_ifs <;> omega

/-- **Inference inverts truncation** within half a window on either side. -/
theorem infer_packet_number_within_half_window {len last n : Nat} (hlen : len ∈ [1, 2, 4, 6])
    (hlast : last < 2 ^ 62) (hnear : 2 * ((n : Int) - (last + 1)).natAbs < 2 ^ (8 * len)) :
    inferPacketNumber len last (n % 2 ^ (8 * len)) = n := by
  obtain ⟨E, hE⟩ : ∃ E, E = 2 ^ (8 * len) := ⟨_, rfl⟩
  obtain ⟨hlt, hdvd, hpos⟩ : E ≤ 2 ^ 48 ∧ E ∣ 2 ^ 64 ∧ 0 < E := by
    rw [hE]
    simp only [mem_cons, not_mem_nil, or_false] at hlen
    rcases hlen with rfl | rfl | rfl | rfl <;> decide
  rw [← hE] at hnear
  have hlastE := Nat.div_add_mod last E
  have hmodLast := Nat.mod_lt last hpos
  have hnE := Nat.div_add_mod n E
  have hmod := Nat.mod_lt n hpos
  have hdelta : 2 * delta (last + 1) n < E := by
    unfold delta
    split_ifs <;> omega
  have hcandidates := candidates_of_dvd (by omega) hdvd (by omega : last < 2 ^ 64) hmod
  have hepoch : last - last % E = E * (last / E) := by omega
  unfold inferPacketNumber
  dsimp only
  rw [Nat.mul_comm len, ← hE, hepoch, add64_of_lt (by omega : last + 1 < 2 ^ 64),
    add64_of_lt (by omega : E * (last / E) + n % E < 2 ^ 64)]
  refine hcandidates.near (by omega) ?_ hdelta
  -- the number is in the window of the last one or in one of its neighbours
  have hup : n / E < last / E + 2 := (Nat.div_lt_iff_lt_mul hpos).mpr (by
    rw [Nat.add_mul, Nat.mul_comm (last / E)]
    omega)
  have hdown : last / E < n / E + 2 := (Nat.div_lt_iff_lt_mul hpos).mpr (by
    rw [Nat.add_mul, Nat.mul_comm (n / E)]
    omega)
  obtain hq | hq | hq : last / E = n / E + 1 ∨ n / E = last / E ∨ n / E = last / E + 1 := by omega
  · rw [hq, Nat.mul_add]
    omega
  · rw [← hq]
    omega
  · rw [hq, Nat.mul_add] at hnE
    omega

/-- 260 is inferred from the window after that of 250, and 255 from the one before that of 256. -/
theorem infer_from_neighbouring_windows : inferPacketNumber 1 250 (260 % 2 ^ (8 * 1)) = 260 ∧
    inferPacketNumber 1 256 (255 % 2 ^ (8 * 1)) = 255 :=
  ⟨infer_packet_number_within_half_window (by decide) (by decide) (by decide),
    infer_packet_number_within_half_window (by decide) (by decide) (by decide)⟩

/-! ## Runs of a sender -/

theorem pop_next_lt (g : PacketNumberGenerator) (random : Option UInt16) :
    (g.pop random).2.peek < 2 ^ 64 := by
  unfold pop peek
  dsimp only
  split
  · rw [generateNewSkip_next]
    exact Nat.mod_lt _ (Nat.two_pow_pos 64)
  · exact Nat.mod_lt _ (Nat.two_pow_pos 64)

namespace SentPacketHandler
variable {κ : Type} [SendAlgorithm κ]

/-- Nothing is acknowledged that was not sent. -/
theorem Reachable.largestAcked_le {h : SentPacketHandler κ} (hr : h.Reachable) :
    h.largestAcked ≤ h.lastSentPacketNumber := by
  refine (Machine.Reach.invariant
    (P := fun h => h.Tracked ∧ h.largestAcked ≤ h.lastSentPacketNumber) hr ?_ ?_).2
  · rintro _ ⟨c, rfl⟩
    exact ⟨Reachable.tracked (.init ⟨c, rfl⟩), le_rfl⟩
  · rintro h op _ ⟨ht, hle⟩ - rfl
    refine ⟨ht.apply op, ?_⟩
    cases op with
    | sentPacket packet now =>
      simp only [Op.apply]
      cases hs : h.sentPacket packet now with
      | error e => exact hle
      | ok h' =>
        have hsends := sends_of_sentPacket hs
        have hlast := hsends.lastSent
        have hincreasing := hsends.increasing
        have hacked := largestAcked_sentPacket hs
        simp only [Except.toOption, Option.getD_some]
        omega
    | receivedAck f withPN rcvTime now =>
      obtain ⟨_, _, hmoves⟩ := moves_receivedAck ht.ordered f withPN rcvTime now
      rw [show (Op.receivedAck f withPN rcvTime now).apply h =
        (h.receivedAck f withPN rcvTime now).1 from rfl, hmoves.lastSent]
      rcases largestAcked_receivedAck h f withPN rcvTime now with heq | hnew
      · exact heq.trans_le hle
      · exact hnew
    | receivedClosePath f withPN =>
      obtain ⟨_, _, hmoves⟩ := moves_receivedClosePath ht.ordered f withPN
      rw [show (Op.receivedClosePath f withPN).apply h = (h.receivedClosePath f withPN).1 from rfl,
        hmoves.lastSent, largestAcked_receivedClosePath]
      exact hle
    | setInflightAsLost =>
      rw [show Op.setInflightAsLost.apply h = h.setInflightAsLost from rfl,
        (moves_setInflightAsLost ht.ordered).lastSent]
      exact (congrArg Prod.fst (ackBooks_untouched.setInflightAsLost h)).trans_le hle
    | onAlarm failed now =>
      obtain ⟨_, hmoves⟩ := moves_onAlarm ht.ordered failed now
      rw [show (Op.onAlarm failed now).apply h = h.onAlarm failed now from rfl, hmoves.lastSent]
      exact (congrArg Prod.fst (ackBooks_untouched.onAlarm h failed now)).trans_le hle
    | dequeuePacketForRetransmission =>
      simp only [Op.apply, dequeuePacketForRetransmission]
      split <;> exact hle
    | duplicatePacket packet => exact hle
    | getStopWaitingFrame force => exact hle
    | shared rttStats congestion => exact hle

end SentPacketHandler

namespace Path
variable {κ : Type} [SendAlgorithm κ]
open SentPacketHandler

/-- What happens on the sending side of a path.  `send` packs a packet, which takes the next
packet number, and hands it to `SentPacket`. -/
inductive SenderOp (κ : Type)
  | setLeastUnacked
  | send (packet : Packet) (random : Option UInt16) (now : Int)
  | handler (op : Op κ)

/-- Packets are numbered by the path's generator only. -/
def SenderOp.Numbered : SenderOp κ → Prop
  | .handler (.sentPacket ..) => False
  | _ => True

def SenderOp.apply : SenderOp κ → Path κ → Path κ
  | .setLeastUnacked, pth => pth.setLeastUnacked
  | .send packet random now, pth =>
    let (packetNumber, packetNumberGenerator) := pth.packetNumberGenerator.pop random
    let sentPacketHandler :=
      (Op.sentPacket { packet with packetNumber } now).apply pth.sentPacketHandler
    { pth with packetNumberGenerator, sentPacketHandler }
  | .handler op, pth => { pth with sentPacketHandler := op.apply pth.sentPacketHandler }

/-- The sending side of one path. -/
def sender (κ : Type) [SendAlgorithm κ] : Machine (Path κ) (SenderOp κ) where
  init pth := ∃ pathID localAddr remoteAddr version congestion now,
    pth = setup pathID localAddr remoteAddr version congestion now
  step pth op pth' := op.Numbered ∧ pth' = op.apply pth

/-- The handler of a path goes through the states of a handler, and numbers have 64 bits. -/
theorem sender_reach {pth : Path κ} (h : (sender κ).Reach Machine.Always pth) :
    pth.sentPacketHandler.Reachable ∧ pth.packetNumberGenerator.peek < 2 ^ 64 := by
  refine Machine.Reach.invariant (P := fun pth : Path κ => pth.sentPacketHandler.Reachable ∧
    pth.packetNumberGenerator.peek < 2 ^ 64) h ?_ ?_
  · rintro _ ⟨_, _, _, _, congestion, _, rfl⟩
    exact ⟨.init ⟨congestion, rfl⟩, show 1 < 2 ^ 64 by decide⟩
  · rintro pth op _ ⟨hreach, hpeek⟩ - ⟨-, rfl⟩
    cases op with
    | setLeastUnacked => exact ⟨hreach, hpeek⟩
    | send packet random now =>
      let op : Op κ := .sentPacket
        { packet with packetNumber := (pth.packetNumberGenerator.pop random).1 } now
      exact ⟨.step (l := op) hreach trivial rfl, pop_next_lt _ random⟩
    | handler op => exact ⟨.step (l := op) hreach trivial rfl, hpeek⟩

/-! ## What the receiver makes of a number -/

/-- The number a receiver finds in a header, if the largest number it has seen is `largest`. -/
def received (o : ByteOrder) (ph : PublicHeader) (largest : Nat) : Nat :=
  inferPacketNumber ph.packetNumberLen largest
    (o.uintOf (o.writeUintN ph.packetNumberLen ph.packetNumber))

/-- The next packet, if `SentPacket` takes its number, has the number it is meant to have for
every receiver that has seen no less than it has acknowledged and no more than was sent. -/
def Unambiguous (pth : Path κ) (o : ByteOrder) (ph : PublicHeader) : Prop :=
  pth.sentPacketHandler.lastSentPacketNumber < pth.packetNumberGenerator.peek →
    ∀ largest, pth.sentPacketHandler.largestAcked ≤ largest →
      largest ≤ pth.sentPacketHandler.lastSentPacketNumber →
      received o ph largest = pth.packetNumberGenerator.peek

/-- The distance of the next packet to `leastUnacked`. -/
def lead (pth : Path κ) : Nat := sub64 pth.packetNumberGenerator.peek pth.leastUnacked

/-- The next packet number is near enough to the largest acknowledged one for its distance to
`leastUnacked`. -/
def NumberNear (pth : Path κ) : Prop :=
  pth.sentPacketHandler.lastSentPacketNumber < pth.packetNumberGenerator.peek →
    (pth.lead < 2 ^ 15 →
      Nearest (2 ^ 16) pth.sentPacketHandler.largestAcked pth.packetNumberGenerator.peek) ∧
    (2 ^ 15 ≤ pth.lead ∧ pth.lead < 2 ^ 31 →
      Nearest (2 ^ 32) pth.sentPacketHandler.largestAcked pth.packetNumberGenerator.peek) ∧
    (2 ^ 31 ≤ pth.lead →
      Nearest (2 ^ 48) pth.sentPacketHandler.largestAcked pth.packetNumberGenerator.peek)

omit [SendAlgorithm κ] in
/-- The condition is about the window of the length that is chosen. -/
theorem numberNear_iff (pth : Path κ) :
    pth.NumberNear ↔ (pth.sentPacketHandler.lastSentPacketNumber < pth.packetNumberGenerator.peek →
      Nearest (2 ^ (getPacketNumberLengthForPublicHeader pth.packetNumberGenerator.peek
          pth.leastUnacked * 8))
        pth.sentPacketHandler.largestAcked pth.packetNumberGenerator.peek) := by
  refine imp_congr_right fun _ => ?_
  unfold getPacketNumberLengthForPublicHeader
  rw [show sub64 pth.packetNumberGenerator.peek pth.leastUnacked = pth.lead from rfl]
  dsimp only
  by_cases hshort : pth.lead < 2 ^ 15
  · have hmedium : ¬2 ^ 15 ≤ pth.lead := by omega
    have hlong : ¬2 ^ 31 ≤ pth.lead := by omega
    simp only [hshort, hmedium, hlong, true_imp_iff, false_and, false_imp_iff, and_true, if_true]
  · have hmedium : 2 ^ 15 ≤ pth.lead := by omega
    by_cases hlong : pth.lead < 2 ^ 31
    · have hlong' : ¬2 ^ 31 ≤ pth.lead := by omega
      simp only [hshort, hmedium, hlong, hlong', true_imp_iff, true_and, false_imp_iff, and_true,
        if_true, if_false]
    · have hlong' : 2 ^ 31 ≤ pth.lead := by omega
      simp only [hshort, hmedium, hlong, hlong', true_imp_iff, true_and, false_imp_iff, if_false]

/-- The nearer the receiver, the easier. -/
theorem nearest_mono {window last last' n : Nat} (hpos : 0 < window) (h : Nearest window last n)
    (hle : last ≤ last') (hlt : last' < n) : Nearest window last' n := by
  unfold Nearest at *
  rcases h with hfirst | hnear | ⟨hhalf, hnext⟩
  · exact .inl hfirst
  · right
    left
    omega
  · by_cases heq : last = last'
    · subst heq
      exact .inr (.inr ⟨hhalf, hnext⟩)
    · right
      left
      omega

/-- **A truncated packet number is unambiguous** exactly if the number is near enough to the
largest acknowledged one. -/
theorem packet_number_unambiguous_iff (p : PacketPacker) (handshakeComplete : Bool)
    (encLevel : EncryptionLevel) {pth : Path κ} (h : (sender κ).Reach Machine.Always pth) :
    pth.Unambiguous (getByteOrder p.version) (p.getPublicHeader handshakeComplete encLevel pth) ↔
      pth.NumberNear := by
  obtain ⟨hreach, hpeek⟩ := sender_reach h
  have hacked := hreach.largestAcked_le
  rw [numberNear_iff]
  refine imp_congr_right fun hnext => ?_
  have hreceived (largest : Nat) (hlargest : largest ≤ pth.sentPacketHandler.lastSentPacketNumber) :
      received (getByteOrder p.version) (p.getPublicHeader handshakeComplete encLevel pth) largest =
        pth.packetNumberGenerator.peek ↔
      Nearest (2 ^ (getPacketNumberLengthForPublicHeader pth.packetNumberGenerator.peek
        pth.leastUnacked * 8)) largest pth.packetNumberGenerator.peek := by
    unfold received
    rw [ByteOrder.uintOf_writeUintN_mod, PacketPacker.getPublicHeader_packetNumber,
      PacketPacker.getPublicHeader_packetNumberLen, show (256 : Nat) = 2 ^ 8 from rfl,
        ← Nat.pow_mul,
      Nat.mul_comm 8]
    exact inferPacketNumber_eq_iff (getPacketNumberLengthForPublicHeader_mem _ _) hpeek
      (hlargest.trans_lt hnext)
  constructor
  · intro hall
    exact (hreceived _ hacked).mp (hall _ le_rfl hacked)
  · intro hnear largest hge hle
    exact (hreceived _ hle).mpr
      (nearest_mono (Nat.two_pow_pos _) hnear hge (hle.trans_lt hnext))

/-! ## Packets that are not tracked -/

/-- Sending a packet with these frames. -/
def samplePacket (frames : List (Frame FrameRef)) : SenderOp κ :=
  .send { packetNumber := 0, frames, length := 40, encryptionLevel := .forwardSecure } none 0

/-- `SentPacket` takes a packet with a larger number, if not too many are tracked. -/
theorem sentPacket_ok (h : SentPacketHandler κ) (packet : Packet)
    (hlt : h.lastSentPacketNumber < packet.packetNumber)
    (htracked : h.retransmissionQueue.length + h.packetHistory.length < maxTrackedSentPackets)
    (now : Int) : ∃ h', h.sentPacket packet now = .ok h' := by
  unfold sentPacket
  rw [if_neg (by omega), if_neg (by omega)]
  exact ⟨_, rfl⟩

/-- The path after packets up to number `k`: what is tracked, and that nothing was
acknowledged. -/
structure SentUpTo (k : Nat) (history : List Nat) (pth : Path FixedWindow) : Prop where
  reach : (sender FixedWindow).Reach Machine.Always pth
  generator : pth.packetNumberGenerator = ⟨skipPacketAveragePeriodLength, k + 1, 0⟩
  lastSent : pth.sentPacketHandler.lastSentPacketNumber = k
  history : pth.sentPacketHandler.packetHistory.map (·.packetNumber) = history
  queue : pth.sentPacketHandler.retransmissionQueue = []
  largestAcked : pth.sentPacketHandler.largestAcked = 0

variable {k : Nat} {pth : Path FixedWindow}

theorem SentUpTo.send {k : Nat} {history : List Nat} {pth : Path FixedWindow}
    (h : SentUpTo k history pth) (hk : k + 2 < 2 ^ 64) (hfew : history.length < 10)
    (frames : List (Frame FrameRef)) :
    SentUpTo (k + 1)
      (history ++ if (stripNonRetransmittableFrames frames).length ≠ 0 then [k + 1] else [])
      ((samplePacket frames).apply pth) := by
  have hpop : pth.packetNumberGenerator.pop none =
      (k + 1, ⟨skipPacketAveragePeriodLength, k + 2, 0⟩) := by
    have hadd : add64 (k + 1) 1 = k + 2 := add64_of_lt hk
    rw [h.generator, pop]
    dsimp only
    rw [hadd, if_neg (by omega)]
  let packet : Packet :=
    { packetNumber := k + 1, frames, length := 40, encryptionLevel := .forwardSecure }
  have hlength : pth.sentPacketHandler.packetHistory.length < 10 := by
    rw [← h.history, length_map] at hfew
    exact hfew
  obtain ⟨handler, hok⟩ := sentPacket_ok pth.sentPacketHandler packet
    (show _ < k + 1 by rw [h.lastSent]; omega)
    (by rw [h.queue, length_nil, maxTrackedSentPackets]; omega) 0
  have hsends := sends_of_sentPacket hok
  have happly : (samplePacket frames).apply pth = { pth with
      packetNumberGenerator := ⟨skipPacketAveragePeriodLength, k + 2, 0⟩
      sentPacketHandler := handler } := by
    unfold samplePacket SenderOp.apply
    dsimp only
    rw [hpop]
    dsimp only
    rw [Op.apply, hok]
    rfl
  refine ⟨.step (l := samplePacket frames) h.reach trivial ⟨trivial, rfl⟩, ?_, ?_, ?_, ?_, ?_⟩
  all_goals rw [happly]
  · exact hsends.lastSent
  · dsimp only
    rw [hsends.history, map_append, h.history]
    congr 1
    split <;> rfl
  · exact hsends.queue.trans h.queue
  · exact (largestAcked_sentPacket hok).trans h.largestAcked

/-- Any number of packets may be sent that are not tracked. -/
theorem exists_untracked (hk : k + 1 < 2 ^ 64) : ∃ pth, SentUpTo k [] pth := by
  induction k with
  | zero =>
    exact ⟨setup 0 { ip := [], port := 0 } { ip := [], port := 0 } versionMP ⟨10000⟩ 0,
      .init ⟨0, _, _, versionMP, ⟨10000⟩, 0, rfl⟩, rfl, rfl, rfl, rfl, rfl⟩
  | succ k ih =>
    obtain ⟨pth, hsent⟩ := ih (by omega)
    exact ⟨_, hsent.send hk (by decide) [.ack ⟨⟨0, 1, 1, []⟩, 0, 0⟩]⟩

theorem setLeastUnacked_of_head {n : Nat} (hpos : 0 < n) (hlt : n < 2 ^ 64)
    (hhead : pth.sentPacketHandler.packetHistory.head?.map (·.packetNumber) = some n) :
    pth.setLeastUnacked.leastUnacked = n := by
  obtain ⟨packet, hpacket, hnumber⟩ := Option.map_eq_some_iff.mp hhead
  rw [setLeastUnacked, getLeastUnacked, largestInOrderAcked, hpacket]
  dsimp only
  rw [hnumber, sub64_of_le hpos, add64_of_lt (by omega)]
  exact Nat.sub_add_cancel hpos

/-- A PING that is sent after them is the oldest packet that is tracked. -/
theorem exists_pinged (hk : k + 2 < 2 ^ 64) :
    ∃ pth, SentUpTo (k + 1) [k + 1] pth ∧ pth.leastUnacked = k + 1 := by
  obtain ⟨pth, hsent⟩ := exists_untracked (k := k) (by omega)
  have hping := hsent.send hk (by decide) [.ping]
  refine ⟨((samplePacket [.ping]).apply pth).setLeastUnacked,
    ⟨.step (l := .setLeastUnacked) hping.reach trivial ⟨trivial, rfl⟩, hping.generator,
      hping.lastSent, hping.history, hping.queue, hping.largestAcked⟩, ?_⟩
  refine setLeastUnacked_of_head (Nat.succ_pos k) (by omega) ?_
  rw [← head?_map, hping.history]
  rfl

/-- A client with this path. -/
def samplePacker : PacketPacker :=
  { connectionID := 1
    perspective := .client
    version := versionMP
    cryptoSetup := { perspective := .client, forwardSecureAEAD := true }
    streamFramer :=
      { streamsMap := .new .client
        flowControlManager := .new (.new 0 0 0)
        connectionParameters := .new 0 0 0 } }

/-- The next packet has number 65536 and two bytes for it; a receiver that has got nothing takes
it for packet 0. -/
theorem untracked_packets_make_number_ambiguous :
    ∃ pth, (sender FixedWindow).Reach Machine.Always pth ∧
      pth.sentPacketHandler.lastSentPacketNumber = 65535 ∧
      pth.sentPacketHandler.largestAcked = 0 ∧ pth.packetNumberGenerator.peek = 65536 ∧
      received (getByteOrder versionMP) (samplePacker.getPublicHeader true .forwardSecure pth) 0 =
        0 := by
  obtain ⟨pth, hsent, hleast⟩ := exists_pinged (k := 65534) (by decide)
  have hnext : pth.packetNumberGenerator.next = 65536 :=
    congrArg next hsent.generator
  refine ⟨pth, hsent.reach, hsent.lastSent, hsent.largestAcked, hnext, ?_⟩
  unfold received
  rw [PacketPacker.getPublicHeader_packetNumberLen, PacketPacker.getPublicHeader_packetNumber,
    peek, hnext, hleast]
  decide +kernel

/-- The first numbers are near. -/
theorem first_numbers_unambiguous :
    ∃ pth : Path FixedWindow, pth.packetNumberGenerator.peek = 2 ∧
      pth.Unambiguous (getByteOrder versionMP)
        (samplePacker.getPublicHeader true .forwardSecure pth) := by
  obtain ⟨pth, hsent⟩ := exists_untracked (k := 1) (by decide)
  have hpeek : pth.packetNumberGenerator.peek = 2 :=
    congrArg peek hsent.generator
  refine ⟨pth, hpeek, ?_⟩
  refine (packet_number_unambiguous_iff samplePacker true .forwardSecure hsent.reach).mpr ?_
  intro _
  rw [hpeek]
  exact ⟨fun _ => .inl (by decide), fun _ => .inl (by decide), fun _ => .inl (by decide)⟩

end Path
end MpQuic
