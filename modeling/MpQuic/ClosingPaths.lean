import Mathlib.Data.List.TakeWhile
import MpQuic.HandlePacket
import MpQuic.PacketMoves
import MpQuic.ParsedAcks

/-!
# Closing a path

A CLOSE_PATH frame acknowledges the packets the peer has received on the path;
all others should be sent again on another path.  `ReceivedClosePath` acknowledges
exactly what the frame acknowledges (`newlyAcked_eq_filter`), but then gives up only
the packets up to the largest packet an earlier ACK acknowledged, and it does
nothing at all if the path itself has not received a packet since its last ACK.
`ClosesCleanly` is the exact condition under which nothing is left behind.
-/
namespace MpQuic
open Systems Outcome List AckedPackets

/-! ## What is acknowledged -/

namespace SentPacketHandler

/-- `advanceRange` leaves out ranges below the packet, and stops at one that is not, or at the
last one. -/
theorem advanceRange_spec (pn : Nat) {ranges : List AckRange} (hne : ranges ≠ []) :
    ∃ dropped r rest, ranges = dropped ++ r :: rest ∧ advanceRange pn ranges = r :: rest ∧
      (∀ r' ∈ dropped, r'.last < pn) ∧ (pn ≤ r.last ∨ rest = []) := by
  induction ranges with
  | nil => exact absurd rfl hne
  | cons r rest ih =>
    cases rest with
    | nil => exact ⟨[], r, [], rfl, rfl, by simp, .inr rfl⟩
    | cons r' rest =>
      by_cases hlast : r.last < pn
      · obtain ⟨dropped, r₁, rest₁, hsplit, hadv, hdropped, hstop⟩ := ih (by simp)
        refine ⟨r :: dropped, r₁, rest₁, by simp [hsplit], ?_, ?_, hstop⟩
        · rw [advanceRange, if_pos hlast, hadv]
        · intro r'' hr''
          rcases mem_cons.mp hr'' with rfl | hr''
          · exact hlast
          · exact hdropped r'' hr''
      · exact ⟨[], r, r' :: rest, rfl, by rw [advanceRange, if_neg hlast], by simp,
          .inl (by omega)⟩

variable {f : AckedPackets} {r : AckRange} {rs : List AckRange} {history : List Packet}

/-- Whether a packet is acknowledged depends on the range at which `advanceRange` stops. -/
theorem acksPacket_iff_first_le (hv : f.ValidRanges r rs) {pn : Nat} (hlow : f.lowestAcked ≤ pn)
    (hhigh : pn ≤ f.largestAcked) {dropped rest : List AckRange} {r₁ : AckRange}
    (hsplit : f.ackRanges.reverse = dropped ++ r₁ :: rest)
    (hdropped : ∀ r' ∈ dropped, r'.last < pn) (hlast : pn ≤ r₁.last) :
    f.acksPacket pn = true ↔ r₁.first ≤ pn := by
  have hmem : ∀ r', r' ∈ f.ackRanges ↔ r' ∈ dropped ++ r₁ :: rest := by
    intro r'
    rw [← hsplit, mem_reverse]
  have hasc : (dropped ++ r₁ :: rest).Pairwise fun r r' => r.first < r'.first := by
    rw [← hsplit, pairwise_reverse, hv.ranges]
    exact hv.descending
  have hacks : f.acksPacket pn = true ↔ ∃ r' ∈ f.ackRanges, r'.first ≤ pn ∧ pn ≤ r'.last := by
    have hin : ¬ (pn < f.lowestAcked ∨ f.largestAcked < pn) := by omega
    simp [acksPacket, hasMissingRanges, hv.ranges, hin]
  rw [hacks]
  constructor
  · rintro ⟨r', hr', hfirst, hle⟩
    rcases mem_append.mp ((hmem r').mp hr') with hr' | hr'
    · have := hdropped r' hr'
      omega
    rcases mem_cons.mp hr' with rfl | hr'
    · exact hfirst
    · have := (pairwise_cons.mp (pairwise_append.mp hasc).2.1).1 r' hr'
      omega
  · intro hfirst
    exact ⟨r₁, (hmem r₁).mpr (by simp), hfirst, hlast⟩

/-- A packet above the frame and all later ones are not acknowledged. -/
theorem filter_acksPacket_above {p : Packet} {rest : List Packet}
    (hlt : ∀ p' ∈ rest, p.packetNumber < p'.packetNumber)
    (hhigh : f.largestAcked < p.packetNumber) :
    (p :: rest).filter (fun p => f.acksPacket p.packetNumber) = [] := by
  refine filter_eq_nil_iff.mpr ?_
  intro p' hp'
  have hle : f.largestAcked < p'.packetNumber := by
    rcases mem_cons.mp hp' with rfl | hp'
    · exact hhigh
    · exact hhigh.trans (hlt p' hp')
  simp [acksPacket, hle]

/-- The loop with ranges, by induction on the history; `dropped` are the ranges passed. -/
theorem newlyAcked_ranges (hv : f.ValidRanges r rs)
    (ho : history.Pairwise (·.packetNumber < ·.packetNumber)) {dropped ranges : List AckRange}
    (hsplit : f.ackRanges.reverse = dropped ++ ranges) (hne : ranges ≠ [])
    (hdropped : ∀ r' ∈ dropped, ∀ p ∈ history, r'.last < p.packetNumber) :
    newlyAcked f ranges history =
      .ok (history.filter fun p => f.acksPacket p.packetNumber) := by
  induction history generalizing dropped ranges with
  | nil => rfl
  | cons p rest ih =>
    obtain ⟨hlt, ho⟩ := pairwise_cons.mp ho
    have hskip : ∀ r' ∈ dropped, ∀ p ∈ rest, r'.last < p.packetNumber :=
      fun r' hr' p' hp' => hdropped r' hr' p' (by simp [hp'])
    rw [newlyAcked]
    split
    · next hlow =>
      have hnot : f.acksPacket p.packetNumber = false := by simp [acksPacket, hlow]
      rw [ih ho hsplit hne hskip, filter_cons_of_neg (by simp [hnot])]
    next hlow =>
    split
    · next hhigh => rw [filter_acksPacket_above hlt hhigh]
    next hhigh =>
    have hmissing : f.hasMissingRanges = true := by
      simp [hasMissingRanges, hv.ranges]
    rw [if_pos hmissing]
    obtain ⟨dropped', r₁, rest₁, hranges, hadv, hdropped', hstop⟩ :=
      advanceRange_spec p.packetNumber hne
    rw [hadv]
    dsimp only
    have hsplit' : f.ackRanges.reverse = (dropped ++ dropped') ++ r₁ :: rest₁ := by
      rw [hsplit, hranges, append_assoc]
    have hlast : p.packetNumber ≤ r₁.last := by
      rcases hstop with h | rfl
      · exact h
      · -- the last range is the one that ends at the largest packet
        have hr₁ : r₁ = r := by
          have := congrArg getLast? hsplit'
          simpa [hv.ranges] using this.symm
        have := hv.largest
        subst hr₁
        omega
    have hbelow : ∀ r' ∈ dropped ++ dropped', r'.last < p.packetNumber := by
      intro r' hr'
      rcases mem_append.mp hr' with hr' | hr'
      · exact hdropped r' hr' p (by simp)
      · exact hdropped' r' hr'
    have hrest := ih ho hsplit' (by simp)
      (fun r' hr' p' hp' => (hbelow r' hr').trans (hlt p' hp'))
    have hiff := acksPacket_iff_first_le hv (by omega) (by omega) hsplit' hbelow hlast
    by_cases hfirst : r₁.first ≤ p.packetNumber
    · rw [if_pos hfirst, if_neg (by omega), hrest, filter_cons_of_pos
        (p := fun p : Packet => f.acksPacket p.packetNumber) (hiff.mpr hfirst)]
      rfl
    · rw [if_neg hfirst, hrest, filter_cons_of_neg (by simpa [hiff] using hfirst)]

/-- The loop for a frame without missing ranges. -/
theorem newlyAcked_noRanges (hf : f.ackRanges = [])
    (ho : history.Pairwise (·.packetNumber < ·.packetNumber)) (ranges : List AckRange) :
    newlyAcked f ranges history =
      .ok (history.filter fun p => f.acksPacket p.packetNumber) := by
  have hmissing : f.hasMissingRanges = false := by simp [hasMissingRanges, hf]
  induction history with
  | nil => rfl
  | cons p rest ih =>
    obtain ⟨hlt, ho⟩ := pairwise_cons.mp ho
    rw [newlyAcked]
    split
    · next hlow =>
      have hnot : f.acksPacket p.packetNumber = false := by simp [acksPacket, hlow]
      rw [ih ho, filter_cons_of_neg (by simp [hnot])]
    next hlow =>
    split
    · next hhigh => rw [filter_acksPacket_above hlt hhigh]
    next hhigh =>
    have hacks : f.acksPacket p.packetNumber = true := by
      simp [acksPacket, hmissing]
      omega
    rw [if_neg (by simp [hmissing]), ih ho,
      filter_cons_of_pos (p := fun p : Packet => f.acksPacket p.packetNumber) hacks]
    rfl

/-- **`determineNewlyAckedPackets` finds exactly the packets the frame acknowledges.** -/
theorem newlyAcked_eq_filter {κ : Type} {h : SentPacketHandler κ} (ho : h.Ordered)
    (hv : f.validateAckRanges = true) :
    h.determineNewlyAckedPackets f =
      .ok (h.packetHistory.filter fun p => f.acksPacket p.packetNumber) := by
  rcases validRanges_of_validate hv with hnil | ⟨r, rs, hv⟩
  · exact newlyAcked_noRanges hnil ho _
  · exact newlyAcked_ranges hv ho (nil_append _).symm (by simp [hv.ranges]) (by simp)

variable {κ : Type} [SendAlgorithm κ] {h : SentPacketHandler κ}

/-- A frame as the parser makes it that acknowledges sent packets only. -/
structure AcksSent (f : AckedPackets) (h : SentPacketHandler κ) : Prop where
  valid : f.validateAckRanges = true
  bounds : f.lowestAcked ≤ f.largestAcked
  sent : ∀ n, 0 < n → f.acksPacket n = true → n ∈ h.sent

omit [SendAlgorithm κ] in
/-- The largest packet of a frame is one it acknowledges. -/
theorem AcksSent.largestAcked_le (ha : AcksSent f h) (ht : h.Tracked) :
    f.largestAcked ≤ h.lastSentPacketNumber := by
  by_cases hzero : f.largestAcked = 0
  · omega
  refine ht.sent_le _ (ha.sent _ (by omega) ?_)
  have hbounds := ha.bounds
  rcases validRanges_of_validate ha.valid with hnil | ⟨r, rs, hv⟩
  · simp [acksPacket, hasMissingRanges, hnil, hbounds]
  · have hfirst := hv.nonempty r (by simp)
    have hlargest := hv.largest
    rw [← hlargest] at hbounds ⊢
    simp [acksPacket, hasMissingRanges, hv.ranges, hbounds, hfirst,
      ← hlargest]

omit [SendAlgorithm κ] in
theorem AcksSent.skippedPacketsAcked_eq (ha : AcksSent f h) (ht : h.Tracked) :
    h.skippedPacketsAcked f = false := by
  refine any_eq_false.mpr ?_
  intro n hn hacks
  obtain ⟨hnot, hpos, -⟩ := ht.skipped n hn
  exact hnot (ha.sent n hpos hacks)

/-- Nothing is left behind: every tracked packet is acknowledged by the frame or queued for
retransmission, and the history is empty. -/
def LosesNothing (f : AckedPackets) (h h' : SentPacketHandler κ) : Prop :=
  (∀ p ∈ h.packetHistory, f.acksPacket p.packetNumber = true ∨ p ∈ h'.retransmissionQueue) ∧
    h'.packetHistory = []

/-- There was nothing to lose, or a packet arrived on the path since its last ACK and every packet
the frame does not acknowledge is below one an earlier ACK acknowledged. -/
def ClosesCleanly (f : AckedPackets) (h : SentPacketHandler κ) (withPacketNumber : Nat) : Prop :=
  h.packetHistory = [] ∨ (h.largestReceivedPacketWithAck < withPacketNumber ∧
    ∀ p ∈ h.packetHistory, f.acksPacket p.packetNumber = true ∨ p.packetNumber ≤ h.largestAcked)

/-- What is left once the acknowledged packets are gone: everything the frame does not
acknowledge. -/
theorem mem_history_foldl_onPacketAcked (ho : h.Ordered) (f : AckedPackets) (p : Packet) :
    p ∈ ((h.packetHistory.filter fun p => f.acksPacket p.packetNumber).foldl
        onPacketAcked h).packetHistory ↔
      p ∈ h.packetHistory ∧ f.acksPacket p.packetNumber = false := by
  have m := moves_foldl true (fun _ _ => moves_onPacketAcked) ho
    (filter_sublist (p := fun p : Packet => f.acksPacket p.packetNumber))
  rw [m.history, mem_filter]
  refine and_congr_right fun hp => ?_
  simp only [if_true, append_nil, mem_map, mem_filter, not_exists, not_and,
    and_imp, decide_eq_true_eq]
  constructor
  · intro hnot
    by_contra hacks
    exact hnot p hp (by simpa using hacks) rfl
  · intro hacks p' _ hacks' hnum
    rw [hnum, hacks] at hacks'
    simp at hacks'

/-- The branch of `ReceivedClosePath` that acknowledges packets and gives up others. -/
theorem losesNothing_acked_iff (ho : h.Ordered) (f : AckedPackets) :
    LosesNothing f h ((h.packetHistory.filter fun p => f.acksPacket p.packetNumber).foldl
        onPacketAcked h).setInflightAsLost.garbageCollectSkippedPackets ↔
      ∀ p ∈ h.packetHistory,
        f.acksPacket p.packetNumber = true ∨ p.packetNumber ≤ h.largestAcked := by
  have m := moves_receivedClosePath_acked ho
    (filter_sublist (p := fun p : Packet => f.acksPacket p.packetNumber))
  have hleft := mem_history_foldl_onPacketAcked ho f
  rw [foldl_keeps (·.largestAcked) onPacketAcked (fun _ _ => rfl)] at m
  generalize ((h.packetHistory.filter fun p => f.acksPacket p.packetNumber).foldl
    onPacketAcked h) = h₂ at m hleft ⊢
  constructor
  · rintro ⟨-, hempty⟩ p hp
    by_cases hacks : f.acksPacket p.packetNumber = true
    · exact .inl hacks
    -- the packet is no longer in the history, so it was among those given up
    rcases m.mem_of_gone ho hp (by simp [hempty]) with hacked | hqueued
    · exact absurd (mem_filter.mp hacked).2 hacks
    · exact .inr (by simpa using mem_takeWhile_imp hqueued)
  · intro hall
    have htake : h₂.packetHistory.takeWhile (·.packetNumber ≤ h.largestAcked) =
        h₂.packetHistory := by
      refine takeWhile_eq_self_iff.mpr ?_
      intro p hp
      obtain ⟨hp, hacks⟩ := (hleft p).mp hp
      rcases hall p hp with h | h
      · simp [hacks] at h
      · simpa using h
    rw [htake] at m
    refine ⟨?_, ?_⟩
    · intro p hp
      by_cases hacks : f.acksPacket p.packetNumber = true
      · exact .inl hacks
      · rw [m.queue]
        exact .inr (mem_append_right _ ((hleft p).mpr ⟨hp, by simpa using hacks⟩))
    · refine eq_nil_iff_forall_not_mem.mpr ?_
      intro p hp
      rw [m.history] at hp
      obtain ⟨hp, hnot⟩ := mem_filter.mp hp
      refine of_decide_eq_true hnot (mem_map_of_mem (mem_append.mpr ?_))
      by_cases hacks : f.acksPacket p.packetNumber = true
      · exact .inl (mem_filter.mpr ⟨hp, hacks⟩)
      · exact .inr ((hleft p).mpr ⟨hp, by simpa using hacks⟩)

/-- **`ReceivedClosePath` loses nothing exactly when the path closes cleanly.** -/
theorem receivedClosePath_losesNothing_iff (ht : h.Tracked) {f : ClosePathFrame}
    (ha : AcksSent f.toAckedPackets h) (withPN : Nat) :
    LosesNothing f.toAckedPackets h (h.receivedClosePath f withPN).1 ↔
      ClosesCleanly f.toAckedPackets h withPN := by
  unfold receivedClosePath
  have hle := ha.largestAcked_le ht
  rw [if_neg (by omega)]
  by_cases hpn : withPN ≤ h.largestReceivedPacketWithAck
  · rw [if_pos hpn]
    constructor
    · rintro ⟨-, hempty⟩
      exact .inl hempty
    · rintro (hempty | ⟨hlt, -⟩)
      · exact ⟨by simp [hempty], hempty⟩
      · omega
  rw [if_neg hpn]
  set h₁ : SentPacketHandler κ := { h with largestReceivedPacketWithAck := withPN } with hh₁
  have hskipped : h₁.skippedPacketsAcked f.toAckedPackets = false := ha.skippedPacketsAcked_eq ht
  have hacked := newlyAcked_eq_filter (show h₁.Ordered from ht.ordered) ha.valid
  simp only [hskipped, hacked, Bool.false_eq_true, if_false]
  have hiff := losesNothing_acked_iff (show h₁.Ordered from ht.ordered) f.toAckedPackets
  refine hiff.trans ⟨fun hall => .inr ⟨by omega, hall⟩, ?_⟩
  rintro (hempty | ⟨-, hall⟩)
  · intro p hp
    exact absurd (hempty ▸ hp) (by simp)
  · exact hall

end SentPacketHandler

/-! ## The session -/

namespace Session
open SentPacketHandler
variable {κ : Type} [SendAlgorithm κ]

omit [SendAlgorithm κ] in
/-- Closing a path touches neither its sent packets nor its received packet numbers. -/
theorem closePath_known {s : Session κ} {id : Nat} {pth : Path κ}
    (h : s.paths.lookup id = some pth) :
    ∃ s' pth', s.closePath id = (s', none) ∧ s'.paths.lookup id = some pth' ∧
      pth'.sentPacketHandler = pth.sentPacketHandler ∧
      pth'.lastRcvdPacketNumber = pth.lastRcvdPacketNumber := by
  unfold closePath
  simp only [h]
  split
  · exact ⟨s, pth, rfl, h, rfl, rfl⟩
  · split
    · exact ⟨_, _, rfl, lookup_setPath_self s id _, rfl, rfl⟩
    · exact ⟨_, pth, rfl, h, rfl, rfl⟩

/-- **Closing a path loses nothing exactly when** the history of the path was empty, or the path
has received a packet since the last one that carried an ACK and every packet the frame does not
acknowledge is below the largest packet acknowledged earlier.  It does not matter whether the path
was closed before. -/
theorem closing_path_loses_nothing_iff (s : Session κ) (f : ClosePathFrame) (pth : Path κ)
    (version : Int) (bytes rest : List Byte)
    (hparse : Parser.parseClosePathFrame version bytes = .ok (f, rest))
    (hpth : s.paths.lookup f.pathID = some pth) (hreach : pth.sentPacketHandler.Reachable)
    (hsent : ∀ n, 0 < n → f.acksPacket n = true → n ∈ pth.sentPacketHandler.sent) :
    ∃ pth', (s.handleClosePathFrame f).1.paths.lookup f.pathID = some pth' ∧
      (LosesNothing f.toAckedPackets pth.sentPacketHandler pth'.sentPacketHandler ↔
        ClosesCleanly f.toAckedPackets pth.sentPacketHandler pth.lastRcvdPacketNumber) := by
  obtain ⟨s', pth', hclose, hpth', hsph, hrcvd⟩ := closePath_known hpth
  obtain ⟨-, hvalid, hbounds, -⟩ := Parser.parseClosePathFrame_parsed hparse
  unfold handleClosePathFrame
  rw [hclose, andThen_none, hpth']
  refine ⟨_, lookup_setPath_self s' _ _, ?_⟩
  rw [hsph, hrcvd]
  exact receivedClosePath_losesNothing_iff hreach.tracked ⟨hvalid, hbounds, hsent⟩ _

/-- A CLOSE_PATH frame for path 1 that acknowledges packet `n` and nothing else. -/
def closeFrame (n : Nat) : ClosePathFrame :=
  { pathID := 1, largestAcked := n, lowestAcked := n, ackRanges := [] }

/-- Packet 1, a PING, is sent. -/
def pingSent : Op FixedWindow :=
  .sentPacket { packetNumber := 1, frames := [.ping], length := 20,
                encryptionLevel := .forwardSecure } 0

/-- A path on which packet 1 was sent and packet 5 received. -/
def busyPath : Path FixedWindow :=
  { pathID := 1
    localAddr := sampleAddr 1 443
    remoteAddr := sampleAddr 2 443
    sentPacketHandler := pingSent.apply (.new ⟨10000⟩)
    receivedPacketHandler := .new versionMP
    lastRcvdPacketNumber := 5
    lastNetworkActivityTime := 0 }

/-- A client with that path. -/
def busySession : Session FixedWindow := (sample .client).setPath 1 busyPath

theorem busyPath_reachable : busyPath.sentPacketHandler.Reachable :=
  .step (.init ⟨⟨10000⟩, rfl⟩) trivial (show (machine FixedWindow).step _ pingSent _ from rfl)

theorem acksPacket_closeFrame {n k : Nat} (h : (closeFrame n).acksPacket k = true) : k = n := by
  by_contra hne
  have hout : k < n ∨ n < k := by omega
  simp [closeFrame, acksPacket, hout] at h

/-- The frame acknowledges packet 1, so nothing is lost. -/
theorem closing_path_loses_nothing_acked :
    ∃ pth', (busySession.handleClosePathFrame (closeFrame 1)).1.paths.lookup 1 = some pth' ∧
      LosesNothing (closeFrame 1).toAckedPackets busyPath.sentPacketHandler
        pth'.sentPacketHandler := by
  have hparse : Parser.parseClosePathFrame versionMP [0x11, 1, 0, 1, 1] =
      .ok (closeFrame 1, []) := by decide +kernel
  have hsent : ∀ n, 0 < n → (closeFrame 1).acksPacket n = true →
      n ∈ busyPath.sentPacketHandler.sent := by
    intro n _ hacks
    obtain rfl := acksPacket_closeFrame hacks
    decide +kernel
  obtain ⟨pth', hpth', hiff⟩ := closing_path_loses_nothing_iff busySession (closeFrame 1) busyPath
    versionMP _ _ hparse (lookup_setPath_self _ _ _) busyPath_reachable hsent
  refine ⟨pth', hpth', hiff.mpr (.inr ⟨by decide +kernel, ?_⟩)⟩
  decide +kernel

/-- A frame that acknowledges nothing leaves packet 1 in the history of the closed path. -/
theorem closed_path_keeps_packet :
    Parser.parseClosePathFrame versionMP [0x11, 1, 0, 0, 0] = .ok (closeFrame 0, []) ∧
      busyPath.sentPacketHandler.Reachable ∧
      (∀ n, 0 < n → (closeFrame 0).acksPacket n = true → n ∈ busyPath.sentPacketHandler.sent) ∧
      ((busySession.handleClosePathFrame (closeFrame 0)).1.paths.lookup 1).map
        (fun pth => (pth.sentPacketHandler.packetHistory.map (·.packetNumber),
          pth.sentPacketHandler.retransmissionQueue)) = some ([1], []) := by
  refine ⟨by decide +kernel, busyPath_reachable, ?_, by decide +kernel⟩
  intro n hpos hacks
  have := acksPacket_closeFrame hacks
  omega

end Session
end MpQuic
