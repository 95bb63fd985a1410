import MpQuic.AckHandling

/-!
# Optimistic ACKs

A peer that acknowledges packets it has not received is found out by the numbers
a path skips on purpose: a frame that acknowledges one of them is refused.  The
handler remembers the last ten skipped numbers.  When packets have been
acknowledged it forgets those below the front of its history, which may be above
`LargestAcked`: a skipped number right behind the packets acknowledged so far is
forgotten although no frame could have acknowledged it yet.

`Remembers` is the invariant of the runs in which this does not happen: every
recently skipped number is remembered, or it is not above `LargestAcked` and
below the whole history.
-/
namespace MpQuic
open Systems List
namespace SentPacketHandler
variable {κ : Type}

/-- The numbers that were skipped so far. -/
def skippedNumbers (h : SentPacketHandler κ) : List Nat :=
  (range' 1 h.lastSentPacketNumber).filter (· ∉ h.sent)

variable {h h' : SentPacketHandler κ} {p n withPN : Nat} {l : List Nat} {packet : Packet}
  {now : Int} {f : AckFrame}

theorem mem_skippedNumbers :
    p ∈ h.skippedNumbers ↔ 0 < p ∧ p ≤ h.lastSentPacketNumber ∧ p ∉ h.sent := by
  rw [skippedNumbers, mem_filter, mem_range'_1, decide_eq_true_eq, ← and_assoc]
  exact and_congr_left fun _ => by omega

theorem nodup_skippedNumbers (h : SentPacketHandler κ) : h.skippedNumbers.Nodup :=
  List.Nodup.filter _ nodup_range'

/-- The number is among the most recently skipped ones. -/
def RecentlySkipped (h : SentPacketHandler κ) (p : Nat) : Prop :=
  p ∈ h.skippedNumbers ∧ (h.skippedNumbers.filter (p < ·)).length < maxTrackedSkippedPackets

/-- **Recording skipped numbers** keeps the last ones. -/
theorem foldl_addSkippedPacket {skipped : List Nat}
    (hlen : skipped.length ≤ maxTrackedSkippedPackets) (numbers : List Nat) :
    numbers.foldl addSkippedPacket skipped =
      (skipped ++ numbers).drop ((skipped ++ numbers).length - maxTrackedSkippedPackets) := by
  induction numbers generalizing skipped with
  | nil =>
    rw [append_nil, foldl_nil, Nat.sub_eq_zero_of_le hlen, drop_zero]
  | cons n numbers ih =>
    have hone : (skipped ++ [n]).length = skipped.length + 1 := by simp
    rw [foldl_cons, addSkippedPacket, append_cons skipped n numbers]
    generalize skipped ++ [n] = l at hone ⊢
    by_cases hlong : maxTrackedSkippedPackets < l.length
    · rw [if_pos hlong, ih (by rw [length_drop]; omega), 
        ← drop_append_of_le_length (by omega), drop_drop, length_drop]
      have : l.length ≤ (l ++ numbers).length := by simp
      congr 1
      omega
    · rw [if_neg hlong, ih (by omega)]

/-- In an increasing list a number with few numbers above it is among the last ones. -/
theorem mem_drop_of_few_above (hl : l.Pairwise (· < ·)) (hp : p ∈ l)
    (hfew : (l.filter (p < ·)).length < n) : p ∈ l.drop (l.length - n) := by
  by_contra hnot
  have htake : p ∈ l.take (l.length - n) := by
    rw [← take_append_drop (l.length - n) l] at hp
    exact (mem_append.1 hp).resolve_right hnot
  -- then all the last numbers are above it
  have habove : ∀ q ∈ l.drop (l.length - n), p < q := by
    rw [← take_append_drop (l.length - n) l] at hl
    exact fun q hq => (pairwise_append.1 hl).2.2 p htake q hq
  have hcount : (l.drop (l.length - n)).length ≤ (l.filter (p < ·)).length := by
    refine List.Sublist.length_le ?_
    have hsub := (drop_sublist (l.length - n) l).filter (p < ·)
    rwa [filter_eq_self.2 (fun q hq => decide_eq_true (habove q hq))] at hsub
  have hpos : l.length - n ≠ 0 := by
    intro hzero
    rw [hzero] at htake
    simp at htake
  rw [length_drop] at hcount
  omega

theorem length_above_le {l l' : List Nat} (hl : l.Nodup) (hsub : l ⊆ l') (p : Nat) :
    (l.filter (p < ·)).length ≤ (l'.filter (p < ·)).length := by
  refine List.Subperm.length_le (subperm_of_subset (hl.filter _) ?_)
  intro n hn
  obtain ⟨hn, hp⟩ := mem_filter.1 hn
  exact mem_filter.2 ⟨hsub hn, hp⟩

/-- What the handler knows of the skipped numbers: it remembers the last ones in increasing order,
and those of them it has forgotten are acknowledged and below its history. -/
structure Remembers (h : SentPacketHandler κ) : Prop where
  increasing : h.skippedPackets.Pairwise (· < ·)
  few : h.skippedPackets.length ≤ maxTrackedSkippedPackets
  positive : ∀ n ∈ h.sent, 0 < n
  kept : ∀ p, h.RecentlySkipped p → p ∈ h.skippedPackets ∨
    p ≤ h.largestAcked ∧ ∀ q ∈ h.packetHistory, p < q.packetNumber

theorem recentlySkipped_congr (hsent : h'.sent = h.sent)
    (hlast : h'.lastSentPacketNumber = h.lastSentPacketNumber) (p : Nat) :
    h'.RecentlySkipped p ↔ h.RecentlySkipped p := by
  rw [RecentlySkipped, RecentlySkipped, skippedNumbers, skippedNumbers, hsent, hlast]

/-- Packets may leave the history. -/
theorem Remembers.moves (hm : h.Remembers) {a q : List Packet} (m : Moves h h' a q)
    (hbooks : h'.ackBooks = h.ackBooks) : h'.Remembers := by
  simp only [ackBooks, Prod.mk.injEq] at hbooks
  obtain ⟨hlargest, hskipped⟩ := hbooks
  refine ⟨hskipped ▸ hm.increasing, hskipped ▸ hm.few, m.sent ▸ hm.positive, fun p hp => ?_⟩
  rw [hskipped, hlargest]
  rw [recentlySkipped_congr m.sent m.lastSent] at hp
  exact (hm.kept p hp).imp_right fun hk => ⟨hk.1, fun q hq => hk.2 q (m.history_sublist.subset hq)⟩

/-- The skipped numbers a sender has to remember after a packet. -/
theorem Sends.recorded (s : Sends h h' packet now) (ht : h.Tracked) (hm : h.Remembers) :
    ∃ l : List Nat, l.Pairwise (· < ·) ∧
      h'.skippedPackets = l.drop (l.length - maxTrackedSkippedPackets) ∧ l ⊆ h'.skippedNumbers ∧
        h.skippedPackets ⊆ l ∧
      ∀ n, h.lastSentPacketNumber < n → n < packet.packetNumber → n ∈ l := by
  have hlt := s.increasing
  have hmem : ∀ {n}, n ∈ range' (h.lastSentPacketNumber + 1)
      (packet.packetNumber - (h.lastSentPacketNumber + 1)) ↔
      h.lastSentPacketNumber < n ∧ n < packet.packetNumber := fun {n} => by
    rw [mem_range'_1]
    omega
  refine ⟨h.skippedPackets ++ range' (h.lastSentPacketNumber + 1)
    (packet.packetNumber - (h.lastSentPacketNumber + 1)), ?_, ?_, ?_, ?_, ?_⟩
  · refine pairwise_append.2 ⟨hm.increasing, pairwise_lt_range', fun n hn n' hn' => ?_⟩
    have := (ht.skipped n hn).2.2
    have := (hmem.1 hn').1
    omega
  · rw [s.skippedPackets, foldl_addSkippedPacket hm.few]
  · intro n hn
    rw [mem_skippedNumbers, s.lastSent, s.sent, mem_append, mem_singleton, not_or]
    rcases mem_append.1 hn with hn | hn
    · obtain ⟨hnot, hpos, hle⟩ := ht.skipped n hn
      exact ⟨hpos, by omega, hnot, by omega⟩
    · obtain ⟨hlo, hhi⟩ := hmem.1 hn
      exact ⟨by omega, hhi.le, fun hsent => absurd (ht.sent_le n hsent) (by omega), by omega⟩
  · exact fun n hn => mem_append_left _ hn
  · exact fun n hlo hhi => mem_append_right _ (hmem.2 ⟨hlo, hhi⟩)

/-- The numbers that a packet skips are remembered behind the older ones. -/
theorem Remembers.sends (hm : h.Remembers) (ht : h.Tracked) (s : Sends h h' packet now)
    (hlargest : h'.largestAcked = h.largestAcked) : h'.Remembers := by
  have hlt := s.increasing
  obtain ⟨l, hl, hdrop, hsub, hold, hnew⟩ := s.recorded ht hm
  constructor
  · rw [hdrop]
    exact hl.sublist (drop_sublist _ _)
  · rw [hdrop, length_drop]
    omega
  · rw [s.sent]
    intro n hn
    rcases mem_append.1 hn with hn | hn
    · exact hm.positive n hn
    · rw [mem_singleton.1 hn]
      omega
  · intro p hp
    have hrecorded : p ∈ l → p ∈ h'.skippedPackets := fun hpl => by
      rw [hdrop]
      have hcount := length_above_le (List.Pairwise.imp ne_of_lt hl) hsub p
      exact mem_drop_of_few_above hl hpl (hcount.trans_lt hp.2)
    obtain ⟨hpos, hle, hnot⟩ := mem_skippedNumbers.1 hp.1
    rw [s.lastSent] at hle
    rw [s.sent, mem_append, mem_singleton, not_or] at hnot
    by_cases hnewer : h.lastSentPacketNumber < p
    · exact .inl (hrecorded (hnew p hnewer (by omega)))
    · -- the number was skipped before, and no less recently
      have hbefore : h.skippedNumbers ⊆ h'.skippedNumbers := fun n hn => by
        obtain ⟨hn₁, hn₂, hn₃⟩ := mem_skippedNumbers.1 hn
        rw [mem_skippedNumbers, s.lastSent, s.sent, mem_append, mem_singleton, not_or]
        exact ⟨hn₁, by omega, hn₃, by omega⟩
      have hrecent : h.RecentlySkipped p := by
        refine ⟨mem_skippedNumbers.2 ⟨hpos, by omega, hnot.1⟩, lt_of_le_of_lt ?_ hp.2⟩
        exact length_above_le (nodup_skippedNumbers h) hbefore p
      rcases hm.kept p hrecent with hk | ⟨hk, hhist⟩
      · exact .inl (hrecorded (hold hk))
      · refine .inr ⟨hlargest ▸ hk, fun q hq => ?_⟩
        rw [s.history] at hq
        rcases mem_append.1 hq with hq | hq
        · exact hhist q hq
        · split at hq
          · rw [mem_singleton.1 hq]
            exact (not_lt.1 hnewer).trans_lt hlt
          · cases hq

/-! ## Forgetting skipped numbers -/

/-- What is dropped from an increasing list lies below the bound. -/
theorem mem_takeWhile_or_le (hl : l.Pairwise (· < ·)) (bound : Nat) (hp : p ∈ l) :
    p ∈ (l.reverse.takeWhile (bound < ·)).reverse ∨ p ≤ bound := by
  rw [← mem_reverse,
    ← takeWhile_append_dropWhile (p := (bound < ·)) (l := l.reverse)] at hp
  refine (mem_append.1 hp).imp mem_reverse.2 fun hp => ?_
  have hdesc : (l.reverse.dropWhile (bound < ·)).Pairwise (· > ·) :=
    (pairwise_reverse.2 hl).sublist (dropWhile_sublist _)
  have hhead := head?_dropWhile_not (bound < ·) l.reverse
  cases hrest : l.reverse.dropWhile (bound < ·) with
  | nil =>
    rw [hrest] at hp
    cases hp
  | cons x rest =>
    rw [hrest] at hp hdesc hhead
    have hx : x ≤ bound := by simpa using hhead
    rcases mem_cons.1 hp with rfl | hp
    · exact hx
    · have := (pairwise_cons.1 hdesc).1 p hp
      omega

theorem largestInOrderAcked_nil (hist : h.packetHistory = []) :
    h.largestInOrderAcked = h.largestAcked := by
  simp [largestInOrderAcked, hist]

theorem largestInOrderAcked_cons {front : Packet} {rest : List Packet}
    (hist : h.packetHistory = front :: rest) (hpos : 0 < front.packetNumber) :
    h.largestInOrderAcked = front.packetNumber - 1 := by
  simp [largestInOrderAcked, hist, sub64, Nat.one_le_iff_ne_zero, hpos.ne']

/-- Everything a handler forgets is below its history, or acknowledged if the history is
empty. -/
theorem kept_garbageCollect (ho : h.Ordered) (hpos : ∀ q ∈ h.packetHistory, 0 < q.packetNumber)
    (hinc : h.skippedPackets.Pairwise (· < ·)) (hp : p ∈ h.skippedPackets) :
    p ∈ h.garbageCollectSkippedPackets.skippedPackets ∨
      (h.packetHistory = [] → p ≤ h.largestAcked) ∧ ∀ q ∈ h.packetHistory, p < q.packetNumber := by
  refine (mem_takeWhile_or_le hinc h.largestInOrderAcked hp).imp_right fun hle => ?_
  cases hhist : h.packetHistory with
  | nil =>
    rw [largestInOrderAcked_nil hhist] at hle
    exact ⟨fun _ => hle, nofun⟩
  | cons front rest =>
    have hfront := hpos front (by simp [hhist])
    rw [largestInOrderAcked_cons hhist hfront] at hle
    refine ⟨nofun, fun q hq => ?_⟩
    rw [Ordered, hhist] at ho
    rcases mem_cons.1 hq with rfl | hq
    · omega
    · have := (pairwise_cons.1 ho).1 q hq
      omega

/-- A number that was forgotten is not above a frame that applies. -/
theorem Applies.forgotten_le (happ : h.Applies f withPN)
    (hpos : ∀ q ∈ h.packetHistory, 0 < q.packetNumber) (hle : p ≤ h.largestAcked)
    (hhist : ∀ q ∈ h.packetHistory, p < q.packetNumber) : p ≤ f.largestAcked := by
  have hnew := happ.new
  cases hh : h.packetHistory with
  | nil =>
    rw [largestInOrderAcked_nil hh] at hnew
    exact hle.trans hnew.le
  | cons front rest =>
    have hlt := hhist front (by simp [hh])
    rw [largestInOrderAcked_cons hh (hpos front (by simp [hh]))] at hnew
    omega

/-- No skipped number above `largest` gets below the history: if a packet above it is
outstanding, so is one between `largest` and it that the frame does not acknowledge. -/
def KeepsFront (h : SentPacketHandler κ) (f : AckedPackets) (largest : Nat) : Prop :=
  ∀ p ∈ h.skippedPackets, largest < p → (∃ q ∈ h.packetHistory, p < q.packetNumber) →
    ∃ q ∈ h.packetHistory, largest < q.packetNumber ∧ q.packetNumber < p ∧
      f.acksPacket q.packetNumber = false

instance (h : SentPacketHandler κ) (f : AckedPackets) (largest : Nat) :
    Decidable (h.KeepsFront f largest) :=
  inferInstanceAs (Decidable (∀ p ∈ h.skippedPackets, largest < p →
    (∃ q ∈ h.packetHistory, p < q.packetNumber) → ∃ q ∈ h.packetHistory,
      largest < q.packetNumber ∧ q.packetNumber < p ∧ f.acksPacket q.packetNumber = false))

/-- **Forgetting skipped numbers** after the packets `acked` of the frame `f` and the packets
`queued`, which are not above the largest acknowledged one, have left the history. -/
theorem Remembers.forget {h g : SentPacketHandler κ} (hm : h.Remembers) (ht : h.Tracked)
    {acked queued : List Packet} (m : Moves h g acked queued)
    (hskipped : g.skippedPackets = h.skippedPackets) {f : AckedPackets}
    (hacked : ∀ p ∈ acked, f.acksPacket p.packetNumber = true)
    (hqueued : ∀ p ∈ queued, p.packetNumber ≤ g.largestAcked)
    (hforgotten : ∀ p ≤ h.largestAcked, (∀ q ∈ h.packetHistory, p < q.packetNumber) →
      p ≤ g.largestAcked) (hkeep : h.KeepsFront f g.largestAcked) :
    g.garbageCollectSkippedPackets.Remembers := by
  have hinc : g.skippedPackets.Pairwise (· < ·) := hskipped ▸ hm.increasing
  have hpos : ∀ q ∈ g.packetHistory, 0 < q.packetNumber := fun q hq =>
    hm.positive _ (ht.history_sent q (m.history_sublist.subset hq))
  have hsub : g.garbageCollectSkippedPackets.skippedPackets.Sublist g.skippedPackets := by
    have hrev := (takeWhile_sublist (g.largestInOrderAcked < ·)
      (l := g.skippedPackets.reverse)).reverse
    rwa [reverse_reverse] at hrev
  refine ⟨hinc.sublist hsub, hsub.length_le.trans (hskipped ▸ hm.few), m.sent ▸ hm.positive, ?_⟩
  intro p hp
  have hp := (recentlySkipped_congr m.sent m.lastSent p).1 hp
  rcases hm.kept p hp with hk | ⟨hk, hbelow⟩
  · refine (kept_garbageCollect (m.ordered ht.ordered) hpos hinc (hskipped ▸ hk)).imp_right ?_
    rintro ⟨hempty, hbelow⟩
    refine ⟨not_lt.1 fun hlt => ?_, hbelow⟩
    have hlt : g.largestAcked < p := hlt
    -- a packet between the largest acknowledged one and `p` would be the front
    obtain ⟨q₀, hq₀⟩ := exists_mem_of_ne_nil g.packetHistory fun hnil => by
      have := hempty hnil
      omega
    obtain ⟨q, hq, hlo, hhi, hnot⟩ := hkeep p hk hlt
      ⟨q₀, m.history_sublist.subset hq₀, hbelow q₀ hq₀⟩
    have hleft : q ∈ g.packetHistory := by
      by_contra hgone
      rcases m.mem_of_gone ht.ordered hq hgone with hq | hq
      · rw [hacked q hq] at hnot
        cases hnot
      · have := hqueued q hq
        omega
    have := hbelow q hleft
    omega
  · exact .inr ⟨hforgotten p hk hbelow, fun q hq => hbelow q (m.history_sublist.subset hq)⟩

/-! ## Runs -/

/-- Frames are acknowledged in a state in which the handler forgets no skipped number that may
still be acknowledged. -/
def ForgetsOnlyAcked (h : SentPacketHandler κ) : Op κ → Prop
  | .receivedAck f withPN _ _ => h.Applies f withPN → h.KeepsFront f.toAckedPackets f.largestAcked
  | .receivedClosePath f _ => h.KeepsFront f.toAckedPackets h.largestAcked
  | _ => True

variable [SendAlgorithm κ]

/-- An ACK makes the handler forget only numbers that are acknowledged and below its history. -/
theorem Remembers.receivedAck (hm : h.Remembers) (ht : h.Tracked) {rcvTime now : Int}
    (hc : h.ForgetsOnlyAcked (.receivedAck f withPN rcvTime now)) :
    (h.receivedAck f withPN rcvTime now).1.Remembers := by
  have hpos : ∀ q ∈ h.packetHistory, 0 < q.packetNumber := fun q hq =>
    hm.positive _ (ht.history_sent q hq)
  -- a frame that is refused late has set the largest acknowledged number already
  have hrefused : h.Applies f withPN → ∀ rttStats congestion,
      (h.sampled f withPN rttStats congestion).Remembers := by
    intro happ rttStats congestion
    refine ⟨hm.increasing, hm.few, hm.positive, fun p hp => ?_⟩
    exact (hm.kept p hp).imp_right fun hk => ⟨happ.forgotten_le hpos hk.1 hk.2, hk.2⟩
  have hout := receivedAck_outcome h f withPN rcvTime now
  generalize h.receivedAck f withPN rcvTime now = r at hout ⊢
  cases hout with
  | unsent | outOfOrder => exact hm
  | repeated => exact ⟨hm.increasing, hm.few, hm.positive, hm.kept⟩
  | skipped hsent horder hnew => exact hrefused ⟨hsent, horder, hnew⟩ _ _
  | failed rttStats congestion _ hsent horder hnew =>
    exact hrefused ⟨hsent, horder, hnew⟩ rttStats congestion
  | applied rttStats congestion acked hsent horder hnew _ hacked =>
    have happ : h.Applies f withPN := ⟨hsent, horder, hnew⟩
    set h₂ := h.sampled f withPN rttStats congestion with hh₂
    have m₁ : Moves h (acked.foldl onPacketAcked h₂) acked [] :=
      (moves_foldl true (fun _ _ => moves_onPacketAcked) (h := h₂) ht.ordered
        (newlyAcked_sublist hacked)).books_left rfl
    obtain ⟨queued, m₂, hqueued⟩ := moves_detectLostPackets (m₁.ordered ht.ordered) now
    have m := (m₁.trans m₂).books_right (books_updateLossDetectionAlarm _)
    have hbooks := ackBooks_untouched.foldl_detectLostPackets h₂ acked now
    simp only [ackBooks, Prod.mk.injEq] at hbooks
    have hlost : (acked.foldl onPacketAcked h₂).largestAcked = f.largestAcked :=
      congrArg Prod.fst (ackBooks_untouched.foldl_onPacketAcked acked h₂)
    rw [append_nil, nil_append] at m
    have hgc := hm.forget ht m hbooks.2 (f := f.toAckedPackets)
      (newlyAcked_acks (reverse_subset.2 (List.Subset.refl _)) hacked)
      (fun p hp => (hqueued p hp).trans_eq (hlost.trans hbooks.1.symm))
      (fun p hle hbelow => (happ.forgotten_le hpos hle hbelow).trans_eq hbooks.1.symm)
      (by rw [hbooks.1]; exact hc happ)
    exact ⟨hgc.increasing, hgc.few, hgc.positive, hgc.kept⟩

theorem Remembers.receivedClosePath (hm : h.Remembers) (ht : h.Tracked) {f : ClosePathFrame}
    (hc : h.ForgetsOnlyAcked (.receivedClosePath f withPN)) :
    (h.receivedClosePath f withPN).1.Remembers := by
  have hout := receivedClosePath_outcome h f withPN
  generalize h.receivedClosePath f withPN = r at hout ⊢
  cases hout with
  | refused => exact ⟨hm.increasing, hm.few, hm.positive, hm.kept⟩
  | applied n acked hacked =>
    set h₂ : SentPacketHandler κ := { h with largestReceivedPacketWithAck := n } with hh₂
    have m₁ : Moves h (acked.foldl onPacketAcked h₂) acked [] :=
      (moves_foldl true (fun _ _ => moves_onPacketAcked) (h := h₂) ht.ordered
        (newlyAcked_sublist hacked)).books_left rfl
    have m := m₁.trans (moves_setInflightAsLost (m₁.ordered ht.ordered))
    have hbooks : (acked.foldl onPacketAcked h₂).setInflightAsLost.ackBooks = h.ackBooks :=
      (ackBooks_untouched.setInflightAsLost _).trans
        (ackBooks_untouched.foldl_onPacketAcked acked h₂)
    simp only [ackBooks, Prod.mk.injEq] at hbooks
    have hlost : (acked.foldl onPacketAcked h₂).largestAcked = h.largestAcked :=
      congrArg Prod.fst (ackBooks_untouched.foldl_onPacketAcked acked h₂)
    rw [append_nil, nil_append] at m
    refine hm.forget ht m hbooks.2 (f := f.toAckedPackets)
      (newlyAcked_acks (reverse_subset.2 (List.Subset.refl _)) hacked) ?_
      (fun p hle _ => hle.trans_eq hbooks.1.symm) (by rw [hbooks.1]; exact hc)
    intro p hp
    rw [hbooks.1, ← hlost]
    simpa using mem_takeWhile_imp hp

/-- One operation under the condition. -/
theorem Remembers.apply (hm : h.Remembers) (ht : h.Tracked) {op : Op κ}
    (hc : h.ForgetsOnlyAcked op) : (op.apply h).Remembers := by
  cases op with
  | sentPacket packet now =>
    rw [Op.apply]
    cases hs : h.sentPacket packet now with
    | error e => exact hm
    | ok h' => exact hm.sends ht (sends_of_sentPacket hs) (largestAcked_sentPacket hs)
  | receivedAck f withPN rcvTime now => exact hm.receivedAck ht hc
  | receivedClosePath f withPN => exact hm.receivedClosePath ht hc
  | setInflightAsLost =>
    exact hm.moves (moves_setInflightAsLost ht.ordered) (ackBooks_untouched.setInflightAsLost h)
  | onAlarm failed now =>
    obtain ⟨_, m⟩ := moves_onAlarm ht.ordered failed now
    exact hm.moves m (ackBooks_untouched.onAlarm h failed now)
  | dequeuePacketForRetransmission =>
    rw [Op.apply, dequeuePacketForRetransmission]
    split <;> exact ⟨hm.increasing, hm.few, hm.positive, hm.kept⟩
  | duplicatePacket | getStopWaitingFrame | shared =>
    exact ⟨hm.increasing, hm.few, hm.positive, hm.kept⟩

/-- The skipped numbers are kept in increasing order, at most ten of them, and a frame that
acknowledges one of the last ten above `LargestAcked` is refused. -/
structure CatchesSkipped (h : SentPacketHandler κ) : Prop where
  increasing : h.skippedPackets.Pairwise (· < ·)
  few : h.skippedPackets.length ≤ maxTrackedSkippedPackets
  caught : ∀ (f : AckFrame) (withPN : Nat) (rcvTime now : Int) (p : Nat), h.Applies f withPN →
    f.acksPacket p = true → h.RecentlySkipped p → h.largestAcked < p →
    (h.receivedAck f withPN rcvTime now).2 = some .ackForSkippedPacket ∧
      (h.receivedAck f withPN rcvTime now).1.packetHistory = h.packetHistory

theorem Remembers.catches (hm : h.Remembers) : h.CatchesSkipped := by
  refine ⟨hm.increasing, hm.few, fun f withPN rcvTime now p happ hacks hp hlt => ?_⟩
  have hmem : p ∈ h.skippedPackets := (hm.kept p hp).resolve_right fun hk => by omega
  have hskipped : h.skippedPacketsAcked f.toAckedPackets = true :=
    any_eq_true.2 ⟨p, hmem, hacks⟩
  have hout := receivedAck_outcome h f withPN rcvTime now
  generalize h.receivedAck f withPN rcvTime now = r at hout ⊢
  cases hout with
  | unsent hunsent => exact absurd happ.sent (by omega)
  | outOfOrder _ hold => exact absurd happ.inOrder (by omega)
  | repeated _ _ hold => exact absurd happ.new (by omega)
  | skipped => exact ⟨rfl, rfl⟩
  | failed _ _ _ _ _ _ hnone | applied _ _ _ _ _ _ hnone =>
    rw [hskipped] at hnone
    cases hnone

/-- **Optimistic ACKs are caught**, in every run in which no frame makes the handler forget a
skipped number above `LargestAcked`. -/
theorem optimistic_acks_caught {h : SentPacketHandler κ}
    (hr : (machine κ).Reach ForgetsOnlyAcked h) : h.CatchesSkipped := by
  have hboth : h.Tracked ∧ h.Remembers := by
    refine hr.invariant (P := fun h => h.Tracked ∧ h.Remembers) ?_ ?_
    · rintro _ ⟨c, rfl⟩
      refine ⟨Reachable.tracked (.init ⟨c, rfl⟩), by simp [new], by simp [new], by simp [new], ?_⟩
      rintro p ⟨hp, -⟩
      simp [skippedNumbers, new] at hp
    · rintro h op _ ⟨ht, hm⟩ hc rfl
      exact ⟨ht.apply op, hm.apply ht hc⟩
  exact hboth.2.catches

/-- The handler that has sent 1, 2 and 4 and got an ACK for the packets up to `n`. -/
def acked124 (n : Nat) : SentPacketHandler FixedWindow :=
  ((sentPings [1, 2, 4]).receivedAck (ackOf 1 n) 1 5 5).1

theorem acked124_reach {C : SentPacketHandler FixedWindow → Op FixedWindow → Prop}
    (hsend : ∀ h packet now, C h (.sentPacket packet now))
    (hack : C (sentPings [1, 2, 4]) (.receivedAck (ackOf 1 n) 1 5 5)) :
    (machine FixedWindow).Reach C (acked124 n) :=
  .step (sentPings_reach hsend _) hack rfl

/-- Packets 1, 2 and 4 are sent, and an ACK for 2 to 4 is caught. -/
theorem optimistic_acks_caught_three :
    ∃ h : SentPacketHandler FixedWindow, (machine FixedWindow).Reach ForgetsOnlyAcked h ∧
      h.largestAcked = 1 ∧
      (h.receivedAck (ackOf 2 4) 2 6 6).2 = some .ackForSkippedPacket := by
  have hreach : (machine FixedWindow).Reach ForgetsOnlyAcked (acked124 1) :=
    acked124_reach (fun _ _ _ => trivial) fun _ => by decide
  have hcatch := optimistic_acks_caught hreach
  have happ : (acked124 1).Applies (ackOf 2 4) 2 :=
    ⟨by decide +kernel, by decide +kernel, by decide +kernel⟩
  refine ⟨_, hreach, by decide +kernel, (hcatch.caught _ _ _ _ 3 happ (by decide) ?_ ?_).1⟩
  · rw [RecentlySkipped]
    decide +kernel
  · decide +kernel

/-- The ACK for 1 and 2 makes the handler forget the skipped 3, and the ACK for it is accepted. -/
theorem optimistic_ack_accepted :
    ∃ h : SentPacketHandler FixedWindow, h.Reachable ∧ h.Applies (ackOf 1 4) 2 ∧
      (ackOf 1 4).acksPacket 3 = true ∧ h.RecentlySkipped 3 ∧ h.largestAcked = 2 ∧
      (h.receivedAck (ackOf 1 4) 2 6 6).2 = none ∧ ¬ h.CatchesSkipped := by
  have hreach : (acked124 2).Reachable := acked124_reach (fun _ _ _ => trivial) trivial
  have happ : (acked124 2).Applies (ackOf 1 4) 2 :=
    ⟨by decide +kernel, by decide +kernel, by decide +kernel⟩
  have hrecent : (acked124 2).RecentlySkipped 3 := by
    rw [RecentlySkipped]
    decide +kernel
  have haccepted : ((acked124 2).receivedAck (ackOf 1 4) 2 6 6).2 = none := by decide +kernel
  refine ⟨_, hreach, happ, by decide, hrecent, by decide +kernel, haccepted, fun hcatch => ?_⟩
  have hcaught := (hcatch.caught _ 2 6 6 3 happ (by decide) hrecent (by decide +kernel)).1
  rw [haccepted] at hcaught
  cases hcaught

end SentPacketHandler
end MpQuic
