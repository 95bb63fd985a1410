import Mathlib.Algebra.Order.GroupWithZero.Basic
import Mathlib.Algebra.Order.Ring.Int
import MpQuic.PacketMoves

/-!
# The alarm of a path

`updateLossDetectionAlarm` arms the alarm of a handler for one of three things,
and `OnAlarm` does one of three things when it fires.  The two functions decide
separately which one it is.  This file compares them: whether a handler with
outstanding packets has an alarm, whether the alarm is followed by the action
that its time was computed for, and how long the retransmission timeout gets.
-/
namespace MpQuic
open Systems List SentPacketHandler

/-- The frames that end a path or the connection. -/
def Frame.isClosing {σ : Type} : Frame σ → Bool
  | .closePath _ | .connectionClose _ => true
  | _ => false

namespace SentPacketHandler
variable {κ : Type}

/-! ## What the functions do to the timers -/

/-- The fields that `updateLossDetectionAlarm` and `OnAlarm` look at, besides the history, and
the alarm. -/
def timers (h : SentPacketHandler κ) : Option Int × Nat × Nat × Option Int :=
  (h.lossTime, h.tlpCount, h.rtoCount, h.alarm)

/-- An armed alarm stands for one of these. -/
inductive AlarmKind
  | lossDetection
  | tailLossProbe
  | retransmissionTimeout
  deriving DecidableEq, Repr

/-- The branch `updateLossDetectionAlarm` takes when packets are outstanding. -/
def alarmKind (h : SentPacketHandler κ) : AlarmKind :=
  if h.lossTime.isSome then .lossDetection
  else if h.rttStats.smoothedRTT ≠ 0 ∧ h.tlpCount < maxTailLossProbes then .tailLossProbe
  else .retransmissionTimeout

/-- The time an alarm is armed for. -/
def AlarmKind.deadline (h : SentPacketHandler κ) : AlarmKind → Int
  | .lossDetection => h.lossTime.getD 0
  | .tailLossProbe => h.lastSentTime.getD 0 + h.computeTLPTimeout
  | .retransmissionTimeout =>
    h.lastSentTime.getD 0 + max h.computeRTOTimeout minRetransmissionTime

/-- **The specification of `updateLossDetectionAlarm`.** -/
theorem updateLossDetectionAlarm_eq (h : SentPacketHandler κ) :
    h.updateLossDetectionAlarm = { h with
      alarm := if h.packetHistory = [] then none else some (h.alarmKind.deadline h) } := by
  by_cases hist : h.packetHistory = []
  · simp [updateLossDetectionAlarm, hist]
  · have hlen : h.packetHistory.length ≠ 0 := fun hzero => hist (length_eq_zero_iff.1 hzero)
    rw [if_neg hist]
    cases hloss : h.lossTime with
    | some t => simp [updateLossDetectionAlarm, alarmKind, AlarmKind.deadline, hist, hloss]
    | none =>
      by_cases htlp : h.rttStats.smoothedRTT ≠ 0 ∧ h.tlpCount < maxTailLossProbes
      · simp [updateLossDetectionAlarm, alarmKind, AlarmKind.deadline, hist, hloss, htlp]
      · simp [updateLossDetectionAlarm, alarmKind, AlarmKind.deadline, hist, hloss, htlp]

theorem alarm_updateLossDetectionAlarm (h : SentPacketHandler κ)
    (hist : h.updateLossDetectionAlarm.packetHistory ≠ []) :
    h.updateLossDetectionAlarm.alarm.isSome := by
  rw [updateLossDetectionAlarm_eq] at hist ⊢
  simp_all

theorem timers_retransmitTLP (h : SentPacketHandler κ) : h.retransmitTLP.timers = h.timers := by
  rw [retransmitTLP]
  split <;> rfl

variable [SendAlgorithm κ]

theorem timers_retransmitOldestPacket (h : SentPacketHandler κ) :
    h.retransmitOldestPacket.timers = h.timers := by
  rw [retransmitOldestPacket]
  split <;> rfl

theorem timers_retransmitAllPackets (h : SentPacketHandler κ) :
    h.retransmitAllPackets.timers = h.timers :=
  foldl_keeps timers queueRTO (fun _ _ => rfl) h.packetHistory h

theorem timers_retransmitOldestTwoPackets (h : SentPacketHandler κ) :
    h.retransmitOldestTwoPackets.timers = h.timers :=
  (timers_retransmitOldestPacket _).trans (timers_retransmitOldestPacket h)

theorem timers_setInflightAsLost (h : SentPacketHandler κ) :
    h.setInflightAsLost.timers = h.timers :=
  foldl_keeps timers queueLost (fun _ _ => rfl) _ _

/-! ## Every tracked packet keeps the alarm -/

/-- Every packet of the history counts as retransmittable, and there is an alarm for them. -/
structure Alarmed (h : SentPacketHandler κ) : Prop where
  retransmittable : ∀ p ∈ h.packetHistory, p.isRetransmittable = true
  armed : h.packetHistory ≠ [] → h.alarm.isSome = true

/-- A packet that ends a path or the connection has other retransmittable frames, too. -/
def ClosesWithMore (_ : SentPacketHandler κ) : Op κ → Prop
  | .sentPacket packet _ => (∃ fr ∈ packet.frames, fr.isClosing = true) →
      ∃ fr ∈ packet.frames, fr.isRetransmittable = true ∧ fr.isClosing = false
  | _ => True

variable {p packet : Packet} {h h' : SentPacketHandler κ} {now : Int} {op : Op κ} {n : Nat}

omit [SendAlgorithm κ] in
/-- `IsRetransmittable` counts every retransmittable frame that does not close. -/
theorem isRetransmittable_of_mem {fr : Frame FrameRef} (hfr : fr ∈ p.frames)
    (hr : fr.isRetransmittable = true) (hc : fr.isClosing = false) :
    p.isRetransmittable = true := by
  rw [Packet.isRetransmittable, any_eq_true]
  refine ⟨fr, hfr, ?_⟩
  cases fr <;> simp_all [Frame.isRetransmittable, Frame.isClosing]

omit [SendAlgorithm κ] in
/-- What is tracked of a packet under the condition counts as retransmittable. -/
theorem ClosesWithMore.tracked (hc : h.ClosesWithMore (.sentPacket packet now))
    (hp : p.frames = stripNonRetransmittableFrames packet.frames)
    (hne : (stripNonRetransmittableFrames packet.frames).length ≠ 0) :
    p.isRetransmittable = true := by
  obtain ⟨fr, hfr⟩ := exists_mem_of_length_pos (Nat.pos_of_ne_zero hne)
  obtain ⟨hmem, hr⟩ := mem_filter.1 hfr
  cases hclosing : fr.isClosing with
  | false => exact isRetransmittable_of_mem (hp ▸ hfr) hr hclosing
  | true =>
    obtain ⟨fr', hmem', hr', hc'⟩ := hc ⟨fr, hmem, hclosing⟩
    exact isRetransmittable_of_mem (hp ▸ mem_filter.2 ⟨hmem', hr'⟩) hr' hc'

omit [SendAlgorithm κ] in
/-- Packets may leave the history while the alarm stays. -/
theorem Alarmed.shrink (ha : h.Alarmed) (hsub : h'.packetHistory.Sublist h.packetHistory)
    (halarm : h'.alarm = h.alarm) : h'.Alarmed := by
  refine ⟨fun p hp => ha.retransmittable p (hsub.subset hp), fun hne => ?_⟩
  rw [halarm]
  refine ha.armed fun hnil => hne ?_
  rw [hnil] at hsub
  exact eq_nil_of_sublist_nil hsub

section

variable (ha : h.Alarmed)
include ha

/-- A packet that is tracked counts as retransmittable, and `SentPacket` ends by setting the alarm.
-/
theorem Alarmed.sentPacket (hc : h.ClosesWithMore (.sentPacket packet now))
    (hs : h.sentPacket packet now = .ok h') : h'.Alarmed := by
  have hsends := sends_of_sentPacket hs
  constructor
  · intro p hp
    rw [hsends.history] at hp
    rcases mem_append.1 hp with hp | hp
    · exact ha.retransmittable p hp
    · by_cases hne : (stripNonRetransmittableFrames packet.frames).length ≠ 0
      · rw [if_pos hne] at hp
        obtain rfl := mem_singleton.1 hp
        exact hc.tracked rfl hne
      · rw [if_neg hne] at hp
        cases hp
  · -- `SentPacket` ends with `updateLossDetectionAlarm`
    rw [SentPacketHandler.sentPacket] at hs
    split at hs
    · cases hs
    split at hs
    · cases hs
    · rw [← Except.ok.inj hs]
      exact alarm_updateLossDetectionAlarm _

theorem Alarmed.receivedAck (ho : h.Ordered) (f : AckFrame) (withPN : Nat) (rcvTime now : Int) :
    (h.receivedAck f withPN rcvTime now).1.Alarmed := by
  obtain ⟨_, _, m⟩ := moves_receivedAck ho f withPN rcvTime now
  have hout := receivedAck_outcome h f withPN rcvTime now
  have hsub := m.history_sublist
  generalize h.receivedAck f withPN rcvTime now = r at hout hsub ⊢
  cases hout with
  | unsent | outOfOrder | repeated | skipped | failed => exact ha.shrink hsub rfl
  | applied =>
    refine ⟨fun p hp => ha.retransmittable p (hsub.subset hp), fun hne => ?_⟩
    exact alarm_updateLossDetectionAlarm _ hne

theorem Alarmed.receivedClosePath (ho : h.Ordered) (f : ClosePathFrame) (withPN : Nat) :
    (h.receivedClosePath f withPN).1.Alarmed := by
  obtain ⟨_, _, m⟩ := moves_receivedClosePath ho f withPN
  have hout := receivedClosePath_outcome h f withPN
  have hsub := m.history_sublist
  generalize h.receivedClosePath f withPN = r at hout hsub ⊢
  refine ha.shrink hsub ?_
  cases hout with
  | refused => rfl
  | applied n acked =>
    have hlost := timers_setInflightAsLost
      (acked.foldl onPacketAcked { h with largestReceivedPacketWithAck := n })
    exact (congrArg (·.2.2.2) hlost).trans
      (foldl_keeps (·.alarm) onPacketAcked (fun _ _ => rfl) acked _)

/-- `OnAlarm` sets the alarm again for the packets that it leaves in the history. -/
theorem Alarmed.onAlarm (ho : h.Ordered) (failed : Bool) (now : Int) :
    (h.onAlarm failed now).Alarmed := by
  obtain ⟨_, m⟩ := moves_onAlarm ho failed now
  have hsub := m.history_sublist
  have hret : ∀ p ∈ (h.onAlarm failed now).packetHistory, p.isRetransmittable = true :=
    fun p hp => ha.retransmittable p (hsub.subset hp)
  refine ⟨hret, ?_⟩
  rw [SentPacketHandler.onAlarm]
  split
  · next hnone =>
    -- the alarm is cancelled without a packet that counts, so there is no packet at all
    intro hne
    obtain ⟨p, hp⟩ := exists_mem_of_ne_nil _ hne
    rw [Bool.not_eq_true', hasOutstandingRetransmittablePacket, any_eq_false] at hnone
    exact absurd (ha.retransmittable p hp) (hnone p hp)
  split
  · exact alarm_updateLossDetectionAlarm _
  split
  · exact alarm_updateLossDetectionAlarm _
  · exact alarm_updateLossDetectionAlarm _

/-- One operation under the condition. -/
theorem Alarmed.apply (ht : h.Tracked) (hc : h.ClosesWithMore op) : (op.apply h).Alarmed := by
  cases op with
  | sentPacket packet now =>
    rw [Op.apply]
    cases hs : h.sentPacket packet now with
    | error e => exact ha
    | ok h' => exact ha.sentPacket hc hs
  | receivedAck f withPN rcvTime now => exact ha.receivedAck ht.ordered f withPN rcvTime now
  | receivedClosePath f withPN => exact ha.receivedClosePath ht.ordered f withPN
  | setInflightAsLost =>
    exact ha.shrink (moves_setInflightAsLost ht.ordered).history_sublist
      (congrArg (·.2.2.2) (timers_setInflightAsLost h))
  | onAlarm failed now => exact ha.onAlarm ht.ordered failed now
  | dequeuePacketForRetransmission =>
    rw [Op.apply, dequeuePacketForRetransmission]
    split <;> exact ⟨ha.retransmittable, ha.armed⟩
  | duplicatePacket packet => exact ⟨ha.retransmittable, ha.armed⟩
  | getStopWaitingFrame force => exact ⟨ha.retransmittable, ha.armed⟩
  | shared rttStats congestion => exact ⟨ha.retransmittable, ha.armed⟩

end

/-- **Tracked packets keep their alarm**, in every run in which no packet closes a path or the
connection and carries nothing else to retransmit. -/
theorem tracked_packets_alarmed {h : SentPacketHandler κ}
    (hr : (machine κ).Reach ClosesWithMore h) : h.Alarmed := by
  have hboth : h.Tracked ∧ h.Alarmed := by
    refine hr.invariant (P := fun h => h.Tracked ∧ h.Alarmed) ?_ ?_
    · rintro _ ⟨c, rfl⟩
      exact ⟨Reachable.tracked (.init ⟨c, rfl⟩), by simp [new], by simp [new]⟩
    · rintro h op _ ⟨ht, ha⟩ hc rfl
      exact ⟨ht.apply op, ha.apply ht hc⟩
  exact hboth.2

/-- A handler that has sent a PING. -/
theorem tracked_packets_alarmed_ping :
    ∃ h : SentPacketHandler FixedWindow, (machine FixedWindow).Reach ClosesWithMore h ∧
      h.packetHistory.length = 1 ∧ h.Alarmed := by
  have hcond : (new (SendAlgorithm.new false : FixedWindow)).ClosesWithMore
      (.sentPacket (packetOf 1 [.ping]) 0) := by
    intro _
    exact ⟨.ping, by simp [packetOf], rfl, rfl⟩
  have hreach := Machine.Reach.step (M := machine FixedWindow) (.init ⟨_, rfl⟩) hcond rfl
  exact ⟨_, hreach, by decide, tracked_packets_alarmed hreach⟩

/-- A packet with a CLOSE_PATH frame only is tracked, and the alarm for it is cancelled when it
fires. -/
theorem close_path_packet_loses_alarm :
    ∃ h : SentPacketHandler FixedWindow, h.Reachable ∧
      h.packetHistory.any (!·.isRetransmittable) = true ∧ h.alarm.isSome = true ∧
      (h.onAlarm false 10).Reachable ∧ (h.onAlarm false 10).packetHistory ≠ [] ∧
      (h.onAlarm false 10).alarm = none := by
  let closePath : Frame FrameRef := .closePath ⟨1, 0, 0, []⟩
  have hreach : Reachable
      ((Op.sentPacket (packetOf 1 [closePath]) 0).apply
        (new (SendAlgorithm.new false : FixedWindow))) :=
    .step (.init ⟨_, rfl⟩) trivial rfl
  exact ⟨_, hreach, by decide, by decide, hreach.apply (.onAlarm false 10), by decide, by decide⟩

/-! ## What the alarm is set for, and what it does -/

/-- What `OnAlarm` does for an alarm of each kind, before it updates the alarm. -/
def AlarmKind.act (h : SentPacketHandler κ) (potentiallyFailed : Bool) (now : Int) :
    AlarmKind → SentPacketHandler κ
  | .lossDetection => h.detectLostPackets now
  | .tailLossProbe => { h.retransmitTLP with tlpCount := h.retransmitTLP.tlpCount + 1 }
  | .retransmissionTimeout =>
    let h := if potentiallyFailed then h.retransmitAllPackets else h.retransmitOldestTwoPackets
    { h with rtoCount := (h.rtoCount + 1) % 2 ^ 32 }

/-- `OnAlarm` acts on an alarm of the kind `k`. -/
def Performs (h : SentPacketHandler κ) (k : AlarmKind) : Prop :=
  ∀ potentiallyFailed now, h.onAlarm potentiallyFailed now =
    (k.act h potentiallyFailed now).updateLossDetectionAlarm

omit [SendAlgorithm κ] in
/-- The branch `OnAlarm` takes when it finds a packet to retransmit. -/
def actionKind (h : SentPacketHandler κ) : AlarmKind :=
  if h.lossTime.isSome then .lossDetection
  else if h.tlpCount < maxTailLossProbes then .tailLossProbe
  else .retransmissionTimeout

theorem onAlarm_eq (hout : h.hasOutstandingRetransmittablePacket = true) (failed : Bool)
    (now : Int) :
    h.onAlarm failed now = (h.actionKind.act h failed now).updateLossDetectionAlarm := by
  rw [onAlarm, hout, actionKind]
  simp only [Bool.not_true, Bool.false_eq_true, if_false]
  split
  · rfl
  split <;> rfl

/-- The two counters tell the actions apart. -/
def AlarmKind.counts (tlpCount rtoCount : Nat) : AlarmKind → Nat × Nat
  | .lossDetection => (tlpCount, rtoCount)
  | .tailLossProbe => (tlpCount + 1, rtoCount)
  | .retransmissionTimeout => (tlpCount, (rtoCount + 1) % 2 ^ 32)

omit [SendAlgorithm κ] in
theorem AlarmKind.counts_injective (t r : Nat) : Function.Injective (AlarmKind.counts t r) := by
  intro k k' h
  cases k <;> cases k' <;> simp only [AlarmKind.counts, Prod.mk.injEq] at h ⊢ <;> omega

theorem AlarmKind.counts_act (h : SentPacketHandler κ) (failed : Bool) (now : Int)
    (k : AlarmKind) :
    ((k.act h failed now).updateLossDetectionAlarm.tlpCount,
      (k.act h failed now).updateLossDetectionAlarm.rtoCount) =
      k.counts h.tlpCount h.rtoCount := by
  rw [updateLossDetectionAlarm_eq]
  cases k with
  | lossDetection =>
    have ht : (h.detectLostPackets now).timers = _ :=
      foldl_keeps timers queueLost (fun _ _ => rfl) _ _
    simp only [timers, Prod.mk.injEq] at ht
    exact Prod.ext ht.2.1 ht.2.2.1
  | tailLossProbe =>
    have ht := timers_retransmitTLP h
    simp only [timers, Prod.mk.injEq] at ht
    exact Prod.ext (congrArg (· + 1) ht.2.1) ht.2.2.1
  | retransmissionTimeout =>
    have ht : (if failed then h.retransmitAllPackets else h.retransmitOldestTwoPackets).timers =
        h.timers := by
      split
      · exact timers_retransmitAllPackets h
      · exact timers_retransmitOldestTwoPackets h
    simp only [timers, Prod.mk.injEq] at ht
    exact Prod.ext ht.2.1 (congrArg (fun r => (r + 1) % 2 ^ 32) ht.2.2.1)

/-- **Which action `OnAlarm` performs**, if any. -/
theorem performs_iff (hist : h.packetHistory ≠ []) (k : AlarmKind) :
    h.Performs k ↔ h.hasOutstandingRetransmittablePacket = true ∧ h.actionKind = k := by
  constructor
  · intro hp
    have hact := hp false 0
    cases hout : h.hasOutstandingRetransmittablePacket with
    | true =>
      rw [onAlarm_eq hout] at hact
      refine ⟨rfl, AlarmKind.counts_injective h.tlpCount h.rtoCount ?_⟩
      rw [← AlarmKind.counts_act h false 0, ← AlarmKind.counts_act h false 0, hact]
    | false =>
      -- the alarm is cancelled: no counter moves, and no packet leaves the history
      have hcancel : h.onAlarm false 0 = { h with alarm := none } := by
        simp [onAlarm, hout]
      rw [hcancel] at hact
      have hcounts := AlarmKind.counts_act h false 0 k
      rw [← hact] at hcounts
      obtain rfl : .lossDetection = k := AlarmKind.counts_injective _ _ hcounts
      rw [updateLossDetectionAlarm_eq] at hact
      have hhist : h.packetHistory = (AlarmKind.act h false 0 .lossDetection).packetHistory :=
        congrArg (·.packetHistory) hact
      have halarm := congrArg (·.alarm) hact
      rw [← hhist, if_neg hist] at halarm
      cases halarm
  · rintro ⟨hout, rfl⟩ failed now
    exact onAlarm_eq hout failed now

/-- The operation ends with a call of `updateLossDetectionAlarm`. -/
def Op.UpdatesAlarm (h : SentPacketHandler κ) : Op κ → Prop
  | .sentPacket packet now => (h.sentPacket packet now).isOk = true
  | .receivedAck f withPN rcvTime now =>
    (h.receivedAck f withPN rcvTime now).2 = none ∧ h.largestInOrderAcked < f.largestAcked
  | .onAlarm _ _ => h.hasOutstandingRetransmittablePacket = true
  | _ => False

/-- The alarm stands as `updateLossDetectionAlarm` sets it when packets are outstanding. -/
def Armed (h : SentPacketHandler κ) : Prop :=
  h.packetHistory ≠ [] → h.alarm = some (h.alarmKind.deadline h)

omit [SendAlgorithm κ] in
theorem armed_updateLossDetectionAlarm (h : SentPacketHandler κ) :
    h.updateLossDetectionAlarm.Armed := by
  intro hist
  rw [updateLossDetectionAlarm_eq] at hist ⊢
  exact if_neg hist

theorem Op.UpdatesAlarm.armed (hop : op.UpdatesAlarm h) : (op.apply h).Armed := by
  cases op with
  | sentPacket packet now =>
    rw [Op.UpdatesAlarm] at hop
    rw [Op.apply]
    cases hs : h.sentPacket packet now with
    | error e =>
      rw [hs] at hop
      cases hop
    | ok h' =>
      rw [SentPacketHandler.sentPacket] at hs
      split at hs
      · cases hs
      split at hs
      · cases hs
      · rw [← Except.ok.inj hs]
        exact armed_updateLossDetectionAlarm _
  | receivedAck f withPN rcvTime now =>
    obtain ⟨hnone, hlt⟩ := hop
    have hout := receivedAck_outcome h f withPN rcvTime now
    rw [Op.apply]
    generalize h.receivedAck f withPN rcvTime now = r at hnone hout ⊢
    cases hout with
    | unsent | outOfOrder | skipped | failed => cases hnone
    | repeated _ _ hle => omega
    | applied => exact armed_updateLossDetectionAlarm _
  | onAlarm failed now =>
    rw [Op.apply, onAlarm_eq hop]
    exact armed_updateLossDetectionAlarm _
  | _ => exact absurd hop id

/-- Operations that neither send, acknowledge nor fire the alarm. -/
def Op.isIdle : Op κ → Bool
  | .sentPacket .. | .receivedAck .. | .receivedClosePath .. | .onAlarm .. => false
  | _ => true

/-- `h` is `h₁` after idle operations: the timers are what they were, and the history may have
lost packets. -/
structure Idled (h₁ h : SentPacketHandler κ) : Prop where
  timers : h.timers = h₁.timers
  history : h.packetHistory.Sublist h₁.packetHistory

omit [SendAlgorithm κ] in
theorem Idled.trans {h₁ h₂ h₃ : SentPacketHandler κ} (h : Idled h₁ h₂) (h' : Idled h₂ h₃) :
    Idled h₁ h₃ :=
  ⟨h'.timers.trans h.timers, h'.history.trans h.history⟩

theorem idled_apply (ht : h.Tracked) (hop : op.isIdle = true) : Idled h (op.apply h) := by
  cases op with
  | sentPacket | receivedAck | receivedClosePath | onAlarm => cases hop
  | setInflightAsLost =>
    exact ⟨timers_setInflightAsLost h, (moves_setInflightAsLost ht.ordered).history_sublist⟩
  | dequeuePacketForRetransmission =>
    rw [Op.apply, dequeuePacketForRetransmission]
    split <;> exact ⟨rfl, List.Sublist.refl _⟩
  | duplicatePacket | getStopWaitingFrame | shared => exact ⟨rfl, List.Sublist.refl _⟩

theorem idled_foldl {ops : List (Op κ)} (hops : ∀ op ∈ ops, op.isIdle = true) (ht : h.Tracked) :
    Idled h (ops.foldl (fun h op => op.apply h) h) := by
  induction ops generalizing h with
  | nil => exact ⟨rfl, List.Sublist.refl _⟩
  | cons op ops ih =>
    have hfirst := idled_apply ht (hops op (by simp))
    exact hfirst.trans (ih (fun op hop => hops op (by simp [hop])) (ht.apply op))

omit [SendAlgorithm κ] in
/-- When the two decisions agree. -/
theorem Idled.actionKind_eq_iff {h₁ h : SentPacketHandler κ} (hi : Idled h₁ h) :
    h.actionKind = h₁.alarmKind ↔ h₁.lossTime.isSome = true ∨ h₁.rttStats.smoothedRTT ≠ 0 ∨
      maxTailLossProbes ≤ h₁.tlpCount := by
  have ht := hi.timers
  simp only [SentPacketHandler.timers, Prod.mk.injEq] at ht
  rw [actionKind, alarmKind, ht.1, ht.2.1]
  cases h₁.lossTime with
  | some t => simp
  | none =>
    by_cases htlp : h₁.tlpCount < maxTailLossProbes
    · by_cases hrtt : h₁.rttStats.smoothedRTT = 0
      · simp [htlp, hrtt, not_le.2 htlp]
      · simp [htlp, hrtt]
    · simp [htlp, not_lt.1 htlp]

/-- **The alarm does what it was set for** exactly if a packet is outstanding that counts as
retransmittable and the alarm was not armed before the first RTT sample with tail loss probes
left. -/
theorem alarm_performs_armed_kind {h₀ h₁ h : SentPacketHandler κ} (hr : h₀.Reachable) {op : Op κ}
    (hop : op.UpdatesAlarm h₀) (heq₁ : h₁ = op.apply h₀) {ops : List (Op κ)}
    (hops : ∀ op ∈ ops, op.isIdle = true) (heq : h = ops.foldl (fun h op => op.apply h) h₁)
    (hist : h.packetHistory ≠ []) :
    h.alarm = some (h₁.alarmKind.deadline h₁) ∧
    (h.Performs h₁.alarmKind ↔ h.hasOutstandingRetransmittablePacket = true ∧
      (h₁.lossTime.isSome = true ∨ h₁.rttStats.smoothedRTT ≠ 0 ∨
        maxTailLossProbes ≤ h₁.tlpCount)) := by
  have ht : h₁.Tracked := heq₁ ▸ hr.tracked.apply op
  have hidled : Idled h₁ h := heq ▸ idled_foldl hops ht
  have hist₁ : h₁.packetHistory ≠ [] := fun hnil =>
    hist (eq_nil_of_sublist_nil (hnil ▸ hidled.history))
  have harmed : h₁.Armed := heq₁ ▸ hop.armed
  refine ⟨(congrArg (·.2.2.2) hidled.timers).trans (harmed hist₁), ?_⟩
  rw [performs_iff hist, hidled.actionKind_eq_iff]

/-- With an RTT sample the alarm for a packet is a tail loss probe. -/
theorem alarm_performs_armed_kind_tlp :
    ∃ h : SentPacketHandler FixedWindow, h.Reachable ∧ h.alarm = some (10 * millisecond) ∧
      h.Performs .tailLossProbe := by
  let h₀ : SentPacketHandler FixedWindow :=
    (Op.shared { smoothedRTT := 1000 } (SendAlgorithm.new false)).apply
      (new (SendAlgorithm.new false))
  have hr : h₀.Reachable := .step (.init ⟨_, rfl⟩) trivial rfl
  have hsend : (Op.sentPacket (packetOf 1 [.ping]) 0).UpdatesAlarm h₀ := by
    rw [Op.UpdatesAlarm]
    decide
  let idle : List (Op FixedWindow) := [.getStopWaitingFrame false]
  have hidle : ∀ op ∈ idle, op.isIdle = true := by simp [idle, Op.isIdle]
  have halarm := alarm_performs_armed_kind hr hsend rfl hidle rfl (by decide)
  exact ⟨_, (hr.apply _).apply (.getStopWaitingFrame false), halarm.1.trans (by decide),
    halarm.2.2 ⟨by decide, .inr (.inl (by decide))⟩⟩

/-- Before the first RTT sample the alarm is armed with the RTO delay, and fires a tail loss
probe. -/
theorem rto_alarm_fires_probe :
    ∃ h : SentPacketHandler FixedWindow, h.Reachable ∧
      h = (Op.sentPacket (packetOf 1 [.ping]) 0).apply (new (SendAlgorithm.new false)) ∧
      h.packetHistory ≠ [] ∧ h.alarmKind = .retransmissionTimeout ∧
      h.alarm = some defaultRTOTimeout ∧ ¬ h.Performs .retransmissionTimeout ∧
      h.Performs .tailLossProbe := by
  refine ⟨_, .step (.init ⟨_, rfl⟩) trivial rfl, rfl, by decide, by decide, by decide, ?_, ?_⟩
  · rw [performs_iff (by decide)]
    decide
  · rw [performs_iff (by decide)]
    decide

/-! ## The retransmission timeout -/

omit [SendAlgorithm κ] in
/-- The retransmission timeout before the backoff. -/
def baseRTO (h : SentPacketHandler κ) : Int :=
  max (if h.rttStats.retransmissionDelay = 0 then defaultRTOTimeout
    else h.rttStats.retransmissionDelay) minRTOTimeout

/-- The timeout after `n` retransmission timeouts. -/
def timeoutAfter (h : SentPacketHandler κ) (n : Nat) : Int :=
  { h with rtoCount := n }.computeRTOTimeout

omit [SendAlgorithm κ] in
theorem timeoutAfter_eq (h : SentPacketHandler κ) (n : Nat) :
    h.timeoutAfter n = min ((h.baseRTO * 2 ^ n).bmod (2 ^ 64)) maxRTOTimeout := rfl

omit [SendAlgorithm κ] in
/-- Below `2 ^ 63` the shift is a multiplication. -/
theorem timeoutAfter_of_lt (hlt : h.baseRTO * 2 ^ n < 2 ^ 63) :
    h.timeoutAfter n = min (h.baseRTO * 2 ^ n) maxRTOTimeout := by
  have hpos : 0 ≤ h.baseRTO * 2 ^ n :=
    mul_nonneg (le_max_of_le_right (by decide)) (pow_nonneg (by decide) n)
  rw [timeoutAfter_eq, Int.bmod_eq_of_le (by omega) (by omega)]

omit [SendAlgorithm κ] in
/-- The first shift that overflows gives a negative number. -/
theorem timeoutAfter_neg (hlt : h.baseRTO * 2 ^ n < 2 ^ 63)
    (hge : 2 ^ 63 ≤ h.baseRTO * 2 ^ (n + 1)) : h.timeoutAfter (n + 1) < 0 := by
  rw [timeoutAfter_eq]
  refine min_lt_of_left_lt ?_
  rw [pow_succ (2 : Int) n, ← mul_assoc] at hge ⊢
  generalize h.baseRTO * 2 ^ n = x at hlt hge ⊢
  have hmod : x * 2 % (2 ^ 64 : Nat) = x * 2 := Int.emod_eq_of_lt (by omega) (by omega)
  rw [Int.bmod, hmod]
  split <;> omega

omit [SendAlgorithm κ] in
/-- **The backoff** stays within its bounds and grows, up to `N` timeouts, exactly as long as the
shift does not overflow. -/
theorem rto_backoff {h : SentPacketHandler κ}
    (hdelay : h.rttStats.retransmissionDelay < maxRTOTimeout) (N : Nat) :
    (∀ n ≤ N, minRTOTimeout ≤ h.timeoutAfter n ∧ h.timeoutAfter n ≤ maxRTOTimeout ∧
      ∀ m ≤ n, h.timeoutAfter m ≤ h.timeoutAfter n) ↔ h.baseRTO * 2 ^ N < 2 ^ 63 := by
  have hbase : minRTOTimeout ≤ h.baseRTO := le_max_right _ _
  have hpos : (0 : Int) < minRTOTimeout := by decide
  constructor
  · induction N with
    | zero =>
      intro _
      have hmax : h.baseRTO ≤ maxRTOTimeout := by
        rw [baseRTO]
        refine max_le ?_ (by decide)
        split
        · decide
        · exact hdelay.le
      rw [pow_zero, mul_one]
      exact hmax.trans_lt (by decide)
    | succ N ih =>
      intro hall
      have hN := ih fun n hn => hall n (by omega)
      by_contra hge
      have hneg := timeoutAfter_neg hN (not_lt.1 hge)
      have := (hall (N + 1) le_rfl).1
      omega
  · intro hlt n hn
    have hle : ∀ m ≤ N, h.baseRTO * 2 ^ m < 2 ^ 63 := fun m hm =>
      lt_of_le_of_lt (mul_le_mul_of_nonneg_left (pow_le_pow_right₀ (by decide) hm) (by omega)) hlt
    rw [timeoutAfter_of_lt (hle n hn)]
    refine ⟨le_min ?_ (by decide), min_le_right _ _, fun m hm => ?_⟩
    · calc minRTOTimeout ≤ h.baseRTO * 1 := by omega
        _ ≤ h.baseRTO * 2 ^ n :=
          mul_le_mul_of_nonneg_left (one_le_pow₀ (by decide)) (by omega)
    · rw [timeoutAfter_of_lt (hle m (by omega))]
      exact min_le_min_right _
        (mul_le_mul_of_nonneg_left (pow_le_pow_right₀ (by decide) hm) (by omega))

/-- At an RTT of 20 seconds the timeouts up to the 28th are within the bounds. -/
theorem rto_backoff_twenty_seconds :
    ∃ h : SentPacketHandler FixedWindow,
      h.rttStats.retransmissionDelay = 20000 * millisecond ∧
      ∀ n ≤ 28, minRTOTimeout ≤ h.timeoutAfter n ∧ h.timeoutAfter n ≤ maxRTOTimeout ∧
        ∀ m ≤ n, h.timeoutAfter m ≤ h.timeoutAfter n := by
  let h : SentPacketHandler FixedWindow :=
    { new (SendAlgorithm.new false) with rttStats := { smoothedRTT := 20000 * millisecond } }
  exact ⟨h, by decide, (rto_backoff (by decide) 28).2 (by decide)⟩

/-- Nothing is acknowledged: packets are sent and the alarm fires. -/
def Unacknowledged (_ : SentPacketHandler κ) : Op κ → Prop
  | .sentPacket .. | .onAlarm .. => True
  | _ => False

/-- After 35 retransmission timeouts the default timeout has overflowed. -/
theorem rto_backoff_overflows :
    ∃ h : SentPacketHandler FixedWindow, (machine FixedWindow).Reach Unacknowledged h ∧
      h.rttStats.retransmissionDelay = 0 ∧ h.rtoCount = 35 ∧ h.computeRTOTimeout < 0 := by
  let ops : List (Op FixedWindow) := (range 37).flatMap fun n =>
    [.sentPacket (packetOf (n + 1) [.ping]) 0, .onAlarm false 0]
  have hops : ∀ op ∈ ops, ∀ h, Unacknowledged h op := by
    intro op hop h
    obtain ⟨n, -, hop⟩ := mem_flatMap.1 hop
    simp only [mem_cons, not_mem_nil, or_false] at hop
    rcases hop with rfl | rfl <;> trivial
  have hreach : (machine FixedWindow).Reach Unacknowledged
      (ops.foldl (fun h op => op.apply h) (new (SendAlgorithm.new false))) :=
    Machine.Reach.foldl_of_mem (P := fun _ _ => True) (.init ⟨_, rfl⟩)
      (fun h op hop _ => ⟨hops op hop h, rfl⟩) (by decide +kernel)
  exact ⟨_, hreach, by decide +kernel, by decide +kernel, by decide +kernel⟩

end SentPacketHandler
end MpQuic
