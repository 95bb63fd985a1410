import MpQuic.Lib.Machine
import MpQuic.ReceivedPacketHandler

/-!
# The obligation to acknowledge

A retransmittable packet that was accepted obliges the handler to acknowledge: an ACK is
queued, or its alarm is set to at most `ackSendDelay` after the packet, until `GetAckFrame`
produces a frame.  The second such packet queues the ACK.  There is a frame to produce as
long as the history is not empty, and only `SetLowerLimit` can make it so.
-/
namespace MpQuic
open Systems List ReceivedPacketHistory

namespace ReceivedPacketHandler
variable {h h' : ReceivedPacketHandler} {p : Nat} {inst : Bool} {now : Int}

/-- What `maybeQueueAck` decides: the ACK is queued, or for a retransmittable packet the alarm is
set if it was not. -/
structure Decides (h h' : ReceivedPacketHandler) (inst : Bool) (now : Int) : Prop where
  history : h'.packetHistory = h.packetHistory
  count : h'.retransmittablePacketsReceivedSinceLastAck =
    h.retransmittablePacketsReceivedSinceLastAck + if inst then 1 else 0
  decision : h'.ackQueued = true ∧ h'.ackAlarm = none ∨ h.ackQueued = false ∧
    if inst then h'.retransmittablePacketsReceivedSinceLastAck < retransmittablePacketsBeforeAck ∧
      h'.ackAlarm = some (h.ackAlarm.getD (now + ackSendDelay))
    else h'.ackAlarm = h.ackAlarm

theorem maybeQueueAck_decides (h : ReceivedPacketHandler) (p : Nat) (inst : Bool) (now : Int) :
    Decides h (h.maybeQueueAck p inst now) inst now := by
  rw [maybeQueueAck]
  generalize hdue : (h.ackQueued || _ || _ : Bool) = due
  cases due with
  | true => exact ⟨rfl, rfl, .inl ⟨rfl, rfl⟩⟩
  | false =>
    have hqueued : h.ackQueued = false := by
      rw [Bool.or_assoc, Bool.or_eq_false_iff] at hdue
      exact hdue.1
    cases inst with
    | false => exact ⟨rfl, rfl, .inr ⟨hqueued, rfl⟩⟩
    | true =>
      simp only [if_true]
      by_cases hcount : retransmittablePacketsBeforeAck ≤
          h.retransmittablePacketsReceivedSinceLastAck + 1
      · rw [if_pos hcount]
        exact ⟨rfl, rfl, .inl ⟨rfl, rfl⟩⟩
      · rw [if_neg hcount]
        cases halarm : h.ackAlarm with
        | none => exact ⟨rfl, rfl, .inr ⟨hqueued, not_le.mp hcount, by rw [halarm]; rfl⟩⟩
        | some alarm => exact ⟨rfl, rfl, .inr ⟨hqueued, not_le.mp hcount, by rw [halarm]; rfl⟩⟩

/-- A packet is accepted: it is above the lower limit, and it can be put into the history. -/
def Accepts (h : ReceivedPacketHandler) (p : Nat) : Prop :=
  p ≠ 0 ∧ h.lowerLimit < p ∧ h.packetHistory.length < maxTrackedReceivedAckRanges

instance (h : ReceivedPacketHandler) (p : Nat) : Decidable (h.Accepts p) :=
  inferInstanceAs (Decidable (_ ∧ _ ∧ _))

theorem insertPacket_ne_nil (p : Nat) (ranges : List AckRange) :
    insertPacket p ranges ≠ [] := by
  cases ranges with
  | nil => exact cons_ne_nil _ _
  | cons el rest =>
    have hmerge (el : AckRange) : mergeWithPrev el rest ≠ [] := by
      cases rest with
      | nil => exact cons_ne_nil _ _
      | cons prev rest =>
        rw [mergeWithPrev]
        split <;> exact cons_ne_nil _ _
    rw [insertPacket]
    split_ifs
    · exact cons_ne_nil _ _
    · exact hmerge _
    · exact hmerge _
    · exact cons_ne_nil _ _
    · exact cons_ne_nil _ _

/-- The part of the handler that the obligation is about. -/
def owed (h : ReceivedPacketHandler) : Nat × Bool × Option Int × List AckRange :=
  (h.retransmittablePacketsReceivedSinceLastAck, h.ackQueued, h.ackAlarm, h.packetHistory)

/-- A packet that is not accepted changes nothing of it; otherwise the ACK is decided about. -/
theorem receivedPacket_cases (h : ReceivedPacketHandler) (p : Nat) (inst : Bool) (now : Int) :
    if h.Accepts p then ∃ packetHistory, packetHistory ≠ [] ∧
      Decides { h with packetHistory } (h.receivedPacket p inst now).1 inst now
    else (h.receivedPacket p inst now).1.owed = h.owed := by
  rw [receivedPacket]
  by_cases hzero : p = 0
  · rw [if_pos hzero, if_neg fun haccepts => haccepts.1 hzero]
  rw [if_neg hzero]
  dsimp only
  generalize hobserved : (if h.largestObserved < p then _ else _ : ReceivedPacketHandler) = observed
  -- the largest number observed and its time do not matter here
  obtain ⟨howed, hlimit⟩ : observed.owed = h.owed ∧ observed.lowerLimit = h.lowerLimit := by
    rw [← hobserved]
    split <;> exact ⟨rfl, rfl⟩
  obtain ⟨hcount, hqueued, halarm, hhistory⟩ : _ ∧ _ ∧ _ ∧ _ := by
    simpa only [owed, Prod.mk.injEq] using howed
  rw [ReceivedPacketHistory.receivedPacket, hhistory]
  by_cases haccepts : h.Accepts p
  · rw [if_pos haccepts, if_neg (hlimit ▸ not_le.mpr haccepts.2.1),
      if_neg (not_le.mpr haccepts.2.2)]
    have hdecides := maybeQueueAck_decides
      { observed with packetHistory := insertPacket p h.packetHistory } p inst now
    refine ⟨_, insertPacket_ne_nil p h.packetHistory, hdecides.history, ?_, ?_⟩
    · exact hdecides.count.trans (by rw [← hcount])
    · exact hdecides.decision.imp_right fun ⟨hnot, hset⟩ =>
        ⟨hqueued ▸ hnot, by simpa only [halarm] using hset⟩
  · rw [if_neg haccepts]
    by_cases hbelow : p ≤ observed.lowerLimit
    · rw [if_pos hbelow]
      exact howed
    · have hfull : maxTrackedReceivedAckRanges ≤ h.packetHistory.length :=
        not_lt.mp fun hlt => haccepts ⟨hzero, hlimit ▸ not_le.mp hbelow, hlt⟩
      rw [if_neg hbelow, if_pos hfull]
      exact howed

/-- A range that reaches above the new limit stays in the history. -/
theorem deleteFromLowest_ne_nil {r : AckRange} {ranges : List AckRange} (hr : r ∈ ranges)
    (hlt : p < r.last) : deleteFromLowest p ranges ≠ [] := by
  induction ranges with
  | nil => cases hr
  | cons el rest ih =>
    rw [deleteFromLowest]
    split_ifs with hinside hbelow
    · exact cons_ne_nil _ _
    · refine ih ((mem_cons.mp hr).resolve_left ?_)
      rintro rfl
      omega
    · exact cons_ne_nil _ _

theorem getAckFrame_of_queued (hqueued : h.ackQueued = true) (hhistory : h.packetHistory ≠ [])
    (pathID : Nat) (now : Int) : ∃ h' ack, h.getAckFrame pathID now = .ok (h', some ack) := by
  rw [getAckFrame, hqueued, getLast?_eq_some_getLast hhistory]
  exact ⟨_, _, rfl⟩

/-- Without a frame nothing changes, and after a frame nothing is owed. -/
theorem getAckFrame_ok {pathID : Nat} {ack : Option AckFrame}
    (hok : h.getAckFrame pathID now = .ok (h', ack)) :
    h' = h ∧ ack = none ∨ ack.isSome = true ∧ h'.retransmittablePacketsReceivedSinceLastAck = 0 ∧
      h'.ackAlarm = none := by
  rw [getAckFrame] at hok
  split_ifs at hok with hdue
  · cases hok
    exact .inl ⟨rfl, rfl⟩
  all_goals
    split at hok
    · cases hok
    · cases hok
      exact .inr ⟨rfl, rfl, rfl⟩

end ReceivedPacketHandler

/-! ## Runs -/

/-- A handler, the time of the last call, and the times at which retransmittable packets have been
accepted since the last ACK frame. -/
structure Acknowledger where
  handler : ReceivedPacketHandler
  now : Int
  accepted : List Int

namespace Acknowledger
open ReceivedPacketHandler

/-- The calls of a handler; the clock is read in `ReceivedPacket` and `GetAckFrame`. -/
inductive Call
  | receivedPacket (packetNumber : Nat) (shouldInstigateAck : Bool) (now : Int)
  | setLowerLimit (p : Nat)
  | getAckFrame (pathID : Nat) (now : Int)

/-- What the calls do; the clock never goes back. -/
inductive Step : Acknowledger → Call → Acknowledger → Prop
  | receivedPacket {s : Acknowledger} {now : Int} (p : Nat) (inst : Bool) (hnow : s.now ≤ now) :
      Step s (.receivedPacket p inst now)
        { handler := (s.handler.receivedPacket p inst now).1, now
          accepted := if s.handler.Accepts p ∧ inst then now :: s.accepted else s.accepted }
  | setLowerLimit {s : Acknowledger} (p : Nat) :
      Step s (.setLowerLimit p) { s with handler := s.handler.setLowerLimit p }
  | getAckFrame {s : Acknowledger} {now : Int} {pathID : Nat} {handler : ReceivedPacketHandler}
      {ack : Option AckFrame} (hnow : s.now ≤ now)
      (hok : s.handler.getAckFrame pathID now = .ok (handler, ack)) :
      Step s (.getAckFrame pathID now)
        { handler, now, accepted := if ack.isSome then [] else s.accepted }

/-- The runs of a new handler. -/
def machine : Machine Acknowledger Call where
  init s := s.handler = .new s.handler.version ∧ s.accepted = []
  step := Step

/-- The handler has not forgotten the packets it has accepted. -/
structure Obliged (s : Acknowledger) : Prop where
  timely : ∀ accepted ∈ s.accepted, s.handler.ackQueued = true ∨
    ∃ alarm, s.handler.ackAlarm = some alarm ∧ alarm ≤ accepted + ackSendDelay
  returns : 2 ≤ s.accepted.length → ∀ pathID now,
    ∃ handler ack, s.handler.getAckFrame pathID now = .ok (handler, some ack)

/-- The new limit leaves a packet in the history if two packets are to be acknowledged. -/
def LeavesPacket (s : Acknowledger) : Call → Prop
  | .setLowerLimit p => 2 ≤ s.handler.retransmittablePacketsReceivedSinceLastAck →
      ∃ r ∈ s.handler.packetHistory, p < r.last
  | _ => True

/-- What is owed, in terms of the fields of the handler. -/
structure Owes (s : Acknowledger) : Prop where
  count : s.handler.retransmittablePacketsReceivedSinceLastAck = s.accepted.length
  past : ∀ accepted ∈ s.accepted, accepted ≤ s.now
  alarm : ∀ alarm, s.handler.ackAlarm = some alarm → alarm ≤ s.now + ackSendDelay
  timely : s.accepted ≠ [] → s.handler.ackQueued = true ∨ s.accepted.length < 2 ∧
    ∃ alarm, s.handler.ackAlarm = some alarm ∧ ∀ accepted ∈ s.accepted,
      alarm ≤ accepted + ackSendDelay
  history : 2 ≤ s.accepted.length → s.handler.packetHistory ≠ []

variable {s : Acknowledger} {now : Int}

theorem Owes.obliged (h : s.Owes) : s.Obliged := by
  refine ⟨fun accepted haccepted => ?_, fun htwo pathID now => ?_⟩
  · rcases h.timely (ne_nil_of_mem haccepted) with hqueued | ⟨-, alarm, halarm, hle⟩
    · exact .inl hqueued
    · exact .inr ⟨alarm, halarm, hle accepted haccepted⟩
  · have hne : s.accepted ≠ [] := ne_nil_of_length_pos (by omega)
    rcases h.timely hne with hqueued | ⟨hlt, -⟩
    · exact getAckFrame_of_queued hqueued (h.history htwo) pathID now
    · omega

/-- A packet that is accepted adds to what is owed: its ACK is queued, or comes due with the alarm.
-/
theorem Owes.receivedPacket (h : s.Owes) (p : Nat) (inst : Bool) (hnow : s.now ≤ now) : Owes
      { handler := (s.handler.receivedPacket p inst now).1, now
        accepted := if s.handler.Accepts p ∧ inst then now :: s.accepted else s.accepted } := by
  have hcases := s.handler.receivedPacket_cases p inst now
  generalize (s.handler.receivedPacket p inst now).1 = handler at hcases ⊢
  have hpast (accepted : Int) (ha : accepted ∈ s.accepted) : accepted ≤ now :=
    (h.past accepted ha).trans hnow
  by_cases haccepts : s.handler.Accepts p
  · rw [if_pos haccepts] at hcases
    obtain ⟨packetHistory, hne, hhistory, hcount, hdecision⟩ := hcases
    have hfilled : handler.packetHistory ≠ [] := hhistory ▸ hne
    cases inst with
    | false =>
      rw [if_neg fun hand => nomatch hand.2]
      refine ⟨hcount.trans h.count, hpast, fun alarm ha => ?_, fun hsome => ?_, fun _ => hfilled⟩
      · rcases hdecision with ⟨-, hnone⟩ | ⟨-, hset⟩
        · cases hnone.symm.trans ha
        · exact (h.alarm alarm (hset ▸ ha)).trans (Int.add_le_add_right hnow _)
      · refine hdecision.imp And.left fun ⟨hnot, hset⟩ => ?_
        rw [hset]
        exact (h.timely hsome).resolve_left fun hqueued =>
          Bool.false_ne_true (hnot.symm.trans hqueued)
    | true =>
      rw [if_pos ⟨haccepts, rfl⟩]
      have hlength : handler.retransmittablePacketsReceivedSinceLastAck =
          (now :: s.accepted).length :=
        hcount.trans (congrArg (· + 1) h.count)
      -- an alarm that was set before is not later than one set now
      have hsooner : s.handler.ackAlarm.getD (now + ackSendDelay) ≤ now + ackSendDelay := by
        cases halarm : s.handler.ackAlarm with
        | none => exact le_rfl
        | some alarm => exact (h.alarm alarm halarm).trans (Int.add_le_add_right hnow _)
      refine ⟨hlength, forall_mem_cons.mpr ⟨le_rfl, hpast⟩, fun alarm ha => ?_, fun _ => ?_,
        fun _ => hfilled⟩
      · rcases hdecision with ⟨-, hnone⟩ | ⟨-, -, hset⟩
        · cases hnone.symm.trans ha
        · cases hset.symm.trans ha
          exact hsooner
      · refine hdecision.imp And.left fun ⟨hnot, hfew, hset⟩ => ?_
        rw [hlength] at hfew
        refine ⟨hfew, _, hset, forall_mem_cons.mpr ⟨hsooner, fun accepted ha => ?_⟩⟩
        obtain ⟨-, alarm, halarm, hle⟩ := (h.timely (ne_nil_of_mem ha)).resolve_left
          fun hqueued => Bool.false_ne_true (hnot.symm.trans hqueued)
        rw [halarm]
        exact hle accepted ha
  · rw [if_neg haccepts] at hcases
    obtain ⟨hcount, hqueued, halarm, hhistory⟩ : _ ∧ _ ∧ _ ∧ _ := by
      simpa only [owed, Prod.mk.injEq] using hcases
    rw [if_neg fun hand => haccepts hand.1]
    exact ⟨hcount.trans h.count, hpast, fun alarm ha => (h.alarm alarm (halarm ▸ ha)).trans
      (Int.add_le_add_right hnow _),
      by rw [hqueued, halarm]; exact h.timely, by rw [hhistory]; exact h.history⟩

theorem Owes.setLowerLimit (h : s.Owes) {p : Nat} (hleaves : s.LeavesPacket (.setLowerLimit p)) :
    Owes { s with handler := s.handler.setLowerLimit p } := by
  refine ⟨h.count, h.past, h.alarm, h.timely, fun htwo => ?_⟩
  obtain ⟨r, hr, hlt⟩ := hleaves (h.count ▸ htwo)
  exact reverse_ne_nil_iff.mpr (deleteFromLowest_ne_nil (mem_reverse.mpr hr) hlt)

theorem Owes.getAckFrame (h : s.Owes) {pathID : Nat} {handler : ReceivedPacketHandler}
    {ack : Option AckFrame} (hnow : s.now ≤ now)
    (hok : s.handler.getAckFrame pathID now = .ok (handler, ack)) :
    Owes { handler, now, accepted := if ack.isSome then [] else s.accepted } := by
  rcases getAckFrame_ok hok with ⟨rfl, rfl⟩ | ⟨hsome, hcount, halarm⟩
  · exact ⟨h.count, fun accepted ha => (h.past accepted ha).trans hnow, fun alarm ha =>
      (h.alarm alarm ha).trans (Int.add_le_add_right hnow _), h.timely, h.history⟩
  · rw [if_pos hsome]
    refine ⟨hcount, by simp, fun alarm ha => ?_, fun hne => absurd rfl hne, by simp⟩
    cases halarm.symm.trans ha

theorem owes_of_reach (h : machine.Reach LeavesPacket s) : s.Owes := by
  refine h.invariant ?_ ?_
  · rintro s ⟨hnew, haccepted⟩
    refine ⟨?_, by simp [haccepted], ?_, fun hne => absurd haccepted hne, by simp [haccepted]⟩
    · rw [hnew, haccepted]
      rfl
    · rw [hnew]
      exact nofun
  · intro s call s' hs hleaves hstep
    cases hstep with
    | receivedPacket p inst hnow => exact hs.receivedPacket p inst hnow
    | setLowerLimit p => exact hs.setLowerLimit hleaves
    | getAckFrame hnow hok => exact hs.getAckFrame hnow hok

/-- The obligation to acknowledge is never forgotten while no limit removes the packets that two
accepted packets are to be acknowledged with. -/
theorem ack_obligation_kept (s : Acknowledger) (h : machine.Reach LeavesPacket s) : s.Obliged :=
  (owes_of_reach h).obliged

/-- Two packets received at once. -/
def twoPackets : Acknowledger where
  handler := (((ReceivedPacketHandler.new 39).receivedPacket 1 true 0).1.receivedPacket 2 true 0).1
  now := 0
  accepted := [0, 0]

theorem reach_twoPackets (C : Acknowledger → Call → Prop)
    (hC : ∀ s p inst now, C s (.receivedPacket p inst now)) : machine.Reach C twoPackets :=
  have hnew : machine.Reach C ⟨.new 39, 0, []⟩ := .init ⟨rfl, rfl⟩
  (hnew.step (hC _ 1 true 0) (.receivedPacket 1 true le_rfl)).step (hC _ 2 true 0)
    (.receivedPacket 2 true le_rfl)

/-- They are acknowledged. -/
theorem two_packets_acknowledged :
    ∃ handler ack, twoPackets.handler.getAckFrame 0 0 = .ok (handler, some ack) :=
  (ack_obligation_kept twoPackets (reach_twoPackets _ fun _ _ _ _ => trivial)).returns
    (by decide) 0 0

/-- A lower limit removes them from the history, and after another one they are above the limit
again.  There is no range for the frame to be produced. -/
theorem removed_packets_not_acknowledged :
    ∃ s : Acknowledger, machine.Reach Machine.Always s ∧ s.accepted = [0, 0] ∧
      s.handler.lowerLimit = 0 ∧
      s.handler.getAckFrame 0 0 = .error (.panic .indexOutOfRange) := by
  have hreach := reach_twoPackets Machine.Always fun _ _ _ _ => trivial
  exact ⟨_, (hreach.step trivial (.setLowerLimit 2)).step trivial (.setLowerLimit 0), rfl, rfl, rfl⟩

end Acknowledger
end MpQuic
